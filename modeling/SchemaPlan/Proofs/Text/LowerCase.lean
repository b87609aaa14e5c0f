import SchemaPlan.Proofs.Text.Lines

namespace SchemaPlan.Text

theorem caseImage_cases (n : Nat) (runs : List (Nat × Nat × Nat × Nat)) :
    caseImage n runs = n ∨ ∃ r ∈ runs, r.1 ≤ n ∧ n ≤ r.2.1 ∧ (n - r.1) % r.2.2.1 = 0 ∧
      caseImage n runs = r.2.2.2 + (n - r.1) := by
  induction runs with
  | nil => exact .inl rfl
  | cons r runs ih =>
    obtain ⟨first, last, step, image⟩ := r
    rw [caseImage]
    split
    · exact .inl rfl
    · next hf =>
      split
      · next hl =>
        split
        · next hs => exact .inr ⟨_, List.mem_cons_self, Nat.le_of_not_lt hf, hl, hs, rfl⟩
        · exact .inl rfl
      · rcases ih with ih | ⟨r, hr, h⟩
        · exact .inl ih
        · exact .inr ⟨r, List.mem_cons_of_mem _ hr, h⟩

def lastImage (r : Nat × Nat × Nat × Nat) : Nat := r.2.2.2 + (r.2.1 - r.1)

/-- The second run moves no image of the first one: it lies beside the images or between them. -/
def sparesImages (r q : Nat × Nat × Nat × Nat) : Bool :=
  q.2.1.blt r.2.2.2 || (lastImage r).blt q.1 ||
    (q.2.2.1.beq 2 && q.1.ble r.2.2.2 && ((r.2.2.2 - q.1) % 2).beq 1 &&
      (r.1.beq r.2.1 || r.2.2.1.beq 2))

theorem not_moved_of_spares (h : sparesImages r q = true) (hf : r.1 ≤ n) (hl : n ≤ r.2.1)
    (hs : (n - r.1) % r.2.2.1 = 0) (hqf : q.1 ≤ r.2.2.2 + (n - r.1))
    (hql : r.2.2.2 + (n - r.1) ≤ q.2.1) : (r.2.2.2 + (n - r.1) - q.1) % q.2.2.1 ≠ 0 := by
  obtain ⟨first, last, step, image⟩ := r
  obtain ⟨first', last', step', image'⟩ := q
  simp only [sparesImages, lastImage, Bool.or_eq_true, Bool.and_eq_true, Nat.blt_eq, Nat.ble_eq,
    Nat.beq_eq] at h hf hl hs hqf hql ⊢
  rcases h with (h | h) | ⟨⟨⟨rfl, h⟩, ho⟩, rfl | rfl⟩ <;> omega

theorem lowerRuns_spare : (lowerRuns.all fun r => lowerRuns.all (sparesImages r)) = true := by
  decide +kernel

theorem caseImage_caseImage (n : Nat) :
    caseImage (caseImage n lowerRuns) lowerRuns = caseImage n lowerRuns := by
  rcases caseImage_cases n lowerRuns with h | ⟨r, hr, hf, hl, hs, h⟩
  · rw [h, h]
  · rw [h]
    rcases caseImage_cases (r.2.2.2 + (n - r.1)) lowerRuns with h' | ⟨q, hq, hqf, hql, hqs, -⟩
    · exact h'
    · have hspare := List.all_eq_true.1 (List.all_eq_true.1 lowerRuns_spare r hr) q hq
      exact absurd hqs (not_moved_of_spares hspare hf hl hs hqf hql)

/-- The images of a run are characters beyond the capitals of ASCII, and none of them has a
sequence for its lower case. -/
def HasPlainImages (r : Nat × Nat × Nat × Nat) : Prop :=
  'Z'.toNat < r.2.2.2 ∧ (lastImage r < 0xD800 ∨ 0xDFFF < r.2.2.2 ∧ lastImage r < 0x110000) ∧
    ∀ s ∈ lowerSequences, lastImage r < s.1 ∨ s.1 < r.2.2.2

instance (r : Nat × Nat × Nat × Nat) : Decidable (HasPlainImages r) :=
  inferInstanceAs (Decidable (_ ∧ _))

theorem lowerRuns_plain : ∀ r ∈ lowerRuns, HasPlainImages r := by decide +kernel

/-- A character that is its own lower case wherever it stands. -/
def Small (c : Char) : Prop := c ≠ 'Σ' ∧ lowerChar c = [c]

instance (c : Char) : Decidable (Small c) := inferInstanceAs (Decidable (_ ∧ _))

theorem toNat_ofNat (h : n.isValidChar) : (Char.ofNat n).toNat = n := by
  rw [Char.ofNat, dif_pos h]
  rfl

theorem toLower_of_beyond {c : Char} (h : 'Z'.toNat < c.toNat) : c.toLower = c := by
  rw [Char.toLower, dif_neg]
  rintro ⟨-, hz⟩
  exact Nat.not_le.2 h hz

theorem small_ofNat (hv : n.isValidChar) (hz : 'Z'.toNat < n)
    (hs : 128 ≤ n → lowerSequences.lookup n = none) (hr : caseImage n lowerRuns = n) :
    Small (Char.ofNat n) := by
  have hn := toNat_ofNat hv
  constructor
  · intro hc
    have hsigma : n = 'Σ'.toNat := by rw [← hn, hc]
    rw [hsigma] at hr
    exact absurd hr (by decide)
  · rw [lowerChar]
    split
    · rw [toLower_of_beyond (by rwa [hn])]
    · next ha =>
      rw [hn] at ha ⊢
      rw [hs (Nat.le_of_not_lt ha), hr]

theorem small_of_mem_lowerChar {c d : Char} (hd : d ∈ lowerChar c) : Small d := by
  rw [lowerChar] at hd
  split at hd
  · next ha =>
    obtain rfl := List.mem_singleton.1 hd
    exact ascii_cases (P := fun c => Small c.toLower) (by decide) ha
  · next ha =>
    have hz : 'Z'.toNat < c.toNat := Nat.lt_of_lt_of_le (by decide) (Nat.le_of_not_lt ha)
    split at hd
    · next image hl =>
      have himages : ∀ s ∈ lowerSequences, ∀ n ∈ s.2, Small (Char.ofNat n) := by decide +kernel
      obtain ⟨_, _, hs, -⟩ := List.lookup_eq_some_iff.1 hl
      obtain ⟨n, hn, rfl⟩ := List.mem_map.1 hd
      exact himages (c.toNat, image) (by simp [hs]) n hn
    · next hl =>
      obtain rfl := List.mem_singleton.1 hd
      have hr := caseImage_caseImage c.toNat
      rcases caseImage_cases c.toNat lowerRuns with h | ⟨r, hm, hf, hlast, -, h⟩
      · rw [h] at hr ⊢
        exact small_ofNat c.valid hz (fun _ => hl) hr
      · obtain ⟨hplain, hvalid, hsequence⟩ := lowerRuns_plain r hm
        rw [h] at hr ⊢
        have hle : r.2.2.2 + (c.toNat - r.1) ≤ lastImage r :=
          Nat.add_le_add_left (Nat.sub_le_sub_right hlast _) _
        refine small_ofNat ?_ (by omega) (fun _ => ?_) hr
        · rcases hvalid with hv | ⟨hv, hv'⟩
          · exact .inl (by omega)
          · exact .inr ⟨by omega, by omega⟩
        · rw [List.lookup_eq_none_iff]
          intro s hs
          have hapart := hsequence s hs
          rw [bne_iff_ne]
          omega

theorem small_of_mem_lowerAfter (cased : Bool) {s : List Char} (hd : d ∈ lowerAfter cased s) :
    Small d := by
  induction s generalizing cased with
  | nil => cases hd
  | cons c s ih =>
    rw [lowerAfter, List.mem_append] at hd
    rcases hd with hd | hd
    · split at hd
      · have hfinal : Small 'ς' := by decide
        have hmedial : Small 'σ' := by decide
        split at hd
        · rwa [List.mem_singleton.1 hd]
        · rwa [List.mem_singleton.1 hd]
      · exact small_of_mem_lowerChar hd
    · exact ih _ hd

theorem lowerAfter_of_small (cased : Bool) {s : List Char} (h : ∀ c ∈ s, Small c) :
    lowerAfter cased s = s := by
  induction s generalizing cased with
  | nil => rfl
  | cons c s ih =>
    obtain ⟨⟨hc, hl⟩, hs⟩ := List.forall_mem_cons.1 h
    rw [lowerAfter, if_neg hc, hl, ih _ hs]
    rfl

theorem lower_lower (s : List Char) : lower (lower s) = lower s :=
  lowerAfter_of_small false fun _ => small_of_mem_lowerAfter false

end SchemaPlan.Text
