import SchemaPlan.Proofs.Migration.Slug

namespace SchemaPlan.Slug
open Text

/-- Small letters, digits and underscores, a letter first. -/
structure IsSlug (s : List Char) : Prop where
  head : ∃ c ∈ s.head?, isSmall c = true
  chars : ∀ c ∈ s, isSlugChar c = true

theorem IsSlug.of_leading (h : IsSlug s) (hp : t <+: s) (hn : t ≠ []) : IsSlug t where
  head := by
    obtain ⟨c, hc, hs⟩ := h.head
    obtain ⟨u, rfl⟩ := hp
    rw [List.head?_append_of_ne_nil _ hn] at hc
    exact ⟨c, hc, hs⟩
  chars c hc := h.chars c (hp.mem hc)

theorem isAscii_of_le {c d : Char} (hd : d.toNat < 128) (h : c ≤ d) : c.toNat < 128 :=
  Nat.lt_of_le_of_lt h hd

theorem isAscii_of_isSlugChar (h : isSlugChar c = true) : c.toNat < 128 := by
  simp only [isSlugChar, isSmall, Bool.or_eq_true, Bool.and_eq_true, decide_eq_true_eq] at h
  rcases h with (⟨-, h⟩ | ⟨-, h⟩) | rfl
  · exact isAscii_of_le (by decide) h
  · exact isAscii_of_le (by decide) h
  · decide

/-- What the characters of slugs among the first 128 have, all of them have. -/
theorem slugChar_cases {P : Char → Prop}
    (h : ∀ n < 128, isSlugChar (.ofNat n) = true → P (.ofNat n)) (hc : isSlugChar c = true) :
    P c :=
  ascii_cases (P := fun c => isSlugChar c = true → P c) h (isAscii_of_isSlugChar hc) hc

theorem stem_eq (name : List Char) : stem name =
    ((replaceRuns false (lower (underscore name))).dropWhile (· = '_')).rdropWhile (· = '_') := by
  have hp : (fun c : Char => ['_'].contains c) = fun c => decide (c = '_') := by
    funext c
    simp
  rw [stem, stripChars, hp]
  rfl

theorem stops_stem (name : List Char) : Stops (· = '_') (stem name) := by
  rw [stem_eq]
  exact (stops_dropWhile _ _).rdropWhile _

theorem isSlugChar_of_mem_stem (h : c ∈ stem name) : isSlugChar c = true :=
  isSlugChar_of_mem_replaceRuns (mem_of_mem_stripChars h)

theorem head_of_stem (h : stem name = c :: rest) :
    c.isAlphanum = true ∧ isDigitChar c = c.isDigit ∧ isSmall c = !c.isDigit := by
  have hu := stops_cons_iff.1 (h ▸ stops_stem name)
  exact slugChar_cases (P := fun c => decide (c = '_') = false →
    c.isAlphanum = true ∧ isDigitChar c = c.isDigit ∧ isSmall c = !c.isDigit) (by decide)
    (isSlugChar_of_mem_stem (h ▸ List.mem_cons_self)) hu

/-- The slug of a name before any cut. -/
def whole (name : String) : List Char :=
  if (uncut name).isEmpty then fallback else uncut name

theorem isSlug_whole (name : String) : IsSlug (whole name) where
  head := by
    rw [whole, uncut]
    cases hs : stem name.toList with
    | nil => exact ⟨'g', rfl, rfl⟩
    | cons c rest =>
      obtain ⟨-, hd, hc⟩ := head_of_stem hs
      rw [lead, hd]
      split
      · exact ⟨'m', rfl, rfl⟩
      · next hn => exact ⟨c, rfl, by simpa [hn] using hc⟩
  chars c hc := by
    rw [whole] at hc
    split at hc
    · have hf : fallback.all isSlugChar = true := by decide
      exact List.all_eq_true.1 hf c hc
    · exact isSlugChar_of_mem_uncut hc

theorem maxLength_eq : maxLength = 222 := rfl

theorem value_ofName (name : String) : (ofName name).value =
    .ofList (if 222 < (whole name).length then cut maxLength (whole name) else whole name) := by
  rw [ofName, isCut, whole, maxLength_eq]
  cases hu : uncut name with
  | nil => rfl
  | cons c rest =>
    by_cases hl : 222 < (c :: rest).length
    · have hl' : ((c :: rest).length : Int) > 222 := by omega
      simp only [hl, hl', List.isEmpty_cons, Bool.not_false, decide_true, Bool.and_self, if_true,
        Bool.false_eq_true, if_false]
      rfl
    · have hl' : ¬ ((c :: rest).length : Int) > 222 := by omega
      simp only [hl, hl', List.isEmpty_cons, decide_false, Bool.and_false, Bool.false_eq_true,
        if_false]
      rfl

theorem ofNameWithin_whole {name : String} {limit : Int} (h : (whole name).length ≤ limit) :
    ofNameWithin limit name = .ok (pure (.ofList (whole name))) := by
  have hc : isCut name limit = false := by
    rw [isCut, Bool.and_eq_false_iff, Bool.not_eq_false', decide_eq_false_iff_not]
    cases hu : (uncut name).isEmpty with
    | true => exact .inl rfl
    | false =>
      rw [whole, hu] at h
      exact .inr (Int.not_lt.2 h)
  rw [ofNameWithin, ofName, hc]
  rfl

theorem leading_natCast (n : Nat) (s : List Char) : leading n s = s.take n := by
  rw [leading, if_pos (Int.natCast_nonneg n), Int.toNat_natCast]

theorem lastUnderscore_append (hb : '_' ∉ back) :
    lastUnderscore (front ++ '_' :: back) = front.length := by
  have hr : ∀ c ∈ back.reverse, decide (c ≠ '_') = true := by
    intro c hc
    simpa using fun hu : c = '_' => hb (hu ▸ List.mem_reverse.1 hc)
  have ht : (front ++ '_' :: back).reverse = back.reverse ++ '_' :: front.reverse := by simp
  rw [lastUnderscore, ht, takeWhile_run hr (stops_cons_iff.2 (by decide))]
  simp only [List.length_append, List.length_cons, List.length_reverse]
  omega

theorem lastUnderscore_none (h : '_' ∉ s) : lastUnderscore s = -1 := by
  have hr : s.reverse.takeWhile (fun c => decide (c ≠ '_')) = s.reverse :=
    List.takeWhile_eq_self_iff.2 fun c hc => by
      simpa using fun hu : c = '_' => h (hu ▸ List.mem_reverse.1 hc)
  rw [lastUnderscore, hr, List.length_reverse]
  omega

theorem below_share (n : Int) : (shareOf maxLength).below n = decide (156 ≤ n) := by
  have hs : shareOf maxLength = .finite false 5467651422604492 (-45) := by decide +kernel
  rw [hs, Binary64.below, decide_eq_decide]
  change (5467651422604492 : Int) < n * (35184372088832 : Nat) ↔ 156 ≤ n
  omega

/-- A text of more than 222 characters and what is left of it. -/
inductive Cut : List Char → List Char → Prop
  | atLimit {kept rest : List Char} (hl : kept.length = 222) (hr : rest ≠ [])
    (hu : '_' ∉ kept.drop 156) : Cut (kept ++ rest) kept
  | atUnderscore {front back rest : List Char} (hl : front.length + 1 + back.length = 222)
    (hr : rest ≠ []) (hf : 156 ≤ front.length) (hb : '_' ∉ back) :
    Cut (front ++ '_' :: (back ++ rest)) front

theorem exists_last {c : Char} (h : c ∈ s) : ∃ front back, s = front ++ c :: back ∧ c ∉ back := by
  obtain ⟨front, back, hs, hf⟩ := List.eq_append_cons_of_mem (List.mem_reverse.2 h)
  refine ⟨back.reverse, front.reverse, ?_, by simpa using hf⟩
  rw [← List.reverse_reverse s, hs]
  simp

theorem Cut.eq (h : Cut s t) : cut maxLength s = t := by
  have ht : leading maxLength s = s.take 222 := leading_natCast 222 s
  cases h with
  | @atLimit _ rest hl hr hu =>
    have hlast : ¬ 156 ≤ lastUnderscore t := by
      by_cases hm : '_' ∈ t
      · obtain ⟨front, back, rfl, hb⟩ := exists_last hm
        rw [lastUnderscore_append hb]
        intro hf
        apply hu
        rw [List.drop_append_of_le_length (by omega)]
        simp
      · rw [lastUnderscore_none hm]
        decide
    rw [List.take_left' hl] at ht
    simp only [cut, ht, below_share, hlast, decide_false, Bool.false_eq_true, if_false]
  | @atUnderscore _ back rest hl hr hf hb =>
    have hlast : lastUnderscore (t ++ '_' :: back) = t.length := lastUnderscore_append hb
    have hf' : (156 : Int) ≤ t.length := by omega
    have hs : t ++ '_' :: (back ++ rest) = (t ++ '_' :: back) ++ rest := by simp
    rw [hs, List.take_left' (by simp; omega), ← hs] at ht
    simp only [cut, ht, below_share, hlast, hf', decide_true, if_true, leading_natCast]
    rw [List.take_left]

theorem exists_cut (h : 222 < s.length) : ∃ t, Cut s t := by
  have split {n : Nat} {s : List Char} (h : n ≤ s.length) :
      ∃ t rest, s = t ++ rest ∧ t.length = n :=
    ⟨s.take n, s.drop n, (List.take_append_drop n s).symm, List.length_take_of_le h⟩
  obtain ⟨kept, rest, rfl, hl⟩ := split (Nat.le_of_lt h)
  obtain ⟨first, last, rfl, hf⟩ := split (n := 156) (s := kept) (by omega)
  have hr : rest ≠ [] := by
    rintro rfl
    rw [List.append_nil] at h
    omega
  by_cases hu : '_' ∈ last
  · obtain ⟨front, back, rfl, hb⟩ := exists_last hu
    simp only [List.length_append, List.length_cons] at hl
    have hff : (first ++ front).length = 156 + front.length := by rw [List.length_append, hf]
    refine ⟨first ++ front, ?_⟩
    rw [← List.append_assoc, List.append_assoc, List.cons_append]
    exact .atUnderscore (by omega) hr (by omega) hb
  · exact ⟨_, .atLimit hl hr (by rwa [List.drop_left' hf])⟩

theorem Cut.proper (h : Cut s t) :
    t <+: s ∧ t ≠ s ∧ 156 ≤ t.length ∧ t.length ≤ 222 := by
  have hne (hl : t.length < s.length) : t ≠ s := fun ht => by simp [ht] at hl
  cases h with
  | atLimit hl hr hu =>
    have hp := List.length_pos_iff.2 hr
    exact ⟨List.prefix_append _ _, hne (by simpa using hp), by omega, by omega⟩
  | atUnderscore hl hr hf hb => exact ⟨List.prefix_append _ _, hne (by simp), hf, by omega⟩

theorem ofName_cases (name : String) :
    ((whole name).length ≤ 222 ∧ (ofName name).value = .ofList (whole name)) ∨
    222 < (whole name).length ∧ ∃ t, Cut (whole name) t ∧ (ofName name).value = .ofList t := by
  by_cases hl : 222 < (whole name).length
  · obtain ⟨t, ht⟩ := exists_cut hl
    exact .inr ⟨hl, t, ht, by rw [value_ofName, if_pos hl, ht.eq]⟩
  · exact .inl ⟨by omega, by rw [value_ofName, if_neg hl]⟩

theorem isSlug_ofName (name : String) : IsSlug (ofName name).value.toList := by
  rcases ofName_cases name with ⟨-, hv⟩ | ⟨-, t, ht, hv⟩
  · rw [hv, String.toList_ofList]
    exact isSlug_whole name
  · rw [hv, String.toList_ofList]
    obtain ⟨hp, -, hn, -⟩ := ht.proper
    exact (isSlug_whole name).of_leading hp (List.ne_nil_of_length_pos (by omega))

theorem length_ofName_le (name : String) : (ofName name).value.length ≤ 222 := by
  rcases ofName_cases name with ⟨hl, hv⟩ | ⟨-, t, ht, hv⟩
  · rwa [hv, String.length_ofList]
  · rw [hv, String.length_ofList]
    exact ht.proper.2.2.2

end SchemaPlan.Slug
