import Mathlib
import SchemaPlan.Form
import SchemaPlan.Text.Digit

namespace SchemaPlan.Text

/-- The text does not begin with a character of the class. -/
def Stops (p : Char → Bool) (s : List Char) : Prop := ∀ c ∈ s.head?, p c = false

theorem stops_nil : Stops p [] := by simp [Stops]

@[simp] theorem stops_cons_iff : Stops p (c :: s) ↔ p c = false := by simp [Stops]

theorem stops_append (hs : s ≠ []) (h : Stops p s) : Stops p (s ++ t) := by
  cases s with
  | nil => exact absurd rfl hs
  | cons c s => simpa using h

theorem stops_dropWhile (p : Char → Bool) (s : List Char) : Stops p (s.dropWhile p) := by
  intro c hc
  have h := List.head?_dropWhile_not p s
  rw [Option.mem_def] at hc
  simpa only [hc, Bool.not_eq_true] using h

theorem Stops.takeWhile (h : Stops p s) : s.takeWhile p = [] := by
  cases s with
  | nil => rfl
  | cons c s => simp [stops_cons_iff.1 h]

theorem Stops.dropWhile (h : Stops p s) : s.dropWhile p = s := by
  cases s with
  | nil => rfl
  | cons c s => simp [stops_cons_iff.1 h]

theorem takeWhile_run (hr : ∀ c ∈ r, p c = true) (hs : Stops p s) : (r ++ s).takeWhile p = r := by
  rw [List.takeWhile_append_of_pos hr, hs.takeWhile, List.append_nil]

theorem dropWhile_run (hr : ∀ c ∈ r, p c = true) (hs : Stops p s) : (r ++ s).dropWhile p = s := by
  rw [List.dropWhile_append_of_pos hr, hs.dropWhile]

/-- A text is cut in one way only into a run and what does not go on with it. -/
theorem run_append_inj (h : q ++ s = r ++ t) (hq : ∀ c ∈ q, p c = true) (hr : ∀ c ∈ r, p c = true)
    (hs : Stops p s) (ht : Stops p t) : q = r ∧ s = t := by
  constructor
  · rw [← takeWhile_run hq hs, h, takeWhile_run hr ht]
  · rw [← dropWhile_run hq hs, h, dropWhile_run hr ht]

def EndsOutside (p : Char → Bool) (s : List Char) : Prop := ∀ c ∈ s.getLast?, p c = false

theorem Stops.rdropWhile (h : Stops p s) (q : Char → Bool) : Stops p (s.rdropWhile q) := by
  obtain ⟨t, ht⟩ := s.rdropWhile_prefix (p := q)
  intro c hc
  apply h c
  rw [Option.mem_def, List.head?_eq_some_iff] at hc ⊢
  obtain ⟨u, hu⟩ := hc
  exact ⟨u ++ t, by rw [← ht, hu, List.cons_append]⟩

theorem endsOutside_rdropWhile (p : Char → Bool) (s : List Char) :
    EndsOutside p (s.rdropWhile p) := by
  intro c hc
  have hn : s.rdropWhile p ≠ [] := by
    rintro hn
    rw [hn] at hc
    cases hc
  have hl := List.rdropWhile_last_not p s hn
  rw [Option.mem_def, List.getLast?_eq_some_getLast hn] at hc
  rw [← Option.some.inj hc]
  simpa using hl

theorem rdropWhile_eq_self_iff {p : Char → Bool} : s.rdropWhile p = s ↔ EndsOutside p s := by
  rw [List.rdropWhile_eq_self_iff]
  constructor
  · intro h c hc
    have hn : s ≠ [] := List.ne_nil_of_mem (List.mem_of_getLast? hc)
    rw [Option.mem_def, List.getLast?_eq_some_getLast hn] at hc
    simpa [Option.some.inj hc] using h hn
  · intro h hn
    simpa using h _ (List.getLast?_eq_some_getLast hn)

theorem endsOutside_append (hn : t ≠ []) (h : EndsOutside p t) : EndsOutside p (s ++ t) := by
  intro c hc
  rw [Option.mem_def, List.getLast?_append_of_ne_nil _ hn] at hc
  exact h c hc

theorem endsOutside_append_run (hn : r ≠ []) (hr : ∀ c ∈ r, p c = false) :
    EndsOutside p (s ++ r) :=
  endsOutside_append hn fun c hc => hr c (List.mem_of_getLast? hc)

theorem endsOutside_concat (hc : p c = false) : EndsOutside p (s ++ [c]) := by
  apply endsOutside_append_run (List.cons_ne_nil _ _)
  intro d hd
  rwa [List.mem_singleton.1 hd]

theorem prefix_of_append_run (h : s ++ q = t ++ r) (hs : EndsOutside p s)
    (hr : ∀ c ∈ r, p c = true) : s <+: t := by
  rcases List.append_eq_append_iff.1 h with ⟨k, rfl, -⟩ | ⟨k, rfl, rfl⟩
  · exact List.prefix_append _ _
  · have hk : k = [] := by
      by_contra hk
      have hp := hs (k.getLast hk) (by simp [List.getLast?_append, List.getLast?_eq_some_getLast hk])
      rw [hr _ (List.mem_append_left _ (List.getLast_mem hk))] at hp
      cases hp
    rw [hk, List.append_nil]

theorem append_run_inj (h : s ++ q = t ++ r) (hq : ∀ c ∈ q, p c = true) (hr : ∀ c ∈ r, p c = true)
    (hs : EndsOutside p s) (ht : EndsOutside p t) : s = t ∧ q = r := by
  have stops {u : List Char} (hu : EndsOutside p u) : Stops p u.reverse := by
    intro c hc
    apply hu
    rwa [List.head?_reverse] at hc
  have hrev := congrArg List.reverse h
  rw [List.reverse_append, List.reverse_append] at hrev
  obtain ⟨hqr, hst⟩ := run_append_inj hrev (fun c hc => hq c (List.mem_reverse.1 hc))
    (fun c hc => hr c (List.mem_reverse.1 hc)) (stops hs) (stops ht)
  exact ⟨List.reverse_injective hst, List.reverse_injective hqr⟩

theorem trimEnd_eq_rdropWhile (s : List Char) : trimEnd s = s.rdropWhile isBlank := by
  induction s with
  | nil => rfl
  | cons c s ih =>
    have hs : c :: s = [c] ++ s := rfl
    rw [trimEnd, ih, List.rdropWhile, List.rdropWhile, List.reverse_cons, List.dropWhile_append]
    cases hd : s.reverse.dropWhile isBlank with
    | nil => by_cases hc : isBlank c <;> simp [hc]
    | cons d ds => cases hr : (d :: ds).reverse <;> simp_all

def EndsTight (s : List Char) : Prop := ∀ c ∈ s.getLast?, isBlank c = false

theorem EndsTight.of_append (h : EndsTight (s ++ t)) : EndsTight t := by
  intro c hc
  rw [Option.mem_def, List.getLast?_eq_some_iff] at hc
  obtain ⟨u, rfl⟩ := hc
  exact h c (by rw [← List.append_assoc]; simp)

theorem EndsTight.eq_nil (h : EndsTight s) (hs : ∀ c ∈ s, isBlank c = true) : s = [] := by
  by_contra hn
  have hl := h _ (List.getLast?_eq_some_getLast hn)
  rw [hs _ (List.getLast_mem hn)] at hl
  cases hl

def Trimmed (s : List Char) : Prop := Stops isBlank s ∧ EndsTight s

theorem trimmed_trim (s : List Char) : Trimmed (trim s) := by
  rw [trim, trimEnd_eq_rdropWhile]
  exact ⟨(stops_dropWhile isBlank s).rdropWhile _, endsOutside_rdropWhile isBlank _⟩

theorem Trimmed.trim_eq (h : Trimmed s) : trim s = s := by
  rw [trim, trimStart, h.1.dropWhile, trimEnd_eq_rdropWhile]
  exact rdropWhile_eq_self_iff.2 h.2

theorem trim_blanks_append (h : s.all isBlank = true) : trim (s ++ t) = trim t := by
  rw [trim, trimStart, List.dropWhile_append_of_pos (List.all_eq_true.1 h)]
  rfl

theorem trim_blanks_around (hb : ∀ c ∈ before, isBlank c = true) (ht : Trimmed s) (hn : s ≠ [])
    (ha : ∀ c ∈ after, isBlank c = true) : trim (before ++ s ++ after) = s := by
  have hs : Stops isBlank (s ++ after) := stops_append hn ht.1
  rw [trim, trimStart, List.append_assoc, dropWhile_run hb hs, trimEnd_eq_rdropWhile,
    List.rdropWhile, List.reverse_append, List.dropWhile_append_of_pos (by simpa using ha)]
  exact rdropWhile_eq_self_iff.2 ht.2

theorem exists_blanks_around (s : List Char) :
    ∃ before after, s = before ++ trim s ++ after ∧ (∀ c ∈ before, isBlank c = true) ∧
      ∀ c ∈ after, isBlank c = true := by
  refine ⟨s.takeWhile isBlank, (trimStart s).rtakeWhile isBlank, ?_,
    fun _ => List.mem_takeWhile_imp, fun _ => List.mem_rtakeWhile_imp⟩
  rw [trim, trimEnd_eq_rdropWhile, List.append_assoc, List.rdropWhile_append_rtakeWhile, trimStart,
    List.takeWhile_append_dropWhile]

theorem ascii_cases {P : Char → Prop} (h : ∀ n < 128, P (.ofNat n)) (hc : c.toNat < 128) : P c := by
  have hp := h c.toNat hc
  rwa [Char.ofNat_toNat] at hp

theorem toLower_of_not_ascii {c : Char} (hc : ¬ c.toNat < 128) : c.toLower = c := by
  rw [Char.toLower, dif_neg]
  rintro ⟨-, hz⟩
  have hn : c.toNat ≤ 'Z'.toNat := hz
  exact hc (Nat.lt_of_le_of_lt hn (by decide))

def rangesApart (rs qs : List (Nat × Nat)) : Bool :=
  rs.all fun r => qs.all fun q => r.2 < q.1 || q.2 < r.1

theorem exists_range (h : inRanges n rs = true) : ∃ r ∈ rs, r.1 ≤ n ∧ n ≤ r.2 := by
  induction rs with
  | nil => cases h
  | cons r rs ih =>
    rw [inRanges] at h
    split at h
    · cases h
    · next hl =>
      split at h
      · next hr => exact ⟨r, by simp, Nat.le_of_not_lt hl, hr⟩
      · obtain ⟨q, hq, hn⟩ := ih h
        exact ⟨q, by simp [hq], hn⟩

theorem inRanges_eq_false (h : rangesApart rs qs = true) (hn : inRanges n rs = true) :
    inRanges n qs = false := by
  by_contra hq
  obtain ⟨r, hr, hrn⟩ := exists_range hn
  obtain ⟨q, hq, hqn⟩ := exists_range (by simpa using hq)
  simp only [rangesApart, List.all_eq_true, Bool.or_eq_true, decide_eq_true_eq] at h
  have := h r hr q hq
  omega

theorem isWordChar_of_isBlank (h : isBlank c = true) : isWordChar c = false := by
  by_cases hc : c.toNat < 128
  · revert h
    exact ascii_cases (P := fun c => isBlank c = true → isWordChar c = false) (by decide) hc
  · rw [isWordChar, if_neg hc]
    exact inRanges_eq_false (by decide +kernel) h

theorem isBlank_of_isWordChar (h : isWordChar c = true) : isBlank c = false := by
  by_contra hb
  rw [isWordChar_of_isBlank (by simpa using hb)] at h
  cases h

theorem digitValueIn_isSome (n : Nat) (rs : List (Nat × Nat)) :
    (digitValueIn n rs).isSome = inRanges n rs := by
  induction rs with
  | nil => rfl
  | cons r rs ih =>
    rw [digitValueIn, inRanges]
    split
    · rfl
    · split
      · rfl
      · exact ih

theorem isDecimal_eq_inRanges (hc : ¬ c.toNat < 128) :
    isDecimal c = inRanges c.toNat decimalRanges := by
  rw [isDecimal, digitValue?, if_neg hc, digitValueIn_isSome]

theorem isBlank_of_isDecimal (h : isDecimal c = true) : isBlank c = false := by
  by_cases hc : c.toNat < 128
  · revert h
    exact ascii_cases (P := fun c => isDecimal c = true → isBlank c = false) (by decide) hc
  · rw [isDecimal_eq_inRanges hc] at h
    exact inRanges_eq_false (by decide +kernel) h

end SchemaPlan.Text
