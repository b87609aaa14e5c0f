import SchemaPlan.Proofs.Migration.Slug.NormalForm

namespace SchemaPlan.Slug
open Text

variable {p : Char → Bool}

/-- The letters and digits of ASCII in a text. -/
def letters (s : List Char) : List Char := s.filter Char.isAlphanum

theorem letters_append (s t : List Char) : letters (s ++ t) = letters s ++ letters t :=
  List.filter_append s t

theorem filter_underscore (hp : p '_' = false) (s : List Char) :
    (underscore s).filter p = s.filter p := by
  rw [underscore_eq_parted, filter_parted hp]

theorem letters_lowerAfter (cased : Bool) (s : List Char) :
    letters (lowerAfter cased s) = s.flatMap fun c => letters (lowerChar c) := by
  induction s generalizing cased with
  | nil => rfl
  | cons c s ih =>
    rw [lowerAfter, letters_append, ih, List.flatMap_cons]
    congr 1
    split
    · next hc =>
      have hs : letters (lowerChar 'Σ') = [] := by decide
      rw [hc, hs]
      split <;> rfl
    · rfl

theorem letters_lower_underscore (s : List Char) :
    letters (lower (underscore s)) = letters (lower s) := by
  have bare (s : List Char) : letters (lower s) =
      (s.filter (· ≠ '_')).flatMap fun c => letters (lowerChar c) := by
    rw [lower, letters_lowerAfter]
    induction s with
    | nil => rfl
    | cons c s ih =>
      rw [List.flatMap_cons, ih, List.filter_cons]
      split
      · rfl
      · next hc =>
        obtain rfl : c = '_' := by simpa using hc
        rfl
  rw [bare, bare, filter_underscore (by decide)]

theorem letters_replaceRuns (h : ∀ c ∈ s, c.isAlphanum = true → isSlugChar c = true) :
    letters (replaceRuns inRun s) = letters s := by
  have lost {c : Char} {s : List Char} (hc : ¬ isSlugChar c = true)
      (h : c.isAlphanum = true → isSlugChar c = true) : letters (c :: s) = letters s :=
    List.filter_cons_of_neg fun ha => hc (h ha)
  fun_induction replaceRuns inRun s with
  | case1 => rfl
  | case2 _ c rest _ ih =>
    obtain ⟨-, hrest⟩ := List.forall_mem_cons.1 h
    rw [letters, List.filter_cons, ← letters, ih hrest, letters, letters, List.filter_cons]
  | case3 c rest hc ih =>
    obtain ⟨ha, hrest⟩ := List.forall_mem_cons.1 h
    rw [ih hrest, lost hc ha]
  | case4 _ c rest hc _ ih =>
    obtain ⟨ha, hrest⟩ := List.forall_mem_cons.1 h
    rw [lost hc ha, ← ih hrest]
    rfl

theorem filter_run {q : Char → Bool} {r : List Char} (hq : ∀ c, q c = true → p c = false)
    (hr : ∀ c ∈ r, q c = true) : r.filter p = [] := by
  rw [List.filter_eq_nil_iff]
  intro c hc
  simp [hq c (hr c hc)]

theorem filter_dropWhile {q : Char → Bool} (hq : ∀ c, q c = true → p c = false) (s : List Char) :
    (s.dropWhile q).filter p = s.filter p := by
  conv => rhs; rw [← List.takeWhile_append_dropWhile (p := q) (l := s)]
  rw [List.filter_append, filter_run hq fun _ => List.mem_takeWhile_imp, List.nil_append]

theorem filter_rdropWhile {q : Char → Bool} (hq : ∀ c, q c = true → p c = false) (s : List Char) :
    (s.rdropWhile q).filter p = s.filter p := by
  conv => rhs; rw [← List.rdropWhile_append_rtakeWhile (p := q) (l := s)]
  rw [List.filter_append, filter_run hq fun _ => List.mem_rtakeWhile_imp, List.append_nil]

theorem isAscii_of_isAlphanum {c : Char} (h : c.isAlphanum = true) : c.toNat < 128 := by
  simp only [Char.isAlphanum, Char.isAlpha, Char.isUpper, Char.isLower, Char.isDigit,
    Bool.or_eq_true, Bool.and_eq_true, decide_eq_true_eq] at h
  rcases h with ((⟨-, h⟩ | ⟨-, h⟩) | ⟨-, h⟩)
  · exact isAscii_of_le (by decide) h
  · exact isAscii_of_le (by decide) h
  · exact isAscii_of_le (by decide) h

theorem letters_stem (name : List Char) : letters (stem name) = letters (lower name) := by
  have hu : ∀ c, decide (c = '_') = true → c.isAlphanum = false := by
    intro c hc
    rw [of_decide_eq_true hc]
    rfl
  have hs : ∀ c ∈ lower (underscore name), c.isAlphanum = true → isSlugChar c = true := by
    intro c hc ha
    exact ascii_cases (P := fun c => Small c → c.isAlphanum = true → isSlugChar c = true)
      (by decide) (isAscii_of_isAlphanum ha) (small_of_mem_lowerAfter false hc) ha
  rw [stem_eq, letters, filter_rdropWhile hu, filter_dropWhile hu, ← letters,
    letters_replaceRuns hs, letters_lower_underscore]

theorem whole_of_noLetters {name : String} (h : letters (lower name.toList) = []) :
    whole name = fallback := by
  rw [← letters_stem, letters, List.filter_eq_nil_iff] at h
  rw [whole, uncut]
  cases hs : stem name.toList with
  | nil => rfl
  | cons c rest =>
    rw [hs] at h
    exact absurd (head_of_stem hs).1 (h c List.mem_cons_self)

theorem letters_whole {name : String} (h : letters (lower name.toList) ≠ []) :
    letters (whole name) =
      (if (letters (lower name.toList)).head?.any Char.isDigit then "migration".toList else []) ++
        letters (lower name.toList) := by
  rw [← letters_stem] at h ⊢
  rw [whole, uncut]
  cases hs : stem name.toList with
  | nil =>
    rw [hs] at h
    exact absurd rfl h
  | cons c rest =>
    obtain ⟨ha, hd, -⟩ := head_of_stem hs
    have hl : letters (c :: rest) = c :: letters rest := List.filter_cons_of_pos ha
    rw [hl, lead, List.head?_cons, Option.any_some, hd]
    split
    · have hw : letters digitLead = "migration".toList := by decide
      change letters (digitLead ++ c :: rest) = _
      rw [letters_append, hw, hl]
    · exact hl

/-- The slug of a name has the letters and digits that the name has in lower case, behind a word of
its own if a digit is first. A limit cuts it only if it is longer than the limit, and the standard
one leaves 156 characters at least. -/
theorem ofName_letters (name : String) :
    (∀ limit : Int, (whole name).length ≤ limit →
      ofNameWithin limit name = .ok (pure (.ofList (whole name)))) ∧
    (letters (lower name.toList) = [] → whole name = "generated_migration".toList) ∧
    (letters (lower name.toList) ≠ [] → letters (whole name) =
      (if (letters (lower name.toList)).head?.any Char.isDigit then "migration".toList else []) ++
        letters (lower name.toList)) ∧
    ((whole name).length ≤ 222 → (ofName name).value.toList = whole name) ∧
    (222 < (whole name).length → (ofName name).value.toList <+: whole name ∧
      (ofName name).value.toList ≠ whole name ∧ 156 ≤ (ofName name).value.toList.length) := by
  refine ⟨fun _ => ofNameWithin_whole, whole_of_noLetters, letters_whole, fun hl => ?_,
    fun hl => ?_⟩
  · rw [value_ofName, if_neg (Nat.not_lt.2 hl), String.toList_ofList]
  · obtain ⟨t, ht⟩ := exists_cut hl
    rw [value_ofName, if_pos hl, ht.eq, String.toList_ofList]
    obtain ⟨hp, hn, h156, -⟩ := ht.proper
    exact ⟨hp, hn, h156⟩

theorem someNames_letters : letters (whole "2 \u212a") = "migration2k".toList ∧
    ofNameWithin 19 "?!" = .ok (pure "generated_migration") ∧
    (ofName "?!").value = "generated_migration" ∧
    (ofName (.ofList (List.replicate 223 'a'))).value.toList <+: List.replicate 223 'a' ∧
    (ofName (.ofList (List.replicate 223 'a'))).value.toList ≠ List.replicate 223 'a' ∧
    156 ≤ (ofName (.ofList (List.replicate 223 'a'))).value.toList.length := by
  have hk : letters (lower "2 \u212a".toList) = "2k".toList := by decide
  have hw : whole (.ofList (List.replicate 223 'a')) = List.replicate 223 'a' :=
    whole_replicate (by decide)
  obtain ⟨-, -, hdigit, -⟩ := ofName_letters "2 \u212a"
  obtain ⟨hwithin, hnone, -, hkept, -⟩ := ofName_letters "?!"
  obtain ⟨-, -, -, -, hcut⟩ := ofName_letters (.ofList (List.replicate 223 'a'))
  rw [hk] at hdigit
  rw [hnone (by decide)] at hwithin hkept
  rw [hw, List.length_replicate] at hcut
  exact ⟨hdigit (by decide), hwithin 19 (by decide), String.toList_inj.1 (hkept (by decide)),
    hcut (by decide)⟩

theorem longName_ofName : ∃ full, ofNameWithin 218 longName = .ok (pure (.ofList full)) ∧
    217 < full.length ∧ (ofName longName).value.toList = full := by
  refine ⟨whole longName, ofNameWithin_whole ?_, ?_, ?_⟩
  · rw [length_whole_longName]
    decide
  · rw [length_whole_longName]
    decide
  · rw [value_ofName_longName, String.toList_ofList]

end SchemaPlan.Slug
