import SchemaPlan.Proofs.Text.Lines
import SchemaPlan.Ruby.Heredoc

namespace SchemaPlan.Ruby
open Text

variable {lines : List (List Char)}

def tagWith (k : Nat) : List Char := "SQL".toList ++ List.replicate k '_'

theorem tagWith_succ (k : Nat) : tagWith (k + 1) = tagWith k ++ ['_'] := by
  rw [tagWith, tagWith, List.append_assoc, List.replicate_succ']

theorem length_tagWith (k : Nat) : (tagWith k).length = k + 3 := by
  rw [tagWith, List.length_append, List.length_replicate, Nat.add_comm]
  rfl

theorem isWordChar_of_mem_tagWith (h : c ∈ tagWith k) : isWordChar c = true := by
  rcases List.mem_append.1 h with h | h
  · have hw : "SQL".toList.all isWordChar = true := by decide
    exact List.all_eq_true.1 hw c h
  · obtain rfl := List.eq_of_mem_replicate h
    decide

theorem trim_tagWith (k : Nat) : trim (tagWith k) = tagWith k := by
  have hb : ∀ c ∈ tagWith k, isBlank c = false := fun c hc =>
    isBlank_of_isWordChar (isWordChar_of_mem_tagWith hc)
  exact Trimmed.trim_eq ⟨fun c hc => hb c (List.mem_of_head? hc),
    fun c hc => hb c (List.mem_of_getLast? hc)⟩

theorem oneLine_tagWith (k : Nat) : OneLine (tagWith k) :=
  oneLine_of_word fun _ => isWordChar_of_mem_tagWith

theorem any_closes_iff : lines.any (closes tag) = true ↔ ∃ line ∈ lines, trim line = tag := by
  simp [closes]

/-- A search that begins with a tag, with the number of tags that it tests and the one it finds. -/
inductive TagSearch (lines : List (List Char)) : List Char → Nat → List Char → Prop
  | free (h : ∀ line ∈ lines, trim line ≠ tag) : TagSearch lines tag 1 tag
  | closed (h : ∃ line ∈ lines, trim line = tag)
    (next : TagSearch lines (tag ++ ['_']) tests found) : TagSearch lines tag (tests + 1) found

namespace TagSearch

theorem exists_tests (lines : List (List Char)) (tag : List Char) :
    ∃ tests, TagSearch lines tag tests (freeTag lines tag) := by
  fun_induction freeTag lines tag with
  | case1 tag h ih =>
    obtain ⟨tests, hs⟩ := ih
    exact ⟨tests + 1, .closed (any_closes_iff.1 h) hs⟩
  | case2 tag h => exact ⟨1, .free fun line hm hl => h (any_closes_iff.2 ⟨line, hm, hl⟩)⟩

theorem unique (hs : TagSearch lines tag tests found) (ht : TagSearch lines tag n other) :
    n = tests ∧ other = found := by
  induction hs generalizing n with
  | free hf =>
    cases ht with
    | free => exact ⟨rfl, rfl⟩
    | closed hc =>
      obtain ⟨line, hm, hl⟩ := hc
      exact absurd hl (hf line hm)
  | closed hc _ ih =>
    cases ht with
    | free hf =>
      obtain ⟨line, hm, hl⟩ := hc
      exact absurd hl (hf line hm)
    | closed _ ht =>
      obtain ⟨rfl, rfl⟩ := ih ht
      exact ⟨rfl, rfl⟩

theorem tests_le (hs : TagSearch lines tag tests found) :
    tests ≤ (longLines lines tag).length + 1 := by
  induction hs with
  | free => omega
  | closed hc _ ih =>
    have := length_longLines_lt (any_closes_iff.2 hc)
    omega

theorem tagWith_found (hs : TagSearch lines (tagWith j) tests found) :
    ∃ k, tests = k + 1 ∧ found = tagWith (j + k) ∧ (∀ line ∈ lines, trim line ≠ tagWith (j + k)) ∧
      ∀ i, j ≤ i → i < j + k → ∃ line ∈ lines, trim line = tagWith i := by
  generalize ht : tagWith j = tag at hs
  induction hs generalizing j with
  | free hf =>
    subst ht
    exact ⟨0, rfl, rfl, hf, fun i hj hi => absurd hj (by omega)⟩
  | closed hc _ ih =>
    subst ht
    obtain ⟨k, rfl, rfl, hf, hless⟩ := ih (tagWith_succ j)
    have hk : j + 1 + k = j + (k + 1) := by omega
    rw [hk] at hf hless ⊢
    refine ⟨k + 1, rfl, rfl, hf, fun i hj hi => ?_⟩
    rcases Nat.eq_or_lt_of_le hj with rfl | hj
    · exact hc
    · exact hless i hj hi

end TagSearch

theorem TagSearch.of_lines (lines : List (List Char)) :
    ∃ k ≤ lines.length, TagSearch lines (tagWith 0) (k + 1) (heredocTag lines) ∧
      heredocTag lines = tagWith k ∧ (∀ line ∈ lines, trim line ≠ tagWith k) ∧
      ∀ j < k, ∃ line ∈ lines, trim line = tagWith j := by
  obtain ⟨tests, hs⟩ := exists_tests lines (tagWith 0)
  have ht := hs.tests_le
  have hl : (longLines lines (tagWith 0)).length ≤ lines.length := List.length_filter_le ..
  obtain ⟨k, rfl, hfound, hf, hless⟩ := hs.tagWith_found
  rw [Nat.zero_add] at hfound hf hless
  exact ⟨k, by omega, hs, hfound, hf, fun j hj => hless j j.zero_le hj⟩

theorem heredocTag_eq (lines : List (List Char)) :
    ∃ k ≤ lines.length, heredocTag lines = tagWith k ∧ (∀ line ∈ lines, trim line ≠ tagWith k) ∧
      ∀ j < k, ∃ line ∈ lines, trim line = tagWith j := by
  obtain ⟨k, hk, -, ht⟩ := TagSearch.of_lines lines
  exact ⟨k, hk, ht⟩

theorem trim_ne_heredocTag (hl : line ∈ lines) : trim line ≠ heredocTag lines := by
  obtain ⟨k, -, ht, hf, -⟩ := heredocTag_eq lines
  rw [ht]
  exact hf line hl

theorem trim_heredocTag (lines : List (List Char)) : trim (heredocTag lines) = heredocTag lines := by
  obtain ⟨k, -, ht, -, -⟩ := heredocTag_eq lines
  rw [ht, trim_tagWith]

theorem trim_heredocLine (line : List Char) : trim (heredocLine line) = trim line := by
  rw [heredocLine]
  split
  · next h =>
    rw [List.isEmpty_iff] at h
    rw [h]
    rfl
  · exact trim_blanks_append (s := [' ', ' ']) (by decide)

theorem oneLine_of_mem_heredocBody (h : line ∈ heredocBody sql) : OneLine line := by
  rw [heredocBody] at h
  split at h
  · obtain rfl := List.mem_singleton.1 h
    exact oneLine_nil
  · exact oneLine_of_mem_lines h

theorem trim_opening_ne (tag : List Char) (k : Nat) :
    trim ("execute <<~'".toList ++ tag ++ ['\'']) ≠ tagWith k := by
  have ht : Trimmed ("execute <<~'".toList ++ tag ++ ['\'']) :=
    ⟨stops_cons_iff.2 (by decide), endsOutside_concat (by decide)⟩
  rw [ht.trim_eq]
  intro h
  cases congrArg List.head? h

/-- A search for the tag ends with the shortest one that no line closes, after one test more than
there are lines at most, and no line of a block is its tag but the last. -/
theorem heredocTag_search :
    (∀ lines : List (List Char), ∃ k ≤ lines.length,
      (∀ tests found, TagSearch lines "SQL".toList tests found ↔
        tests = k + 1 ∧ found = heredocTag lines) ∧
      heredocTag lines = tagWith k ∧ IsLeast {k | ∀ line ∈ lines, trim line ≠ tagWith k} k) ∧
    ∀ sql : List Char, ∃ tag front, tag = heredocTag (heredocBody sql) ∧
      front.head? = some ("execute <<~'".toList ++ tag ++ ['\'']) ∧
      executeBlock sql = front ++ [tag] ∧ ∀ line ∈ front, trim line ≠ tag := by
  refine ⟨fun lines => ?_, fun sql => ?_⟩
  · obtain ⟨k, hk, hs, ht, hf, hless⟩ := TagSearch.of_lines lines
    refine ⟨k, hk, fun tests found => ⟨hs.unique, ?_⟩, ht, hf, fun j hj => ?_⟩
    · rintro ⟨rfl, rfl⟩
      exact hs
    · by_contra hjk
      obtain ⟨line, hm, hl⟩ := hless j (Nat.lt_of_not_le hjk)
      exact hj line hm hl
  · refine ⟨_, _, rfl, rfl, rfl, fun line hl => ?_⟩
    rcases List.mem_cons.1 hl with rfl | hl
    · obtain ⟨k, -, ht, -, -⟩ := heredocTag_eq (heredocBody sql)
      rw [ht]
      exact trim_opening_ne _ k
    · obtain ⟨l, hm, rfl⟩ := List.mem_map.1 hl
      rw [trim_heredocLine]
      exact trim_ne_heredocTag hm

/-- Lines that close the two shortest tags. -/
def closingLines : List (List Char) := [" SQL_ ".toList, "SELECT 1".toList, "SQL".toList]

theorem closingLines_search : TagSearch closingLines "SQL".toList 3 "SQL__".toList ∧
    ∀ line ∈ closingLines, trim line ≠ "SQL__".toList := by
  obtain ⟨k, -, hs, ht, hf, -⟩ := heredocTag_search.1 closingLines
  have htag : heredocTag closingLines = tagWith 2 := by decide +kernel
  have hk : k = 2 := by
    have hl := congrArg List.length (ht.symm.trans htag)
    rw [length_tagWith, length_tagWith] at hl
    omega
  subst hk
  exact ⟨(hs 3 _).2 ⟨rfl, htag.symm⟩, hf⟩

end SchemaPlan.Ruby
