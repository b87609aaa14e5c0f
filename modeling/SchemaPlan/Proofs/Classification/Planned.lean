import SchemaPlan.Proofs.Classification
import SchemaPlan.Proofs.Plan

namespace SchemaPlan
open Text

namespace Grammar

variable {c l : Char} {k : String}

/-- Apart from the forms of the I, the capital of a letter is the same in either case. -/
theorem SameLetter.upperChar (hl : l.isLower = true) (hi : l ≠ 'i') (h : SameLetter l c) :
    upperChar c = [l.toUpper] := by
  have ha := isAscii_of_isLower hl
  rcases h with rfl | rfl | ⟨rfl, -⟩
  · exact ascii_cases (P := fun c => Text.upperChar c = [c.toUpper]) (by decide) ha
  · exact ascii_cases (P := fun c => Text.upperChar c.toUpper = [c.toUpper]) (by decide) ha
  · exact absurd rfl hi

theorem Keyword.upper_text (hk : isKeyword k = true) (hi : 'i' ∉ k.toList) (w : Keyword k) :
    upper w.text = k.toList.map Char.toUpper := by
  obtain ⟨text, h⟩ := w
  have hl := lower_of_isKeyword hk
  dsimp only
  generalize k.toList = letters at hl hi h
  induction h with
  | nil => rfl
  | cons hs h ih =>
    obtain ⟨hl, hm⟩ := List.forall_mem_cons.1 hl
    obtain ⟨hi, hn⟩ := List.ne_and_not_mem_of_not_mem_cons hi
    rw [upper, List.flatMap_cons, hs.upperChar hl hi.symm, ← upper, ih hm hn]
    rfl

/-- The words that statements in the known forms begin with. -/
def firstWords : List String := ["create", "drop", "alter"]

theorem Phrase.exists_keyword (p : Phrase (k :: ks)) (s : List Char) :
    ∃ (w : Keyword k) (rest : List Char), p.text ++ s = w.text ++ rest := by
  cases p with
  | cons word gap more =>
    exact ⟨word, gap.text ++ (more.text ++ s), by simp only [text, List.append_assoc]⟩

theorem Reading.exists_firstWord (r : Reading) :
    ∃ k ∈ firstWords, ∃ (w : Keyword k) (rest : List Char), r.text = w.text ++ rest := by
  cases r with
  | createTable lead => exact ⟨_, by decide, lead.exists_keyword _⟩
  | dropTable lead => exact ⟨_, by decide, lead.exists_keyword _⟩
  | addColumn lead => exact ⟨_, by decide, lead.exists_keyword _⟩
  | dropColumn lead => exact ⟨_, by decide, lead.exists_keyword _⟩
  | createIndex unique lead =>
    cases unique with
    | true => exact ⟨_, by decide, Phrase.exists_keyword (k := "create") lead _⟩
    | false => exact ⟨_, by decide, Phrase.exists_keyword (k := "create") lead _⟩
  | dropIndex lead => exact ⟨_, by decide, lead.exists_keyword _⟩
  | dropIndexOn lead => exact ⟨_, by decide, lead.exists_keyword _⟩

theorem firstWord_planned : ∀ k ∈ firstWords,
    isKeyword k = true ∧ 'i' ∉ k.toList ∧ k.toList.map Char.toUpper ∈ Plan.keywords := by
  decide

theorem Reading.keyword (r : Reading) : ∃ k ∈ Plan.keywords, k <:+: upper r.text := by
  obtain ⟨k, hk, w, rest, ht⟩ := r.exists_firstWord
  obtain ⟨hl, hi, hm⟩ := firstWord_planned k hk
  refine ⟨_, hm, ?_⟩
  rw [ht, upper, List.flatMap_append, ← upper, w.upper_text hl hi]
  exact (List.prefix_append _ _).isInfix

end Grammar

namespace Statement
open Plan

variable {statement : Statement}

theorem isPlanText_of_change (hu : Unbroken statement.text.toList)
    (hc : statement.classify.value.change ≠ .unclassified) :
    IsPlanText (trim statement.text.toList) := by
  rcases statement.classify_value with ⟨r, ht, -, -⟩ | ⟨-, hv⟩
  · rw [← ht]
    obtain ⟨k, hk, hr⟩ := r.keyword
    refine ⟨?_, ?_, ?_, k, hk, hr⟩
    · intro hn
      rw [hn] at hr
      have hne : ∀ k ∈ keywords, k ≠ [] := by decide
      exact hne k hk (List.infix_nil.1 hr)
    · rw [ht, (trimmed_trim _).trim_eq]
    · rw [ht]
      exact hu.of_infix (trim_infix_self _)
  · rw [hv] at hc
    exact absurd rfl hc

/-- A statement that has a form is the one statement of a plan that holds it behind the marker, but
for the blanks around it, which its form does not depend on. -/
theorem statements_of_change (hu : Unbroken statement.text.toList)
    (hc : statement.classify.value.change ≠ .unclassified) :
    ∃ planned : Statement, (statements ("-> " ++ statement.text)).value = [planned] ∧
      planned.position = 1 ∧ planned.text = trimmed statement.text ∧
      planned.classify.value.change = statement.classify.value.change := by
  have hplan := isPlanText_of_change hu hc
  obtain ⟨before, after, hs, hb, ha⟩ := exists_blanks_around statement.text.toList
  have hspace {blanks : List Char} (hi : blanks <:+: statement.text.toList)
      (h : ∀ c ∈ blanks, isBlank c = true) : IsSpacing blanks :=
    fun c hm => ⟨h c hm, hu.of_infix hi c hm⟩
  have hbefore : before <:+: statement.text.toList := by
    rw [hs, List.append_assoc]
    exact (List.prefix_append _ _).isInfix
  have hafter : after <:+: statement.text.toList := by
    rw [hs]
    exact (List.suffix_append _ _).isInfix
  have hnone : IsSpacing [] := fun _ hm => absurd hm List.not_mem_nil
  have hline := Line.statement hplan hnone (hspace hbefore hb) (hspace hafter ha)
  have htext : [] ++ marker ++ before ++ trim statement.text.toList ++ after =
      ("-> " ++ statement.text).toList := by
    rw [String.toList_append]
    conv_rhs => rw [hs]
    simp [marker]
  rw [htext] at hline
  refine ⟨⟨1, trimmed statement.text, Nat.one_pos⟩, ?_, rfl, rfl, ?_⟩
  · rw [value_statements, planned_of_unbroken hline.unbroken, hline.carried?]
    rfl
  · rw [change_classify, change_classify, trimmed, String.toList_ofList,
      (trimmed_trim _).trim_eq]

/-- An index with a dotless I in its keyword, blanks of other scripts and a name that is a keyword. -/
def dotlessIndex : Statement :=
  ⟨7, "\u3000dRoP\u2009ıNDEX `Create` on \"ſhop\" ;\u00a0", by decide⟩

theorem dotlessIndex_planned :
    Unbroken dotlessIndex.text.toList ∧
    dotlessIndex.classify.value.change = .dropIndex "Create" (some "ſhop") ∧
    ∃ planned : Statement, (statements ("-> " ++ dotlessIndex.text)).value = [planned] ∧
      planned.position = 1 ∧ planned.text = "dRoP\u2009ıNDEX `Create` on \"ſhop\" ;" ∧
      planned.classify.value.change = .dropIndex "Create" (some "ſhop") := by
  have hu : Unbroken dotlessIndex.text.toList := by decide +kernel
  have hc : dotlessIndex.classify.value.change = .dropIndex "Create" (some "ſhop") := by
    decide +kernel
  obtain ⟨planned, hs, hp, ht, he⟩ := statements_of_change hu (by rw [hc]; nofun)
  exact ⟨hu, hc, planned, hs, hp, ht.trans (by decide +kernel), he.trans hc⟩

end Statement

end SchemaPlan
