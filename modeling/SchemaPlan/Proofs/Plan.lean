import SchemaPlan.Plan
import SchemaPlan.Proofs.Text.Lines

namespace SchemaPlan

namespace Text

/-- Lines and pieces that begin alike and differ in empty ones only. -/
inductive Agree : List (List Char) → List (List Char) → Prop
  | nil : Agree [] [[]]
  | cons (first : List Char) (h : more.filter (· ≠ []) = pieces.filter (· ≠ [])) :
    Agree (first :: more) (first :: pieces)

theorem Agree.filter (h : Agree ls pieces) : ls.filter (· ≠ []) = pieces.filter (· ≠ []) := by
  cases h with
  | nil => rfl
  | cons first h => rw [List.filter_cons, List.filter_cons, h]

/-- Between a carriage return and a line feed, and behind a separator at the end, a piece may be
empty that is no line. -/
theorem agree_lines (s : List Char) : Agree (lines s) (s.splitOnP isLineBreak) := by
  fun_induction lines s with
  | case1 => exact .nil
  | case2 rest ih =>
    rw [List.splitOnP_cons_eq_if_modifyHead, List.splitOnP_cons_eq_if_modifyHead]
    apply Agree.cons []
    rw [ih.filter]
    rfl
  | case3 c rest hn hb ih =>
    rw [List.splitOnP_cons_eq_if_modifyHead, if_pos hb]
    exact .cons [] ih.filter
  | case4 c rest hn hb hs ih =>
    rw [List.splitOnP_cons_eq_if_modifyHead, if_neg hb]
    rw [hs] at ih
    generalize rest.splitOnP isLineBreak = pieces at ih ⊢
    cases ih
    exact .cons [c] rfl
  | case5 c rest hn hb line more hs ih =>
    rw [List.splitOnP_cons_eq_if_modifyHead, if_neg hb]
    rw [hs] at ih
    generalize rest.splitOnP isLineBreak = pieces at ih ⊢
    cases ih with
    | cons first h => exact .cons (c :: line) h

/-- No line separator stands in the text. -/
def Unbroken (s : List Char) : Prop := ∀ c ∈ s, isLineBreak c = false

instance (s : List Char) : Decidable (Unbroken s) := List.decidableBAll _ s

theorem Unbroken.of_infix (h : Unbroken s) (ht : t <:+: s) : Unbroken t :=
  fun c hc => h c (ht.mem hc)

theorem trim_infix_self (s : List Char) : trim s <:+: s := by
  rw [trim, trimEnd_eq_rdropWhile]
  exact (List.rdropWhile_prefix _ _).isInfix.trans (List.dropWhile_suffix _).isInfix

end Text

namespace Statement

theorem texts_number (start : Nat) (texts : List String) :
    (number start texts).map (·.text) = texts := by
  induction texts generalizing start with
  | nil => rfl
  | cons text texts ih => rw [number, List.map_cons, ih]

theorem positions_number (start : Nat) (texts : List String) :
    (number start texts).map (·.position) = List.range' (start + 1) texts.length := by
  induction texts generalizing start with
  | nil => rfl
  | cons text texts ih => rw [number, List.map_cons, ih, List.length_cons, List.range'_succ]

theorem length_number (start : Nat) (texts : List String) :
    (number start texts).length = texts.length := by
  rw [← List.length_map (·.text), texts_number]

theorem number_append (start : Nat) (texts more : List String) :
    number start (texts ++ more) = number start texts ++ number (start + texts.length) more := by
  induction texts generalizing start with
  | nil => rfl
  | cons text texts ih =>
    rw [List.cons_append, number, number, List.cons_append, ih, List.length_cons,
      Nat.add_right_comm start 1, Nat.add_assoc]

def behind (count : Nat) (statement : Statement) : Statement :=
  ⟨statement.position + count, statement.text, Nat.add_pos_left statement.positive count⟩

theorem number_add (start count : Nat) (texts : List String) :
    number (start + count) texts = (number start texts).map (behind count) := by
  induction texts generalizing start with
  | nil => rfl
  | cons text texts ih =>
    have hp : start + count + 1 = start + 1 + count := Nat.add_right_comm start count 1
    simp only [number, List.map_cons, behind, hp, ih]

end Statement

open Text

namespace Plan

theorem contains_iff (part s : List Char) : contains part s = true ↔ part <:+: s := by
  induction s with
  | nil => simp [contains, List.infix_nil]
  | cons c s ih => simp [contains, ih, List.infix_cons_iff]

theorem mentionsKeyword_iff : mentionsKeyword s = true ↔ ∃ k ∈ keywords, k <:+: upper s := by
  simp [mentionsKeyword, contains_iff]

def carried? (line : List Char) : Option (List Char) := (marked? line).filter mentionsKeyword

theorem value_statementText? (line : List Char) : (statementText? line).value = carried? line := by
  rw [statementText?, carried?]
  cases marked? line with
  | none => rfl
  | some sql =>
    dsimp only
    cases h : mentionsKeyword sql with
    | true =>
      rw [Option.filter_some_pos h]
      rfl
    | false =>
      rw [Option.filter_some_neg h]
      rfl

/-- The texts of the statements of a plan, in order. -/
def planned (s : List Char) : List (List Char) := (lines s).filterMap carried?

theorem value_statementTexts (ls : List (List Char)) :
    (statementTexts ls).value = (ls.filterMap carried?).map String.ofList := by
  induction ls with
  | nil => rfl
  | cons line ls ih =>
    simp only [statementTexts, Logged.value_bind, Logged.value_pure, value_statementText?, ih]
    cases h : carried? line <;> simp [h]

theorem value_statements (output : String) :
    (statements output).value =
      Statement.number 0 ((planned output.toList).map String.ofList) := by
  simp only [statements, Logged.value_bind, Logged.value_pure, value_statementTexts, planned]

theorem texts_statements (output : String) :
    (statements output).value.map (·.text.toList) = planned output.toList := by
  have ht := congrArg (List.map String.toList)
    (Statement.texts_number 0 ((planned output.toList).map String.ofList))
  rw [value_statements]
  simpa [List.map_map, Function.comp_def] using ht

theorem planned_eq (s : List Char) : planned s = (s.splitOnP isLineBreak).filterMap carried? := by
  have hf (ls : List (List Char)) :
      ls.filterMap carried? = (ls.filter (· ≠ [])).filterMap carried? := by
    rw [List.filterMap_filter]
    apply List.filterMap_congr
    intro line _
    by_cases h : line = []
    · subst h
      rfl
    · simp [h]
  rw [planned, hf, (agree_lines s).filter, ← hf]

theorem planned_of_unbroken (h : Unbroken s) : planned s = (carried? s).toList := by
  rw [planned_eq, List.splitOnP_eq_singleton h, List.filterMap_cons]
  cases carried? s <;> rfl

theorem planned_append (hc : isLineBreak c = true) (s t : List Char) :
    planned (s ++ c :: t) = planned s ++ planned t := by
  rw [planned_eq, List.splitOnP_append_cons s t hc, List.filterMap_append, ← planned_eq,
    ← planned_eq]

/-- Of two texts on lines of their own, the statements are those of the first, followed by those of
the second, which are counted on from there. The line feed between the two may complete a carriage
return of the first text, and the second may begin with separators of its own. -/
theorem statements_append (s t : String) :
    (statements (s ++ "\n" ++ t)).value =
      (statements s).value ++
        (statements t).value.map (Statement.behind (statements s).value.length) := by
  have hp : planned (s ++ "\n" ++ t).toList = planned s.toList ++ planned t.toList := by
    have ht : (s ++ "\n" ++ t).toList = s.toList ++ '\n' :: t.toList := by simp
    rw [ht, planned_append (by decide)]
  rw [value_statements, value_statements, value_statements, hp, List.map_append,
    Statement.number_append, Statement.number_add, Statement.length_number]

/-- A text as it can be the statement of a line. -/
structure IsPlanText (t : List Char) : Prop where
  nonempty : t ≠ []
  trimmed : trim t = t
  unbroken : Unbroken t
  keyword : ∃ k ∈ keywords, k <:+: upper t

instance (t : List Char) : Decidable (IsPlanText t) :=
  decidable_of_iff
    (t ≠ [] ∧ trim t = t ∧ Unbroken t ∧ ∃ k ∈ keywords, k <:+: upper t)
    ⟨fun ⟨hn, ht, hu, hk⟩ => ⟨hn, ht, hu, hk⟩, fun ⟨hn, ht, hu, hk⟩ => ⟨hn, ht, hu, hk⟩⟩

def IsSpacing (s : List Char) : Prop := ∀ c ∈ s, isBlank c = true ∧ isLineBreak c = false

instance (s : List Char) : Decidable (IsSpacing s) := List.decidableBAll _ s

/-- A line of a printed plan, with the statement that it carries. -/
inductive Line : List Char → Option (List Char) → Prop
  | statement (ht : IsPlanText t) (hi : IsSpacing indent) (hg : IsSpacing gap)
    (he : IsSpacing trailing) : Line (indent ++ marker ++ gap ++ t ++ trailing) (some t)
  | noise (hl : Unbroken line)
    (hn : ¬ marker <+: trim line ∨
      ∀ k ∈ keywords, ¬ k <:+: upper ((trim line).drop marker.length)) : Line line none

def IsSeparator (s : List Char) : Prop := s = ['\r', '\n'] ∨ ∃ c, isLineBreak c = true ∧ s = [c]

inductive Joined : List (List Char) → List Char → Prop
  | nil : Joined [] []
  | last (line : List Char) : Joined [line] line
  | cons (line : List Char) (hs : IsSeparator separator) (h : Joined (next :: ls) s) :
    Joined (line :: next :: ls) (line ++ separator ++ s)

theorem IsPlanText.isTrimmed (h : IsPlanText t) : Trimmed t := by
  rw [← h.trimmed]
  exact trimmed_trim t

theorem IsSpacing.isBlank (h : IsSpacing s) : ∀ c ∈ s, Text.isBlank c = true :=
  fun c hc => (h c hc).1

theorem marked?_of_marked (h : marker <+: trim line) :
    marked? line = some (trim ((trim line).drop marker.length)) := by
  rw [marked?, if_pos (List.isPrefixOf_iff_prefix.2 h)]

theorem marked?_of_unmarked (h : ¬ marker <+: trim line) : marked? line = none := by
  rw [marked?, if_neg (fun hp => h (List.isPrefixOf_iff_prefix.1 hp))]

theorem IsPlanText.carried? (h : IsPlanText t) (hi : IsSpacing indent) (hg : IsSpacing gap)
    (he : IsSpacing trailing) :
    Plan.carried? (indent ++ marker ++ gap ++ t ++ trailing) = some t := by
  have hends : Trimmed (marker ++ gap ++ t) := by
    constructor
    · rw [List.append_assoc]
      apply stops_append (by decide)
      exact stops_cons_iff.2 (by decide)
    · intro c hc
      rw [List.getLast?_append_of_ne_nil _ h.nonempty] at hc
      exact h.isTrimmed.2 c hc
  have hline : trim (indent ++ marker ++ gap ++ t ++ trailing) = marker ++ (gap ++ t) := by
    have hc := trim_blanks_around hi.isBlank hends (by simp [h.nonempty]) he.isBlank
    simpa only [List.append_assoc] using hc
  have htext : trim (gap ++ t) = t := by
    have hn : ∀ c ∈ ([] : List Char), isBlank c = true := nofun
    simpa using trim_blanks_around hg.isBlank h.isTrimmed h.nonempty hn
  have hm : marker <+: trim (indent ++ marker ++ gap ++ t ++ trailing) := by
    rw [hline]
    exact List.prefix_append _ _
  rw [Plan.carried?, marked?_of_marked hm, hline, List.drop_left' rfl, htext]
  exact Option.filter_some_pos (mentionsKeyword_iff.2 h.keyword)

theorem Line.carried? (h : Line line c) : Plan.carried? line = c := by
  cases h with
  | statement ht hi hg he => exact ht.carried? hi hg he
  | noise hl hn =>
    by_cases hm : marker <+: trim line
    · rw [Plan.carried?, marked?_of_marked hm]
      apply Option.filter_some_neg
      rw [Bool.eq_false_iff]
      intro hk
      obtain ⟨k, hkm, hk⟩ := mentionsKeyword_iff.1 hk
      have hn := hn.resolve_left (not_not_intro hm)
      exact hn k hkm (hk.trans ((trim_infix_self _).flatMap _))
    · rw [Plan.carried?, marked?_of_unmarked hm]
      rfl

theorem Line.unbroken (h : Line line c) : Unbroken line := by
  cases h with
  | statement ht hi hg he =>
    have hmarker : Unbroken marker := by simp [Unbroken, marker, isLineBreak]
    intro c hc
    simp only [List.mem_append] at hc
    rcases hc with (((hc | hc) | hc) | hc) | hc
    · exact (hi c hc).2
    · exact hmarker c hc
    · exact (hg c hc).2
    · exact ht.unbroken c hc
    · exact (he c hc).2
  | noise hl hn => exact hl

theorem planned_separated (h : IsSeparator separator) (s t : List Char) :
    planned (s ++ separator ++ t) = planned s ++ planned t := by
  rcases h with rfl | ⟨c, hc, rfl⟩
  · have hr : isLineBreak '\r' = true := by decide
    have hn : isLineBreak '\n' = true := by decide
    -- The empty piece between the two carries nothing.
    have hempty : planned ('\n' :: t) = planned t := planned_append hn [] t
    rw [List.append_assoc]
    exact (planned_append hr s ('\n' :: t)).trans (congrArg _ hempty)
  · rw [List.append_assoc]
    exact planned_append hc s t

theorem planned_of_joined (hj : Joined ls s) (hl : List.Forall₂ Line ls cs) :
    planned s = cs.reduceOption := by
  have hline {line : List Char} {c : Option (List Char)} (h : Line line c) :
      planned line = c.toList := by
    rw [planned_of_unbroken h.unbroken, h.carried?]
  induction hj generalizing cs with
  | nil =>
    cases hl
    rfl
  | last line =>
    cases hl with
    | cons h hr =>
      cases hr
      rw [hline h]
      cases ‹Option (List Char)› <;> rfl
  | cons line hs hj ih =>
    cases hl with
    | @cons _ c _ cs h hr =>
      rw [planned_separated hs, hline h, ih hr]
      cases c <;> rfl

theorem isPlanText_of_carried? (h : carried? line = some t) (hl : Unbroken line) :
    IsPlanText t := by
  obtain ⟨hm, hk⟩ := Option.filter_eq_some_iff.1 h
  by_cases hp : marker <+: trim line
  · rw [marked?_of_marked hp] at hm
    obtain rfl := Option.some.inj hm
    obtain ⟨k, hkm, hk⟩ := mentionsKeyword_iff.1 hk
    refine ⟨?_, (trimmed_trim _).trim_eq, ?_, k, hkm, hk⟩
    · intro hnil
      rw [hnil] at hk
      have hkn : ∀ k ∈ keywords, k ≠ [] := by decide
      exact hkn k hkm (List.infix_nil.1 hk)
    · apply hl.of_infix
      exact (trim_infix_self _).trans ((List.drop_suffix _ _).isInfix.trans (trim_infix_self line))
  · rw [marked?_of_unmarked hp] at hm
    cases hm

theorem isPlanText_of_mem_planned (h : t ∈ planned s) : IsPlanText t := by
  obtain ⟨line, hl, ht⟩ := List.mem_filterMap.1 h
  exact isPlanText_of_carried? ht fun c hc => isLineBreak_of_mem_lines hl hc

/-- Statements as a plan of their own, one on a line. -/
def printed (statements : List Statement) : String :=
  .join (statements.map fun statement => "-> " ++ statement.text ++ "\n")

theorem planned_printed {statements : List Statement}
    (h : ∀ statement ∈ statements, IsPlanText statement.text.toList) :
    planned (printed statements).toList = statements.map (·.text.toList) := by
  induction statements with
  | nil => rfl
  | cons statement statements ih =>
    obtain ⟨ht, hr⟩ := List.forall_mem_cons.1 h
    have hnone : IsSpacing [] := by simp [IsSpacing]
    have hline : Line (marker ++ statement.text.toList) (some statement.text.toList) := by
      simpa using Line.statement ht hnone hnone hnone
    have htext : (printed (statement :: statements)).toList =
        marker ++ statement.text.toList ++ '\n' :: (printed statements).toList := by
      simp [printed, marker]
    rw [htext, planned_append (by decide), planned_of_unbroken hline.unbroken, hline.carried?,
      ih hr]
    rfl

/-- Of lines between any separators, the statements are exactly those that the lines carry, in order
and numbered from one. Whatever was printed, what is read off it could be the statement of a line,
and statements that are printed again, one on a line, are read again. -/
theorem statements_of_joined {ls : List (List Char)} {cs : List (Option (List Char))}
    {s : List Char} (hl : List.Forall₂ Line ls cs) (hj : Joined ls s) (output : String) :
    ((statements (.ofList s)).value.map (·.text) = cs.reduceOption.map .ofList ∧
      (statements (.ofList s)).value.map (·.position) = List.range' 1 cs.reduceOption.length) ∧
    (∀ statement ∈ (statements output).value, IsPlanText statement.text.toList) ∧
    (statements output).value.map (·.position) =
      List.range' 1 (statements output).value.length ∧
    (statements (printed (statements output).value)).value = (statements output).value := by
  have hs : (statements (.ofList s)).value =
      Statement.number 0 (cs.reduceOption.map String.ofList) := by
    rw [value_statements, String.toList_ofList, planned_of_joined hj hl]
  have hread := value_statements output
  have hplan : ∀ statement ∈ (statements output).value, IsPlanText statement.text.toList := by
    intro statement hm
    apply isPlanText_of_mem_planned
    rw [← texts_statements]
    exact List.mem_map_of_mem hm
  refine ⟨⟨?_, ?_⟩, hplan, ?_, ?_⟩
  · rw [hs, Statement.texts_number]
  · rw [hs, Statement.positions_number, List.length_map]
  · rw [hread, Statement.positions_number, Statement.length_number]
  · rw [value_statements, planned_printed hplan, texts_statements, hread]

def mingledLines : List Char :=
  "Planned:\r\n\t-> create table a\u2028-> select 1\r->  DROP TABLE b \x0b".toList

theorem mingledLines_statements :
    (statements (.ofList mingledLines)).value.map (·.text) = ["create table a", "DROP TABLE b"] ∧
    (statements (.ofList mingledLines)).value.map (·.position) = [1, 2] := by
  have hnone : IsSpacing [] := by decide
  have hspace : IsSpacing [' '] := by decide +kernel
  have htab : IsSpacing ['\t'] := by decide +kernel
  have hnoise : ∀ line ∈ ["Planned:".toList, "-> select 1".toList, []], Line line none := by
    have h : ∀ line ∈ ["Planned:".toList, "-> select 1".toList, []], Unbroken line ∧
        (¬ marker <+: trim line ∨
          ∀ k ∈ keywords, ¬ k <:+: upper ((trim line).drop marker.length)) := by decide +kernel
    exact fun line hm => .noise (h line hm).1 (h line hm).2
  have hcreate : IsPlanText "create table a".toList := by decide +kernel
  have hdrop : IsPlanText "DROP TABLE b".toList := by decide +kernel
  have hl : List.Forall₂ Line
      ["Planned:".toList, "\t-> create table a".toList, "-> select 1".toList,
        "->  DROP TABLE b ".toList, []]
      [none, some "create table a".toList, none, some "DROP TABLE b".toList, none] :=
    .cons (hnoise _ (by simp)) <| .cons (.statement hcreate htab hnone hnone) <|
    .cons (hnoise _ (by simp)) <| .cons (.statement hdrop hnone hspace hspace) <|
    .cons (hnoise _ (by simp)) .nil
  have hbreak : ∀ c ∈ ['\u2028', '\r', '\x0b'], IsSeparator [c] := by
    intro c hc
    refine .inr ⟨c, ?_, rfl⟩
    simp only [List.mem_cons, List.not_mem_nil, or_false] at hc
    rcases hc with rfl | rfl | rfl <;> decide
  have hj : Joined ["Planned:".toList, "\t-> create table a".toList, "-> select 1".toList,
      "->  DROP TABLE b ".toList, []] mingledLines :=
    .cons _ (.inl rfl) <| .cons _ (hbreak '\u2028' (by simp)) <|
    .cons _ (hbreak '\r' (by simp)) <| .cons _ (hbreak '\x0b' (by simp)) (.last [])
  obtain ⟨⟨ht, hp⟩, -⟩ := statements_of_joined hl hj ""
  exact ⟨ht, hp⟩

end Plan

end SchemaPlan
