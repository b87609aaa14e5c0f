import SchemaPlan.Proofs.Grammar.Backward
import SchemaPlan.Proofs.Migration.Column

namespace SchemaPlan

namespace Grammar
open Form Text

/-- A text that adds a column and ends in the words `NOT NULL`, whatever stands before them. -/
structure Constrained where
  lead : Phrase ["alter", "table"]
  between : List Char
  verb : Phrase ["add", "column"]
  definition : List Char
  separated : EndsOutside isWordChar definition
  negation : Keyword "not"
  gap : Gap
  word : Keyword "null"
  ending : Ending

/-- The text gives the column no type: `NOT` stands in the place of the name or right behind it. -/
inductive Untyped : List Char → Prop
  | unnamed (lead : Phrase ["alter", "table"]) (table : Identifier) (gap : Gap)
      (verb : Phrase ["add", "column"]) (opening : Mark) (negation : Keyword "not")
      (between : Gap) (word : Keyword "null") (ending : Ending) :
      Untyped (lead.text ++ (table.text ++ (gap.text ++ (verb.text ++ (opening.text ++
        (negation.text ++ (between.text ++ (word.text ++ ending.text))))))))
  | named (lead : Phrase ["alter", "table"]) (table : Identifier) (gap : Gap)
      (verb : Phrase ["add", "column"]) (column : Identifier) (behind : Gap)
      (negation : Keyword "not") (between : Gap) (word : Keyword "null") (ending : Ending) :
      Untyped (lead.text ++ (table.text ++ (gap.text ++ (verb.text ++ (column.text ++
        (behind.text ++ (negation.text ++ (between.text ++ (word.text ++ ending.text)))))))))

theorem isKeyword_not : isKeyword "not" = true := by decide

theorem isKeyword_null : isKeyword "null" = true := by decide

theorem Untyped.exists_reading (h : Untyped s) :
    ∃ lead table gap verb column between type clause ending,
      (Reading.addColumn lead table gap verb column between type clause ending).text = s ∧
      clause.nullable ≠ some false := by
  cases h with
  | unnamed lead table gap verb opening negation between word ending =>
    refine ⟨lead, table, gap, verb, ⟨opening, negation.toWord isKeyword_not, ⟨[], .inl rfl⟩⟩,
      between, ⟨word.toWord isKeyword_null, none⟩, .unstated, ending, ?_, ?_⟩
    · simp only [Reading.text, Identifier.text, TypeToken.text_plain, NullClause.text,
        Keyword.toWord, List.append_nil, List.nil_append, List.append_assoc]
    · simp [NullClause.nullable]
  | named lead table gap verb column behind negation between word ending =>
    refine ⟨lead, table, gap, verb, column, behind, ⟨negation.toWord isKeyword_not, none⟩,
      .null between word, ending, ?_, by simp [NullClause.nullable]⟩
    simp only [Reading.text, TypeToken.text_plain, NullClause.text, Keyword.toWord,
      List.append_assoc]

namespace Constrained

variable (n : Constrained)

def front : List Char := n.lead.text ++ (n.between ++ (n.verb.text ++ n.definition))

def text : List Char :=
  n.front ++ n.negation.text ++ n.gap.text ++ n.word.text ++ n.ending.text

theorem endsOutside_front : EndsOutside isWordChar n.front := by
  by_cases hd : n.definition = []
  · rw [front, hd, List.append_nil, ← List.append_assoc]
    exact n.verb.endsOutside
  · rw [front, ← List.append_assoc, ← List.append_assoc]
    exact endsOutside_append hd n.separated

theorem endsOutside_gap : EndsOutside isWordChar (n.front ++ n.negation.text ++ n.gap.text) :=
  n.gap.endsOutside_word

theorem endsOutside_negation : EndsOutside isBlank (n.front ++ n.negation.text) :=
  (n.negation.toWord isKeyword_not).endsOutside fun _ => isBlank_of_isWordChar

theorem endsOutside_word :
    EndsOutside isEndChar (n.front ++ n.negation.text ++ n.gap.text ++ n.word.text) :=
  n.word.endsOutside_end isKeyword_null

end Constrained

theorem Phrase.append_ne (hk : isKeyword k = true) (hj : isKeyword j = true)
    (ha : apart k.toList j.toList = true) (p : Phrase (k :: ks)) (q : Phrase (j :: js)) :
    p.text ++ s ≠ q.text ++ t := by
  intro h
  cases p with
  | cons v g more =>
    cases q with
    | cons w g' more' =>
      simp only [Phrase.text, List.append_assoc] at h
      have hr := v.read hk (g.text ++ (more.text ++ s))
      rw [h, afterKeyword?_apart (lower_of_isKeyword hk) (lower_of_isKeyword hj) ha w.spelled] at hr
      cases hr

theorem Keyword.text_ne (v : Keyword k) (w : Keyword j)
    (hl : k.toList.length ≠ j.toList.length) : v.text ≠ w.text := by
  intro h
  apply hl
  rw [v.spelled.length_eq, w.spelled.length_eq, h]

namespace Constrained

variable {n : Constrained}

theorem text_lead (n : Constrained) : ∃ s, n.text = n.lead.text ++ s :=
  ⟨_, by simp only [text, front, List.append_assoc]; rfl⟩

theorem text_ne_of_lead (hk : isKeyword k = true) (ha : apart k.toList "alter".toList = true)
    (lead : Phrase (k :: ks)) : lead.text ++ s ≠ n.text := by
  obtain ⟨t, ht⟩ := n.text_lead
  rw [ht]
  exact Phrase.append_ne hk (by decide) ha lead n.lead

theorem cut_ending {ending : Ending} (h : s ++ ending.text = n.text)
    (hs : EndsOutside isEndChar s) : s = n.front ++ n.negation.text ++ n.gap.text ++ n.word.text :=
  (Ending.last_inj h hs n.endsOutside_word).1

theorem cut_gap {gap : Gap} (h : s ++ gap.text = n.front ++ n.negation.text ++ n.gap.text)
    (hs : EndsOutside isBlank s) : s = n.front ++ n.negation.text :=
  (Gap.last_inj h hs n.endsOutside_negation).1

theorem endsOutside_verb (s t u : List Char) (verb : Phrase (k :: ks)) :
    EndsOutside isWordChar (s ++ (t ++ (u ++ verb.text))) := by
  rw [← List.append_assoc, ← List.append_assoc]
  exact verb.endsOutside

theorem text_ne_dropColumn (lead : Phrase ["alter", "table"]) (table : Identifier) (gap : Gap)
    (verb : Phrase ["drop", "column"]) (column : Identifier) (ending : Ending) :
    (Reading.dropColumn lead table gap verb column ending).text ≠ n.text := by
  intro h
  have hs : (lead.text ++ (table.text ++ (gap.text ++ verb.text))) ++ column.text ++ ending.text =
      n.text := by
    simpa only [Reading.text, List.append_assoc] using h
  have hs := cut_ending hs column.endsOutside_end
  obtain ⟨-, -, hs⟩ := Identifier.last_inj (w := n.word.toWord isKeyword_null) hs
    (endsOutside_verb _ _ _ verb) n.endsOutside_gap
  have ho := Mark.text_eq_nil hs (fun c hc => by simpa using hc) n.gap.endsOutside_mark
  rw [ho, List.append_nil] at hs
  cases verb with
  | cons drop between more =>
    cases more with
    | cons word behind more =>
      cases more
      have hg : (lead.text ++ (table.text ++ (gap.text ++ (drop.text ++ between.text)))) ++
          word.text ++ behind.text = n.front ++ n.negation.text ++ n.gap.text := by
        simpa only [Phrase.text, List.append_assoc, List.append_nil] using hs
      have hw := cut_gap hg
        ((word.toWord (by decide)).endsOutside fun _ => isBlank_of_isWordChar)
      have hb : EndsOutside isWordChar
          (lead.text ++ (table.text ++ (gap.text ++ (drop.text ++ between.text)))) := by
        simp only [← List.append_assoc]
        exact between.endsOutside_word
      have hl := Word.last_inj (v := word.toWord (by decide))
        (w := n.negation.toWord isKeyword_not) hw hb n.endsOutside_front
      exact word.text_ne n.negation (by decide) (congrArg Word.text hl.2)

theorem untyped_of_unstated {lead : Phrase ["alter", "table"]} {table : Identifier} {gap : Gap}
    {verb : Phrase ["add", "column"]} {column : Identifier} {between : Gap} {type : TypeToken}
    {ending : Ending}
    (h : (Reading.addColumn lead table gap verb column between type .unstated ending).text =
      n.text) : Untyped n.text := by
  have hs : (lead.text ++ (table.text ++ (gap.text ++ verb.text))) ++ column.text ++
      between.text ++ type.text ++ ending.text = n.text := by
    simpa only [Reading.text, NullClause.text, List.nil_append, List.append_assoc] using h
  have hs := cut_ending hs type.endsOutside_end
  obtain ⟨hy, hs⟩ := TypeToken.last_inj (w := n.word.toWord isKeyword_null) hs
    between.endsOutside_word n.endsOutside_gap
  have hs := cut_gap hs
    (column.endsOutside (fun _ => isBlank_of_isWordChar) (outside_marks (by decide)))
  obtain ⟨hc, hw, -⟩ := Identifier.last_inj (w := n.negation.toWord isKeyword_not) hs
    (endsOutside_verb _ _ _ verb) n.endsOutside_front
  have hu := Untyped.unnamed lead table gap verb column.opening n.negation between n.word ending
  rw [← h]
  simpa only [Reading.text, Identifier.text, hc, hw, hy, TypeToken.text_plain, NullClause.text,
    Keyword.toWord, List.append_nil, List.nil_append, List.append_assoc] using hu

theorem untyped_of_null {lead : Phrase ["alter", "table"]} {table : Identifier} {gap : Gap}
    {verb : Phrase ["add", "column"]} {column : Identifier} {between behind : Gap}
    {type : TypeToken} {word : Keyword "null"} {ending : Ending}
    (h : (Reading.addColumn lead table gap verb column between type (.null behind word)
      ending).text = n.text) : Untyped n.text := by
  have hs : (lead.text ++ (table.text ++ (gap.text ++ (verb.text ++ column.text)))) ++
      between.text ++ type.text ++ behind.text ++ word.text ++ ending.text = n.text := by
    simpa only [Reading.text, NullClause.text, List.append_assoc] using h
  have hs := cut_ending hs (word.endsOutside_end isKeyword_null)
  obtain ⟨hs, -⟩ := Word.last_inj (v := word.toWord isKeyword_null)
    (w := n.word.toWord isKeyword_null) hs
    behind.endsOutside_word n.endsOutside_gap
  have hs := cut_gap hs (type.endsOutside (fun _ => isBlank_of_isWordChar) (by decide))
  obtain ⟨hy, -⟩ := TypeToken.last_inj (w := n.negation.toWord isKeyword_not) hs
    between.endsOutside_word n.endsOutside_front
  have hu := Untyped.named lead table gap verb column between n.negation behind word ending
  rw [← h]
  simpa only [Reading.text, hy, TypeToken.text_plain, NullClause.text, Keyword.toWord,
    List.append_assoc] using hu

theorem not_untyped_of_notNull {lead : Phrase ["alter", "table"]} {table : Identifier} {gap : Gap}
    {verb : Phrase ["add", "column"]} {column : Identifier} {between behind apart : Gap}
    {type : TypeToken} {negation : Keyword "not"} {word : Keyword "null"} {ending : Ending}
    (h : (Reading.addColumn lead table gap verb column between type
      (.notNull behind negation apart word) ending).text = n.text) (ht : EndsTight n.text) :
    ¬ Untyped n.text := by
  intro hu
  obtain ⟨_, _, _, _, _, _, _, clause, _, hq, hn⟩ := hu.exists_reading
  have hr := Reading.text_inj (hq.trans h.symm) (hq ▸ ht)
  injection hr with _ _ _ _ _ _ _ hc
  exact hn (congrArg NullClause.nullable hc)

theorem change_of_reading {r : Reading} (h : r.text = n.text) (ht : EndsTight n.text) :
    ∃ table column type nullable, r.change = .addColumn table column type nullable ∧
      (nullable = some false ↔ ¬ Untyped n.text) := by
  cases r with
  | createTable lead => exact absurd h (text_ne_of_lead (by decide) (by decide) lead)
  | dropTable lead => exact absurd h (text_ne_of_lead (by decide) (by decide) lead)
  | createIndex unique lead =>
    cases unique with
    | true =>
      exact absurd h (text_ne_of_lead (by decide) (by decide)
        (show Phrase ["create", "unique", "index"] from lead))
    | false =>
      exact absurd h (text_ne_of_lead (by decide) (by decide)
        (show Phrase ["create", "index"] from lead))
  | dropIndex lead => exact absurd h (text_ne_of_lead (by decide) (by decide) lead)
  | dropIndexOn lead => exact absurd h (text_ne_of_lead (by decide) (by decide) lead)
  | dropColumn lead table gap verb column ending =>
    exact absurd h (text_ne_dropColumn lead table gap verb column ending)
  | addColumn lead table gap verb column between type clause ending =>
    refine ⟨_, _, _, _, rfl, ?_⟩
    cases clause with
    | unstated => simp [NullClause.nullable, untyped_of_unstated h]
    | null => simp [NullClause.nullable, untyped_of_null h]
    | notNull => simp [NullClause.nullable, not_untyped_of_notNull h ht]

end Constrained

theorem exists_constrained (between definition : List Char)
    (hl : afterKeywords? ["alter", "table"] s = some (between ++ v))
    (hv : afterKeywords? ["add", "column"] v = some (definition ++ w))
    (hd : EndsOutside isWordChar definition) (hn : afterKeywords? ["not"] w = some u)
    (hw : afterKeyword? "null".toList u = some e) (he : isEnd e = true) :
    ∃ n : Constrained, n.text = s := by
  obtain ⟨lead, rfl⟩ := exists_phrase hl
  obtain ⟨verb, rfl⟩ := exists_phrase hv
  obtain ⟨phrase, rfl⟩ := exists_phrase hn
  obtain ⟨word, rfl⟩ := exists_keyword hw
  obtain ⟨ending, rfl⟩ := exists_ending he
  cases phrase with
  | cons negation gap more =>
    cases more
    refine ⟨⟨lead, between, verb, definition, hd, negation, gap, word, ending⟩, ?_⟩
    simp only [Constrained.text, Constrained.front, Phrase.text, List.append_nil,
      List.append_assoc]

end Grammar

namespace Statement
open Grammar Form Text

/-- A statement that adds a column and ends in `NOT NULL` is run as it is, or it becomes a line that
ends with the constraint unless the column has no type. -/
theorem constraint_kept (mapping : TypeMapping) (statement : Statement) (n : Constrained)
    (h : n.text = trim statement.text.toList) :
    ∃ block, (statement.classify.value.block mapping).run.value = .ok block ∧
      (block.Holds statement.text ∨
        ∃ line, block = { lines := [line] } ∧ "add_column ".toList <+: line.toList ∧
          (", null: false".toList <:+ line.toList ↔ ¬ Untyped n.text)) := by
  refine ⟨_, statement.block_value mapping, ?_⟩
  rcases statement.classify_value with ⟨r, ht, hr, hv⟩ | ⟨-, hv⟩
  · obtain ⟨table, column, type, nullable, hc, hn⟩ :=
      Constrained.change_of_reading (ht.trans h.symm) (h ▸ (trimmed_trim _).2)
    rw [hv, Operation.rendered_addColumn hc]
    cases mapping.resolve type with
    | none => exact .inl statement.holds_verbatimBlock
    | some target =>
      refine .inr ⟨_, rfl, ?_, ?_⟩
      · rw [toList_columnLine]
        exact List.prefix_append _ _
      · rw [suffix_columnLine_iff table column _ nullable target.shownOptions_decimal, hn]
  · rw [hv]
    exact .inl statement.holds_verbatimBlock

/-- A column with quotation marks, digits of another script and a wide blank before `NULL`. -/
def namedColumn : Statement :=
  ⟨1, " alter TABLE Users ADD column \"Größe\"  CHAR ( ٠٨٠ )  not\u00a0NULL ; ", Nat.one_pos⟩

theorem namedColumn_constraint : ∃ n : Constrained,
    n.text = trim namedColumn.text.toList ∧ ¬ Untyped n.text ∧
    (namedColumn.classify.value.block .standard).run.value =
      .ok { lines := ["add_column :users, :größe, :string, limit: 80, null: false"] } := by
  obtain ⟨n, hn⟩ := exists_constrained "Users ".toList "\"Größe\"  CHAR ( ٠٨٠ )  ".toList
    (s := trim namedColumn.text.toList)
    (v := "ADD column \"Größe\"  CHAR ( ٠٨٠ )  not\u00a0NULL ;".toList)
    (w := "not\u00a0NULL ;".toList) (u := "NULL ;".toList) (e := " ;".toList)
    (by decide +kernel) (by decide +kernel) (by rintro _ ⟨⟩; decide) (by decide +kernel)
    (by decide +kernel) (by decide +kernel)
  obtain ⟨block, hb, h⟩ := constraint_kept .standard namedColumn n hn
  have hl : (namedColumn.classify.value.block .standard).run.value =
      .ok { lines := ["add_column :users, :größe, :string, limit: 80, null: false"] } := by
    decide +kernel
  obtain rfl := Except.ok.inj (hl.symm.trans hb)
  rcases h with h | ⟨line, hline, -, hu⟩
  · cases h.verbatim
  · cases hline
    exact ⟨n, hn, hu.1 (by decide +kernel), hl⟩

def bareColumn : Statement := ⟨1, "ALTER TABLE users ADD COLUMN nick NOT NULL", Nat.one_pos⟩

theorem bareColumn_unconstrained : ∃ n : Constrained,
    n.text = trim bareColumn.text.toList ∧
    ∃ block, (bareColumn.classify.value.block .standard).run.value = .ok block ∧
      ¬ block.Holds bareColumn.text ∧
      block.lines = ["add_column :users, :nick, :NOT"] ∧
      ∀ line ∈ block.lines, ¬ ", null: false".toList <:+ line.toList := by
  obtain ⟨n, hn⟩ := exists_constrained "users ".toList "nick ".toList
    (s := trim bareColumn.text.toList)
    (v := "ADD COLUMN nick NOT NULL".toList) (w := "NOT NULL".toList) (u := "NULL".toList)
    (e := [])
    (by decide +kernel) (by decide +kernel) (by rintro _ ⟨⟩; decide) (by decide +kernel)
    (by decide +kernel) (by decide +kernel)
  refine ⟨n, hn, { lines := ["add_column :users, :nick, :NOT"] }, by decide +kernel, ?_, rfl, ?_⟩
  · intro h
    cases h.verbatim
  · intro line hl
    rw [List.mem_singleton.1 hl]
    decide +kernel

end Statement

end SchemaPlan
