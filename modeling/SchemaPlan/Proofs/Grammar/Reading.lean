import SchemaPlan.Proofs.Grammar.Piece

namespace SchemaPlan.Grammar
open Form Text

def indexKeywords (unique : Bool) : List String :=
  if unique then ["create", "unique", "index"] else ["create", "index"]

/-- The pieces of a statement in one of the known forms, in the order of the text. -/
inductive Reading
  | createTable (lead : Phrase ["create", "table"]) (table : Identifier) (blanks : Blanks)
      (rest : List Char)
  | dropTable (lead : Phrase ["drop", "table"]) (table : Identifier) (ending : Ending)
  | addColumn (lead : Phrase ["alter", "table"]) (table : Identifier) (gap : Gap)
      (verb : Phrase ["add", "column"]) (column : Identifier) (between : Gap) (type : TypeToken)
      (clause : NullClause) (ending : Ending)
  | dropColumn (lead : Phrase ["alter", "table"]) (table : Identifier) (gap : Gap)
      (verb : Phrase ["drop", "column"]) (column : Identifier) (ending : Ending)
  | createIndex (unique : Bool) (lead : Phrase (indexKeywords unique)) (name : Identifier)
      (gap : Gap) (on : Phrase ["on"]) (table : Identifier) (before inside : Blanks)
      (column : Identifier) (behind : Blanks) (ending : Ending)
  | dropIndex (lead : Phrase ["drop", "index"]) (name : Identifier) (ending : Ending)
  | dropIndexOn (lead : Phrase ["drop", "index"]) (name : Identifier) (gap : Gap)
      (on : Phrase ["on"]) (table : Identifier) (ending : Ending)

namespace Reading

def text : Reading → List Char
  | createTable lead table blanks rest =>
    lead.text ++ (table.text ++ (blanks.text ++ '(' :: rest))
  | dropTable lead table ending => lead.text ++ (table.text ++ ending.text)
  | addColumn lead table gap verb column between type clause ending =>
    lead.text ++ (table.text ++ (gap.text ++ (verb.text ++ (column.text ++ (between.text ++
      (type.text ++ (clause.text ++ ending.text)))))))
  | dropColumn lead table gap verb column ending =>
    lead.text ++ (table.text ++ (gap.text ++ (verb.text ++ (column.text ++ ending.text))))
  | createIndex _ lead name gap on table before inside column behind ending =>
    lead.text ++ (name.text ++ (gap.text ++ (on.text ++ (table.text ++ (before.text ++ '(' ::
      (inside.text ++ (column.text ++ (behind.text ++ ')' :: ending.text))))))))
  | dropIndex lead name ending => lead.text ++ (name.text ++ ending.text)
  | dropIndexOn lead name gap on table ending =>
    lead.text ++ (name.text ++ (gap.text ++ (on.text ++ (table.text ++ ending.text))))

def form : Reading → Form
  | createTable _ table _ _ => .createTable table.word.text
  | dropTable _ table _ => .dropTable table.word.text
  | addColumn _ table _ _ column _ type clause _ =>
    .addColumn table.word.text column.word.text type.text clause.nullable
  | dropColumn _ table _ _ column _ => .dropColumn table.word.text column.word.text
  | createIndex unique _ name _ _ table _ _ column _ _ =>
    .createIndex unique name.word.text table.word.text column.word.text
  | dropIndex _ name _ => .dropIndex name.word.text none
  | dropIndexOn _ name _ _ table _ => .dropIndex name.word.text (some table.word.text)

end Reading

theorem Identifier.stops (i : Identifier) (s : List Char) : Stops isBlank (i.text ++ s) := by
  obtain ⟨⟨text, rfl | ⟨c, hc, rfl⟩⟩, word, closing⟩ := i
  · rw [Identifier.text, List.nil_append, List.append_assoc]
    exact word.stops (fun _ => isBlank_of_isWordChar) _
  · refine stops_cons_iff.2 ?_
    by_contra hb
    have hn := isNameChar_of_isBlank (by simpa using hb)
    simp [isNameChar, hc] at hn

theorem Gap.stops_name (g : Gap) (s : List Char) : Stops isNameChar (g.text ++ s) :=
  g.stops (fun _ => isNameChar_of_isBlank) s

theorem Blanks.stops_name (b : Blanks) (hc : isNameChar c = false) (s : List Char) :
    Stops isNameChar (b.text ++ c :: s) :=
  b.stops (fun _ => isNameChar_of_isBlank) (stops_cons_iff.2 hc)

theorem NullClause.stops_word (n : NullClause) (e : Ending) :
    Stops isWordChar (n.text ++ e.text) := by
  cases n with
  | unstated => exact Stops.word e.stops_name
  | null gap word =>
    rw [NullClause.text, List.append_assoc]
    exact Stops.word (gap.stops_name _)
  | notNull gap negation between word =>
    rw [NullClause.text, List.append_assoc]
    exact Stops.word (gap.stops_name _)

theorem Keyword.stops_parenthesis (hk : isKeyword k = true) (w : Keyword k) (s : List Char) :
    Stops (· = '(') (w.text ++ s) := by
  refine (w.toWord hk).stops (fun c hc => ?_) s
  rw [decide_eq_false_iff_not]
  rintro rfl
  exact absurd hc (by decide)

theorem NullClause.stops_parenthesis (n : NullClause) (e : Ending) :
    Stops (· = '(') (skipBlanks (n.text ++ e.text)) := by
  cases n with
  | unstated =>
    rw [NullClause.text, List.nil_append, e.skipBlanks_text]
    exact e.stops_rest (by decide)
  | null gap word =>
    rw [NullClause.text, List.append_assoc,
      ← eq_skipBlanks_of_afterGap? (gap.read (word.stops (by decide) e.text))]
    exact word.stops_parenthesis (by decide) _
  | notNull gap negation between word =>
    rw [NullClause.text, List.append_assoc, List.append_assoc,
      ← eq_skipBlanks_of_afterGap? (gap.read (negation.stops (by decide) _))]
    exact negation.stops_parenthesis (by decide) _

theorem TypeToken.stops (t : TypeToken) (s : List Char) : Stops isBlank (t.text ++ s) := by
  rw [TypeToken.text, List.append_assoc]
  exact t.name.stops (fun _ => isBlank_of_isWordChar) _

namespace Reading

theorem createTable_read (lead : Phrase ["create", "table"]) (table : Identifier) (blanks : Blanks)
    (rest : List Char) :
    createTable? (createTable lead table blanks rest).text =
      some (.createTable table.word.text) := by
  have hs : Stops isBlank ('(' :: rest) := stops_cons_iff.2 (by decide)
  have hn := blanks.stops_name (by decide : isNameChar '(' = false) rest
  simp only [text, createTable?, lead.read (by decide) (table.stops _), table.read hn,
    blanks.read hs, after?, if_true, Option.bind_eq_bind, Option.bind_some, Option.pure_def]

theorem dropTable_read (lead : Phrase ["drop", "table"]) (table : Identifier) (ending : Ending) :
    dropTable? (dropTable lead table ending).text = some (.dropTable table.word.text) := by
  simp only [text, dropTable?, lead.read (by decide) (table.stops _),
    table.read ending.stops_name, ending.read, guard, if_true, Option.bind_eq_bind,
    Option.bind_some, Option.pure_def]

theorem addColumn_read (lead : Phrase ["alter", "table"]) (table : Identifier) (gap : Gap)
    (verb : Phrase ["add", "column"]) (column : Identifier) (between : Gap) (type : TypeToken)
    (clause : NullClause) (ending : Ending) :
    addColumn? (addColumn lead table gap verb column between type clause ending).text =
      some (.addColumn table.word.text column.word.text type.text clause.nullable) := by
  have ht := type.read (clause.stops_word ending) fun _ => clause.stops_parenthesis ending
  simp only [text, addColumn?, lead.read (by decide) (table.stops _),
    table.read (gap.stops_name _), gap.read (verb.stops (by decide) (column.stops _)),
    verb.read (by decide) (column.stops _), column.read (between.stops_name _),
    between.read (type.stops _), ht, clause.read, ending.read, guard, if_true,
    Option.bind_eq_bind, Option.bind_some, Option.pure_def]

theorem dropColumn_read (lead : Phrase ["alter", "table"]) (table : Identifier) (gap : Gap)
    (verb : Phrase ["drop", "column"]) (column : Identifier) (ending : Ending) :
    dropColumn? (dropColumn lead table gap verb column ending).text =
      some (.dropColumn table.word.text column.word.text) := by
  simp only [text, dropColumn?, lead.read (by decide) (table.stops _),
    table.read (gap.stops_name _), gap.read (verb.stops (by decide) (column.stops _)),
    verb.read (by decide) (column.stops _), column.read ending.stops_name, ending.read, guard,
    if_true, Option.bind_eq_bind, Option.bind_some, Option.pure_def]

theorem createIndex_read (unique : Bool) (lead : Phrase (indexKeywords unique))
    (name : Identifier) (gap : Gap) (on : Phrase ["on"]) (table : Identifier)
    (before inside : Blanks) (column : Identifier) (behind : Blanks) (ending : Ending) :
    createIndex? unique
        (createIndex unique lead name gap on table before inside column behind ending).text =
      some (.createIndex unique name.word.text table.word.text column.word.text) := by
  have hk : (indexKeywords unique).all isKeyword = true := by cases unique <;> decide
  have hl {s : List Char} (hs : Stops isBlank s) :
      afterKeywords? (if unique then ["create", "unique", "index"] else ["create", "index"])
        (lead.text ++ s) = some s := lead.read hk hs
  have ho (u : List Char) := before.stops_name (by decide : isNameChar '(' = false) u
  have hc (u : List Char) := behind.stops_name (by decide : isNameChar ')' = false) u
  have hb (u : List Char) : Stops isBlank ('(' :: u) := stops_cons_iff.2 (by decide)
  have he (u : List Char) : Stops isBlank (')' :: u) := stops_cons_iff.2 (by decide)
  simp only [text, createIndex?, hl (name.stops _), name.read (gap.stops_name _),
    gap.read (on.stops (by decide) (table.stops _)), on.read (by decide) (table.stops _),
    table.read (ho _), before.read (hb _), inside.read (column.stops _), column.read (hc _),
    behind.read (he _), ending.read, after?, guard, if_true, Option.bind_eq_bind,
    Option.bind_some, Option.pure_def]

theorem dropIndex_read (lead : Phrase ["drop", "index"]) (name : Identifier) (ending : Ending) :
    dropIndex? (dropIndex lead name ending).text = some (.dropIndex name.word.text none) := by
  have hn : (afterGap? ending.text).bind (afterKeywords? ["on"]) = none := by
    rw [Option.bind_eq_none_iff]
    intro body hb
    apply afterKeywords?_stops (by decide)
    rw [eq_skipBlanks_of_afterGap? hb, ending.skipBlanks_text]
    exact ending.stops_rest (by decide)
  simp only [text, dropIndex?, lead.read (by decide) (name.stops _),
    name.read ending.stops_name, hn, ending.read, guard, if_true, Option.bind_eq_bind,
    Option.bind_some, Option.bind_none, Option.pure_def]

theorem dropIndexOn_read (lead : Phrase ["drop", "index"]) (name : Identifier) (gap : Gap)
    (on : Phrase ["on"]) (table : Identifier) (ending : Ending) :
    dropIndex? (dropIndexOn lead name gap on table ending).text =
      some (.dropIndex name.word.text (some table.word.text)) := by
  simp only [text, dropIndex?, lead.read (by decide) (name.stops _),
    name.read (gap.stops_name _), gap.read (on.stops (by decide) (table.stops _)),
    on.read (by decide) (table.stops _), table.read ending.stops_name, ending.read, guard, if_true,
    Option.bind_eq_bind, Option.bind_some, Option.pure_def]

end Reading

section
variable {ks : List String} {p : Phrase ks} {s : List Char} (hk : ks.all isKeyword = true)
  (hs : Stops isBlank s)
include hk hs

theorem createTable?_apart (h : phrasesApart ["create", "table"] ks = true) :
    createTable? (p.text ++ s) = none := by
  rw [createTable?, p.read_apart (by decide) hk h hs]
  rfl

theorem dropTable?_apart (h : phrasesApart ["drop", "table"] ks = true) :
    dropTable? (p.text ++ s) = none := by
  rw [dropTable?, p.read_apart (by decide) hk h hs]
  rfl

theorem addColumn?_apart (h : phrasesApart ["alter", "table"] ks = true) :
    addColumn? (p.text ++ s) = none := by
  rw [addColumn?, p.read_apart (by decide) hk h hs]
  rfl

theorem dropColumn?_apart (h : phrasesApart ["alter", "table"] ks = true) :
    dropColumn? (p.text ++ s) = none := by
  rw [dropColumn?, p.read_apart (by decide) hk h hs]
  rfl

theorem createIndex?_apart (unique : Bool) (h : phrasesApart (indexKeywords unique) ks = true) :
    createIndex? unique (p.text ++ s) = none := by
  have hn : afterKeywords? (if unique then ["create", "unique", "index"] else ["create", "index"])
      (p.text ++ s) = none := p.read_apart (by cases unique <;> decide) hk h hs
  rw [createIndex?, hn]
  rfl

end

theorem addColumn?_drop (lead : Phrase ["alter", "table"]) (table : Identifier) (gap : Gap)
    (verb : Phrase ["drop", "column"]) (column : Identifier) (ending : Ending) :
    addColumn? (Reading.dropColumn lead table gap verb column ending).text = none := by
  have hv : afterKeywords? ["add", "column"] (verb.text ++ (column.text ++ ending.text)) = none :=
    verb.read_apart (by decide) (by decide) (by decide) (column.stops _)
  simp only [Reading.text, addColumn?, lead.read (by decide) (table.stops _),
    table.read (gap.stops_name _), gap.read (verb.stops (by decide) (column.stops _)), hv,
    Option.bind_eq_bind, Option.bind_some, Option.bind_none]

theorem read?_eq (s : List Char) :
    Form.read? s = ((createTable? s).or <| (dropTable? s).or <| (addColumn? s).or <|
      (dropColumn? s).or <| (createIndex? true s).or <|
      (createIndex? false s).or (dropIndex? s)) := by
  have hc (reader : List Char → Option Form) (more : List (List Char → Option Form)) :
      (reader :: more).findSome? (· s) = (reader s).or (more.findSome? (· s)) := by
    rw [List.findSome?_cons]
    cases reader s <;> rfl
  simp only [Form.read?, readers, hc, List.findSome?_nil, Option.or_none]

theorem read?_dropIndex (lead : Phrase ["drop", "index"]) (hs : Stops isBlank s) :
    Form.read? (lead.text ++ s) = dropIndex? (lead.text ++ s) := by
  have h₁ := createTable?_apart (p := lead) (by decide) hs (by decide)
  have h₂ := dropTable?_apart (p := lead) (by decide) hs (by decide)
  have h₃ := addColumn?_apart (p := lead) (by decide) hs (by decide)
  have h₄ := dropColumn?_apart (p := lead) (by decide) hs (by decide)
  have h₅ := createIndex?_apart (p := lead) (by decide) hs true (by decide)
  have h₆ := createIndex?_apart (p := lead) (by decide) hs false (by decide)
  simp only [read?_eq, h₁, h₂, h₃, h₄, h₅, h₆, Option.none_or]

/-- Every reading is read, whatever readers stand before the one of its form. -/
theorem Reading.read (r : Reading) : Form.read? r.text = some r.form := by
  cases r with
  | createTable lead table blanks rest => rw [read?_eq, createTable_read, Option.some_or, form]
  | dropTable lead table ending =>
    have hs := table.stops ending.text
    have h₁ := createTable?_apart (p := lead) (by decide) hs (by decide)
    rw [read?_eq, dropTable_read, text, h₁, Option.none_or, Option.some_or, form]
  | addColumn lead table gap verb column between type clause ending =>
    have hs := table.stops (gap.text ++ (verb.text ++ (column.text ++ (between.text ++
      (type.text ++ (clause.text ++ ending.text))))))
    have h₁ := createTable?_apart (p := lead) (by decide) hs (by decide)
    have h₂ := dropTable?_apart (p := lead) (by decide) hs (by decide)
    rw [read?_eq, addColumn_read, text, h₁, h₂]
    simp only [Option.none_or, Option.some_or, form]
  | dropColumn lead table gap verb column ending =>
    have hs := table.stops (gap.text ++ (verb.text ++ (column.text ++ ending.text)))
    have h₁ := createTable?_apart (p := lead) (by decide) hs (by decide)
    have h₂ := dropTable?_apart (p := lead) (by decide) hs (by decide)
    rw [read?_eq, addColumn?_drop, dropColumn_read, text, h₁, h₂]
    simp only [Option.none_or, Option.some_or, form]
  | createIndex unique lead name gap on table before inside column behind ending =>
    have hs := name.stops (gap.text ++ (on.text ++ (table.text ++ (before.text ++ '(' ::
      (inside.text ++ (column.text ++ (behind.text ++ ')' :: ending.text)))))))
    have hk : (indexKeywords unique).all isKeyword = true := by cases unique <;> decide
    have h₁ := createTable?_apart (p := lead) hk hs (by cases unique <;> decide)
    have h₂ := dropTable?_apart (p := lead) hk hs (by cases unique <;> decide)
    have h₃ := addColumn?_apart (p := lead) hk hs (by cases unique <;> decide)
    have h₄ := dropColumn?_apart (p := lead) hk hs (by cases unique <;> decide)
    have hr := createIndex_read unique lead name gap on table before inside column behind ending
    rw [text] at hr ⊢
    rw [read?_eq, h₁, h₂, h₃, h₄]
    cases unique with
    | true => simp only [hr, Option.none_or, Option.some_or, form]
    | false =>
      -- The reader of unique indexes comes first and stops at the second keyword.
      rw [createIndex?_apart (p := lead) hk hs true (by decide)]
      simp only [hr, Option.none_or, Option.some_or, form]
  | dropIndex lead name ending =>
    exact (read?_dropIndex lead (name.stops _)).trans (dropIndex_read lead name ending)
  | dropIndexOn lead name gap on table ending =>
    exact (read?_dropIndex lead (name.stops _)).trans
      (dropIndexOn_read lead name gap on table ending)

end SchemaPlan.Grammar
