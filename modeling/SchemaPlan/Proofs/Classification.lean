import SchemaPlan.Operation
import SchemaPlan.Proofs.Grammar.TypeSpec

namespace SchemaPlan
open Text

namespace Grammar

def Identifier.normalized (i : Identifier) : String := .ofList (lower i.word.text)

namespace Reading

/-- Whether the parameters of a column type are numerals; no other form has parameters. -/
def Readable : Reading → Prop
  | addColumn _ _ _ _ _ _ type _ _ => type.Readable
  | _ => True

/-- The change that a reading stands for. -/
def change : Reading → Change
  | createTable _ table _ _ => .createTable table.normalized
  | dropTable _ table _ => .dropTable table.normalized
  | addColumn _ table _ _ column _ type clause _ =>
    .addColumn table.normalized column.normalized type.spec clause.nullable
  | dropColumn _ table _ _ column _ => .dropColumn table.normalized column.normalized
  | createIndex unique _ name _ _ table _ _ column _ _ =>
    .createIndex (.ofList name.word.text) table.normalized column.normalized unique
  | dropIndex _ name _ => .dropIndex (.ofList name.word.text) none
  | dropIndexOn _ name _ _ table _ => .dropIndex (.ofList name.word.text) (some table.normalized)

end Reading

theorem Word.stripChars_text (w : Word) : stripChars Form.quotationMarks w.text = w.text := by
  have hm : ∀ c ∈ w.text, Form.quotationMarks.contains c = false := by
    intro c hc
    by_contra hm
    have hw := w.word c hc
    rw [not_isWordChar_of_mark (by simpa using hm)] at hw
    cases hw
  have strip {s : List Char} (hs : ∀ c ∈ s, Form.quotationMarks.contains c = false) :
      s.dropWhile (fun c => Form.quotationMarks.contains c) = s :=
    Stops.dropWhile fun c hc => hs c (List.mem_of_head? hc)
  have hr : ∀ c ∈ w.text.reverse, Form.quotationMarks.contains c = false :=
    fun c hc => hm c (List.mem_reverse.1 hc)
  simp only [stripChars]
  rw [strip hm, strip hr, List.reverse_reverse]

theorem normalizeIdentifier_word (i : Identifier) :
    normalizeIdentifier i.word.text = i.normalized := by
  rw [normalizeIdentifier, i.word.stripChars_text, Identifier.normalized]

theorem Reading.change_form (r : Reading) (h : r.Readable) : r.form.change = .ok r.change := by
  cases r <;> simp only [form, Form.change, change, normalizeIdentifier_word, Option.map_some,
    Option.map_none]
  case addColumn type clause ending =>
    rw [parse_typeToken type h]
    rfl

theorem Reading.change_form_error (r : Reading) (h : ¬ r.Readable) :
    ∃ fault, r.form.change = .error fault := by
  cases r
  case addColumn type clause ending =>
    obtain ⟨fault, hf⟩ := parse_typeToken_error type h
    exact ⟨fault, by rw [form, Form.change, hf]; rfl⟩
  all_goals exact absurd trivial h

end Grammar

namespace Statement
open Grammar

variable {statement : Statement} {r : Reading}

theorem classify_readable (ht : r.text = trim statement.text.toList) (h : r.Readable) :
    statement.classify = pure ⟨statement, r.change⟩ := by
  rw [classify, ← ht, r.read]
  simp only [r.change_form h]

theorem classify_unreadable (ht : r.text = trim statement.text.toList) (h : ¬ r.Readable) :
    ∃ fault, statement.classify = ⟨⟨statement, .unclassified⟩,
      [⟨.warning, unreadableNotice statement.position r.form fault⟩]⟩ := by
  obtain ⟨fault, hf⟩ := r.change_form_error h
  refine ⟨fault, ?_⟩
  rw [classify, ← ht, r.read]
  simp only [hf]
  rfl

theorem classify_unread (h : ∀ r : Reading, r.text ≠ trim statement.text.toList) :
    statement.classify =
      ⟨⟨statement, .unclassified⟩, [⟨.info, unrecognizedNotice statement.position⟩]⟩ := by
  have hn : Form.read? (trim statement.text.toList) = none := by
    rw [Option.eq_none_iff_forall_ne_some]
    intro f hf
    obtain ⟨r, hr, -⟩ := read?_eq_some_iff.1 hf
    exact h r hr
  rw [classify, hn]
  rfl

theorem classify_value (statement : Statement) :
    (∃ r : Reading, r.text = trim statement.text.toList ∧ r.Readable ∧
      statement.classify.value = ⟨statement, r.change⟩) ∨
    (∀ r : Reading, r.text = trim statement.text.toList → ¬ r.Readable) ∧
      statement.classify.value = ⟨statement, .unclassified⟩ := by
  by_cases ht : ∃ r : Reading, r.text = trim statement.text.toList
  · obtain ⟨r, ht⟩ := ht
    by_cases hr : r.Readable
    · exact .inl ⟨r, ht, hr, by rw [classify_readable ht hr]; rfl⟩
    · refine .inr ⟨fun q hq hq' => ?_, ?_⟩
      · rw [Reading.text_inj (hq.trans ht.symm) (hq ▸ (trimmed_trim _).2)] at hq'
        exact hr hq'
      · obtain ⟨fault, hf⟩ := classify_unreadable ht hr
        rw [hf]
  · have hn : ∀ r : Reading, r.text ≠ trim statement.text.toList := fun r h => ht ⟨r, h⟩
    exact .inr ⟨fun r h => absurd h (hn r), by rw [classify_unread hn]⟩

theorem change_classify (statement : Statement) :
    statement.classify.value.change =
      ((Form.read? (trim statement.text.toList)).bind (·.change.toOption)).getD .unclassified := by
  rw [classify]
  cases Form.read? (trim statement.text.toList) with
  | none => rfl
  | some form =>
    simp only [Option.bind_some]
    cases form.change <;> rfl

theorem statement_classify (statement : Statement) :
    statement.classify.value.statement = statement := by
  rcases statement.classify_value with ⟨r, -, -, hv⟩ | ⟨-, hv⟩ <;> rw [hv]

end Statement

namespace Grammar

/-- A statement becomes a change of a kind exactly when its trimmed text has a readable reading of
that kind; no text has two readings; and without a readable one the statement is kept as it is. -/
theorem classify_iff_reading (statement : Statement) :
    statement.classify.value.statement = statement ∧
    (∀ r q : Reading, r.text = trim statement.text.toList → q.text = trim statement.text.toList →
      r = q) ∧
    ∀ change, statement.classify.value.change = change ↔
      (∃ r : Reading, r.text = trim statement.text.toList ∧ r.Readable ∧ r.change = change) ∨
      change = .unclassified ∧
        ∀ r : Reading, r.text = trim statement.text.toList → ¬ r.Readable := by
  have unique {r q : Reading} (hr : r.text = trim statement.text.toList)
      (hq : q.text = trim statement.text.toList) : r = q :=
    Reading.text_inj (hr.trans hq.symm) (hr ▸ (trimmed_trim _).2)
  rcases statement.classify_value with ⟨r, ht, hr, hv⟩ | ⟨hn, hv⟩
  · rw [hv]
    refine ⟨rfl, fun _ _ => unique, fun change => ⟨?_, ?_⟩⟩
    · rintro rfl
      exact .inl ⟨r, ht, hr, rfl⟩
    · rintro (⟨q, hq, -, rfl⟩ | ⟨-, hn⟩)
      · rw [unique hq ht]
      · exact absurd hr (hn r ht)
  · rw [hv]
    refine ⟨rfl, fun _ _ => unique, fun change => ⟨?_, ?_⟩⟩
    · rintro rfl
      exact .inr ⟨rfl, hn⟩
    · rintro (⟨q, hq, hr', -⟩ | ⟨rfl, -⟩)
      · exact absurd hr' (hn q hq)
      · rfl

/-- A column with quotation marks, digits of another script and a wide blank before `NULL`. -/
def quotedColumn : Statement :=
  ⟨1, "  alter TABLE `Users`\tADD column \"Größe\"  Decimal ( ١٠ , 2 )  not\u00a0NULL ; ",
    Nat.one_pos⟩

theorem quotedColumn_reading :
    ∃ r : Reading, r.text = trim quotedColumn.text.toList ∧ r.Readable ∧
      r.change = .addColumn "users" "größe" ⟨"Decimal", [10, 2]⟩ (some false) ∧
      ∀ q : Reading, q.text = trim quotedColumn.text.toList → q = r := by
  obtain ⟨-, unique, kinds⟩ := classify_iff_reading quotedColumn
  have hc := kinds (.addColumn "users" "größe" ⟨"Decimal", [10, 2]⟩ (some false))
  obtain ⟨r, ht, hr, hc⟩ := (hc.1 (by decide +kernel)).resolve_right (by simp)
  exact ⟨r, ht, hr, hc, fun q hq => unique q r hq ht⟩

end Grammar

end SchemaPlan
