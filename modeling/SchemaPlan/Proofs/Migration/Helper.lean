import SchemaPlan.Proofs.Rendering
import SchemaPlan.Proofs.Text.Lines

namespace SchemaPlan
open Text Grammar Numeral

theorem oneLine_escapeAll {s : List Char} (h : OneLine s) (c : Char) :
    OneLine (Ruby.escapeAll c s) := by
  refine OneLine.flatMap fun d hd => ?_
  have hn : d ≠ '\n' := fun hl => h (hl ▸ hd)
  split <;> simp [hn]

theorem oneLine_rubySymbol {name : String} (h : OneLine name.toList) :
    OneLine (rubySymbol name).toList := by
  have he : OneLine (Ruby.escapeSymbol name.toList) :=
    oneLine_escapeAll (oneLine_escapeAll (oneLine_escapeAll h _) _) _
  rw [rubySymbol, String.toList_ofList, Ruby.symbol]
  split
  · simp [h]
  · simp [he]

theorem oneLine_rubyLiteral {value : String} (h : OneLine value.toList) :
    OneLine (rubyLiteral value).toList := by
  have he : OneLine (Ruby.escapeLiteral value.toList) :=
    oneLine_escapeAll (oneLine_escapeAll h _) _
  rw [rubyLiteral, String.toList_ofList, Ruby.literal]
  simp [he]

theorem oneLine_decimal (n : Int) : OneLine (decimal n).toList := by
  have hd : OneLine (Nat.toDigits 10 n.natAbs) := fun h =>
    absurd (Nat.isDigit_of_mem_toDigits (by decide) (by decide) h) (by decide)
  rw [decimal, String.toList_ofList]
  split
  · simp [hd]
  · exact hd

theorem TargetType.oneLine_written {target : TargetType} (hn : OneLine target.name.text.toList)
    (ho : ∀ o ∈ target.options, OneLine o.1.text.toList) : OneLine target.written.toList := by
  rw [written, String.toList_intercalate]
  refine OneLine.intercalate (by decide) fun s hs => ?_
  rw [List.map_cons, List.mem_cons] at hs
  rcases hs with rfl | hs
  · exact oneLine_rubySymbol hn
  · simp only [List.map_map, List.mem_map] at hs
    obtain ⟨⟨slot, n⟩, hm, rfl⟩ := hs
    change OneLine (slot.text ++ ": " ++ decimal n).toList
    simp [ho _ hm, oneLine_decimal]

/-- No target and no slot of the mapping breaks a line. -/
def TypeMapping.OneLine (m : TypeMapping) : Prop :=
  ∀ r ∈ m.rules, Text.OneLine r.2.target.text.toList ∧
    ∀ slot ∈ r.2.slots, Text.OneLine slot.text.toList

theorem TypeMapping.standard_oneLine : standard.OneLine := by
  unfold TypeMapping.OneLine
  decide +kernel

theorem TypeMapping.OneLine.resolve {m : TypeMapping} (hm : m.OneLine) {spec : TypeSpec}
    (hb : Text.OneLine spec.base.toList) (hr : m.resolve spec = some target) :
    Text.OneLine target.written.toList := by
  rcases target?_cases hr with rfl | ⟨rule, hrule, rfl⟩
  · exact TargetType.oneLine_written (by rwa [Spelling.text_ofString]) (by simp)
  · obtain ⟨ht, hs⟩ := hm _ hrule
    exact TargetType.oneLine_written ht fun o ho => hs o.1 (List.of_mem_zip ho).1

def Change.names : Change → List String
  | .createTable table => [table]
  | .dropTable table => [table]
  | .addColumn table column type _ => [table, column, type.base]
  | .dropColumn table column => [table, column]
  | .createIndex name table column _ => [name, table, column]
  | .dropIndex name table => name :: table.toList
  | .unclassified => []

theorem Grammar.Word.oneLine (w : Word) : OneLine w.text := oneLine_of_word w.word

theorem Grammar.Identifier.oneLine_normalized (i : Identifier) : OneLine i.normalized.toList := by
  rw [normalized, String.toList_ofList]
  exact i.word.oneLine.lower

theorem Grammar.Reading.oneLine_names (r : Reading) :
    ∀ name ∈ r.change.names, OneLine name.toList := by
  cases r <;>
    simp [change, Change.names, TypeToken.spec, Identifier.oneLine_normalized, Word.oneLine]

theorem Statement.oneLine_names (statement : Statement) :
    ∀ name ∈ statement.classify.value.change.names, OneLine name.toList := by
  rcases statement.classify_value with ⟨r, -, -, hv⟩ | ⟨-, hv⟩
  · rw [hv]
    exact r.oneLine_names
  · rw [hv]
    exact fun name hn => absurd hn List.not_mem_nil

def helperWords : List String :=
  ["drop_table ", "add_column ", "remove_column ", "add_index ", "remove_index "]

/-- The blocks of helpers: the frame of a new table, or a line of its own. -/
inductive Block.IsHelper (block : Block) : Prop
  | table (symbol : String) (hl : block.lines = [s!"create_table {symbol} do |t|", "end"])
      (hv : block.verbatim = false) (ho : OneLine symbol.toList)
  | line (word arguments : String) (hl : block.lines = [word ++ arguments])
      (hv : block.verbatim = false) (hw : word ∈ helperWords) (ho : OneLine arguments.toList)

namespace Change

variable {name table column type : String}

theorem isHelper_createTableBlock (ht : OneLine (rubySymbol table).toList) :
    (createTableBlock table).IsHelper := .table _ rfl rfl ht

theorem isHelper_dropTableBlock (ht : OneLine (rubySymbol table).toList) :
    (dropTableBlock table).IsHelper := .line "drop_table " _ rfl rfl (by decide) ht

theorem isHelper_addColumnBlock (ht : OneLine (rubySymbol table).toList)
    (hc : OneLine (rubySymbol column).toList) (hy : OneLine type.toList) (nullable : Option Bool) :
    (addColumnBlock table column type nullable).IsHelper := by
  have hn : OneLine (if nullable = some false then ", null: false" else "").toList := by
    split <;> decide
  refine .line "add_column " (rubySymbol table ++ ", " ++ rubySymbol column ++ ", " ++ type ++
    if nullable = some false then ", null: false" else "") ?_ rfl (by decide) ?_
  · simp only [addColumnBlock, toString, String.append_assoc]
  · simp [ht, hc, hy, hn]

theorem isHelper_dropColumnBlock (ht : OneLine (rubySymbol table).toList)
    (hc : OneLine (rubySymbol column).toList) : (dropColumnBlock table column).IsHelper := by
  refine .line "remove_column " (rubySymbol table ++ ", " ++ rubySymbol column) ?_ rfl
    (by decide) ?_
  · simp only [dropColumnBlock, toString, String.append_assoc]
  · simp [ht, hc]

theorem isHelper_createIndexBlock (hn : OneLine (rubyLiteral name).toList)
    (ht : OneLine (rubySymbol table).toList) (hc : OneLine (rubySymbol column).toList)
    (unique : Bool) : (createIndexBlock name table column unique).IsHelper := by
  have hu : OneLine (if unique then ", unique: true" else "").toList := by
    split <;> decide
  refine .line "add_index " (rubySymbol table ++ ", " ++ rubySymbol column ++ ", name: " ++
    rubyLiteral name ++ if unique then ", unique: true" else "") ?_ rfl (by decide) ?_
  · simp only [createIndexBlock, toString, String.append_assoc]
  · simp [hn, ht, hc, hu]

theorem isHelper_dropIndexBlock {table : Option String} (hn : OneLine (rubyLiteral name).toList)
    (ht : ∀ t ∈ table, OneLine (rubySymbol t).toList) : (dropIndexBlock name table).IsHelper := by
  rw [dropIndexBlock]
  split
  · next t hf =>
    have ht := ht t (Option.filter_eq_some_iff.1 hf).1
    refine .line "remove_index " (rubySymbol t ++ ", name: " ++ rubyLiteral name) ?_ rfl
      (by decide) ?_
    · simp only [toString, String.append_assoc]
    · simp [hn, ht]
  · refine .line "remove_index " ("name: " ++ rubyLiteral name) ?_ rfl (by decide) ?_
    · rw [← String.append_assoc]
      rfl
    · simp [hn]

end Change

theorem Operation.rendered_cases {operation : Operation} (hm : mapping.OneLine)
    (hn : ∀ name ∈ operation.change.names, OneLine name.toList) :
    operation.rendered mapping = operation.statement.verbatimBlock ∨
      (operation.rendered mapping).IsHelper := by
  obtain ⟨statement, change⟩ := operation
  have hs : ∀ name ∈ change.names, OneLine (rubySymbol name).toList := fun name h =>
    oneLine_rubySymbol (hn name h)
  have hl : ∀ name ∈ change.names, OneLine (rubyLiteral name).toList := fun name h =>
    oneLine_rubyLiteral (hn name h)
  cases change with
  | unclassified => exact .inl rfl
  | createTable table =>
    exact .inr (Change.isHelper_createTableBlock (hs table (by simp [Change.names])))
  | dropTable table =>
    exact .inr (Change.isHelper_dropTableBlock (hs table (by simp [Change.names])))
  | addColumn table column type nullable =>
    simp only [Change.names, List.forall_mem_cons] at hn hs
    cases hr : mapping.resolve type with
    | none => exact .inl (by simp only [rendered, hr])
    | some target =>
      have ht := hm.resolve hn.2.2.1 hr
      simp only [rendered, hr]
      exact .inr (Change.isHelper_addColumnBlock hs.1 hs.2.1 ht nullable)
  | dropColumn table column =>
    simp only [Change.names, List.forall_mem_cons] at hs
    exact .inr (Change.isHelper_dropColumnBlock hs.1 hs.2.1)
  | createIndex name table column unique =>
    simp only [Change.names, List.forall_mem_cons] at hs hl
    exact .inr (Change.isHelper_createIndexBlock hl.1 hs.2.1 hs.2.2.1 unique)
  | dropIndex name table =>
    simp only [Change.names, List.forall_mem_cons, Option.mem_toList] at hs hl
    exact .inr (Change.isHelper_dropIndexBlock hl.1 hs.2)

end SchemaPlan
