import SchemaPlan.Proofs.Migration.Column

namespace SchemaPlan
open Text Grammar Numeral

/-- The name is a word, of which nothing was lost. -/
def Spelling.IsWord (s : Spelling) : Prop :=
  s.flaw = none ∧ s.text.toList ≠ [] ∧ s.text.toList.all isWordChar = true

/-- Targets and slots are words. -/
def TypeMapping.Wordy (m : TypeMapping) : Prop :=
  ∀ r ∈ m.rules, r.2.target.IsWord ∧ ∀ slot ∈ r.2.slots, slot.IsWord

theorem TypeMapping.standard_wordy : standard.Wordy := by
  unfold TypeMapping.Wordy Spelling.IsWord
  decide +kernel

structure TargetType.Plain (target : TargetType) : Prop where
  flawless : target.name.flaw = none
  oneLine : Text.OneLine target.name.text.toList
  slots : ∀ o ∈ target.options, o.1.IsWord

theorem TypeMapping.Wordy.resolve {m : TypeMapping} (hm : m.Wordy) {spec : TypeSpec}
    (hb : Text.OneLine spec.base.toList) (hr : m.resolve spec = some target) : target.Plain := by
  rcases target?_cases hr with rfl | ⟨rule, hrule, rfl⟩
  · exact ⟨Spelling.flaw_ofString _, by rwa [Spelling.text_ofString], by simp⟩
  · obtain ⟨⟨hf, -, hw⟩, hs⟩ := hm _ hrule
    exact ⟨hf, oneLine_of_word (List.all_eq_true.1 hw), fun o ho =>
      hs o.1 (List.of_mem_zip ho).1⟩

/-- What a helper carries out, with the migration type of a column for its type. -/
inductive Helper
  | createTable (table : String)
  | dropTable (table : String)
  | addColumn (table column : String) (target : TargetType) (constrained : Bool)
  | dropColumn (table column : String)
  | createIndex (name table column : String) (unique : Bool)
  | dropIndex (name : String) (table : Option String)
  deriving DecidableEq

/-- The helper for a change; what is run as it is has none. -/
def Change.helper? (mapping : TypeMapping) : Change → Option Helper
  | createTable table => some (.createTable table)
  | dropTable table => some (.dropTable table)
  | addColumn table column type nullable =>
    (mapping.resolve type).map fun target =>
      .addColumn table column target (decide (nullable = some false))
  | dropColumn table column => some (.dropColumn table column)
  | createIndex name table column unique => some (.createIndex name table column unique)
  | dropIndex name table => some (.dropIndex name table)
  | unclassified => none

namespace Helper

def word : Helper → String
  | createTable .. => "create_table "
  | dropTable .. => "drop_table "
  | addColumn .. => "add_column "
  | dropColumn .. => "remove_column "
  | createIndex .. => "add_index "
  | dropIndex .. => "remove_index "

def flag (text : String) (on : Bool) : List Char := if on then text.toList else []

def constraint : Bool → List Char := flag ", null: false"

def beforeName : Option String → String
  | none => "name: "
  | some table => rubySymbol table ++ ", name: "

def arguments : Helper → List Char
  | createTable table => Ruby.symbol table.toList ++ " do |t|".toList
  | dropTable table => Ruby.symbol table.toList ++ []
  | addColumn table column target constrained =>
    Ruby.symbol table.toList ++ (", ".toList ++ (Ruby.symbol column.toList ++ (", ".toList ++
      (Ruby.symbol target.name.text.toList ++
        (target.shownOptions.flatMap optionText ++ constraint constrained)))))
  | dropColumn table column =>
    Ruby.symbol table.toList ++ (", ".toList ++ (Ruby.symbol column.toList ++ []))
  | createIndex name table column unique =>
    Ruby.symbol table.toList ++ (", ".toList ++ (Ruby.symbol column.toList ++ (", name: ".toList ++
      (Ruby.literal name.toList ++ flag ", unique: true" unique))))
  | dropIndex name table => (beforeName table).toList ++ (Ruby.literal name.toList ++ [])

def closing : Helper → List (List Char)
  | createTable .. => ["end".toList]
  | _ => []

def lines (helper : Helper) : List (List Char) :=
  (helper.word.toList ++ helper.arguments) :: helper.closing

/-- What is named is read back from the lines: symbols keep to one line, and no table is empty. -/
def IsPlain : Helper → Prop
  | createTable table => OneLine table.toList
  | dropTable table => OneLine table.toList
  | addColumn table column target _ =>
    OneLine table.toList ∧ OneLine column.toList ∧ target.Plain
  | dropColumn table column => OneLine table.toList ∧ OneLine column.toList
  | createIndex _ table column _ => OneLine table.toList ∧ OneLine column.toList
  | dropIndex _ none => True
  | dropIndex _ (some table) => OneLine table.toList ∧ table ≠ ""

end Helper

theorem Helper.toList_flag (text : String) (on : Bool) :
    (if on = true then text else "").toList = flag text on := by
  cases on <;> rfl

theorem Operation.lines_rendered {operation : Operation}
    (h : operation.change.helper? mapping = some helper) (hp : helper.IsPlain) :
    (operation.rendered mapping).lines.map String.toList = helper.lines := by
  obtain ⟨statement, change⟩ := operation
  cases change with
  | unclassified => cases h
  | addColumn table column type nullable =>
    rw [Change.helper?, Option.map_eq_some_iff] at h
    obtain ⟨target, hr, rfl⟩ := h
    rw [Operation.rendered_addColumn rfl, hr]
    simp only [Helper.lines, Helper.word, Helper.arguments, Helper.closing, Helper.constraint,
      Helper.flag, List.map_cons, List.map_nil, toList_columnLine, nullText, decide_eq_true_eq]
  | dropIndex name table =>
    cases h
    cases table with
    | none =>
      have hs : "remove_index name: " = "remove_index " ++ "name: " := rfl
      simp only [rendered, Change.dropIndexBlock, Helper.lines, Helper.word, Helper.arguments,
        Helper.beforeName, Helper.closing, rubyLiteral, List.map_cons, List.map_nil, toString, hs,
        String.toList_append, String.toList_ofList, List.append_assoc, List.append_nil,
        Option.filter_none]
    | some table =>
      have ht : (some table).filter (· ≠ "") = some table := if_pos (decide_eq_true hp.2)
      simp only [rendered, Change.dropIndexBlock, Helper.lines, Helper.word, Helper.arguments,
        Helper.beforeName, Helper.closing, rubySymbol, rubyLiteral, List.map_cons, List.map_nil,
        toString, ht, String.toList_append, String.toList_ofList, List.append_assoc,
        List.append_nil]
  | _ =>
    cases h
    simp only [rendered, Change.createTableBlock, Change.dropTableBlock, Change.dropColumnBlock,
      Change.createIndexBlock, Helper.lines, Helper.word, Helper.arguments, Helper.closing,
      Helper.toList_flag, rubySymbol, rubyLiteral, List.map_cons, List.map_nil, toString,
      String.toList_append, String.toList_ofList, List.append_assoc, List.append_nil]

namespace Helper

variable {first second : Helper}

def words : List String := "create_table " :: helperWords

theorem word_mem_words (helper : Helper) : helper.word ∈ words := by
  cases helper <;> simp [word, words, helperWords]

theorem words_apart : ∀ v ∈ words, ∀ w ∈ words, v.toList <+: w.toList → v = w := by
  decide

theorem word_eq_of_lines (h : first.lines = second.lines) :
    first.word = second.word ∧ first.arguments = second.arguments := by
  have hl := (List.cons.inj h).1
  have hw : first.word = second.word := by
    have hs : second.word.toList <+: first.word.toList ++ first.arguments :=
      hl ▸ List.prefix_append _ _
    rcases List.prefix_or_prefix_of_prefix (List.prefix_append _ _) hs with hp | hp
    · exact words_apart _ first.word_mem_words _ second.word_mem_words hp
    · exact (words_apart _ second.word_mem_words _ first.word_mem_words hp).symm
  refine ⟨hw, ?_⟩
  rw [hw] at hl
  exact List.append_cancel_left hl

theorem stops_options (hp : p ',' = false) (options : List (String × String))
    (constrained : Bool) : Stops p (options.flatMap optionText ++ constraint constrained) := by
  cases options with
  | nil =>
    cases constrained with
    | false => exact stops_nil
    | true => exact stops_cons_iff.2 hp
  | cons option options =>
    rw [List.flatMap_cons, optionText, List.append_assoc]
    exact stops_cons_iff.2 hp

theorem flag_inj {text : String} (ht : text.toList ≠ []) {b c : Bool}
    (h : flag text b = flag text c) : b = c := by
  cases b <;> cases c
  case false.false => rfl
  case false.true => exact absurd h.symm ht
  case true.false => exact absurd h ht
  case true.true => rfl

def shown (o : Spelling × Int) : String × String := (o.1.text, decimal o.2)

theorem optionText_append (o : Spelling × Int) (s : List Char) :
    optionText (shown o) ++ s =
      ", ".toList ++ (o.1.text.toList ++ (": ".toList ++ ((decimal o.2).toList ++ s))) := by
  simp only [optionText, shown, List.append_assoc]

theorem optionText_ne_constraint {o : Spelling × Int} (ho : o.1.IsWord) (constrained : Bool) :
    optionText (shown o) ++ s ≠ constraint constrained := by
  intro h
  rw [optionText_append] at h
  cases constrained with
  | false => cases h
  | true =>
    have hc : constraint true = ", ".toList ++ ("null".toList ++ (": ".toList ++ "false".toList)) :=
      rfl
    rw [hc, List.append_cancel_left_eq] at h
    obtain ⟨-, h⟩ := run_append_inj h (List.all_eq_true.1 ho.2.2)
      (List.all_eq_true.1 (by decide)) (stops_cons_iff.2 (by decide))
      (stops_cons_iff.2 (by decide))
    rw [List.append_cancel_left_eq] at h
    obtain ⟨c, digits, hd⟩ := List.exists_cons_of_ne_nil (decimal_ne_nil o.2)
    have hc : isDecimalChar c = true := isDecimalChar_of_mem_decimal (hd ▸ List.mem_cons_self)
    rw [hd] at h
    rw [(List.cons.inj h).1] at hc
    exact absurd hc (by decide)

theorem options_append_inj {os qs : List (Spelling × Int)} {b c : Bool}
    (ho : ∀ o ∈ os, o.1.IsWord) (hq : ∀ q ∈ qs, q.1.IsWord)
    (h : (os.map shown).flatMap optionText ++ constraint b =
      (qs.map shown).flatMap optionText ++ constraint c) : os = qs ∧ b = c := by
  induction os generalizing qs with
  | nil =>
    cases qs with
    | nil => exact ⟨rfl, flag_inj (by simp) h⟩
    | cons q qs =>
      rw [List.map_cons, List.flatMap_cons, List.append_assoc] at h
      exact absurd h.symm (optionText_ne_constraint (hq q (by simp)) b)
  | cons o os ih =>
    obtain ⟨hw, ho⟩ := List.forall_mem_cons.1 ho
    cases qs with
    | nil =>
      rw [List.map_cons, List.flatMap_cons, List.append_assoc] at h
      exact absurd h (optionText_ne_constraint hw c)
    | cons q qs =>
      obtain ⟨hv, hq⟩ := List.forall_mem_cons.1 hq
      rw [List.map_cons, List.flatMap_cons, List.append_assoc, List.map_cons, List.flatMap_cons,
        List.append_assoc, optionText_append, optionText_append, List.append_cancel_left_eq] at h
      obtain ⟨hs, h⟩ := run_append_inj h (List.all_eq_true.1 hw.2.2) (List.all_eq_true.1 hv.2.2)
        (stops_cons_iff.2 (by decide)) (stops_cons_iff.2 (by decide))
      rw [List.append_cancel_left_eq] at h
      obtain ⟨hn, h⟩ := decimal_append_inj (stops_options (by decide) _ _)
        (stops_options (by decide) _ _) h
      obtain ⟨rfl, hb⟩ := ih ho hq h
      have ho : o = q :=
        Prod.ext (Spelling.eq_of_text hw.1 hv.1 (String.toList_injective hs)) hn
      exact ⟨by rw [ho], hb⟩

theorem stops_comma {text : String} (h : text.toList = ',' :: rest) (s : List Char) :
    Stops isWordChar (text.toList ++ s) := by
  rw [h]
  exact stops_cons_iff.2 (by decide)

theorem toList_beforeName (table : String) :
    (beforeName (some table)).toList = Ruby.symbol table.toList ++ ", name: ".toList := by
  rw [beforeName, String.toList_append, rubySymbol, String.toList_ofList]

theorem beforeName_append_ne (table : String) (s t : List Char) :
    (beforeName (some table)).toList ++ s ≠ (beforeName none).toList ++ t := by
  intro h
  rw [toList_beforeName, List.append_assoc, Ruby.symbol] at h
  split at h <;> cases h

theorem beforeName_append_inj {table table' : Option String}
    (hf : ∀ t ∈ table, OneLine t.toList) (hs : ∀ t ∈ table', OneLine t.toList)
    (h : (beforeName table).toList ++ s = (beforeName table').toList ++ t) :
    table = table' ∧ s = t := by
  cases table with
  | none =>
    cases table' with
    | none => exact ⟨rfl, List.append_cancel_left h⟩
    | some table' => exact absurd h.symm (beforeName_append_ne _ _ _)
  | some table =>
    cases table' with
    | none => exact absurd h (beforeName_append_ne _ _ _)
    | some table' =>
      rw [toList_beforeName, toList_beforeName, List.append_assoc, List.append_assoc] at h
      obtain ⟨ht, h⟩ := Ruby.symbol_append_inj (hf table rfl) (hs table' rfl) (stops_comma rfl _)
        (stops_comma rfl _) h
      exact ⟨congrArg some (String.toList_injective ht), List.append_cancel_left h⟩

theorem oneLine_table {name : String} {table : Option String} (h : IsPlain (.dropIndex name table)) :
    ∀ t ∈ table, OneLine t.toList := by
  rintro t rfl
  exact h.1

theorem lines_inj (hf : first.IsPlain) (hs : second.IsPlain) (h : first.lines = second.lines) :
    first = second := by
  obtain ⟨hw, ha⟩ := word_eq_of_lines h
  -- Equal words leave helpers of one kind, whose arguments are compared from the left.
  cases first <;> cases second <;> simp only [word, String.reduceEq] at hw
  case createTable.createTable table table' =>
    have hd : Stops isWordChar " do |t|".toList := stops_cons_iff.2 (by decide)
    obtain ⟨ht, -⟩ := Ruby.symbol_append_inj hf hs hd hd ha
    rw [String.toList_injective ht]
  case dropTable.dropTable table table' =>
    obtain ⟨ht, -⟩ := Ruby.symbol_append_inj hf hs stops_nil stops_nil ha
    rw [String.toList_injective ht]
  case addColumn.addColumn table column target constrained table' column' target' constrained' =>
    obtain ⟨hft, hfc, hfy⟩ := hf
    obtain ⟨hst, hsc, hsy⟩ := hs
    obtain ⟨ht, ha⟩ := Ruby.symbol_append_inj hft hst (stops_comma rfl _) (stops_comma rfl _) ha
    obtain ⟨hc, ha⟩ := Ruby.symbol_append_inj hfc hsc (stops_comma rfl _) (stops_comma rfl _)
      (List.append_cancel_left ha)
    obtain ⟨hn, ha⟩ := Ruby.symbol_append_inj hfy.oneLine hsy.oneLine
      (stops_options (by decide) _ _) (stops_options (by decide) _ _) (List.append_cancel_left ha)
    obtain ⟨ho, hb⟩ := options_append_inj hfy.slots hsy.slots ha
    have hy : target = target' := by
      rw [TargetType.mk.injEq]
      exact ⟨Spelling.eq_of_text hfy.flawless hsy.flawless (String.toList_injective hn), ho⟩
    rw [String.toList_injective ht, String.toList_injective hc, hy, hb]
  case dropColumn.dropColumn table column table' column' =>
    obtain ⟨ht, ha⟩ := Ruby.symbol_append_inj hf.1 hs.1 (stops_comma rfl _) (stops_comma rfl _) ha
    obtain ⟨hc, -⟩ := Ruby.symbol_append_inj hf.2 hs.2 stops_nil stops_nil
      (List.append_cancel_left ha)
    rw [String.toList_injective ht, String.toList_injective hc]
  case createIndex.createIndex name table column unique name' table' column' unique' =>
    obtain ⟨ht, ha⟩ := Ruby.symbol_append_inj hf.1 hs.1 (stops_comma rfl _) (stops_comma rfl _) ha
    obtain ⟨hc, ha⟩ := Ruby.symbol_append_inj hf.2 hs.2 (stops_comma rfl _) (stops_comma rfl _)
      (List.append_cancel_left ha)
    obtain ⟨hn, ha⟩ := Ruby.literal_append_inj (List.append_cancel_left ha)
    rw [String.toList_injective ht, String.toList_injective hc, String.toList_injective hn,
      flag_inj (by simp) ha]
  case dropIndex.dropIndex name table name' table' =>
    obtain ⟨ht, ha⟩ := beforeName_append_inj (oneLine_table hf) (oneLine_table hs) ha
    obtain ⟨hn, -⟩ := Ruby.literal_append_inj ha
    rw [ht, String.toList_injective hn]

end Helper

theorem Grammar.Identifier.normalized_ne (i : Identifier) : i.normalized ≠ "" := by
  intro h
  have hl := congrArg String.toList h
  rw [normalized, String.toList_ofList] at hl
  exact lower_ne_nil i.word.nonempty hl

theorem Grammar.Reading.helper_isPlain {r : Reading} (hm : mapping.Wordy)
    (h : r.change.helper? mapping = some helper) : helper.IsPlain := by
  cases r with
  | createTable lead table =>
    cases h
    exact table.oneLine_normalized
  | dropTable lead table =>
    cases h
    exact table.oneLine_normalized
  | addColumn lead table gap verb column between type =>
    simp only [change, Change.helper?, Option.map_eq_some_iff] at h
    obtain ⟨target, hr, rfl⟩ := h
    refine ⟨table.oneLine_normalized, column.oneLine_normalized, hm.resolve ?_ hr⟩
    rw [TypeToken.spec, String.toList_ofList]
    exact type.name.oneLine
  | dropColumn lead table gap verb column =>
    cases h
    exact ⟨table.oneLine_normalized, column.oneLine_normalized⟩
  | createIndex unique lead name gap on table before inside column =>
    cases h
    exact ⟨table.oneLine_normalized, column.oneLine_normalized⟩
  | dropIndex =>
    cases h
    trivial
  | dropIndexOn lead name gap on table =>
    cases h
    exact ⟨table.oneLine_normalized, table.normalized_ne⟩

theorem Operation.verbatim_of_helper? {operation : Operation}
    (h : operation.change.helper? mapping = none) :
    (operation.rendered mapping).verbatim = true := by
  rw [verbatim_rendered]
  cases hc : operation.change with
  | unclassified => exact .inl rfl
  | addColumn table column type nullable =>
    rw [hc, Change.helper?, Option.map_eq_none_iff] at h
    exact .inr ⟨table, column, type, nullable, rfl, h⟩
  | _ =>
    rw [hc] at h
    cases h

namespace Statement

theorem exists_helper (hm : mapping.Wordy) (statement : Statement)
    (hv : (statement.classify.value.rendered mapping).verbatim = false) :
    ∃ helper : Helper, statement.classify.value.change.helper? mapping = some helper ∧
      helper.IsPlain ∧
      (statement.classify.value.rendered mapping).lines.map String.toList = helper.lines := by
  cases hh : statement.classify.value.change.helper? mapping with
  | none =>
    rw [Operation.verbatim_of_helper? hh] at hv
    cases hv
  | some helper =>
    have hp : helper.IsPlain := by
      rcases statement.classify_value with ⟨r, -, -, hc⟩ | ⟨-, hc⟩
      · rw [hc] at hh
        exact r.helper_isPlain hm hh
      · rw [hc] at hh
        cases hh
    exact ⟨helper, rfl, hp, Operation.lines_rendered hh hp⟩

/-- Two statements that helpers carry out have the same lines only if they have the same helper: the
same kind and names, the same migration type and the same constraint. -/
theorem lines_eq_iff (hm : mapping.Wordy) (first second : Statement) :
    ∃ a b, (first.classify.value.block mapping).run.value = .ok a ∧
      (second.classify.value.block mapping).run.value = .ok b ∧
      (a.verbatim = false → b.verbatim = false →
        (a.lines = b.lines ↔ ∃ helper : Helper,
          first.classify.value.change.helper? mapping = some helper ∧
          second.classify.value.change.helper? mapping = some helper)) := by
  refine ⟨_, _, first.block_value mapping, second.block_value mapping, ?_⟩
  intro ha hb
  obtain ⟨helper, hf, hp, hl⟩ := first.exists_helper hm ha
  obtain ⟨helper', hs, hp', hl'⟩ := second.exists_helper hm hb
  constructor
  · intro h
    obtain rfl := Helper.lines_inj hp hp' (by rw [← hl, ← hl', h])
    exact ⟨helper, hf, hs⟩
  · rintro ⟨_, h, h'⟩
    obtain rfl := Option.some.inj (hf.symm.trans h)
    obtain rfl := Option.some.inj (hs.symm.trans h')
    exact List.map_injective_iff.2 (fun _ _ => String.toList_injective) (hl.trans hl'.symm)

/-- A column with a short type in capitals, and digits of another script. -/
def shortColumn : Statement :=
  ⟨1, "ALTER TABLE Users ADD COLUMN Nick CHAR ( ٨٠ ) NOT NULL", Nat.one_pos⟩

def varyingColumn : Statement :=
  ⟨2, "alter table `users` add column \"nick\" varchar(080)\nnot  null ;", by decide⟩

theorem shortColumn_helper : ∃ helper : Helper,
    shortColumn.classify.value.change.helper? .standard = some helper ∧
    varyingColumn.classify.value.change.helper? .standard = some helper ∧
    helper = .addColumn "users" "nick" ⟨"string", [("limit", 80)]⟩ true := by
  obtain ⟨a, b, ha, hb, h⟩ := lines_eq_iff TypeMapping.standard_wordy shortColumn varyingColumn
  have hl (s : Statement) (hs : s = shortColumn ∨ s = varyingColumn) :
      (s.classify.value.block .standard).run.value =
        .ok { lines := ["add_column :users, :nick, :string, limit: 80, null: false"] } := by
    rcases hs with rfl | rfl <;> decide +kernel
  obtain rfl := Except.ok.inj (ha.symm.trans (hl _ (.inl rfl)))
  obtain rfl := Except.ok.inj (hb.symm.trans (hl _ (.inr rfl)))
  obtain ⟨helper, hf, hs⟩ := (h rfl rfl).1 rfl
  refine ⟨helper, hf, hs, ?_⟩
  have hc : shortColumn.classify.value.change.helper? .standard =
      some (.addColumn "users" "nick" ⟨"string", [("limit", 80)]⟩ true) := by decide +kernel
  exact Option.some.inj (hf.symm.trans hc)

end Statement

end SchemaPlan
