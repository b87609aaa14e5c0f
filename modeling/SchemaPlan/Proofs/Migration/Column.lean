import SchemaPlan.Proofs.Migration.Source
import SchemaPlan.Proofs.Ruby.Quoting

namespace SchemaPlan
open Text Numeral

theorem toList_intercalate_cons (separator first : String) (rest : List String) :
    (separator.intercalate (first :: rest)).toList =
      first.toList ++ rest.flatMap fun s => separator.toList ++ s.toList := by
  rw [String.toList_intercalate, List.map_cons]
  induction rest generalizing first with
  | nil => simp
  | cons s rest ih =>
    rw [List.map_cons, List.intercalate_cons_cons, ih s, List.flatMap_cons]
    simp only [List.append_assoc]

/-- The line that adds a column of a migration type, from the digits that its options show. -/
def columnLine (table column target : String) (options : List (String × String))
    (nullable : Option Bool) : String :=
  ", ".intercalate (s!"add_column {rubySymbol table}" :: rubySymbol column :: rubySymbol target ::
    (options.map (fun (slot, digits) => s!"{slot}: {digits}") ++
      if nullable = some false then ["null: false"] else []))

def optionText (option : String × String) : List Char :=
  ", ".toList ++ (option.1.toList ++ (": ".toList ++ option.2.toList))

def nullText (nullable : Option Bool) : List Char :=
  if nullable = some false then ", null: false".toList else []

theorem toList_columnLine (table column target : String) (options : List (String × String))
    (nullable : Option Bool) :
    (columnLine table column target options nullable).toList =
      "add_column ".toList ++ (Ruby.symbol table.toList ++ (", ".toList ++
        (Ruby.symbol column.toList ++ (", ".toList ++ (Ruby.symbol target.toList ++
          (options.flatMap optionText ++ nullText nullable)))))) := by
  have hc : (if nullable = some false then ["null: false"] else []).flatMap
      (fun s => ", ".toList ++ s.toList) = nullText nullable := by
    rw [nullText]
    split <;> rfl
  have ho : (options.map fun (slot, digits) => s!"{slot}: {digits}").flatMap
      (fun s => ", ".toList ++ s.toList) = options.flatMap optionText := by
    rw [List.flatMap_map]
    apply List.flatMap_congr
    intro option _
    simp only [optionText, toString, String.toList_append, List.append_assoc]
  rw [columnLine, toList_intercalate_cons, List.flatMap_cons, List.flatMap_cons,
    List.flatMap_append, ho, hc]
  simp only [toString, String.toList_append, rubySymbol, String.toList_ofList, List.append_assoc]

/-- The options of a migration type with the digits that they show. -/
def TargetType.shownOptions (target : TargetType) : List (String × String) :=
  target.options.map fun (slot, n) => (slot.text, decimal n)

theorem TargetType.toList_written (target : TargetType) :
    target.written.toList =
      Ruby.symbol target.name.text.toList ++ target.shownOptions.flatMap optionText := by
  rw [written, toList_intercalate_cons, shownOptions, List.flatMap_map, List.flatMap_map,
    rubySymbol, String.toList_ofList]
  congr 1
  apply List.flatMap_congr
  intro option _
  simp only [optionText, toString, String.toList_append, List.append_assoc]

theorem addColumnBlock_written (table column : String) (target : TargetType)
    (nullable : Option Bool) :
    Change.addColumnBlock table column target.written nullable =
      { lines := [columnLine table column target.name.text target.shownOptions nullable] } := by
  rw [Change.addColumnBlock, Block.mk.injEq, List.cons.injEq]
  refine ⟨⟨String.toList_injective ?_, rfl⟩, rfl⟩
  have hc : (if nullable = some false then ", null: false" else "").toList = nullText nullable := by
    rw [nullText]
    split <;> rfl
  rw [toList_columnLine]
  simp only [toString, String.toList_append, target.toList_written, hc, rubySymbol,
    String.toList_ofList, List.append_assoc]

theorem decimal_ne_nil (n : Int) : (decimal n).toList ≠ [] := by
  rw [decimal, String.toList_ofList]
  split
  · exact List.cons_ne_nil _ _
  · exact Nat.toDigits_ne_nil

theorem eq_of_suffix (h : ", null: false".toList <:+ s ++ [c]) : c = 'e' := by
  obtain ⟨before, hb⟩ := h
  have hl := congrArg List.getLast? hb
  rw [List.getLast?_concat, List.getLast?_append] at hl
  exact (Option.some.inj hl).symm

theorem decimal_not_suffix (s : List Char) (n : Int) :
    ¬ ", null: false".toList <:+ s ++ (decimal n).toList := by
  intro h
  obtain ⟨digits, c, hd⟩ := (List.eq_nil_or_concat' _).resolve_left (decimal_ne_nil n)
  have hc : isDecimalChar c = true :=
    isDecimalChar_of_mem_decimal (hd ▸ List.mem_append_right _ List.mem_cons_self)
  rw [hd, ← List.append_assoc] at h
  rw [eq_of_suffix h] at hc
  exact absurd hc (by decide)

theorem symbol_not_suffix (s name : List Char) :
    ¬ ", null: false".toList <:+ s ++ ", ".toList ++ Ruby.symbol name := by
  intro h
  rcases Ruby.symbol_cases name with ⟨t, ht⟩ | ⟨ht, hspace⟩
  · rw [ht, ← List.append_assoc] at h
    exact absurd (eq_of_suffix h) (by decide)
  · obtain ⟨before, hb⟩ := h
    have hword : ", null: false".toList = ", null: ".toList ++ "false".toList := rfl
    rw [ht, hword, ← List.append_assoc] at hb
    have hrun : ∀ c ∈ ':' :: name, decide (c ≠ ' ') = true := by
      intro c hc
      rw [decide_eq_true_eq]
      rintro rfl
      exact hspace ((List.mem_cons.1 hc).resolve_left (by decide))
    have hs : EndsOutside (fun c => decide (c ≠ ' ')) (s ++ ", ".toList) :=
      endsOutside_append (by decide) (by simp [EndsOutside])
    have hs' : EndsOutside (fun c => decide (c ≠ ' ')) (before ++ ", null: ".toList) :=
      endsOutside_append (by decide) (by simp [EndsOutside])
    obtain ⟨-, hw⟩ := append_run_inj hb (by simp) hrun hs' hs
    cases hw

theorem suffix_columnLine_iff (table column target : String) {options : List (String × String)}
    (nullable : Option Bool) (h : ∀ o ∈ options, ∃ n : Int, o.2 = decimal n) :
    ", null: false".toList <:+ (columnLine table column target options nullable).toList ↔
      nullable = some false := by
  rw [toList_columnLine, nullText]
  constructor
  · intro hb
    by_contra hn
    rw [if_neg hn, List.append_nil] at hb
    rcases List.eq_nil_or_concat' options with rfl | ⟨options, option, rfl⟩
    · rw [List.flatMap_nil, List.append_nil] at hb
      simp only [← List.append_assoc] at hb
      exact symbol_not_suffix _ _ hb
    · obtain ⟨n, hd⟩ := h option (by simp)
      rw [List.flatMap_append, List.flatMap_singleton, optionText, hd] at hb
      simp only [← List.append_assoc] at hb
      exact decimal_not_suffix _ n hb
  · rintro rfl
    rw [if_pos rfl]
    simp only [← List.append_assoc]
    exact List.suffix_append _ _

theorem TargetType.shownOptions_decimal (target : TargetType) :
    ∀ o ∈ target.shownOptions, ∃ n : Int, o.2 = decimal n := by
  intro o ho
  obtain ⟨⟨slot, n⟩, -, rfl⟩ := List.mem_map.1 ho
  exact ⟨n, rfl⟩

theorem Operation.rendered_addColumn {operation : Operation}
    (h : operation.change = .addColumn table column type nullable) :
    operation.rendered mapping =
      match mapping.resolve type with
      | some target =>
        { lines := [columnLine table column target.name.text target.shownOptions nullable] }
      | none => operation.statement.verbatimBlock := by
  rw [rendered, h]
  dsimp only
  cases mapping.resolve type with
  | none => rfl
  | some target => exact addColumnBlock_written table column target nullable

/-- The block is a heredoc whose lines, two blanks taken off, are those of the text, without the
blanks of blank ones, and none of which ends it early. -/
structure Block.Holds (block : Block) (text : String) : Prop where
  verbatim : block.verbatim = true
  heredoc : ∃ (tag : List Char) (body : List (List Char)),
    block.lines.map String.toList = ("execute <<~'".toList ++ (tag ++ ['\''])) :: (body ++ [tag]) ∧
    (∀ line ∈ body, trim line ≠ tag) ∧ (∀ line ∈ body, line ≠ [] → "  ".toList <+: line) ∧
    body.map (·.drop 2) = (Ruby.heredocBody text.toList).map SourceStep.clearBlank

theorem Statement.block_value (statement : Statement) (mapping : TypeMapping) :
    (statement.classify.value.block mapping).run.value =
      .ok (statement.classify.value.rendered mapping) := by
  rw [Operation.run_block statement.classify_fits]

theorem Statement.holds_verbatimBlock (statement : Statement) :
    statement.verbatimBlock.Holds statement.text := by
  refine ⟨rfl, statement.sourceTag,
    (Ruby.heredocBody statement.text.toList).map Ruby.heredocLine, ?_, ?_, ?_, ?_⟩
  · simp only [verbatimBlock, Ruby.executeBlock, List.map_map, List.map_cons, List.map_append,
      List.map_nil, Function.comp_def, String.toList_ofList, sourceTag,
      List.cons_append, List.append_assoc]
  · intro line hl
    obtain ⟨l, hm, rfl⟩ := List.mem_map.1 hl
    rw [Ruby.trim_heredocLine]
    exact Ruby.trim_ne_heredocTag hm
  · intro line hl hn
    obtain ⟨l, -, rfl⟩ := List.mem_map.1 hl
    rw [Ruby.heredocLine] at hn ⊢
    split
    · next he => simp [he] at hn
    · exact List.prefix_append [' ', ' '] l
  · rw [List.map_map]
    apply List.map_congr_left
    intro line _
    rw [Function.comp_apply, Ruby.heredocLine, SourceStep.clearBlank]
    split <;> rfl

end SchemaPlan
