import SchemaPlan.Migration.Step
import SchemaPlan.Proofs.Classification
import SchemaPlan.Proofs.Spelling

namespace SchemaPlan
open Grammar Numeral

theorem Logged.mapM_eq (f : α → Logged β) (as : List α) :
    as.mapM f = ⟨as.map fun a => (f a).value, as.flatMap fun a => (f a).records⟩ := by
  induction as with
  | nil => rfl
  | cons a as ih =>
    rw [List.mapM_cons, ih]
    simp only [bind, pure, List.map_cons, List.flatMap_cons, List.append_nil]

namespace Rendering

theorem run_bind {x : Rendering α} {f : α → Rendering β} (h : x.run = ⟨.ok a, records⟩) :
    (x >>= f).run = ⟨(f a).run.value, records ++ (f a).run.records⟩ := by
  rw [ExceptT.run_bind, h]
  rfl

theorem run_liftM (x : Logged α) :
    (liftM x : Rendering α).run = ⟨.ok x.value, x.records⟩ := by
  obtain ⟨value, records⟩ := x
  exact congrArg (Logged.mk _) (List.append_nil records)

theorem run_mapM {as : List α} {f : α → Rendering β} {value : α → β} {records : α → List LogRecord}
    (h : ∀ a ∈ as, (f a).run = ⟨.ok (value a), records a⟩) :
    (as.mapM f).run = ⟨.ok (as.map value), as.flatMap records⟩ := by
  induction as with
  | nil => rfl
  | cons a as ih =>
    have ih := ih fun b hb => h b (by simp [hb])
    rw [List.mapM_cons, run_bind (h a (by simp)), run_bind ih, List.flatMap_cons, List.map_cons]
    simp only [ExceptT.run_pure, Logged.value_pure, Logged.records_pure, List.append_nil]

end Rendering

def TypeSpec.Fits (spec : TypeSpec) : Prop := ∀ n ∈ spec.params, Numeral.Fits n

/-- The type as it is written in a plan, however long its parameters are. -/
def TypeSpec.written (spec : TypeSpec) : String :=
  if spec.params.isEmpty then spec.base
  else spec.base ++ "(" ++ ",".intercalate (spec.params.map decimal) ++ ")"

theorem TypeSpec.text_of_fits {spec : TypeSpec} (h : spec.Fits) : spec.text = .ok spec.written := by
  rw [TypeSpec.text, TypeSpec.written, mapM_eq_ok fun n hn => write_of_fits (h n hn)]
  split <;> rfl

def TargetType.Fits (target : TargetType) : Prop := ∀ o ∈ target.options, Numeral.Fits o.2

def TargetType.written (target : TargetType) : String :=
  ", ".intercalate (rubySymbol target.name.text ::
    target.options.map fun (slot, value) => s!"{slot.text}: {decimal value}")

theorem TargetType.text_of_fits {target : TargetType} (h : target.Fits) :
    target.text = .ok target.written := by
  have ho : ∀ o ∈ target.options,
      (do let value ← Numeral.write o.2; return s!"{o.1.text}: {value}" : Except Numeral.Fault String) =
        .ok s!"{o.1.text}: {decimal o.2}" := by
    intro o hm
    rw [write_of_fits (h o hm)]
    rfl
  rw [TargetType.text, mapM_eq_ok ho]
  rfl

theorem TypeMapping.target?_cases {m : TypeMapping} {base : Spelling} {params : List Int}
    (hr : m.target? base params = some target) :
    target = ⟨base, []⟩ ∨ ∃ rule, (base.lower, rule) ∈ m.rules ∧
      target = ⟨rule.target, rule.slots.zip params⟩ := by
  rw [target?] at hr
  split at hr
  · split at hr <;> cases hr
    exact .inl rfl
  · next rule hg =>
    split at hr <;> cases hr
    obtain ⟨_, _, hrules, -⟩ := List.lookup_eq_some_iff.1 hg
    exact .inr ⟨rule, by simp [hrules], rfl⟩

theorem TypeMapping.resolve_fits {m : TypeMapping} {spec : TypeSpec} (h : spec.Fits)
    (hr : m.resolve spec = some target) : target.Fits := by
  intro o ho
  rcases target?_cases hr with rfl | ⟨rule, -, rfl⟩
  · cases ho
  · exact h o.2 (List.of_mem_zip ho).2

def Change.Fits : Change → Prop
  | .addColumn _ _ type _ => type.Fits
  | _ => True

theorem Grammar.Reading.change_fits (r : Reading) (h : r.Readable) : r.change.Fits := by
  cases r
  case addColumn type clause ending =>
    intro n hn
    obtain ⟨ds, hd, rfl⟩ := List.mem_map.1 hn
    exact fits_decimalValue (h ds hd)
  all_goals exact trivial

theorem Statement.classify_fits (statement : Statement) : statement.classify.value.change.Fits := by
  rcases statement.classify_value with ⟨r, -, hr, hv⟩ | ⟨-, hv⟩
  · rw [hv]
    exact r.change_fits hr
  · rw [hv]
    trivial

namespace Operation

variable {mapping : TypeMapping} {operation : Operation}

def rendered (mapping : TypeMapping) (operation : Operation) : Block :=
  match operation.change with
  | .createTable table => Change.createTableBlock table
  | .dropTable table => Change.dropTableBlock table
  | .addColumn table column type nullable =>
    match mapping.resolve type with
    | some target => Change.addColumnBlock table column target.written nullable
    | none => operation.statement.verbatimBlock
  | .dropColumn table column => Change.dropColumnBlock table column
  | .createIndex name table column unique => Change.createIndexBlock name table column unique
  | .dropIndex name table => Change.dropIndexBlock name table
  | .unclassified => operation.statement.verbatimBlock

def notices (mapping : TypeMapping) (operation : Operation) : List LogRecord :=
  match operation.change with
  | .addColumn _ _ type _ =>
    if mapping.resolve type = none then
      [⟨.warning, unmappedNotice operation.statement.position type.written⟩]
    else []
  | _ => []

theorem run_block (h : operation.change.Fits) :
    (operation.block mapping).run =
      ⟨.ok (operation.rendered mapping), operation.notices mapping⟩ := by
  obtain ⟨statement, change⟩ := operation
  cases change with
  | addColumn table column type nullable =>
    cases hr : mapping.resolve type with
    | some target =>
      have ht := TargetType.text_of_fits (TypeMapping.resolve_fits h hr)
      simp only [block, rendered, notices, hr, ht]
      rfl
    | none =>
      have ht := TypeSpec.text_of_fits h
      simp only [block, rendered, notices, hr, ht]
      rfl
  | _ => rfl

theorem run_step (h : operation.change.Fits) :
    (operation.step mapping).run =
      ⟨.ok ⟨operation, operation.rendered mapping⟩, operation.notices mapping⟩ := by
  rw [step, Rendering.run_bind (run_block h)]
  exact congrArg (Logged.mk _) (List.append_nil _)

theorem run_renderAll {operations : List Operation} (h : ∀ o ∈ operations, o.change.Fits) :
    (renderAll mapping operations).run =
      ⟨.ok (operations.map fun o => ⟨o, o.rendered mapping⟩),
        operations.flatMap (notices mapping)⟩ :=
  Rendering.run_mapM fun o ho => run_step (h o ho)

theorem verbatim_rendered : (operation.rendered mapping).verbatim = true ↔
    operation.change = .unclassified ∨ ∃ table column type nullable,
      operation.change = .addColumn table column type nullable ∧ mapping.resolve type = none := by
  obtain ⟨statement, change⟩ := operation
  cases change with
  | unclassified => simp [rendered, Statement.verbatimBlock]
  | addColumn table column type nullable =>
    cases hr : mapping.resolve type with
    | some target => simp [rendered, hr, Change.addColumnBlock]
    | none => simp [rendered, hr, Statement.verbatimBlock]
  | dropIndex name table =>
    have hd : (Change.dropIndexBlock name table).verbatim = false := by
      rw [Change.dropIndexBlock]
      split <;> rfl
    simp [rendered, hd]
  | _ => simp [rendered, Change.createTableBlock, Change.dropTableBlock, Change.dropColumnBlock,
      Change.createIndexBlock]

end Operation

end SchemaPlan
