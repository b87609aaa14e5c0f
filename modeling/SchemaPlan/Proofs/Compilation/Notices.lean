import SchemaPlan.Proofs.Compilation

namespace SchemaPlan
open Text Numeral

namespace LogRecord

/-- Whether a record of some weight says that a statement is run as it is. -/
def saysVerbatim (record : LogRecord) : Bool :=
  record.severity ≠ .debug &&
    decide ("it will be executed verbatim".toList <:+: record.message.toList)

/-- The position of the statement that a record begins with. -/
def position? (record : LogRecord) : Option Nat :=
  let digits := (record.message.toList.drop "Statement ".length).takeWhile Char.isDigit
  if "Statement ".toList <+: record.message.toList ∧ digits ≠ [] then some (decimalValue digits)
  else none

/-- The positions in the records that say so, in the order of the records. -/
def announced (records : List LogRecord) : List (Option Nat) :=
  (records.filter saysVerbatim).map position?

/-- A notice begins with the position of its statement and ends with what becomes of it. -/
theorem announced_notice {severity : Severity} {message : String} (hs : severity ≠ .debug)
    (hm : message.toList = "Statement ".toList ++ (Nat.toDigits 10 n ++ rest))
    (hr : Stops Char.isDigit rest) (hv : "it will be executed verbatim".toList <:+: rest) :
    announced [⟨severity, message⟩] = [some n] := by
  have hd : ∀ c ∈ Nat.toDigits 10 n, c.isDigit = true := fun c hc =>
    Nat.isDigit_of_mem_toDigits (by decide) (by decide) hc
  have hsays : saysVerbatim ⟨severity, message⟩ = true := by
    have hi : rest <:+: message.toList := by
      rw [hm]
      exact ((List.suffix_append _ _).trans (List.suffix_append _ _)).isInfix
    exact Bool.and_eq_true_iff.2 ⟨decide_eq_true hs, decide_eq_true (hv.trans hi)⟩
  have hposition : position? ⟨severity, message⟩ = some n := by
    have hdigits : (message.toList.drop "Statement ".length).takeWhile Char.isDigit =
        Nat.toDigits 10 n := by
      rw [hm]
      exact takeWhile_run hd hr
    have hp : "Statement ".toList <+: message.toList := hm ▸ List.prefix_append _ _
    simp only [position?, hdigits]
    rw [if_pos ⟨hp, Nat.toDigits_ne_nil⟩, decimalValue_toDigits]
  rw [announced, List.filter_cons_of_pos hsays, List.filter_nil, List.map_singleton, hposition]

end LogRecord

theorem toList_toString (n : Nat) : (toString n).toList = Nat.toDigits 10 n := by
  simp [toString, Nat.repr]

open LogRecord

namespace Statement

theorem announced_unrecognizedNotice (n : Nat) :
    announced [⟨.info, unrecognizedNotice n⟩] = [some n] := by
  have hm : (unrecognizedNotice n).toList = "Statement ".toList ++ (Nat.toDigits 10 n ++
      " is not a recognized shape; it will be executed verbatim".toList) := by
    rw [← toList_toString, ← String.toList_append, ← String.toList_append]
    rfl
  exact announced_notice (by decide) hm (stops_cons_iff.2 (by decide)) (by decide +kernel)

theorem announced_unreadableNotice (n : Nat) (form : Form) (fault : TypeSpec.Fault) :
    announced [⟨.warning, unreadableNotice n form fault⟩] = [some n] := by
  have hm : (unreadableNotice n form fault).toList = "Statement ".toList ++ (Nat.toDigits 10 n ++
      (" matched ".toList ++ (form.kindName.toList ++ " but could not be parsed (".toList ++
        fault.message.toList ++ "); ".toList ++ "it will be executed verbatim".toList))) := by
    rw [← toList_toString]
    unfold unreadableNotice
    simp only [String.toList_append, List.append_assoc]
    rfl
  exact announced_notice (by decide) hm (stops_cons_iff.2 (by decide))
    ((List.suffix_append _ _).trans (List.suffix_append _ _)).isInfix

end Statement

theorem Operation.announced_unmappedNotice (n : Nat) (type : String) :
    announced [⟨.warning, unmappedNotice n type⟩] = [some n] := by
  have hm : (unmappedNotice n type).toList = "Statement ".toList ++ (Nat.toDigits 10 n ++
      (": type '".toList ++ (type.toList ++ "' has no mapping that keeps its parameters; ".toList ++
        "it will be executed verbatim".toList))) := by
    rw [← toList_toString]
    unfold unmappedNotice
    simp only [String.toList_append, List.append_assoc]
    rfl
  exact announced_notice (by decide) hm (stops_cons_iff.2 (by decide))
    ((List.suffix_append _ _).trans (List.suffix_append _ _)).isInfix

theorem Operation.announced_notices {mapping : TypeMapping} {operation : Operation}
    (h : operation.change ≠ .unclassified) :
    announced (operation.notices mapping) =
      if (operation.rendered mapping).verbatim then [some operation.statement.position] else [] := by
  obtain ⟨statement, change⟩ := operation
  cases change with
  | addColumn table column type nullable =>
    cases hr : mapping.resolve type with
    | some target =>
      simp only [notices, rendered, hr]
      rfl
    | none =>
      simp only [notices, rendered, hr]
      exact announced_unmappedNotice ..
  | unclassified => exact absurd rfl h
  | _ =>
    rw [if_neg (by simp [verbatim_rendered])]
    rfl

theorem Grammar.Reading.change_ne_unclassified (r : Reading) : r.change ≠ .unclassified := by
  cases r <;> nofun

/-- What is logged about the statement of a step: by its classification, and by its rendering. -/
def Step.records (mapping : TypeMapping) (step : Step) : List LogRecord :=
  step.operation.statement.classify.records ++ (step.operation.step mapping).run.records

namespace Statement

variable (mapping : TypeMapping) (statement : Statement)

def step : Step := ⟨statement.classify.value, statement.classify.value.rendered mapping⟩

theorem records_step : (statement.step mapping).records mapping =
    statement.classify.records ++ statement.classify.value.notices mapping := by
  rw [Step.records, step, statement.statement_classify, Operation.run_step statement.classify_fits]

theorem announced_step : announced ((statement.step mapping).records mapping) =
    if (statement.step mapping).block.verbatim then [some statement.position] else [] := by
  rw [statement.records_step, step]
  by_cases ht : ∃ r : Grammar.Reading, r.text = trim statement.text.toList
  · obtain ⟨r, ht⟩ := ht
    by_cases hr : r.Readable
    · rw [classify_readable ht hr]
      exact Operation.announced_notices r.change_ne_unclassified
    · obtain ⟨fault, hf⟩ := classify_unreadable ht hr
      rw [hf]
      exact announced_unreadableNotice ..
  · rw [classify_unread fun r h => ht ⟨r, h⟩]
    exact announced_unrecognizedNotice ..

end Statement

theorem Logged.records_map (f : α → β) (x : Logged α) : (f <$> x).records = x.records :=
  List.append_nil _

theorem Slug.filter_records (name : String) : (ofName name).records.filter saysVerbatim = [] := by
  rw [ofName]
  split
  · have hs : saysVerbatim ⟨.warning, "Migration filename truncated due to length limits"⟩ = false := by
      decide +kernel
    exact List.filter_cons_of_neg (by simp [hs])
  · rfl

theorem Artifact.filter_records (body : List Block) (name : Option String)
    (frameworkVersion : String) :
    (assemble body name frameworkVersion).records.filter saysVerbatim = [] := by
  rw [assemble]
  split
  · rfl
  · simp only [Logged.records_bind, Logged.records_pure, Slug.className, Logged.records_map,
      List.filter_append, Slug.filter_records, List.append_nil]

theorem flatMap_ite (p : α → Bool) (f : α → β) (as : List α) :
    (as.flatMap fun a => if p a then [f a] else []) = (as.filter p).map f := by
  induction as with
  | nil => rfl
  | cons a as ih =>
    rw [List.flatMap_cons, ih]
    by_cases h : p a <;> simp [h]

variable (mapping : TypeMapping) (frameworkVersion : String) (statements : List Statement)
  (name : Option String)

theorem steps_compiled : (compiled mapping frameworkVersion statements name).value.steps =
    statements.map (·.step mapping) :=
  List.map_map

theorem filter_records_compiled :
    ((compiled mapping frameworkVersion statements name).records.filter saysVerbatim).Perm
      ((compiled mapping frameworkVersion statements name).value.steps.flatMap fun step =>
        (step.records mapping).filter saysVerbatim) := by
  have hs : statements.flatMap (fun s => s.classify.records ++ s.classify.value.notices mapping) =
      (statements.map (·.step mapping)).flatMap (Step.records mapping) := by
    simp only [List.flatMap_map, Statement.records_step]
  rw [steps_compiled, ← List.filter_flatMap, ← hs, compiled, List.flatMap_map, ← List.append_assoc,
    List.filter_append, Artifact.filter_records, List.append_nil]
  exact (List.flatMap_append_perm statements _ _).filter _

/-- Compiling announces each statement that is run as it is, with its position, by one record, and
no other statement: the records that say so are those of the steps, up to their order. -/
theorem Pipeline.compile_announces (pipeline : Pipeline) (statements : List Statement)
    (name : Option String) (w : Workspace) :
    ∃ (compilation : Compilation) (records : List LogRecord),
      (pipeline.compile statements name).run.run w =
        (.ok compilation, { w with events := w.events ++ records.map .logged }) ∧
      compilation.steps.map (·.operation.statement) = statements ∧
      (records.filter saysVerbatim).Perm
        (compilation.steps.flatMap fun step =>
          (step.records pipeline.mapping).filter saysVerbatim) ∧
      (∀ step ∈ compilation.steps, announced (step.records pipeline.mapping) =
        if step.block.verbatim then [some step.operation.statement.position] else []) ∧
      (announced records).Perm ((compilation.steps.filter (·.block.verbatim)).map
        fun step => some step.operation.statement.position) ∧
      (announced records).length = compilation.fallbackCount := by
  let version := Settings.shown pipeline.settings.frameworkVersion
  have hp := filter_records_compiled pipeline.mapping version statements name
  have hsteps := steps_compiled pipeline.mapping version statements name
  have hone : ∀ step ∈ (compiled pipeline.mapping version statements name).value.steps,
      announced (step.records pipeline.mapping) =
        if step.block.verbatim then [some step.operation.statement.position] else [] := by
    intro step hm
    rw [hsteps] at hm
    obtain ⟨statement, -, rfl⟩ := List.mem_map.1 hm
    rw [statement.announced_step, Statement.step, statement.statement_classify]
  have hall : (announced (compiled pipeline.mapping version statements name).records).Perm
      (((compiled pipeline.mapping version statements name).value.steps.filter
        (·.block.verbatim)).map fun step => some step.operation.statement.position) := by
    refine (hp.map position?).trans (.of_eq ?_)
    rw [List.map_flatMap, ← flatMap_ite]
    exact List.flatMap_congr hone
  refine ⟨_, _, Session.run_ofRendering (run_compile _ version statements name) w,
    statements_compiled _ _ _ _, hp, hone, hall, ?_⟩
  rw [hall.length_eq, List.length_map, ← List.countP_eq_length_filter]
  rfl

/-- Two plans in one: a statement without a form and one that drops a table, and again from the first
position on, a type that cannot be read and a parameter that no option takes. -/
def repeatedStatements : List Statement :=
  Statement.number 0 ["SELECT 1", "DROP TABLE users"] ++
    Statement.number 0 [
      "ALTER TABLE t ADD COLUMN c VARCHAR(²)",
      "ALTER TABLE t ADD COLUMN c INTEGER(11)"]

theorem repeatedStatements_announced : ∃ compilation records w,
    (standardPipeline.compile repeatedStatements).run.run emptyWorkspace = (.ok compilation, w) ∧
      w.events = records.map .logged ∧ (announced records).Perm [some 1, some 1, some 2] ∧
      compilation.fallbackCount = 3 := by
  obtain ⟨compilation, records, hr, -, -, -, hp, hl⟩ :=
    standardPipeline.compile_announces repeatedStatements none emptyWorkspace
  have hc := Session.run_ofRendering (run_compile .standard "8.0" repeatedStatements none)
    emptyWorkspace
  obtain rfl : (compiled .standard "8.0" repeatedStatements none).value = compilation :=
    Except.ok.inj (congrArg Prod.fst (hc.symm.trans hr))
  have hv : (((compiled .standard "8.0" repeatedStatements none).value.steps.filter
      (·.block.verbatim)).map fun step => some step.operation.statement.position) =
      [some 1, some 1, some 2] := by decide +kernel
  rw [hv] at hp
  exact ⟨_, records, _, hr, List.nil_append _, hp, hl ▸ hp.length_eq⟩

end SchemaPlan
