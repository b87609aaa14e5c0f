import SchemaPlan.Atlas
import SchemaPlan.Plan
import SchemaPlan.Proofs.Session

namespace SchemaPlan

open Session

def Outcome.result (words : List String) : Outcome → Except Failure CommandResult
  | .finished output errors status => .ok ⟨output.getD "" ++ errors.getD "", status⟩
  | .missing => .ok ⟨words.headD "" ++ ": command not found", Atlas.missingStatus⟩
  | .denied => .error (.file (words.headD "") .accessDenied)

def Outcome.succeeds : Outcome → Bool
  | .finished _ _ status => status = 0
  | _ => false

theorem Outcome.succeeds_of_ok {outcome : Outcome} {result : CommandResult}
    (h : outcome.result words = .ok result) : result.ok = outcome.succeeds := by
  cases outcome with
  | finished =>
    cases h
    rfl
  | missing =>
    cases h
    rfl
  | denied => cases h

theorem Outcome.succeeds_of_error {outcome : Outcome} {failure : Failure}
    (h : outcome.result words = .error failure) : outcome.succeeds = false := by
  cases outcome with
  | finished => cases h
  | missing => cases h
  | denied => rfl

def Outcome.statements : Outcome → List Statement
  | .finished output errors 0 => (Plan.statements (output.getD "" ++ errors.getD "")).value
  | _ => []

theorem Outcome.statements_of_ok {outcome : Outcome} {result : CommandResult}
    (h : outcome.result words = .ok result) (hk : result.ok = true) :
    outcome.statements = (Plan.statements result.output).value := by
  cases outcome with
  | finished output errors status =>
    cases h
    obtain rfl : status = 0 := of_decide_eq_true hk
    rfl
  | missing =>
    cases h
    cases hk
  | denied => cases h

theorem Outcome.exists_of_statements {outcome : Outcome} (h : outcome.statements ≠ []) :
    ∃ output errors, outcome = .finished output errors 0 := by
  by_contra hn
  apply h
  rw [statements]
  exact fun output errors ho => hn ⟨output, errors, ho⟩

/-- What comes of a command whose words may be missing. -/
def Outcome.answer (words? : Option (List String)) (outcome : Outcome) :
    Except Failure CommandResult :=
  words?.elim (.error .settingUnset) fun words => outcome.result words

theorem Outcome.answer_eq_ok_iff {words? : Option (List String)} {outcome : Outcome}
    {result : CommandResult} :
    outcome.answer words? = .ok result ↔
      ∃ words, words? = some words ∧ outcome.result words = .ok result := by
  cases words? with
  | none =>
    constructor
    · intro h
      cases h
    · rintro ⟨words, ⟨⟩, -⟩
  | some words =>
    constructor
    · intro h
      exact ⟨words, rfl, h⟩
    · rintro ⟨_, ⟨⟩, h⟩
      exact h

def Workspace.outcome (w : Workspace) : Outcome :=
  w.outcomes.headD (.finished (some "") (some "") 0)

@[simp] theorem Workspace.outcome_adding (w : Workspace) (events : List Event) :
    (w.adding events).outcome = w.outcome := rfl

/-- The commands so far, and what the next ones will do. -/
def Workspace.ledger (w : Workspace) : List Invocation × List Outcome := (w.invocations, w.outcomes)

/-- Between two workspaces, some commands were run. -/
structure Issued (commands : List Invocation) (w w' : Workspace) : Prop where
  invocations : w'.invocations = w.invocations ++ commands
  outcomes : w'.outcomes = w.outcomes.drop commands.length

variable {w w' w'' : Workspace} {first second : List Invocation}

theorem Issued.of_ledger (h : w'.ledger = w.ledger) : Issued [] w w' := by
  obtain ⟨hi, ho⟩ := Prod.mk.inj h
  exact ⟨by rw [hi, List.append_nil], by rw [ho]; rfl⟩

theorem Issued.trans (h : Issued first w w') (h' : Issued second w' w'') :
    Issued (first ++ second) w w'' := by
  constructor
  · rw [h'.invocations, h.invocations, List.append_assoc]
  · rw [h'.outcomes, h.outcomes, List.drop_drop, List.length_append]

theorem Issued.quiet (h : Issued first w w') (hq : w''.ledger = w'.ledger) :
    Issued first w w'' := by
  have ht := h.trans (.of_ledger hq)
  rwa [List.append_nil] at ht

def Workspace.secondOutcome (w : Workspace) : Outcome :=
  w.outcomes.tail.headD (.finished (some "") (some "") 0)

theorem Issued.outcome {invocation : Invocation} {w u : Workspace} (h : Issued [invocation] w u) :
    u.outcome = w.secondOutcome := by
  rw [Workspace.outcome, h.outcomes, List.length_singleton, List.drop_one]
  rfl

def Outcome.records (words : List String) (outcome : Outcome) : List LogRecord :=
  ⟨.debug, "Running: " ++ " ".intercalate words⟩ ::
    if outcome = .missing then
      [⟨.debug, "Command not found: " ++ FileTree.Fault.notFound.message (words.headD "")⟩]
    else []

def Outcome.complaints (outcome : Outcome) : List LogRecord :=
  match outcome.result Atlas.dumpWords with
  | .ok result =>
    if result.ok then []
    else [⟨.warning, s!"Rails schema dump failed with exit code {result.status}:\n" ++
      trimmedEnd result.output⟩]
  | .error _ => []

namespace Workspace

/-- A workspace after some commands were run and some records logged, and nothing else. -/
def ran (w : Workspace) (commands : List Invocation) (records : List LogRecord) : Workspace :=
  { w with
    outcomes := w.outcomes.drop commands.length
    invocations := w.invocations ++ commands
    events := w.events ++ records.map .logged }

theorem adding_logged (w : Workspace) (records : List LogRecord) :
    w.adding (records.map .logged) = w.ran [] records := by
  simp [adding, ran]

@[simp] theorem outcome_ran_nil (w : Workspace) (records : List LogRecord) :
    (w.ran [] records).outcome = w.outcome := rfl

theorem ran_ran (w : Workspace) (commands commands' : List Invocation)
    (records records' : List LogRecord) :
    (w.ran commands records).ran commands' records' =
      w.ran (commands ++ commands') (records ++ records') := by
  simp [ran, List.drop_drop]

theorem scene_ran (w : Workspace) (commands : List Invocation) (records : List LogRecord) :
    (w.ran commands records).scene = w.scene := by
  have hshown := w.shown_logged records
  rw [scene, scene, ← hshown]
  rfl

theorem issued_ran (w : Workspace) (commands : List Invocation) (records : List LogRecord) :
    Issued commands w (w.ran commands records) := ⟨rfl, rfl⟩

end Workspace

theorem Session.run_invoke (invocation : Invocation) (w : Workspace) :
    (invoke invocation).run.run w = (.ok w.outcome, w.ran [invocation] []) := by
  have hran : w.ran [invocation] [] =
      { w with outcomes := w.outcomes.tail, invocations := w.invocations ++ [invocation] } := by
    simp [Workspace.ran]
  rw [hran]
  rfl

theorem Session.run_ofLogged (x : Logged α) (w : Workspace) :
    (ofLogged x).run.run w = (.ok x.value, w.ran [] x.records) := by
  rw [← w.adding_logged]
  rfl

/-- A run that at most asks the schema tool: no file changes, failures are plain, and the commands
are those given, if they can be put together. -/
structure Consults (commands : Outcome → Option (List Invocation)) (x : Session α) : Prop where
  scene : Keeps Workspace.scene x
  plain : FailsPlainly x
  issued : ∀ w, ∀ invocations ∈ commands w.outcome, Issued invocations w (x.run.run w).2

/-- A run that asks nobody. -/
abbrev Quiet (x : Session α) : Prop := Consults (fun _ => some []) x

namespace Consults

variable {commands : Outcome → Option (List Invocation)}

theorem of_run {x : Session α} {result : Workspace → Except Failure α}
    {records : Workspace → List LogRecord}
    (hrun : ∀ w, x.run.run w = (result w, w.ran ((commands w.outcome).getD []) (records w)))
    (hplain : ∀ w e, result w = .error e → e.Plain) : Consults commands x where
  scene w := by
    rw [hrun]
    exact w.scene_ran ..
  plain w e he := by
    rw [hrun] at he
    exact hplain w e he
  issued w invocations hm := by
    rw [hrun, Option.mem_def.1 hm]
    exact w.issued_ran ..

theorem ledger {x : Session α} (h : Quiet x) : Keeps Workspace.ledger x := by
  intro w
  obtain ⟨hi, ho⟩ := h.issued w [] rfl
  rw [List.append_nil] at hi
  exact Prod.ext hi ho

theorem issued_bind {x : Session α} {f : α → Session β} (hx : Consults commands x)
    (hf : ∀ a, Keeps Workspace.ledger (f a)) (w : Workspace) :
    ∀ invocations ∈ commands w.outcome, Issued invocations w ((x >>= f).run.run w).2 := by
  intro invocations hm
  have hi := hx.issued w invocations hm
  cases h : x.run.run w with
  | mk result u =>
    rw [h] at hi
    cases result with
    | error e => rwa [run_bind_error h]
    | ok a =>
      rw [run_bind_ok h]
      exact hi.quiet (hf a u)

end Consults

namespace Atlas

theorem run_run (atlas : Atlas) (words : List String) (w : Workspace) :
    (atlas.run words).run.run w = (w.outcome.result words,
      w.ran [⟨words, atlas.directory.map (·.text)⟩] (w.outcome.records words)) := by
  rw [run, run_bind_ok (run_log ..)]
  simp only
  rw [run_bind_ok (run_invoke ..), Workspace.adding_logged, Workspace.outcome_ran_nil,
    Workspace.ran_ran]
  cases w.outcome with
  | finished output errors status => rfl
  | missing =>
    refine (run_bind_ok (run_log ..)).trans ?_
    rw [Workspace.adding_logged, Workspace.ran_ran]
    rfl
  | denied => rfl

theorem run_cases (atlas : Atlas) (words : List String) (w : Workspace) :
    ((atlas.run words).run.run w).1 = w.outcome.result words ∧
      ((atlas.run words).run.run w).2.scene = w.scene ∧
      Issued [⟨words, atlas.directory.map (·.text)⟩] w ((atlas.run words).run.run w).2 := by
  rw [run_run]
  exact ⟨rfl, w.scene_ran .., w.issued_ran ..⟩

theorem plain_of_result {outcome : Outcome} {failure : Failure}
    (h : outcome.result words = .error failure) : failure.Plain := by
  cases outcome with
  | finished => cases h
  | missing => cases h
  | denied =>
    cases h
    exact ⟨nofun, nofun⟩

theorem plain_of_answer {words? : Option (List String)} {outcome : Outcome} {failure : Failure}
    (h : outcome.answer words? = .error failure) : failure.Plain := by
  cases words? with
  | none =>
    cases h
    exact ⟨nofun, nofun⟩
  | some words => exact plain_of_result h

theorem run_runWords (atlas : Atlas) (words? : Option (List String)) (w : Workspace) :
    (atlas.runWords words?).run.run w = (w.outcome.answer words?,
      w.ran (words?.toList.map fun words => ⟨words, atlas.directory.map (·.text)⟩)
        (words?.elim [] fun words => w.outcome.records words)) := by
  cases words? with
  | none =>
    have hran : w.ran [] [] = w := by simp [Workspace.ran]
    exact congrArg (Prod.mk _) hran.symm
  | some words => exact atlas.run_run words w

theorem run_dumpSchema (atlas : Atlas) (w : Workspace) :
    atlas.dumpSchema.run.run w = (w.outcome.result dumpWords,
      w.ran [⟨dumpWords, atlas.directory.map (·.text)⟩]
        (w.outcome.records dumpWords ++ w.outcome.complaints)) := by
  have hrun := atlas.run_run dumpWords w
  rw [dumpSchema]
  cases hr : w.outcome.result dumpWords with
  | error failure =>
    rw [hr] at hrun
    have hc : w.outcome.complaints = [] := by rw [Outcome.complaints, hr]
    rw [run_bind_error hrun, hc, List.append_nil]
  | ok result =>
    rw [hr] at hrun
    rw [run_bind_ok hrun]
    dsimp only
    cases hk : result.ok with
    | true =>
      have hc : w.outcome.complaints = [] := by
        rw [Outcome.complaints, hr]
        exact if_pos hk
      rw [hc, List.append_nil]
      rfl
    | false =>
      have hc : w.outcome.complaints =
          [⟨.warning, s!"Rails schema dump failed with exit code {result.status}:\n" ++
            trimmedEnd result.output⟩] := by
        rw [Outcome.complaints, hr]
        exact if_neg (Bool.eq_false_iff.1 hk)
      refine (run_bind_ok (run_log ..)).trans ?_
      rw [Workspace.adding_logged, Workspace.ran_ran, hc]
      rfl

end Atlas

end SchemaPlan
