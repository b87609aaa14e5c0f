import SchemaPlan.Proofs.Generation

namespace SchemaPlan

open Session

namespace Session

variable {x : Session α} {f : α → Session β} {w u : Workspace} {failure e : Failure}

/-- A run ends with a failure that no report is prepared for. -/
def Breaks (x : Session α) (w : Workspace) (failure : Failure) : Prop :=
  (x.run.run w).1 = .error failure ∧ failure.concern = .unforeseen

/-- A run that ends with no such failure. -/
def Sound (x : Session α) : Prop := ∀ w failure, ¬ Breaks x w failure

theorem not_breaks (h : x.run.run w = (.ok a, u)) : ¬ Breaks x w failure := by
  rintro ⟨he, -⟩
  rw [h] at he
  cases he

theorem breaks_iff (h : x.run.run w = (.error e, u)) :
    Breaks x w failure ↔ failure = e ∧ e.concern = .unforeseen := by
  rw [Breaks, h]
  constructor
  · rintro ⟨he, hc⟩
    cases he
    exact ⟨rfl, hc⟩
  · rintro ⟨rfl, hc⟩
    exact ⟨rfl, hc⟩

theorem breaks_throw : Breaks (throw e : Session α) w failure ↔
    failure = e ∧ e.concern = .unforeseen := breaks_iff rfl

theorem breaks_get_bind {f : Workspace → Session α} :
    Breaks (get >>= f : Session α) w failure ↔ Breaks (f w) w failure := Iff.rfl

theorem breaks_bind_ok (h : x.run.run w = (.ok a, u)) :
    Breaks (x >>= f) w failure ↔ Breaks (f a) u failure := by
  rw [Breaks, Breaks, run_bind_ok h]

theorem breaks_bind_error (h : x.run.run w = (.error e, u)) :
    Breaks (x >>= f) w failure ↔ failure = e ∧ e.concern = .unforeseen :=
  breaks_iff (run_bind_error h)

theorem breaks_bind (hf : ∀ a, Sound (f a)) :
    Breaks (x >>= f) w failure ↔ Breaks x w failure := by
  cases h : x.run.run w with
  | mk result u =>
    cases result with
    | error e => rw [breaks_bind_error h, breaks_iff h]
    | ok a =>
      rw [breaks_bind_ok h]
      exact ⟨fun hb => absurd hb (hf a u failure), fun hb => absurd hb (not_breaks h)⟩

namespace Sound

theorem pure (a : α) : Sound (Pure.pure a : Session α) := fun _ _ => not_breaks rfl

theorem throw (h : e.concern ≠ .unforeseen) : Sound (MonadExcept.throw e : Session α) :=
  fun _ _ hb => h (breaks_throw.1 hb).2

theorem bind (hx : Sound x) (hf : ∀ a, Sound (f a)) : Sound (x >>= f) :=
  fun w failure hb => hx w failure ((breaks_bind hf).1 hb)

theorem log (severity : Severity) (message : String) : Sound (Session.log severity message) :=
  fun _ _ => not_breaks (run_log ..)

theorem printLine (text : String) : Sound (Session.printLine text) :=
  fun _ _ => not_breaks (run_printLine ..)

theorem ofLogged (x : Logged α) : Sound (Session.ofLogged x) := fun _ _ => not_breaks rfl

end Sound

end Session

namespace Atlas

variable {atlas : Atlas} {words : List String} {w : Workspace} {failure : Failure}

theorem breaks_run : Breaks (atlas.run words) w failure ↔
    w.outcome = .denied ∧ failure = .file (words.headD "") .accessDenied := by
  rw [Breaks, (atlas.run_cases words w).1]
  cases w.outcome with
  | finished =>
    constructor
    · rintro ⟨⟨⟩, -⟩
    · rintro ⟨⟨⟩, -⟩
  | missing =>
    constructor
    · rintro ⟨⟨⟩, -⟩
    · rintro ⟨⟨⟩, -⟩
  | denied =>
    constructor
    · rintro ⟨he, -⟩
      cases he
      exact ⟨rfl, rfl⟩
    · rintro ⟨-, rfl⟩
      exact ⟨rfl, rfl⟩

theorem breaks_dumpSchema : Breaks atlas.dumpSchema w failure ↔
    w.outcome = .denied ∧ failure = .file "bin/rails" .accessDenied := by
  refine (breaks_bind fun result => ?_).trans breaks_run
  dsimp only
  split
  · exact (Sound.log _ _).bind fun _ => .pure _
  · exact .pure _

end Atlas

namespace Pipeline

variable {pipeline : Pipeline} {command environment : String} {w : Workspace} {failure : Failure}

theorem breaks_dryRun (hc : pipeline.atlas.command = some command)
    (he : pipeline.settings.environment = some environment) :
    Breaks (pipeline.atlas.dryRun pipeline.settings.environment) w failure ↔
      w.outcome = .denied ∧ failure = .file command .accessDenied := by
  rw [Atlas.dryRun, he, Atlas.applyWords?_eq hc]
  exact Atlas.breaks_run

theorem breaks_plan (hc : pipeline.atlas.command = some command)
    (he : pipeline.settings.environment = some environment) :
    Breaks pipeline.plan w failure ↔
      w.outcome = .denied ∧ failure = .file command .accessDenied := by
  rw [plan, breaks_bind_ok (run_log ..), breaks_bind, breaks_dryRun hc he, Workspace.outcome_adding]
  intro result
  refine .bind ?_ fun statements => (Sound.log _ _).bind fun _ => .pure _
  rw [Plan.ofDryRun]
  split
  · exact .ofLogged _
  · refine .throw fun hk => ?_
    cases hk

theorem breaks_preview (hc : pipeline.atlas.command = some command)
    (he : pipeline.settings.environment = some environment) :
    Breaks pipeline.preview w failure ↔
      w.outcome = .denied ∧ failure = .file command .accessDenied := by
  rw [preview, breaks_bind, breaks_dryRun hc he]
  intro result
  split
  · exact .pure _
  · refine .throw fun hk => ?_
    cases hk

theorem breaks_apply (hc : pipeline.atlas.command = some command)
    (he : pipeline.settings.environment = some environment) :
    Breaks pipeline.apply w failure ↔
      w.outcome = .denied ∧ failure = .file command .accessDenied ∨
      w.outcome.succeeds = true ∧ pipeline.settings.schemaDump = some true ∧
        w.secondOutcome = .denied ∧ failure = .file "bin/rails" .accessDenied := by
  rw [apply, breaks_bind_ok (run_log ..), Atlas.apply, he, Atlas.applyWords?_eq hc, Atlas.runWords]
  generalize hw : w.adding _ = u
  have houtcome : u.outcome = w.outcome := hw ▸ w.outcome_adding _
  have hsecond : u.secondOutcome = w.secondOutcome := hw ▸ rfl
  rw [← houtcome, ← hsecond]
  generalize hwords : [command, "schema", "apply", "--env", environment] ++ _ ++ _ = words
  have hhead : words.headD "" = command := hwords ▸ rfl
  obtain ⟨hresult, -, hissued⟩ := pipeline.atlas.run_cases words u
  have hbreaks : Breaks (pipeline.atlas.run words) u failure ↔
      u.outcome = .denied ∧ failure = .file (words.headD "") .accessDenied := Atlas.breaks_run
  cases hr : (pipeline.atlas.run words).run.run u with
  | mk ended v =>
    rw [hr] at hresult hissued
    cases ended with
    | error e =>
      rw [breaks_bind_error hr, ← breaks_iff hr, hbreaks, hhead,
        Outcome.succeeds_of_error hresult.symm]
      simp
    | ok result =>
      have hdenied : u.outcome ≠ .denied := by
        intro hd
        rw [hd] at hresult
        cases hresult
      rw [breaks_bind_ok hr, ← Outcome.succeeds_of_ok hresult.symm, ← hissued.outcome]
      simp only [hdenied, false_and, false_or]
      cases hk : result.ok with
      | false =>
        refine iff_of_false (Sound.throw ?_ v failure) fun h => ?_
        · intro hk
          cases hk
        · cases h.1
      | true =>
        by_cases hd : pipeline.settings.schemaDump = some true
        · simp only [hd, true_and]
          exact (breaks_bind_ok (run_log ..)).trans
            ((breaks_bind fun _ => .pure _).trans Atlas.breaks_dumpSchema)
        · simp only [hd, false_and, and_false]
          exact iff_of_false (Sound.pure _ v failure) id

end Pipeline

end SchemaPlan
