import Mathlib
import SchemaPlan.Workspace

namespace SchemaPlan

def Event.printed? : Event → Option String
  | .printed text => some text
  | _ => none

/-- A failure that lies neither in the settings nor in a source that cannot be encoded. -/
structure Failure.Plain (failure : Failure) : Prop where
  concern : failure.concern ≠ .settings
  encodable : ∀ flaw, failure ≠ .notEncodable flaw

namespace Workspace

def silent (w : Workspace) : Workspace := { w with events := [] }

def shown (w : Workspace) : List String := w.events.filterMap Event.printed?

/-- What neither a command nor an entry in the log touches. -/
def scene (w : Workspace) : FileTree × List String × List String := (w.tree, w.directory, w.shown)

def adding (w : Workspace) (events : List Event) : Workspace :=
  { w with events := w.events ++ events }

def printing (w : Workspace) (texts : List String) : Workspace :=
  w.adding (texts.map fun text => .printed (text ++ "\n"))

/-- A workspace as it would be if there had been earlier events. -/
def after (w : Workspace) (events : List Event) : Workspace :=
  { w with events := events ++ w.events }

variable (w : Workspace)

@[simp] theorem tree_after (events : List Event) : (w.after events).tree = w.tree := rfl

@[simp] theorem directory_after (events : List Event) :
    (w.after events).directory = w.directory := rfl

@[simp] theorem clock_after (events : List Event) : (w.after events).clock = w.clock := rfl

theorem shown_adding (events : List Event) :
    (w.adding events).shown = w.shown ++ events.filterMap Event.printed? :=
  List.filterMap_append

@[simp] theorem shown_printing (texts : List String) :
    (w.printing texts).shown = w.shown ++ texts.map (· ++ "\n") := by
  have hp : (Event.printed? ∘ fun text => Event.printed (text ++ "\n")) =
      some ∘ fun text => text ++ "\n" := rfl
  rw [printing, shown_adding, List.filterMap_map, hp, List.filterMap_eq_map]

@[simp] theorem shown_logged (records : List LogRecord) :
    (w.adding (records.map .logged)).shown = w.shown := by
  rw [shown_adding, List.filterMap_map]
  simp [Function.comp_def, Event.printed?]

theorem printing_nil : w.printing [] = w := by
  simp [printing, adding]

theorem printing_printing (first second : List String) :
    (w.printing first).printing second = w.printing (first ++ second) := by
  simp [printing, adding]

theorem eq_of_silent {v w : Workspace} (h : v.silent = w.silent) :
    v.tree = w.tree ∧ v.directory = w.directory ∧ v.invocations = w.invocations := by
  have ht := congrArg Workspace.tree h
  have hd := congrArg Workspace.directory h
  have hi := congrArg Workspace.invocations h
  exact ⟨ht, hd, hi⟩

theorem silent_after_events : w.silent.after w.events = w := by
  simp [silent, after]

end Workspace

namespace Session

variable {w w' : Workspace}

theorem run_get_bind (f : Workspace → Session α) (w : Workspace) :
    (get >>= f : Session α).run.run w = (f w).run.run w := rfl

theorem run_bind_ok {x : Session α} {f : α → Session β} (h : x.run.run w = (.ok a, w')) :
    (x >>= f).run.run w = (f a).run.run w' := by
  rw [ExceptT.run_bind, StateT.run_bind, h]
  rfl

theorem run_bind_error {x : Session α} {f : α → Session β} (h : x.run.run w = (.error e, w')) :
    (x >>= f).run.run w = (.error e, w') := by
  rw [ExceptT.run_bind, StateT.run_bind, h]
  rfl

theorem run_discard (x : Session α) (w : Workspace) :
    ((do let _ ← x : Session Unit).run.run w).2 = (x.run.run w).2 := by
  cases h : x.run.run w with
  | mk result w' =>
    cases result with
    | error e => rw [run_bind_error h]
    | ok a =>
      rw [run_bind_ok h]
      rfl

theorem ok_of_bind {x : Session α} {f : α → Session β}
    (h : (x >>= f).run.run w = (.ok b, w')) :
    ∃ a u, x.run.run w = (.ok a, u) ∧ (f a).run.run u = (.ok b, w') := by
  cases hx : x.run.run w with
  | mk result u =>
    cases result with
    | error e =>
      rw [run_bind_error hx] at h
      cases h
    | ok a =>
      rw [run_bind_ok hx] at h
      exact ⟨a, u, rfl, h⟩

theorem run_tryCatch_ok {x : Session α} {handler : Failure → Session α}
    (h : x.run.run w = (.ok a, w')) : (tryCatch x handler).run.run w = (.ok a, w') := by
  rw [ExceptT.run_tryCatch, StateT.run_bind, h]
  rfl

theorem run_tryCatch_error {x : Session α} {handler : Failure → Session α}
    (h : x.run.run w = (.error e, w')) :
    (tryCatch x handler).run.run w = (handler e).run.run w' := by
  rw [ExceptT.run_tryCatch, StateT.run_bind, h]
  rfl

theorem run_log (severity : Severity) (message : String) (w : Workspace) :
    (log severity message).run.run w =
      (.ok (), w.adding ([⟨severity, message⟩].map .logged)) := rfl

theorem run_printLine (text : String) (w : Workspace) :
    (printLine text).run.run w = (.ok (), w.printing [text]) := rfl

theorem run_forM_printLine (f : α → String) (as : List α) (w : Workspace) :
    (as.forM fun a => printLine (f a)).run.run w = (.ok (), w.printing (as.map f)) := by
  induction as generalizing w with
  | nil =>
    rw [List.map_nil, Workspace.printing_nil]
    rfl
  | cons a as ih =>
    rw [List.forM, run_bind_ok (run_printLine _ _), ih, Workspace.printing_printing]
    rfl

/-- A run leaves a view of the workspace as it is, however it ends. -/
def Keeps (view : Workspace → β) (x : Session α) : Prop := ∀ w, view (x.run.run w).2 = view w

namespace Keeps

variable {view : Workspace → β}

theorem pure (a : α) : Keeps view (Pure.pure a : Session α) := fun _ => rfl

theorem throw (failure : Failure) : Keeps view (MonadExcept.throw failure : Session α) :=
  fun _ => rfl

theorem bind {x : Session α} {f : α → Session γ} (hx : Keeps view x) (hf : ∀ a, Keeps view (f a)) :
    Keeps view (x >>= f) := by
  intro w
  cases h : x.run.run w with
  | mk result w' =>
    have hw := hx w
    rw [h] at hw
    cases result with
    | error e => rw [run_bind_error h, hw]
    | ok a => rw [run_bind_ok h, hf a w', hw]

theorem get_bind {f : Workspace → Session α} (h : ∀ w, view ((f w).run.run w).2 = view w) :
    Keeps view (get >>= f) := h

theorem forM {f : α → Session PUnit} (h : ∀ a, Keeps view (f a)) (as : List α) :
    Keeps view (as.forM f) := by
  induction as with
  | nil => exact pure _
  | cons a as ih => exact bind (h a) fun _ => ih

theorem comp {x : Session α} (h : Keeps view x) (f : β → γ) : Keeps (fun w => f (view w)) x :=
  fun w => congrArg f (h w)

end Keeps

/-- A property of runs that goes over from the steps to the whole. -/
structure Closed (P : ∀ {α : Type}, Session α → Prop) : Prop where
  pure : ∀ {α : Type} (a : α), P (Pure.pure a : Session α)
  throw : ∀ {α : Type} (failure : Failure), P (MonadExcept.throw failure : Session α)
  bind : ∀ {α β : Type} {x : Session α} {f : α → Session β}, P x → (∀ a, P (f a)) → P (x >>= f)

theorem Keeps.closed (view : Workspace → β) : Closed fun {α} (x : Session α) => Keeps view x :=
  ⟨.pure, .throw, .bind⟩

def FailsPlainly (x : Session α) : Prop := ∀ w e, (x.run.run w).1 = .error e → e.Plain

namespace FailsPlainly

theorem pure (a : α) : FailsPlainly (Pure.pure a : Session α) := nofun

theorem throw {failure : Failure} (h : failure.Plain) :
    FailsPlainly (MonadExcept.throw failure : Session α) := by
  intro w e he
  cases he
  exact h

theorem bind {x : Session α} {f : α → Session β} (hx : FailsPlainly x)
    (hf : ∀ a, FailsPlainly (f a)) : FailsPlainly (x >>= f) := by
  intro w e he
  cases h : x.run.run w with
  | mk result w' =>
    cases result with
    | error e' =>
      rw [run_bind_error h] at he
      cases he
      exact hx w _ (by rw [h])
    | ok a =>
      rw [run_bind_ok h] at he
      exact hf a w' e he

theorem printLine (text : String) : FailsPlainly (printLine text) := by
  intro w e he
  rw [run_printLine] at he
  cases he

end FailsPlainly

/-- Earlier events play no part in a run; they only stand in front of those that come. -/
def Blind (x : Session α) : Prop :=
  ∀ w events, x.run.run (w.after events) = ((x.run.run w).1, (x.run.run w).2.after events)

namespace Blind

theorem pure (a : α) : Blind (Pure.pure a : Session α) := fun _ _ => rfl

theorem throw (failure : Failure) : Blind (MonadExcept.throw failure : Session α) := fun _ _ => rfl

theorem bind {x : Session α} {f : α → Session β} (hx : Blind x) (hf : ∀ a, Blind (f a)) :
    Blind (x >>= f) := by
  intro w events
  have hw := hx w events
  cases h : x.run.run w with
  | mk result w' =>
    rw [h] at hw
    cases result with
    | error e => rw [run_bind_error h, run_bind_error hw]
    | ok a => rw [run_bind_ok h, run_bind_ok hw, hf a w' events]

theorem closed : Closed fun {α} (x : Session α) => Blind x := ⟨pure, throw, bind⟩

theorem get_bind {f : Workspace → Session α}
    (h : ∀ w events, (f (w.after events)).run.run (w.after events) =
      (((f w).run.run w).1, ((f w).run.run w).2.after events)) : Blind (get >>= f) := h

theorem log (severity : Severity) (message : String) : Blind (log severity message) :=
  fun w events => by
    rw [run_log, run_log]
    simp [Workspace.adding, Workspace.after]

theorem alike {x : Session α} {v v' : Workspace} (h : Blind x) (hv : v'.silent = v.silent)
    (hw : x.run.run v = (result, w)) :
    ∃ w', x.run.run v' = (result, w') ∧ w'.silent = w.silent := by
  have from_silent (u : Workspace) := h u.silent u.events
  simp only [Workspace.silent_after_events] at from_silent
  have hv' := from_silent v'
  rw [hv] at hv'
  rw [from_silent v] at hw
  cases hw
  exact ⟨_, hv', rfl⟩

end Blind

end Session

end SchemaPlan
