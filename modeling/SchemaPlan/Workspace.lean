import SchemaPlan.Calendar.Moment
import SchemaPlan.Failure
import SchemaPlan.Migration.Artifact

namespace SchemaPlan

/-- What a command does that is to be run. Its output is text that was decoded already; a command
that cannot be started for another reason than these two, and one whose output is no text, are left
out. -/
inductive Outcome
  | finished (output errors : Option String) (status : Int)
  | missing
  | denied
  deriving DecidableEq

structure Invocation where
  words : List String
  directory : Option String
  deriving DecidableEq

inductive Event
  | logged (entry : LogRecord)
  | printed (text : String)
  | reported (text : String)
  deriving DecidableEq

inductive Clock
  | time (moment : Moment)
  | wrong (fault : Moment.Fault)
  deriving DecidableEq

def Clock.ofFields (year month day hour minute second : Int) : Clock :=
  match Moment.make year month day hour minute second with
  | .ok moment => .time moment
  | .error fault => .wrong fault

structure Workspace where
  tree : FileTree
  /-- The place of the working directory in the tree. -/
  directory : List String
  assignments : List (String × String)
  clock : Clock
  /-- What the next commands will do; those beyond succeed in silence. -/
  outcomes : List Outcome := []
  invocations : List Invocation := []
  events : List Event := []
  deriving DecidableEq

/-- A run in a workspace, which a failure may end. -/
abbrev Session := ExceptT Failure (StateM Workspace)

namespace Session

def happened (event : Event) : Session Unit :=
  modify fun w => { w with events := w.events ++ [event] }

def log (severity : Severity) (message : String) : Session Unit :=
  happened (.logged ⟨severity, message⟩)

def printLine (text : String) : Session Unit := happened (.printed (text ++ "\n"))

def reportLine (text : String) : Session Unit := happened (.reported (text ++ "\n"))

def ofLogged (x : Logged α) : Session α := do
  modify fun w => { w with events := w.events ++ x.records.map .logged }
  return x.value

def ofRendering (x : Rendering α) : Session α := do
  match ← ofLogged x.run with
  | .ok a => return a
  | .error fault => throw (.numeral fault)

def now : Session Moment := do
  match (← get).clock with
  | .time moment => return moment
  | .wrong fault => throw (.clock fault)

def invoke (invocation : Invocation) : Session Outcome := do
  let w ← get
  set { w with outcomes := w.outcomes.tail, invocations := w.invocations ++ [invocation] }
  return w.outcomes.headD (.finished (some "") (some "") 0)

end Session

namespace TypeMapping

def load (path : Path) (base : TypeMapping := standard) : Session TypeMapping := do
  let w ← get
  match w.tree.read w.directory path with
  | .error .nulCharacter => throw (.file path.text .nulCharacter)
  | .error fault => throw (.typeMapUnreadable path.text fault)
  | .ok content =>
    match ofFile base content with
    | .ok mapping => return mapping
    | .error fault => throw (.typeMap path.text fault)

end TypeMapping

namespace Settings

def check (settings : Settings) : Session Unit := do
  let w ← get
  match settings.problems w.tree w.directory with
  | .error fault => throw (.file ((settings.typeMapPath.map (Path.ofString · |>.text)).getD "") fault)
  | .ok [] => return ()
  | .ok problems => throw (.badSettings problems)

def checked (explicit : Overrides) : Session Settings := do
  let settings := resolve (← get).assignments explicit
  settings.check
  return settings

end Settings

end SchemaPlan
