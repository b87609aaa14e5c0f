import SchemaPlan.Workspace

namespace SchemaPlan

/-- A directory of migrations. A migration gets the first free version at or after the time of the
clock, whatever its slug, and no file is ever overwritten. -/
structure MigrationStore where
  directory : Path
  deriving DecidableEq

structure StoredMigration where
  version : String
  path : Path
  artifact : Artifact
  deriving DecidableEq

namespace StoredMigration

def fileName (migration : StoredMigration) : String := migration.path.name

end StoredMigration

namespace MigrationStore

def maxAttempts : Nat := 60

def ending : List Char := ".rb".toList

def pathFor (store : MigrationStore) (version slug : String) : Path :=
  (Path.ofString (version ++ "_" ++ slug ++ .ofList ending)).within store.directory

def hasVersion (version : List Char) (name : List Char) : Bool :=
  let start := version ++ ['_']
  start.isPrefixOf name && ending.isSuffixOf (name.drop start.length)

/-- Whether a migration of a version is seen; a directory that may not be listed shows none. -/
def isTaken (store : MigrationStore) (w : Workspace) (version : List Char) : Bool :=
  match w.tree.list w.directory store.directory with
  | .ok names => names.any fun name => hasVersion version name.toList
  | .error _ => false

/-- Stores an artifact under the version of a moment, unless that version is in use. Of a source
that cannot be encoded, an empty file is left. -/
def tryVersion (store : MigrationStore) (artifact : Artifact) (moment : Moment)
    (flaw : Option Flaw) : Session (Option StoredMigration) := do
  let content := if flaw.isNone then artifact.content.toUTF8.toList else []
  let version := moment.stamp
  let path := store.pathFor (.ofList version) artifact.slug
  let w ← get
  if store.isTaken w version then
    Session.log .debug s!"Version {String.ofList version} already in use, trying the next second"
    return none
  else match w.tree.create w.directory path content with
    | .ok tree =>
      set { w with tree }
      flaw.forM fun flaw => throw (.notEncodable flaw)
      Session.log .info s!"Wrote migration {path.text}"
      return some ⟨.ofList version, path, artifact⟩
    | .error .alreadyThere =>
      Session.log .debug s!"{path.name} already exists, trying the next second"
      return none
    | .error .nulCharacter => throw (.file path.text .nulCharacter)
    | .error fault => throw (.notWritten path.text fault)

def writeFrom (store : MigrationStore) (artifact : Artifact) (flaw : Option Flaw) :
    Nat → Moment → Session StoredMigration
  | 0, _ => throw (.noFreeVersion artifact.slug store.directory.text)
  | attempts + 1, moment => do
    match ← store.tryVersion artifact moment flaw with
    | some migration => return migration
    | none =>
      match moment.next? with
      | none => throw .calendarEnded
      | some moment => store.writeFrom artifact flaw attempts moment

def ensureDirectory (store : MigrationStore) : Session Unit := do
  let w ← get
  let (tree, path, fault) := w.tree.ensureDirectory w.directory store.directory
  set { w with tree }
  match fault with
  | none => return ()
  | some .nulCharacter => throw (.file path.text .nulCharacter)
  | some .nestedTooDeep => throw (.file path.text .nestedTooDeep)
  | some fault => throw (.directoryNotMade store.directory.text path.text fault)

def write (store : MigrationStore) (artifact : Artifact) (flaw : Option Flaw) :
    Session StoredMigration := do
  store.ensureDirectory
  store.writeFrom artifact flaw maxAttempts (← Session.now)

end MigrationStore

end SchemaPlan
