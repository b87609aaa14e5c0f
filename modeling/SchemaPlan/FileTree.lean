import SchemaPlan.Path
import SchemaPlan.Text.Quoted

namespace SchemaPlan

inductive Entry
  | file (content : List UInt8)
  | directory
  deriving DecidableEq

/-- What may be done at a place: names looked up in a directory, a file read or a directory listed,
and entries added to a directory. -/
inductive Access
  | search
  | read
  | add
  deriving DecidableEq

/-- Entries by their place, the names on the way from the root, which is a directory itself. What
may not be done is kept for places that are yet to be filled, too. -/
structure FileTree where
  entries : List (List String × Entry) := []
  denied : List (List String × Access) := []
  deriving DecidableEq

namespace FileTree

inductive Fault
  | notFound
  | accessDenied
  | alreadyThere
  | notADirectory
  | isADirectory
  | nameTooLong
  | nulCharacter
  | nestedTooDeep
  deriving DecidableEq

def Fault.message (path : String) : Fault → String
  | .notFound => s!"[Errno 2] No such file or directory: {quoted path}"
  | .accessDenied => s!"[Errno 13] Permission denied: {quoted path}"
  | .alreadyThere => s!"[Errno 17] File exists: {quoted path}"
  | .notADirectory => s!"[Errno 20] Not a directory: {quoted path}"
  | .isADirectory => s!"[Errno 21] Is a directory: {quoted path}"
  | .nameTooLong => s!"[Errno 36] File name too long: {quoted path}"
  | .nulCharacter => "embedded null byte"
  | .nestedTooDeep => "maximum recursion depth exceeded"

def maxNameBytes : Nat := 255

def maxPathBytes : Nat := 4095

/-- How many directories are made on the way to another. -/
def maxNesting : Nat := 980

def allows (t : FileTree) (place : List String) (access : Access) : Bool :=
  (place, access) ∉ t.denied

def get? (t : FileTree) (place : List String) : Option Entry :=
  if place = [] then some .directory else t.entries.lookup place

/-- Follows names from a place on; all but the last have to be directories that may be searched. -/
def walk (t : FileTree) (place : List String) : List String → Except Fault (List String)
  | [] => .ok place
  | name :: rest =>
    match t.get? place with
    | none => .error .notFound
    | some (.file _) => .error .notADirectory
    | some .directory =>
      if !t.allows place .search then .error .accessDenied
      else if name = ".." then t.walk place.dropLast rest
      else if name.utf8ByteSize > maxNameBytes then .error .nameTooLong
      else t.walk (place ++ [name]) rest

/-- The place that a path denotes for a program that runs in a directory; a path without names
stands for a dot, which is looked up in that directory. -/
def locate (t : FileTree) (directory : List String) (path : Path) : Except Fault (List String) :=
  let text := path.text
  if text.toList.contains '\x00' then .error .nulCharacter
  else if text.utf8ByteSize > maxPathBytes then .error .nameTooLong
  else if path.names = [] ∧ !path.isAbsolute ∧ !t.allows directory .search then
    .error .accessDenied
  else t.walk (if path.isAbsolute then [] else directory) path.names

def find? (t : FileTree) (directory : List String) (path : Path) : Except Fault (Option Entry) :=
  return t.get? (← t.locate directory path)

def read (t : FileTree) (directory : List String) (path : Path) : Except Fault (List UInt8) := do
  let place ← t.locate directory path
  match t.get? place with
  | none => throw .notFound
  | some entry =>
    if !t.allows place .read then throw .accessDenied
    match entry with
    | .directory => throw .isADirectory
    | .file content => return content

def add (t : FileTree) (place : List String) (entry : Entry) : Except Fault FileTree :=
  match t.get? place with
  | some _ => .error .alreadyThere
  | none =>
    if t.allows place.dropLast .add then .ok { t with entries := t.entries ++ [(place, entry)] }
    else .error .accessDenied

def create (t : FileTree) (directory : List String) (path : Path) (content : List UInt8) :
    Except Fault FileTree := do
  t.add (← t.locate directory path) (.file content)

def makeDirectory (t : FileTree) (directory : List String) (path : Path) :
    Except Fault FileTree := do
  t.add (← t.locate directory path) .directory

/-- Whether a path denotes an entry of the kind asked for; a path that cannot be followed does
not, unless it is too long to be tried or leads through a directory that may not be searched. -/
def denotes (t : FileTree) (directory : List String) (path : Path) (is : Entry → Bool) :
    Except Fault Bool :=
  match t.find? directory path with
  | .ok entry => .ok (entry.any is)
  | .error .nameTooLong => .error .nameTooLong
  | .error .accessDenied => .error .accessDenied
  | .error _ => .ok false

def isFile (t : FileTree) (directory : List String) (path : Path) : Except Fault Bool :=
  t.denotes directory path fun | .file _ => true | .directory => false

def isDirectory (t : FileTree) (directory : List String) (path : Path) : Except Fault Bool :=
  t.denotes directory path fun | .file _ => false | .directory => true

def ensureLast (t : FileTree) (directory : List String) (path : Path) : FileTree × Option Fault :=
  match t.makeDirectory directory path with
  | .ok t => (t, none)
  | .error .nulCharacter => (t, some .nulCharacter)
  | .error fault =>
    match t.isDirectory directory path with
    | .ok true => (t, none)
    | .ok false => (t, some fault)
    | .error fault => (t, some fault)

/-- Makes a directory and at most so many on the way to it, given as the path to each, the outermost
last. Directories that could be made stay when another could not. -/
def ensureAll (t : FileTree) (directory : List String) :
    Nat → Path → List Path → FileTree × Path × Option Fault
  | nesting, path, outer =>
    match t.makeDirectory directory path, nesting, outer with
    | .error .notFound, 0, _ :: _ => (t, path, some .nestedTooDeep)
    | .error .notFound, nesting + 1, parent :: further =>
      match t.ensureAll directory nesting parent further with
      | (t, _, none) =>
        let (t, fault) := t.ensureLast directory path
        (t, path, fault)
      | failed => failed
    | _, _, _ =>
      let (t, fault) := t.ensureLast directory path
      (t, path, fault)

def outerPaths (path : Path) : List Path :=
  (List.range path.names.length).map fun k =>
    { path with names := path.names.take (path.names.length - 1 - k) }

def ensureDirectory (t : FileTree) (directory : List String) (path : Path) :
    FileTree × Path × Option Fault :=
  t.ensureAll directory maxNesting path (outerPaths path)

def namesIn (t : FileTree) (place : List String) : List String :=
  t.entries.filterMap fun entry =>
    if entry.1.dropLast = place then entry.1.getLast? else none

def list (t : FileTree) (directory : List String) (path : Path) : Except Fault (List String) := do
  let place ← t.locate directory path
  match t.get? place with
  | some .directory => if t.allows place .read then return t.namesIn place else throw .accessDenied
  | some (.file _) => throw .notADirectory
  | none => throw .notFound

/-- Puts an entry in place of what is there, with the directories on the way to it. -/
def put (t : FileTree) (place : List String) (entry : Entry) : FileTree :=
  let onTheWay := (List.range place.length).map place.take
  let missing := onTheWay.filter fun outer => t.get? outer = none
  let kept := t.entries.filter fun old => old.1 ≠ place
  { t with entries := kept ++ missing.map (·, .directory) ++ [(place, entry)] }

def remove (t : FileTree) (place : List String) : FileTree :=
  { t with entries := t.entries.filter fun old => !place.isPrefixOf old.1 }

def below (t : FileTree) (place : List String) : List (List String × Entry) :=
  t.entries.filterMap fun entry =>
    if place.isPrefixOf entry.1 && entry.1 ≠ place then
      some (entry.1.drop place.length, entry.2)
    else none

end FileTree

end SchemaPlan
