import SchemaPlan.CommandLine.Switch
import SchemaPlan.Text.Quoted

namespace SchemaPlan.CommandLine

inductive Fault
  | ambiguous (word : String) (names : List String)
  | valueMissing (switch : Switch)
  | valueUnused (switch : Switch) (value : String)
  | commandMissing
  | commandUnknown (name : String)
  | unrecognized (words : List String)
  deriving DecidableEq

def Fault.message : Fault → String
  | .ambiguous word names =>
    s!"ambiguous option: {word} could match " ++ ", ".intercalate names
  | .valueMissing switch => s!"argument {switch.title}: expected one argument"
  | .valueUnused switch value =>
    s!"argument {switch.title}: ignored explicit argument " ++ quoted value
  | .commandMissing => "the following arguments are required: command"
  | .commandUnknown name =>
    s!"argument command: invalid choice: {quoted name} (choose from " ++
      ", ".intercalate (Command.all.flatMap fun command => command.names.map quoted) ++ ")"
  | .unrecognized words => "unrecognized arguments: " ++ " ".intercalate words

/-- A switch as it is used: under which name, and with which value or further letters behind it in
the same word. -/
structure Use where
  switch : Switch
  name : List Char
  value : Option (List Char) := none
  letters : List Char := []
  deriving DecidableEq

inductive Word
  | plain (text : String)
  | dashes
  /-- A word that looks like a switch, and the use that it stands for if it is known. -/
  | dashed (text : String) (use : Option Use)
  deriving DecidableEq

namespace Word

def text : Word → String
  | .plain text => text
  | .dashes => "--"
  | .dashed text _ => text

def splitValue (word : List Char) : List Char × Option (List Char) :=
  (word.takeWhile (· ≠ '='), (word.dropWhile (· ≠ '=')).tail?)

/-- A negative number, which is no switch; one line feed may follow it. -/
def isNegativeNumber : List Char → Bool
  | '-' :: s =>
    let whole := s.takeWhile Text.isDecimal
    let ends (s : List Char) := s = [] || s = ['\n']
    match s.dropWhile Text.isDecimal with
    | '.' :: s => (s.head?.any Text.isDecimal) && ends (s.dropWhile Text.isDecimal)
    | s => !whole.isEmpty && ends s
  | _ => false

/-- The uses that a word may be short for: a long name cut short, or a letter with more behind. -/
def abbreviated (switches : List Switch) : List Char → List Use
  | '-' :: '-' :: rest =>
    let (start, value) := splitValue ('-' :: '-' :: rest)
    switches.flatMap fun switch =>
      (switch.names.filter (start.isPrefixOf ·.toList)).map fun name =>
        { switch, name := name.toList, value }
  | '-' :: letter :: more =>
    let name := ['-', letter]
    (Switch.named? switches name).toList.map fun switch => { switch, name, letters := more }
  | _ => []

def inFull? (switches : List Switch) (word : List Char) : Option Use :=
  match Switch.named? switches word with
  | some switch => some { switch, name := word }
  | none => do
    let (name, value) := splitValue word
    let value ← value
    let switch ← Switch.named? switches name
    return { switch, name, value := some value }

def readDashed (switches : List Switch) (text : String) : Except Fault Word :=
  let word := text.toList
  match inFull? switches word with
  | some use => .ok (.dashed text (some use))
  | none =>
    match abbreviated switches word with
    | [use] => .ok (.dashed text (some use))
    | [] =>
      if isNegativeNumber word || word.contains ' ' then .ok (.plain text)
      else .ok (.dashed text none)
    | uses => .error (.ambiguous text (uses.map fun use => .ofList use.name))

def readList (switches : List Switch) : List String → Except Fault (List Word)
  | [] => .ok []
  | text :: rest =>
    if text = "--" then .ok (.dashes :: rest.map .plain)
    else do
      let word ←
        match text.toList with
        | '-' :: _ :: _ => readDashed switches text
        | _ => .ok (.plain text)
      return word :: (← readList switches rest)

end Word

/-- The switches in a word such as `-vh`: a first one, and the letters behind it. -/
def clustered (switches : List Switch) (first : Switch) : List Char → Except Fault (List Switch)
  | [] => .ok [first]
  | letter :: more =>
    match Switch.named? switches ['-', letter] with
    | none => .error (.valueUnused first (.ofList (letter :: more)))
    | some next => return first :: (← clustered switches next more)

structure Options where
  verbose : Bool := false
  name : Option String := none
  overrides : Overrides := {}
  unrecognized : List String := []
  deriving DecidableEq

/-- Why a command line is not run. -/
inductive Stop
  | help (place : Place)
  | refused (place : Place) (fault : Fault)
  deriving DecidableEq

def ofFault (place : Place) (x : Except Fault α) : Except Stop α := x.mapError (.refused place)

namespace Options

def ignore (options : Options) (words : List String) : Options :=
  { options with unrecognized := options.unrecognized ++ words }

def turn (options : Options) (place : Place) : Switch → Except Stop Options
  | .help => .error (.help place)
  | .verbose => .ok { options with verbose := true }
  | .skipSchemaDump =>
    .ok { options with overrides := { options.overrides with schemaDump := some false } }
  | _ => .ok options

/-- A later value replaces an earlier one. -/
def set (options : Options) (switch : Switch) (value : String) : Options :=
  let overrides := options.overrides
  let overrides :=
    match switch with
    | .environment => { overrides with environment := some value }
    | .projectRoot => { overrides with projectRoot := some value }
    | .migrationsDirectory => { overrides with migrationsDirectory := some value }
    | .frameworkVersion => { overrides with frameworkVersion := some value }
    | .typeMapPath => { overrides with typeMapPath := some value }
    | .atlasCommand => { overrides with atlasCommand := some value }
    | _ => overrides
  { options with overrides }

def turnAll (options : Options) (place : Place) (use : Use) : Except Stop Options :=
  match use.value with
  | some value => .error (.refused place (.valueUnused use.switch (.ofList value)))
  | none => do
    let switches ← ofFault place (clustered place.switches use.switch use.letters)
    switches.foldlM (fun options switch => options.turn place switch) options

end Options

def readArguments (command : Command) : List Word → Options → Except Stop Options
  | [], options => .ok options
  | .plain text :: rest, options =>
    if command.takesName && options.name.isNone then
      let options := { options with name := some text }
      match rest with
      | .dashes :: rest => readArguments command rest options
      | rest => readArguments command rest options
    else readArguments command rest (options.ignore [text])
  | .dashes :: rest, options =>
    if command.takesName && options.name.isNone then readArguments command rest options
    else readArguments command rest (options.ignore ["--"])
  | .dashed text none :: rest, options => readArguments command rest (options.ignore [text])
  | .dashed _ (some use) :: rest, options =>
    if use.switch.takesValue then
      match use.value, rest with
      | some value, rest => readArguments command rest (options.set use.switch (.ofList value))
      | none, .plain value :: rest => readArguments command rest (options.set use.switch value)
      | none, _ => .error (.refused (.within command) (.valueMissing use.switch))
    else do
      readArguments command rest (← options.turnAll (.within command) use)

def readProgram : List Word → Options → Except Stop (Command × Options)
  | [], _ => .error (.refused .program .commandMissing)
  | [.dashes], _ => .error (.refused .program .commandMissing)
  | .dashes :: _, _ => .error (.refused .program (.commandUnknown "--"))
  | .plain text :: rest, options =>
    match Command.ofName? text with
    | none => .error (.refused .program (.commandUnknown text))
    | some command => do
      let place := Place.within command
      let words ← ofFault place (Word.readList place.switches (rest.map (·.text)))
      return (command, ← readArguments command words options)
  | .dashed text none :: rest, options => readProgram rest (options.ignore [text])
  | .dashed _ (some use) :: rest, options => do
    readProgram rest (← options.turnAll .program use)

/-- A command line that leaves no word unrecognized. -/
def read (words : List String) : Except Stop (Command × Options) := do
  let words ← ofFault .program (Word.readList Place.program.switches words)
  let (command, options) ← readProgram words {}
  if options.unrecognized = [] then return (command, options)
  else throw (.refused .program (.unrecognized options.unrecognized))

end SchemaPlan.CommandLine
