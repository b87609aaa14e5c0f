import SchemaPlan.Text.LetterCase
import SchemaPlan.Yaml.Node
import SchemaPlan.Yaml.Token.Stream
import SchemaPlan.Yaml.Value

namespace SchemaPlan.Yaml

/-- Bytes from text in groups of six bits; other characters are passed over. -/
def base64Value? (c : Char) : Option Nat :=
  if 'A' ≤ c ∧ c ≤ 'Z' then some (c.toNat - 'A'.toNat)
  else if 'a' ≤ c ∧ c ≤ 'z' then some (c.toNat - 'a'.toNat + 26)
  else if c.isDigit then some (c.toNat - '0'.toNat + 52)
  else if c = '+' then some 62
  else if c = '/' then some 63
  else none

/-- `place` counts the characters of a group of four, of which the last `kept` bits are still to be
written; `pads` counts the padding that follows them. -/
def decodeBase64 (place kept pads : Nat) : List Char → Except Fault (List UInt8)
  | [] => if place = 0 then .ok [] else .error .malformed
  | c :: rest =>
    if c = '=' then
      if 2 ≤ place ∧ 4 ≤ place + pads + 1 then .ok []
      else decodeBase64 place kept (if 2 ≤ place then pads + 1 else pads) rest
    else match base64Value? c with
      | none => decodeBase64 place kept pads rest
      | some v =>
        match place with
        | 0 => decodeBase64 1 v 0 rest
        | 1 => (decodeBase64 2 (v % 16) 0 rest).map ((kept * 4 + v / 16).toUInt8 :: ·)
        | 2 => (decodeBase64 3 (v % 4) 0 rest).map ((kept * 16 + v / 4).toUInt8 :: ·)
        | _ => (decodeBase64 0 0 0 rest).map ((kept * 64 + v).toUInt8 :: ·)

namespace Scalar

def withoutUnderscores (letters : List Letter) : List Letter := letters.filter (· ≠ .char '_')

def sexagesimal (groups : List Int) : Int := groups.foldl (fun n g => n * 60 + g) 0

def readWhole (base : Nat) (letters : List Letter) : Except Fault Int :=
  (Numeral.read base (Letter.readings letters)).mapError fun
    | .malformed base _ => .notAWhole base letters
    | fault => .numeral fault

def unsignedWhole : List Letter → Except Fault Int
  | [] => .error .emptyNumber
  | [.char '0'] => .ok 0
  | .char '0' :: .char 'b' :: digits => readWhole 2 digits
  | .char '0' :: .char 'x' :: digits => readWhole 16 digits
  | .char '0' :: digits => readWhole 8 (.char '0' :: digits)
  | s =>
    if s.contains (.char ':') then do
      return sexagesimal (← (Text.splitOn (.char ':') s).mapM (readWhole 10))
    else readWhole 10 s

def signed : List Letter → Except Fault (Bool × List Letter)
  | [] => .error .emptyNumber
  | .char '-' :: rest => .ok (true, rest)
  | .char '+' :: rest => .ok (false, rest)
  | s => .ok (false, s)

def whole (letters : List Letter) : Except Fault Value := do
  let (negative, body) ← signed (withoutUnderscores letters)
  let n ← unsignedWhole body
  return .whole (if negative then -n else n)

def exponentOf : List Char → Option Int
  | [] => some 0
  | 'e' :: rest =>
    let (negative, digits) := Numeral.takeSign rest
    if digits.isEmpty || !digits.all Char.isDigit then none
    else
      let n : Int := Numeral.ofDigits 10 (digits.filterMap (Numeral.digitInBase? 10))
      some (if negative then -n else n)
  | _ => none

def decimalFraction? (negative : Bool) (s : List Char) : Option Binary64 := do
  let whole := s.takeWhile Char.isDigit
  let rest := s.dropWhile Char.isDigit
  let (fraction, rest) :=
    match rest with
    | '.' :: rest => (rest.takeWhile Char.isDigit, rest.dropWhile Char.isDigit)
    | rest => ([], rest)
  guard !(whole ++ fraction).isEmpty
  let exponent ← exponentOf rest
  let digits := (whole ++ fraction).filterMap (Numeral.digitInBase? 10)
  return .ofDecimal negative (Numeral.ofDigits 10 digits) (exponent - fraction.length)

def readFloat (letters : List Letter) : Except Fault Binary64 :=
  let trimmed := (Numeral.asciiForm (Letter.readings letters)).dropWhile Numeral.isAsciiBlank
  let trimmed := (trimmed.reverse.dropWhile Numeral.isAsciiBlank).reverse
  let (negative, body) := Numeral.takeSign trimmed
  if body = "inf".toList ∨ body = "infinity".toList then .ok (.infinite negative)
  else if body = "nan".toList then .ok .nan
  else match decimalFraction? negative body with
    | some x => .ok x
    | none => .error (.notAFloat letters)

def floatGroups : Nat → Binary64 → List Binary64 → Except Fault Binary64
  | _, sum, [] => .ok sum
  | unit, sum, group :: more =>
    match Binary64.round false unit 0 with
    | .infinite _ => .error .wholeTooLarge
    | u => floatGroups (unit * 60) (sum.add (group.mul u)) more

def unsignedFloat (letters : List Letter) : Except Fault Binary64 :=
  if Letter.readings letters = ".inf".toList then .ok (.infinite false)
  else if letters.contains (.char ':') then do
    floatGroups 1 .zero (← (Text.splitOn (.char ':') letters).mapM readFloat).reverse
  else readFloat letters

/-- The literal that stands for no number is one key, whatever its sign. -/
def float (node : Nat) (letters : List Letter) : Except Fault Value := do
  let (negative, body) ← signed (Letter.lower [] (withoutUnderscores letters))
  if Letter.readings body = ".nan".toList then return .float .nan
  match ← unsignedFloat body with
  | .nan => return .undefined node
  | x => return .float (if negative then x.neg else x)

def boolean (letters : List Letter) : Except Fault Value :=
  let lower := Letter.lower [] letters
  let word := String.ofList (Letter.readings lower)
  if ["yes", "true", "on"].contains word then .ok (.boolean true)
  else if ["no", "false", "off"].contains word then .ok (.boolean false)
  else .error (.notABoolean lower)

def binary (letters : List Letter) : Except Fault Value :=
  let s := Letter.readings letters
  if s.all (·.toNat < 128) then (decodeBase64 0 0 0 s).map .bytes
  else .error .malformed

def number (digits : List Char) : Nat :=
  Numeral.ofDigits 10 (digits.filterMap (Numeral.digitInBase? 10))

def microseconds (fraction : List Char) : Nat :=
  let digits := fraction.take 6
  number (digits ++ List.replicate (6 - digits.length) '0')

def offset : Option (Char × List Char × List Char) → Except Fault Int
  | none => .ok 0
  | some (sign, hours, minutes) =>
    let total : Int := number hours * 60 + number minutes
    let total := if sign = '-' then -total else total
    if total.natAbs < 1440 then .ok total else .error (.offsetOutOfRange total)

def timestamp (letters : List Letter) : Except Fault Value := do
  match TimeFields.read? (notationText (Letter.readings letters)) with
  | none => throw .notATimestamp
  | some fields =>
    let (year, month, day) := (number fields.year, number fields.month, number fields.day)
    match fields.hour with
    | none =>
      let date ← (Date.make year month day).mapError fun fault => .moment (.date fault)
      return .date date
    | some (hour, minute, second) =>
      let offset ← fields.offset.mapM offset
      let moment ← (Moment.make year month day (number hour) (number minute)
        (number second)).mapError .moment
      return .time { moment, microsecond := microseconds fields.fraction, offset }

end Scalar

namespace Value

inductive Content
  | list (node : Nat)
  | mapping (node : Nat)
  | set (node : Nat)
  | pairs (node : Nat)

structure Builder where
  nodes : Array Node
  containers : Array Container := #[]
  /-- The values of the nodes that are built or begun. -/
  built : Array (Option Value)
  /-- Containers still to be filled, in order, and behind them further ones, the last one first. -/
  pending : List (Nat × Content) := []
  later : List (Nat × Content) := []

abbrev Build := StateT Builder (Except Fault)

def reject : Build α := throw .malformed

def node (id : Nat) : Build Node := return (← get).nodes.getD id default

def tagOf : Node → String
  | .scalar tag _ => tag
  | .sequence tag _ => tag
  | .mapping tag _ => tag

def isMergeKey (nodes : Array Node) (id : Nat) : Bool :=
  tagOf (nodes.getD id default) = standardTag "merge"

def isValueTagged (nodes : Array Node) (id : Nat) : Bool :=
  tagOf (nodes.getD id default) = standardTag "value"

/-- The letters of a scalar; a mapping has those of its `=` entry. -/
def scalarLetters : Nat → Nat → Build (List Letter)
  | 0, _ => throw .nestedTooDeep
  | fuel + 1, id => do
    match ← node id with
    | .scalar _ s => return s
    | .sequence .. => reject
    | .mapping _ entries =>
      let nodes := (← get).nodes
      match entries.find? fun entry => isValueTagged nodes entry.1 with
      | some entry => scalarLetters fuel entry.2
      | none => reject

def begin (content : Content) (container : Container) : Build Value := do
  let id := (← get).containers.size
  modify fun b =>
    { b with
      containers := b.containers.push container
      later := (id, content) :: b.later }
  return .container id

def isScalar : Node → Bool
  | .scalar .. => true
  | _ => false

def ofNode (id : Nat) : Build Value := do
  if let some value := (← get).built.getD id none then return value
  let node ← node id
  let tag := tagOf node
  let scalar (read : List Letter → Except Fault Value) : Build Value := do
    read (← scalarLetters maxChain id)
  let value ←
    if tag = standardTag "null" then scalar fun _ => .ok .null
    else if tag = standardTag "bool" then scalar Scalar.boolean
    else if tag = standardTag "int" then scalar Scalar.whole
    else if tag = standardTag "float" then scalar (Scalar.float id)
    else if tag = standardTag "binary" then scalar Scalar.binary
    else if tag = standardTag "timestamp" then
      if isScalar node then scalar Scalar.timestamp
      else do
        let _ ← scalarLetters maxChain id
        throw .notText
    else if tag = standardTag "str" then scalar fun letters => .ok (ofLetters letters)
    else if tag = standardTag "seq" then begin (.list id) (.list [])
    else if tag = standardTag "map" then begin (.mapping id) (.mapping [])
    else if tag = standardTag "set" then begin (.set id) (.set [])
    else if tag = standardTag "omap" ∨ tag = standardTag "pairs" then begin (.pairs id) (.pairs [])
    else reject
  modify fun b => { b with built := b.built.setIfInBounds id (some value) }
  return value

def withTag (tag : String) : Node → Node
  | .scalar _ s => .scalar tag s
  | .sequence _ items => .sequence tag items
  | .mapping _ entries => .mapping tag entries

def setNode (id : Nat) (node : Node) : Build Unit :=
  modify fun b => { b with nodes := b.nodes.setIfInBounds id node }

def setEntries (id : Nat) (entries : List (Nat × Nat)) : Build Unit := do
  setNode id (.mapping (tagOf (← node id)) entries)

def mappingEntries (id : Nat) : Build (List (Nat × Nat)) := do
  match ← node id with
  | .mapping _ entries => return entries
  | _ => reject

def nextSpecial (nodes : Array Node) : List (Nat × Nat) → Option (Nat × Nat × Nat)
  | [] => none
  | (key, value) :: rest =>
    if isMergeKey nodes key || isValueTagged nodes key then some (0, key, value)
    else (nextSpecial nodes rest).map fun (i, entry) => (i + 1, entry)

mutual

/-- Puts the entries of merged mappings in front of a mapping's own; `depth` bounds how many more
mappings may be merged through one another. -/
def flatten (id depth : Nat) : Nat → Build Unit
  | 0 => reject
  | fuel + 1 => do
    if depth = 0 then throw .nestedTooDeep
    let merged ← mergedEntries id (depth - 1) fuel
    if !merged.isEmpty then setEntries id (merged ++ (← mappingEntries id))

def mergedEntries (id depth : Nat) : Nat → Build (List (Nat × Nat))
  | 0 => reject
  | fuel + 1 => do
    let entries ← mappingEntries id
    match nextSpecial (← get).nodes entries with
    | none => return []
    | some (i, key, value) =>
      if isMergeKey (← get).nodes key then
        setEntries id (entries.eraseIdx i)
        let brought ← broughtIn value depth fuel
        return brought ++ (← mergedEntries id depth fuel)
      else
        setNode key (withTag (standardTag "str") (← node key))
        mergedEntries id depth fuel

/-- The entries that a merge key brings in: those of a mapping, or of the mappings of a sequence, the
last one first. -/
def broughtIn (value depth : Nat) : Nat → Build (List (Nat × Nat))
  | 0 => reject
  | fuel + 1 => do
    match ← node value with
    | .mapping .. =>
      flatten value depth fuel
      mappingEntries value
    | .sequence _ items => return (← broughtInAll items depth fuel).reverse.flatten
    | .scalar .. => reject

def broughtInAll (items : List Nat) (depth : Nat) : Nat → Build (List (List (Nat × Nat)))
  | 0 => reject
  | fuel + 1 => do
    match items with
    | [] => return []
    | item :: more =>
      match ← node item with
      | .mapping .. =>
        flatten item depth fuel
        let entries ← mappingEntries item
        return entries :: (← broughtInAll more depth fuel)
      | _ => reject

end

def isKey : Value → Bool
  | .container _ => false
  | _ => true

def entriesOf : List (Nat × Nat) → List (Value × Value) → Build (List (Value × Value))
  | [], entries => return entries
  | (keyNode, valueNode) :: rest, entries => do
    let key ← ofNode keyNode
    if !isKey key then reject
    let value ← ofNode valueNode
    entriesOf rest (putEntry key value entries)

def buildMapping (fuel id : Nat) : Build (List (Value × Value)) := do
  let _ ← mappingEntries id
  flatten id maxChain fuel
  entriesOf (← mappingEntries id) []

def pairOf (id : Nat) : Build (Value × Value) := do
  match ← mappingEntries id with
  | [(keyNode, valueNode)] =>
    let key ← ofNode keyNode
    return (key, ← ofNode valueNode)
  | _ => reject

def sequenceItems (id : Nat) : Build (List Nat) := do
  match ← node id with
  | .sequence _ items => return items
  | _ => reject

def contentOf (fuel : Nat) : Content → Build Container
  | .list id => return .list (← (← sequenceItems id).mapM ofNode)
  | .mapping id => return .mapping (← buildMapping fuel id)
  | .set id => return .set ((← buildMapping fuel id).map (·.1))
  | .pairs id => return .pairs (← (← sequenceItems id).mapM pairOf)

def nextPending : Build (Option (Nat × Content)) := do
  let b ← get
  let waiting := if b.pending.isEmpty then b.later.reverse else b.pending
  let later := if b.pending.isEmpty then [] else b.later
  set { b with pending := waiting.tail, later }
  return waiting.head?

def fillAll (fuel : Nat) : Nat → Build Unit
  | 0 => return ()
  | steps + 1 => do
    if let some (id, content) ← nextPending then
      let container ← contentOf fuel content
      modify fun b => { b with containers := b.containers.setIfInBounds id container }
      fillAll fuel steps

end Value

def Graph.weight (g : Graph) : Nat :=
  g.nodes.foldl (fun n node => n + match node with
    | .scalar .. => 4
    | .sequence _ items => 4 * items.length + 4
    | .mapping _ entries => 4 * entries.length + 4) 8

def Document.ofGraph (g : Graph) : Except Fault Document := do
  let build : Value.Build Value := do
    let fuel := g.weight * g.weight
    let root ← Value.ofNode g.root
    Value.fillAll fuel (g.nodes.size + 1)
    return root
  let (root, b) ← build.run { nodes := g.nodes, built := .replicate g.nodes.size none }
  return ⟨root, b.containers⟩

def Document.read (source : Source) : Except Fault Document := do
  let (tokens, fault) := tokens source
  match ← Graph.read tokens fault with
  | none => return ⟨.null, #[]⟩
  | some g => Document.ofGraph g

end SchemaPlan.Yaml
