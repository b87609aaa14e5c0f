import SchemaPlan.Yaml.Tag
import SchemaPlan.Yaml.Token

namespace SchemaPlan.Yaml

inductive Node
  | scalar (tag : String) (letters : List Letter)
  | sequence (tag : String) (items : List Nat)
  | mapping (tag : String) (entries : List (Nat × Nat))
  deriving DecidableEq, Inhabited

structure Graph where
  nodes : Array Node
  root : Nat

namespace Node

structure Reader where
  tokens : List Token
  fault : Option Fault
  nodes : Array Node := #[]
  anchors : List (String × Nat) := []
  /-- The number of collections around the next node. -/
  depth : Nat := 0
  handles : List (String × String) := []

abbrev Read := StateT Reader (Except Fault)

def reject : Read α := throw .malformed

def peek : Read Token := do
  let r ← get
  match r.tokens with
  | token :: _ => return token
  | [] => throw (r.fault.getD .malformed)

def skip : Read Unit := modify fun r => { r with tokens := r.tokens.tail }

def accept (token : Token) : Read Bool := do
  if (← peek) = token then
    skip
    return true
  else return false

def expect (token : Token) : Read Unit := do
  if !(← accept token) then reject

def reserve : Read Nat := do
  let id := (← get).nodes.size
  modify fun r => { r with nodes := r.nodes.push (.scalar "" []) }
  return id

def fill (id : Nat) (node : Node) : Read Unit :=
  modify fun r => { r with nodes := r.nodes.setIfInBounds id node }

def anchorAt (id : Nat) : Option String → Read Unit
  | none => return ()
  | some name => modify fun r => { r with anchors := (name, id) :: r.anchors }

def add (node : Node) : Read Nat := do
  let id ← reserve
  fill id node
  return id

def empty : Read Nat := add (.scalar (standardTag "null") [])

structure Properties where
  anchor : Option String := none
  tag : Option String := none

def fullTag (handle : Option String) (suffix : String) : Read String := do
  match handle with
  | none => return suffix
  | some handle =>
    match (← get).handles.lookup handle with
    | some lead => return lead ++ suffix
    | none => reject

def anchorName? : Read (Option String) := do
  match ← peek with
  | .anchor name =>
    skip
    return some name
  | _ => return none

def tagToken? : Read (Option (Option String × String)) := do
  match ← peek with
  | .tag handle suffix =>
    skip
    return some (handle, suffix)
  | _ => return none

def properties : Read Properties := do
  let anchor ← anchorName?
  let tag ← tagToken?
  let anchor ← if anchor.isNone && tag.isSome then anchorName? else pure anchor
  let tag ← tag.mapM fun (handle, suffix) => fullTag handle suffix
  return { anchor, tag }

def Properties.tagOr (p : Properties) (implicit : String) : String :=
  match p.tag with
  | none => implicit
  | some tag => if tag = "!" then implicit else tag

def scalarTag (p : Properties) (letters : List Letter) (plain : Bool) : String :=
  p.tagOr <|
    if plain || p.tag.isSome then implicitTag (Letter.readings letters) else standardTag "str"

def emptyScalar (p : Properties) : Node := .scalar (scalarTag p [] true) []

def maxDepth : Nat := 490

def within (read : Read α) : Read α := do
  if (← get).depth ≥ maxDepth then throw .nestedTooDeep
  modify fun r => { r with depth := r.depth + 1 }
  let content ← read
  modify fun r => { r with depth := r.depth - 1 }
  return content

def oneOf (tokens : List Token) : Read Bool := return tokens.contains (← peek)

mutual

/-- A node; `inBlock` tells whether block collections may stand here, `indentless` whether a
sequence may that is not indented. -/
def read (inBlock indentless : Bool) : Nat → Read Nat
  | 0 => reject
  | fuel + 1 => do
    if let .alias name ← peek then
      skip
      match (← get).anchors.lookup name with
      | some id => return id
      | none => reject
    let p ← properties
    let token ← peek
    if p.anchor.any ((← get).anchors.lookup · |>.isSome) then reject
    let id ← reserve
    anchorAt id p.anchor
    let sequence (items : Read (List Nat)) : Read Unit := do
      fill id (.sequence (p.tagOr (standardTag "seq")) (← within items))
    let mapping (entries : Read (List (Nat × Nat))) : Read Unit := do
      fill id (.mapping (p.tagOr (standardTag "map")) (← within entries))
    match token with
    | .blockEntry =>
      if indentless then sequence (indentlessItems fuel)
      else if p.anchor.isSome || p.tag.isSome then fill id (emptyScalar p)
      else reject
    | .scalar letters plain =>
      skip
      fill id (.scalar (scalarTag p letters plain) letters)
    | .flowSequenceStart =>
      skip
      sequence (flowItems true fuel)
    | .flowMappingStart =>
      skip
      mapping (flowEntries true fuel)
    | _ =>
      if inBlock && token = .blockSequenceStart then
        skip
        sequence (blockItems fuel)
      else if inBlock && token = .blockMappingStart then
        skip
        mapping (blockEntries fuel)
      else if p.anchor.isSome || p.tag.isSome then fill id (emptyScalar p)
      else reject
    return id

def blockItems : Nat → Read (List Nat)
  | 0 => reject
  | fuel + 1 => do
    if ← accept .blockEntry then
      let item ←
        if ← oneOf [.blockEntry, .blockEnd] then empty else read true false fuel
      return item :: (← blockItems fuel)
    else
      expect .blockEnd
      return []

def indentlessItems : Nat → Read (List Nat)
  | 0 => reject
  | fuel + 1 => do
    if ← accept .blockEntry then
      let item ←
        if ← oneOf [.blockEntry, .key, .value, .blockEnd] then empty else read true false fuel
      return item :: (← indentlessItems fuel)
    else return []

def blockEntries : Nat → Read (List (Nat × Nat))
  | 0 => reject
  | fuel + 1 => do
    let ends := [Token.key, .value, .blockEnd]
    if ← accept .key then
      let key ← if ← oneOf ends then empty else read true true fuel
      let value ←
        if ← accept .value then
          if ← oneOf ends then empty else read true true fuel
        else empty
      return (key, value) :: (← blockEntries fuel)
    else
      expect .blockEnd
      return []

def flowItems (first : Bool) : Nat → Read (List Nat)
  | 0 => reject
  | fuel + 1 => do
    if ← accept .flowSequenceEnd then return []
    if !first then expect .flowEntry
    if ← accept .key then
      let id ← reserve
      let ends := [Token.flowEntry, .flowSequenceEnd]
      let entry ← within do
        let key ← if ← oneOf (.value :: ends) then empty else read false false fuel
        let value ←
          if ← accept .value then
            if ← oneOf ends then empty else read false false fuel
          else empty
        return (key, value)
      fill id (.mapping (standardTag "map") [entry])
      return id :: (← flowItems false fuel)
    if ← accept .flowSequenceEnd then return []
    let item ← read false false fuel
    return item :: (← flowItems false fuel)

def flowEntries (first : Bool) : Nat → Read (List (Nat × Nat))
  | 0 => reject
  | fuel + 1 => do
    if ← accept .flowMappingEnd then return []
    if !first then expect .flowEntry
    let ends := [Token.flowEntry, .flowMappingEnd]
    if ← accept .key then
      let key ← if ← oneOf (.value :: ends) then empty else read false false fuel
      let value ←
        if ← accept .value then
          if ← oneOf ends then empty else read false false fuel
        else empty
      return (key, value) :: (← flowEntries false fuel)
    if ← accept .flowMappingEnd then return []
    let key ← read false false fuel
    let value ← empty
    return (key, value) :: (← flowEntries false fuel)

end

def skipAll (token : Token) : Nat → Read Unit
  | 0 => return ()
  | fuel + 1 => do
    if ← accept token then skipAll token fuel

def defaultHandles : List (String × String) := [("!", "!"), ("!!", standardTag "")]

/-- The directives of a document: at most one version, and distinct handles. -/
def directives (versionSeen : Bool) : Nat → Read Unit
  | 0 => return ()
  | fuel + 1 => do
    match ← peek with
    | .directive directive =>
      skip
      match directive with
      | .version major _ =>
        if versionSeen || major ≠ 1 then reject
        directives true fuel
      | .tag handle lead =>
        if ((← get).handles.lookup handle).isSome then reject
        modify fun r => { r with handles := r.handles ++ [(handle, lead)] }
        directives versionSeen fuel
      | .other => directives versionSeen fuel
    | _ => return ()

def useDefaultHandles : Read Unit :=
  modify fun r => { r with handles := r.handles ++ defaultHandles }

def explicitStart (fuel : Nat) : Read Unit := do
  modify fun r => { r with handles := [] }
  directives false fuel
  useDefaultHandles
  expect .documentStart

def document (fuel : Nat) : Read (Option Nat) := do
  let isExplicit ←
    match ← peek with
    | .directive _ => pure true
    | .documentStart => pure true
    | _ => pure false
  if ← oneOf [.streamEnd] then return none
  let root ←
    if isExplicit then do
      explicitStart fuel
      match ← peek with
      | .directive _ => empty
      | token =>
        if [Token.documentStart, .documentEnd, .streamEnd].contains token then empty
        else read true false fuel
    else do
      useDefaultHandles
      read true false fuel
  skipAll .documentEnd fuel
  if ← oneOf [.streamEnd] then return some root
  explicitStart fuel
  reject

end Node

def Graph.read (tokens : List Token) (fault : Option Fault) : Except Fault (Option Graph) := do
  let (root?, r) ← (Node.document (4 * tokens.length + 8)).run { tokens, fault }
  return root?.map fun root => ⟨r.nodes, root⟩

end SchemaPlan.Yaml
