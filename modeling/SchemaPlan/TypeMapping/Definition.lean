import SchemaPlan.TypeMapping
import SchemaPlan.Yaml.Value.Build
import SchemaPlan.Yaml.Value.Text

namespace SchemaPlan.TypeMapping

inductive Fault
  | document (fault : Yaml.Fault)
  | noTypes
  | badRule (name : String)
  | unknownFields (name : String) (fields : List String)
  /-- Among the unknown fields are some whose names are no texts. -/
  | unnamedFields (name : String)
  | noTarget (name : String)
  | badSlots (name : String)
  deriving DecidableEq

def Fault.message (path : String) : Fault → String
  | .document .malformed => s!"Invalid YAML in type map '{path}'"
  | .document fault => fault.message
  | .noTypes => s!"Type map '{path}' must contain a 'types' mapping"
  | .badRule name => s!"Type rule for '{name}' must be a string or mapping"
  | .unknownFields name fields =>
    s!"Unknown field(s) in type rule '{name}': " ++ ", ".intercalate fields
  | .unnamedFields _ => ""
  | .noTarget name => s!"Type rule '{name}' missing 'type' field"
  | .badSlots name => s!"Type rule '{name}' has invalid 'slots'; expected a list of names"

namespace Definition

open Yaml (Document Value)

def textOf (d : Document) (v : Value) : Except Fault String :=
  (d.text v).mapError .document

/-- The spelling of a value that is a text, or would be one but for its halves. -/
def spelling? : Value → Option Spelling
  | .text s => some s
  | .broken letters => some ⟨letters⟩
  | _ => none

def spellingOf (d : Document) (v : Value) : Except Fault Spelling :=
  match spelling? v with
  | some spelling => .ok spelling
  | none => return .ofString (← textOf d v)

def ruleFields : List String := ["type", "slots"]

def isRuleField : Value → Bool
  | .text s => ruleFields.contains s
  | _ => false

/-- The fields that no rule has, by code points. -/
def checkFields (name : String) (entries : List (Value × Value)) : Except Fault Unit :=
  match (entries.map (·.1)).filter fun key => !isRuleField key with
  | [] => .ok ()
  | unknown =>
    match unknown.mapM spelling? with
    | some names => .error (.unknownFields name ((names.mergeSort Spelling.before).map (·.text)))
    | none => .error (.unnamedFields name)

def slots (d : Document) (name : String) (entries : List (Value × Value)) :
    Except Fault (List Spelling) :=
  match Value.lookupKey (.text "slots") entries with
  | none => .ok []
  | some v =>
    match d.items? v >>= fun items => items.mapM spelling? with
    | some names => .ok names
    | none => .error (.badSlots name)

/-- A rule is a target alone or a mapping with a target and slots. -/
def rule (d : Document) (name : String) (v : Value) : Except Fault TypeRule :=
  match spelling? v, d.entries? v with
  | some target, _ => .ok ⟨target, []⟩
  | none, none => .error (.badRule name)
  | none, some entries => do
    checkFields name entries
    match (Value.lookupKey (.text "type") entries).filter fun target => !d.isEmpty target with
    | none => throw (.noTarget name)
    | some target =>
      let slots ← slots d name entries
      return ⟨← spellingOf d target, slots⟩

def namedRule (d : Document) (entry : Value × Value) : Except Fault (Spelling × TypeRule) := do
  let name ← spellingOf d entry.1
  return (name, ← rule d name.text entry.2)

/-- Whether the base mapping stays below the defined rules. -/
def keepsBase (d : Document) (entries : List (Value × Value)) : Bool :=
  match Value.lookupKey (.text "extend") entries with
  | none => true
  | some v => !d.isEmpty v

def mapping (base : TypeMapping) (d : Document) : Except Fault TypeMapping :=
  match d.entries? d.root with
  | none => .error .noTypes
  | some entries =>
    match Value.lookupKey (.text "types") entries >>= d.entries? with
    | none => .error .noTypes
    | some types => do
      let rules := OrderedMap.ofList (← types.mapM (namedRule d))
      return if keepsBase d entries then base.merged rules else .ofRules rules

end Definition

def ofFile (base : TypeMapping) (content : List UInt8) : Except Fault TypeMapping := do
  let d ← (Yaml.Document.read (.ofBytes content)).mapError .document
  Definition.mapping base d

end SchemaPlan.TypeMapping
