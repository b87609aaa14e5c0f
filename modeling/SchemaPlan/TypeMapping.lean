import SchemaPlan.OrderedMap
import SchemaPlan.Ruby.Symbol
import SchemaPlan.Spelling
import SchemaPlan.TypeSpec

namespace SchemaPlan

structure TypeRule where
  target : Spelling
  /-- The options filled by the parameters, in order. -/
  slots : List Spelling := []
  deriving DecidableEq

structure TargetType where
  name : Spelling
  options : List (Spelling × Int) := []
  deriving DecidableEq

/-- The arguments of a column definition, such as `:string, limit: 255`. -/
def TargetType.text (target : TargetType) : Except Numeral.Fault String := do
  let options ← target.options.mapM fun (slot, value) => do
    let value ← Numeral.write value
    return s!"{slot.text}: {value}"
  return ", ".intercalate (.ofList (Ruby.symbol target.name.text.toList) :: options)

/-- The first flaw of the text of the type. A flawed name is quoted. -/
def TargetType.flaw? (target : TargetType) : Option Flaw :=
  match target.name.flaw with
  | some flaw =>
    some ({ flaw with before := Ruby.escapeSymbol flaw.before }.behind [':', '"'])
  | none => do
    let (before, rest) := target.options.span (·.1.flaw.isNone)
    let flaw ← rest.head? >>= (·.1.flaw)
    let text ← { target with options := before }.text.toOption
    return flaw.behind (text ++ ", ").toList

/-- Rules by lower-case type name. -/
structure TypeMapping where
  rules : OrderedMap Spelling TypeRule
  deriving DecidableEq

namespace TypeMapping

def lowerKeys (rules : List (Spelling × TypeRule)) : List (Spelling × TypeRule) :=
  rules.map fun (name, rule) => (name.lower, rule)

/-- Of rules whose names agree in lower case, the first gives the place and the last the rule. -/
def ofRules (rules : List (Spelling × TypeRule)) : TypeMapping := ⟨.ofList (lowerKeys rules)⟩

def get? (m : TypeMapping) (name : Spelling) : Option TypeRule := m.rules.get? name.lower

def contains (m : TypeMapping) (name : Spelling) : Bool := (m.get? name).isSome

def size (m : TypeMapping) : Nat := m.rules.length

def names (m : TypeMapping) : List Spelling := m.rules.map (·.1)

def merged (m : TypeMapping) (overrides : List (Spelling × TypeRule)) : TypeMapping :=
  ⟨m.rules.putAll (lowerKeys overrides)⟩

/-- The migration type for the name of a column type and its parameters. An unknown type without
parameters stands for itself; parameters that no option takes leave no migration type. -/
def target? (m : TypeMapping) (base : Spelling) (params : List Int) : Option TargetType :=
  match m.get? base with
  | none => if params.isEmpty then some ⟨base, []⟩ else none
  | some rule =>
    if params.length > rule.slots.length then none else some ⟨rule.target, rule.slots.zip params⟩

def resolve (m : TypeMapping) (spec : TypeSpec) : Option TargetType :=
  m.target? spec.base spec.params

def standard : TypeMapping := ofRules [
  ("integer", ⟨"integer", []⟩),
  ("int", ⟨"integer", []⟩),
  ("smallint", ⟨"integer", []⟩),
  ("bigint", ⟨"bigint", []⟩),
  ("varchar", ⟨"string", ["limit"]⟩),
  ("char", ⟨"string", ["limit"]⟩),
  ("text", ⟨"text", []⟩),
  ("boolean", ⟨"boolean", []⟩),
  ("bool", ⟨"boolean", []⟩),
  ("datetime", ⟨"datetime", ["precision"]⟩),
  ("timestamp", ⟨"datetime", ["precision"]⟩),
  ("date", ⟨"date", []⟩),
  ("time", ⟨"time", ["precision"]⟩),
  ("decimal", ⟨"decimal", ["precision", "scale"]⟩),
  ("numeric", ⟨"decimal", ["precision", "scale"]⟩),
  ("float", ⟨"float", []⟩),
  ("double", ⟨"float", []⟩),
  ("real", ⟨"float", []⟩),
  ("binary", ⟨"binary", ["limit"]⟩),
  ("blob", ⟨"binary", []⟩),
  ("json", ⟨"json", []⟩),
  ("jsonb", ⟨"jsonb", []⟩),
  ("uuid", ⟨"uuid", []⟩)]

end TypeMapping

end SchemaPlan
