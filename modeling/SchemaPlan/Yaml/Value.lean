import SchemaPlan.Decimal.Shortest
import SchemaPlan.Yaml.Fault

namespace SchemaPlan.Yaml

/-- Values that lead to one another, through aliases too, do so in at most so many steps. -/
def maxChain : Nat := 980

/-- A point in time, with the offset from UTC in minutes if it has one. -/
structure Timestamp where
  moment : Moment
  microsecond : Nat := 0
  offset : Option Int := none
  deriving DecidableEq

inductive Value
  | null
  | boolean (b : Bool)
  | whole (n : Int)
  | float (x : Binary64)
  /-- The result of a computation at a node that gives no number; as a key, it is like no other. -/
  | undefined (node : Nat)
  | text (s : String)
  /-- Letters that are no text, since there are halves among them. -/
  | broken (letters : List Letter)
  | bytes (bytes : List UInt8)
  | date (date : Date)
  | time (time : Timestamp)
  | container (id : Nat)
  deriving DecidableEq, Inhabited

inductive Container
  | list (items : List Value)
  | mapping (entries : List (Value × Value))
  | set (members : List Value)
  | pairs (entries : List (Value × Value))
  deriving Inhabited

structure Document where
  root : Value
  containers : Array Container

namespace Timestamp

def instant (t : Timestamp) (offset : Int) : Int :=
  ((t.moment.seconds : Int) - offset * 60) * 1000000 + t.microsecond

/-- Times with offsets are compared as instants, times without as they read. -/
def same (t u : Timestamp) : Bool :=
  match t.offset, u.offset with
  | none, none => t = u
  | some a, some b => t.instant a = u.instant b
  | _, _ => false

end Timestamp

namespace Value

def ofLetters (letters : List Letter) : Value :=
  match Letter.text? letters with
  | some s => .text s
  | none => .broken letters

def text? : Value → Option String
  | .text s => some s
  | .broken letters => some (.ofList (Letter.written letters))
  | _ => none

/-- The number that a value is as a key; true and false are one and zero. -/
def number? : Value → Option (Int ⊕ Binary64)
  | boolean b => some (.inl (if b then 1 else 0))
  | whole n => some (.inl n)
  | float x => some (.inr x)
  | _ => none

def sameNumber : Int ⊕ Binary64 → Int ⊕ Binary64 → Bool
  | .inl m, .inl n => m = n
  | .inl m, .inr x => x.ratio?.any fun (p, q) => p = m * q
  | .inr x, .inl n => x.ratio?.any fun (p, q) => p = n * q
  | .inr .nan, .inr .nan => true
  | .inr x, .inr y => x.same y

def sameKey (a b : Value) : Bool :=
  match a.number?, b.number? with
  | some x, some y => sameNumber x y
  | none, none =>
    match a, b with
    | time t, time u => t.same u
    | _, _ => a = b
  | _, _ => false

/-- Puts an entry in; a known key keeps its place and its spelling. -/
def putEntry (key value : Value) : List (Value × Value) → List (Value × Value)
  | [] => [(key, value)]
  | (k, v) :: rest =>
    if k.sameKey key then (k, value) :: rest else (k, v) :: putEntry key value rest

def lookupKey (key : Value) (entries : List (Value × Value)) : Option Value :=
  (entries.find? fun entry => entry.1.sameKey key).map (·.2)

end Value

namespace Document

def container? (d : Document) : Value → Option Container
  | .container id => d.containers[id]?
  | _ => none

def entries? (d : Document) (v : Value) : Option (List (Value × Value)) :=
  match d.container? v with
  | some (.mapping entries) => some entries
  | _ => none

def items? (d : Document) (v : Value) : Option (List Value) :=
  match d.container? v with
  | some (.list items) => some items
  | some (.pairs entries) => some (entries.map fun _ => .null)
  | _ => none

def isEmpty (d : Document) : Value → Bool
  | .null => true
  | .boolean b => !b
  | .whole n => n = 0
  | .float x => x.isZero
  | .undefined _ => false
  | .text s => s = ""
  | .broken letters => letters.isEmpty
  | .bytes bytes => bytes.isEmpty
  | .date _ => false
  | .time _ => false
  | .container id =>
    match d.containers[id]? with
    | some (.list items) => items.isEmpty
    | some (.mapping entries) => entries.isEmpty
    | some (.set members) => members.isEmpty
    | some (.pairs entries) => entries.isEmpty
    | none => true

end Document

end SchemaPlan.Yaml
