namespace SchemaPlan

/-- Keys stand in the order in which they were first put in. -/
abbrev OrderedMap (κ β : Type) := List (κ × β)

namespace OrderedMap

variable {κ β : Type} [DecidableEq κ]

def put (key : κ) (value : β) : OrderedMap κ β → OrderedMap κ β
  | [] => [(key, value)]
  | (k, v) :: rest => if k = key then (k, value) :: rest else (k, v) :: put key value rest

def putAll (entries : List (κ × β)) (m : OrderedMap κ β) : OrderedMap κ β :=
  entries.foldl (fun m entry => put entry.1 entry.2 m) m

def ofList (entries : List (κ × β)) : OrderedMap κ β := putAll entries []

def get? (m : OrderedMap κ β) (key : κ) : Option β := m.lookup key

end OrderedMap

end SchemaPlan
