namespace SchemaPlan

structure Statement where
  position : Nat
  text : String
  positive : 0 < position
  deriving DecidableEq

namespace Statement

inductive Fault
  | badPosition (position : Int)
  deriving DecidableEq

def Fault.message : Fault → String
  | .badPosition position => s!"position must be >= 1, got {position}"

def make (position : Int) (text : String) : Except Fault Statement :=
  if h : 0 < position then .ok ⟨position.toNat, text, by omega⟩
  else .error (.badPosition position)

def number (start : Nat) : List String → List Statement
  | [] => []
  | text :: rest => ⟨start + 1, text, by omega⟩ :: number (start + 1) rest

end Statement

end SchemaPlan
