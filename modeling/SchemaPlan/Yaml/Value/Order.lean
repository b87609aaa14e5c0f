import SchemaPlan.Yaml.Value

namespace SchemaPlan.Yaml.Value

/-- Residues are taken modulo this prime, so that equal numbers have equal ones. -/
def residuePrime : Nat := 1 <<< 61 - 1

def signedResidue (negative : Bool) (n : Nat) : Int :=
  let residue : Int := n % residuePrime
  let residue := if negative then -residue else residue
  if residue = -1 then -2 else residue

/-- The residue of a number; a power of two is the same one as its exponent modulo 61. -/
def residue? : Value → Option Int
  | .boolean b => some (if b then 1 else 0)
  | .whole n => some (signedResidue (decide (n < 0)) n.natAbs)
  | .float (.finite s m e) => some (signedResidue s (m <<< (e % 61).toNat))
  | .float (.infinite s) => some (if s then -314159 else 314159)
  | _ => none

/-- The least power of two, from eight on, above twice the number of members; up to four members
share the least table. -/
def tableSize (members : Nat) : Nat :=
  if members ≤ 4 then 8 else max 8 (1 <<< (Nat.log2 (2 * members) + 1))

def probes : Nat := 9

def freePlace (table : Array (Option Value)) : Nat → Nat → Nat → Option Nat
  | 0, _, _ => none
  | jumps + 1, place, residue =>
    let tried := if place + probes < table.size then probes + 1 else 1
    let isFree (i : Nat) : Bool := (table.getD i none).isNone
    match ((List.range tried).map (place + ·)).find? isFree with
    | some i => some i
    | none =>
      let residue := residue / 32
      freePlace table jumps ((place * 5 + 1 + residue) % table.size) residue

def settle (table : Array (Option Value)) (member : Value) (residue : Int) :
    Array (Option Value) :=
  let residue := (residue % (1 <<< 64 : Nat)).toNat
  match freePlace table (table.size + 64) (residue % table.size) residue with
  | some i => table.setIfInBounds i (some member)
  | none => table

def inSetOrder (members : List Value) : List Value :=
  match members.mapM residue? with
  | none => members
  | some residues =>
    let table := (members.zip residues).foldl (fun table (member, residue) =>
      settle table member residue) (.replicate (tableSize members.length) none)
    table.toList.filterMap id

end SchemaPlan.Yaml.Value
