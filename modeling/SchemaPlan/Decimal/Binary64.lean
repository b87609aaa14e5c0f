namespace SchemaPlan

/-- A finite number is `mantissa * 2 ^ exponent`, negated or not. -/
inductive Binary64
  | nan
  | infinite (negative : Bool)
  | finite (negative : Bool) (mantissa : Nat) (exponent : Int)
  deriving DecidableEq

namespace Binary64

def precision : Nat := 53

def minExponent : Int := -1074

def maxExponent : Int := 1024

def zero : Binary64 := .finite false 0 0

def bitLength (n : Nat) : Nat := if n = 0 then 0 else n.log2 + 1

/-- `n / 2 ^ k` rounded to the nearest whole number, a half to the even one. -/
def shiftRound (n k : Nat) : Nat :=
  let q := n >>> k
  let unit := 1 <<< k
  let twice := 2 * (n % unit)
  if twice > unit ∨ (twice = unit ∧ q % 2 = 1) then q + 1 else q

def round (negative : Bool) (m : Nat) (e : Int) : Binary64 :=
  let excess := max ((bitLength m : Int) - precision) (minExponent - e)
  let (m, e) := if excess ≤ 0 then (m, e) else (shiftRound m excess.toNat, e + excess)
  if m ≠ 0 ∧ bitLength m + e > maxExponent then .infinite negative else .finite negative m e

/-- The number nearest to `num / den`. One bit below the quotient records a remainder. -/
def ofRatio (negative : Bool) (num den : Nat) : Binary64 :=
  let shift := bitLength den + precision + 3 - bitLength num
  let n := num <<< shift
  round negative (2 * (n / den) + if n % den = 0 then 0 else 1) (-(shift : Int) - 1)

def ofDecimal (negative : Bool) (n : Nat) (e : Int) : Binary64 :=
  if n = 0 then .finite negative 0 0
  else
    let magnitude := e + (Nat.toDigits 10 n).length
    if magnitude > 400 then .infinite negative
    else if magnitude < -400 then .finite negative 0 0
    else if 0 ≤ e then round negative (n * Nat.pow 10 e.toNat) 0
    else ofRatio negative n (Nat.pow 10 (-e).toNat)

def neg : Binary64 → Binary64
  | .nan => .nan
  | .infinite s => .infinite (!s)
  | .finite s m e => .finite (!s) m e

def mul : Binary64 → Binary64 → Binary64
  | .finite s m e, .finite t n f => round (s != t) (m * n) (e + f)
  | .infinite s, .infinite t => .infinite (s != t)
  | .infinite s, .finite t n _ => if n = 0 then .nan else .infinite (s != t)
  | .finite s m _, .infinite t => if m = 0 then .nan else .infinite (s != t)
  | _, _ => .nan

def signed (negative : Bool) (m : Nat) : Int := if negative then -(m : Int) else m

def add : Binary64 → Binary64 → Binary64
  | .finite s m e, .finite t n f =>
    let low := min e f
    let sum := signed s (m <<< (e - low).toNat) + signed t (n <<< (f - low).toNat)
    if sum = 0 then .finite (s && t) 0 0 else round (decide (sum < 0)) sum.natAbs low
  | .infinite s, .infinite t => if s = t then .infinite s else .nan
  | .infinite s, .finite .. => .infinite s
  | .finite .., .infinite t => .infinite t
  | _, _ => .nan

def ofWhole? (n : Int) : Option Binary64 :=
  match round (decide (n < 0)) n.natAbs 0 with
  | .finite s m e => some (.finite s m e)
  | _ => none

def tooLargeMessage : String := "int too large to convert to float"

def isZero : Binary64 → Bool
  | .finite _ m _ => m = 0
  | _ => false

def ratio? : Binary64 → Option (Int × Nat)
  | .finite s m e => some (signed s (m <<< e.toNat), 1 <<< (-e).toNat)
  | _ => none

/-- Numbers of equal value; no number that is not one equals any. -/
def same : Binary64 → Binary64 → Bool
  | .infinite s, .infinite t => s = t
  | x, y =>
    match x.ratio?, y.ratio? with
    | some (p, q), some (r, s) => p * s = r * q
    | _, _ => false

def below (x : Binary64) (n : Int) : Bool :=
  match x with
  | .nan => false
  | .infinite s => s
  | .finite s m e => signed s (m <<< e.toNat) < n * (1 <<< (-e).toNat : Nat)

end Binary64

end SchemaPlan
