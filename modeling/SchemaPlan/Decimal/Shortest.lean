import SchemaPlan.Decimal.Binary64

namespace SchemaPlan.Binary64

/-- The significand written with all 53 bits, or with the least exponent. -/
def normalize (m : Nat) (e : Int) : Nat × Int :=
  let lift := min ((precision : Int) - bitLength m) (e - minExponent)
  if lift ≥ 0 then (m <<< lift.toNat, e - lift) else (m >>> (-lift).toNat, e - lift)

/-- A quarter-ulp grid on which a number and the ends of the interval that rounds to it lie. -/
structure Cell where
  low : Nat
  centre : Nat
  high : Nat
  exponent : Int
  closed : Bool

def cell (m : Nat) (e : Int) : Cell :=
  let (m, e) := normalize m e
  let gap := if m = 1 <<< (precision - 1) ∧ e > minExponent then 1 else 2
  ⟨4 * m - gap, 4 * m, 4 * m + 2, e - 2, m % 2 = 0⟩

def aligned (n : Nat) (e : Int) (c : Nat) (k : Int) : Nat × Nat :=
  (n <<< e.toNat * Nat.pow 10 (-k).toNat, c <<< (-e).toNat * Nat.pow 10 k.toNat)

def Cell.holds (cell : Cell) (c : Nat) (k : Int) : Bool :=
  let (low, x) := aligned cell.low cell.exponent c k
  let (high, y) := aligned cell.high cell.exponent c k
  if cell.closed then low ≤ x && y ≤ high else low < x && y < high

/-- The neighbours of the centre on the grid of multiples of `10 ^ k`, the nearer one first; of two
equally near ones, the even one. -/
def Cell.candidates (cell : Cell) (k : Int) : List Nat :=
  let (centre, unit) := aligned cell.centre cell.exponent 1 k
  let below := centre / unit
  let twice := 2 * (centre % unit)
  let down := twice < unit || (twice = unit && below % 2 = 0)
  let nearer := if down then [below, below + 1] else [below + 1, below]
  nearer.filter fun c => c ≠ 0 && cell.holds c k

/-- The number of digits of the whole part of a positive `n * 2 ^ e`; zero or less for one below
one, counting the zeros behind the point. -/
def decimalMagnitude (n : Nat) (e : Int) : Int :=
  if 0 ≤ e then (Nat.toDigits 10 (n <<< e.toNat)).length
  else
    let scaled := (n * Nat.pow 10 400) >>> (-e).toNat
    (Nat.toDigits 10 scaled).length - 400

/-- Digits `c` and exponent `k` of the shortest decimal `c * 10 ^ k`, for a positive number. -/
def shortest (m : Nat) (e : Int) : Nat × Int :=
  let cell := cell m e
  let magnitude := decimalMagnitude m e
  let found := (List.range 17).findSome? fun (n : Nat) =>
    let k := magnitude - (n + 1)
    (cell.candidates k).head?.map fun c => (c, k)
  found.getD (0, 0)

/-- Positional between `1e-4` and `1e16`, with at least one digit behind the point; otherwise one
digit before the point and an exponent of at least two digits. -/
def finiteText (m : Nat) (e : Int) : List Char :=
  if m = 0 then "0.0".toList
  else
    let (c, k) := shortest m e
    let digits := Nat.toDigits 10 c
    let significant := (digits.reverse.dropWhile (· = '0')).reverse
    let point := k + digits.length
    if -4 < point ∧ point ≤ 16 then
      if point ≤ 0 then "0.".toList ++ List.replicate (-point).toNat '0' ++ significant
      else
        let whole := significant.take point.toNat
        let padded := whole ++ List.replicate (point.toNat - whole.length) '0'
        let rest := significant.drop point.toNat
        padded ++ '.' :: (if rest.isEmpty then ['0'] else rest)
    else
      let exponent := point - 1
      let power := Nat.toDigits 10 exponent.natAbs
      let power := if power.length < 2 then '0' :: power else power
      let fraction := significant.drop 1
      significant.take 1 ++ (if fraction.isEmpty then [] else '.' :: fraction) ++
        'e' :: (if exponent < 0 then '-' else '+') :: power

def text : Binary64 → List Char
  | .nan => "nan".toList
  | .infinite false => "inf".toList
  | .infinite true => "-inf".toList
  | .finite false m e => finiteText m e
  | .finite true m e => '-' :: finiteText m e

end SchemaPlan.Binary64
