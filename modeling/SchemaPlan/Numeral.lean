import SchemaPlan.Text.Blank
import SchemaPlan.Text.Digit
import SchemaPlan.Text.Quoted

namespace SchemaPlan

namespace Numeral

def maxDigits : Nat := 4300

inductive Fault
  | malformed (base : Nat) (text : String)
  | tooLongToRead (digits : Nat)
  | tooLongToWrite
  deriving DecidableEq

def malformedMessage (base : Nat) (quotedText : List Char) : String :=
  s!"invalid literal for int() with base {base}: " ++ .ofList (quotedText.take 200)

def Fault.message : Fault → String
  | .malformed base text => malformedMessage base (Text.quote text.toList)
  | .tooLongToRead digits =>
    s!"Exceeds the limit ({maxDigits} digits) for integer string conversion: " ++
      s!"value has {digits} digits; " ++
      "use sys.set_int_max_str_digits() to increase the limit"
  | .tooLongToWrite =>
    s!"Exceeds the limit ({maxDigits} digits) for integer string conversion; " ++
      "use sys.set_int_max_str_digits() to increase the limit"

/-- Digits of any script as ASCII digits and wide blanks as spaces; the text is cut after the
first other character beyond ASCII. -/
def asciiForm (s : List Char) : List Char :=
  if s.all (·.toNat < 128) then s else go s
where
  go : List Char → List Char
    | [] => []
    | c :: rest =>
      if c.toNat < 127 then c :: go rest
      else if Text.isBlank c then ' ' :: go rest
      else match Text.digitValue? c with
        | some d => Nat.digitChar d :: go rest
        | none => ['?']

def isAsciiBlank (c : Char) : Bool := c = ' ' || (9 ≤ c.toNat && c.toNat ≤ 13)

def digitInBase? (base : Nat) (c : Char) : Option Nat :=
  let value? :=
    if c.isDigit then some (c.toNat - '0'.toNat)
    else if 'a' ≤ c ∧ c ≤ 'f' then some (c.toNat - 'a'.toNat + 10)
    else if 'A' ≤ c ∧ c ≤ 'F' then some (c.toNat - 'A'.toNat + 10)
    else none
  value?.filter (· < base)

def ofDigits (base : Nat) (digits : List Nat) : Nat :=
  digits.foldl (fun n d => n * base + d) 0

def takeSign : List Char → Bool × List Char
  | '-' :: rest => (true, rest)
  | '+' :: rest => (false, rest)
  | s => (false, s)

def dropBaseMark (base : Nat) : List Char → List Char
  | '0' :: c :: rest =>
    if (base = 16 ∧ c.toLower = 'x') ∨ (base = 8 ∧ c.toLower = 'o') ∨ (base = 2 ∧ c.toLower = 'b')
    then rest else '0' :: c :: rest
  | s => s

/-- Reads a numeral with an optional sign between optional blanks. -/
def read (base : Nat) (s : List Char) : Except Fault Int :=
  let (negative, body) := takeSign ((asciiForm s).dropWhile isAsciiBlank)
  let body := dropBaseMark base body
  let digits := (body.takeWhile fun c => (digitInBase? base c).isSome).filterMap (digitInBase? base)
  if base = 10 ∧ digits.length > maxDigits then .error (.tooLongToRead digits.length)
  else if digits.isEmpty || !(body.drop digits.length).all isAsciiBlank then
    .error (.malformed base (.ofList s))
  else
    let n : Int := ofDigits base digits
    .ok (if negative then -n else n)

def write (n : Int) : Except Fault String :=
  let digits := (Nat.toDigits 10 n.natAbs)
  if digits.length > maxDigits then .error .tooLongToWrite
  else .ok (.ofList (if n < 0 then '-' :: digits else digits))

end Numeral

end SchemaPlan
