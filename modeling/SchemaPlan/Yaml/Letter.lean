import SchemaPlan.Text.LetterCase
import SchemaPlan.Text.Quoted

namespace SchemaPlan.Yaml

inductive Letter
  | char (c : Char)
  | half (code : Nat)
  deriving DecidableEq, Inhabited

namespace Letter

def ofChars (s : List Char) : List Letter := s.map .char

def char? : Letter → Option Char
  | .char c => some c
  | .half _ => none

def code : Letter → Nat
  | .char c => c.toNat
  | .half code => code

/-- The order of texts by their code points. -/
def before : List Letter → List Letter → Bool
  | [], _ => true
  | _ :: _, [] => false
  | a :: s, b :: t => decide (a.code < b.code) || (decide (a.code = b.code) && before s t)

/-- A half is read like a character that means nothing. -/
def reading : Letter → Char
  | .char c => c
  | .half _ => '\uFFFD'

def readings (letters : List Letter) : List Char := letters.map reading

def text? (letters : List Letter) : Option String := (letters.mapM char?).map .ofList

def joined? (high low : Nat) : Option Char :=
  if 0xD800 ≤ high ∧ high < 0xDC00 ∧ 0xDC00 ≤ low ∧ low < 0xE000 then
    some (.ofNat (0x10000 + (high - 0xD800) * 0x400 + (low - 0xDC00)))
  else none

/-- Letters as characters, with a sign of replacement for a half that stands alone. -/
def written : List Letter → List Char
  | .half high :: .half low :: rest =>
    match joined? high low with
    | some c => c :: written rest
    | none => reading (.half high) :: written (.half low :: rest)
  | letter :: rest => letter.reading :: written rest
  | [] => []

def lower (run : List Char) : List Letter → List Letter
  | [] => ofChars (Text.lower run.reverse)
  | .char c :: rest => lower (c :: run) rest
  | .half code :: rest => ofChars (Text.lower run.reverse) ++ .half code :: lower [] rest

def quote (letters : List Letter) : List Char :=
  let mark := Text.quoteMark (readings letters)
  let image : Letter → List Char
    | .char c => Text.escapeChar mark c
    | .half code => Text.escapeCode code
  mark :: letters.flatMap image ++ [mark]

end Letter

end SchemaPlan.Yaml
