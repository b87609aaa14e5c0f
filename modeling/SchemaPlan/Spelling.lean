import SchemaPlan.Yaml.Letter

namespace SchemaPlan

/-- What keeps a text from being encoded: halves of surrogate pairs, which are no characters. -/
structure Flaw where
  /-- The text before the first half. -/
  before : List Char := []
  first : Nat
  /-- The number of halves that follow the first one at once. -/
  more : Nat
  deriving DecidableEq

namespace Flaw

def behind (flaw : Flaw) (text : List Char) : Flaw := { flaw with before := text ++ flaw.before }

def message (flaw : Flaw) : String :=
  let start := flaw.before.length
  let first := String.ofList (Text.escapeCode flaw.first)
  let place :=
    if flaw.more = 0 then s!"character '{first}' in position {start}"
    else s!"characters in position {start}-{start + flaw.more}"
  s!"'utf-8' codec can't encode {place}: surrogates not allowed"

def ofLetters? : List Yaml.Letter → Option Flaw
  | [] => none
  | .char c :: rest => (ofLetters? rest).map (·.behind [c])
  | .half code :: rest =>
    some { first := code, more := (rest.takeWhile (·.char?.isNone)).length }

end Flaw

/-- A name as a type map spells it. Two names are one only if they agree in every letter, halves of
surrogate pairs included. -/
structure Spelling where
  letters : List Yaml.Letter
  deriving DecidableEq

namespace Spelling

def ofString (text : String) : Spelling := ⟨Yaml.Letter.ofChars text.toList⟩

instance : Coe String Spelling := ⟨ofString⟩

/-- How the name is shown, which is not what names are told apart by. -/
def text (s : Spelling) : String := .ofList (Yaml.Letter.written s.letters)

def flaw (s : Spelling) : Option Flaw := Flaw.ofLetters? s.letters

def lower (s : Spelling) : Spelling := ⟨Yaml.Letter.lower [] s.letters⟩

def before (s t : Spelling) : Bool := Yaml.Letter.before s.letters t.letters

end Spelling

end SchemaPlan
