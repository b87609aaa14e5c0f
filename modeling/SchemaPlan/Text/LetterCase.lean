import SchemaPlan.Text.Ranges
import SchemaPlan.Text.LetterCase.Table

namespace SchemaPlan.Text

def caseImage (n : Nat) : List (Nat × Nat × Nat × Nat) → Nat
  | [] => n
  | (first, last, step, image) :: rest =>
    if n < first then n
    else if n ≤ last then
      if (n - first) % step = 0 then image + (n - first) else n
    else caseImage n rest

def lowerChar (c : Char) : List Char :=
  if c.toNat < 128 then [c.toLower]
  else match lowerSequences.lookup c.toNat with
    | some image => image.map Char.ofNat
    | none => [Char.ofNat (caseImage c.toNat lowerRuns)]

def upperChar (c : Char) : List Char :=
  if c.toNat < 128 then [c.toUpper]
  else match upperSequences.lookup c.toNat with
    | some image => image.map Char.ofNat
    | none => [Char.ofNat (caseImage c.toNat upperRuns)]

def titleChar (c : Char) : List Char :=
  match titleSequences.lookup c.toNat with
  | some image => image.map Char.ofNat
  | none => upperChar c

def isCased (c : Char) : Bool := inRanges c.toNat casedRanges

def isCaseIgnorable (c : Char) : Bool := inRanges c.toNat caseIgnorableRanges

/-- Whether the next character that counts for the form of a sigma has a case. -/
def beforeCased : List Char → Bool
  | [] => false
  | c :: rest => if isCaseIgnorable c then beforeCased rest else isCased c

/-- Lower case of a text that follows a cased letter or not. -/
def lowerAfter (cased : Bool) : List Char → List Char
  | [] => []
  | c :: rest =>
    let image :=
      if c = 'Σ' then (if cased && !beforeCased rest then ['ς'] else ['σ']) else lowerChar c
    image ++ lowerAfter (if isCaseIgnorable c then cased else isCased c) rest

def lower (s : List Char) : List Char := lowerAfter false s

def upper (s : List Char) : List Char := s.flatMap upperChar

def capitalize : List Char → List Char
  | [] => []
  | c :: rest => titleChar c ++ lowerAfter (isCased c) rest

end SchemaPlan.Text

namespace SchemaPlan

def lowered (s : String) : String := .ofList (Text.lower s.toList)

end SchemaPlan
