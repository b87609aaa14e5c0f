import SchemaPlan.Text.Ranges

namespace SchemaPlan.Text

def blankRanges : List (Nat × Nat) := [
  (9, 0xD), (0x1C, 0x20), (0x85, 0x85), (0xA0, 0xA0), (0x1680, 0x1680), (0x2000, 0x200A),
  (0x2028, 0x2029), (0x202F, 0x202F), (0x205F, 0x205F), (0x3000, 0x3000)]

def isBlank (c : Char) : Bool := inRanges c.toNat blankRanges

def trimStart (s : List Char) : List Char := s.dropWhile isBlank

def trimEnd : List Char → List Char
  | [] => []
  | c :: rest =>
    match trimEnd rest with
    | [] => if isBlank c then [] else [c]
    | kept => c :: kept

def trim (s : List Char) : List Char := trimEnd (trimStart s)

def stripChars (chars : List Char) (s : List Char) : List Char :=
  let strip := List.dropWhile (fun c => chars.contains c)
  (strip (strip s).reverse).reverse

end SchemaPlan.Text

namespace SchemaPlan

def trimmed (s : String) : String := .ofList (Text.trim s.toList)

def trimmedEnd (s : String) : String := .ofList (Text.trimEnd s.toList)

end SchemaPlan
