namespace SchemaPlan.Text

/-- The number of bytes that follow a first byte, and the least and the greatest second one. -/
def utf8Tail? (first : UInt8) : Option (Nat × UInt8 × UInt8) :=
  if first < 0x80 then some (0, 0x80, 0xBF)
  else if first < 0xC2 then none
  else if first < 0xE0 then some (1, 0x80, 0xBF)
  else if first = 0xE0 then some (2, 0xA0, 0xBF)
  else if first = 0xED then some (2, 0x80, 0x9F)
  else if first < 0xF0 then some (2, 0x80, 0xBF)
  else if first = 0xF0 then some (3, 0x90, 0xBF)
  else if first < 0xF4 then some (3, 0x80, 0xBF)
  else if first = 0xF4 then some (3, 0x80, 0x8F)
  else none

def fitsTail (least greatest : UInt8) : List UInt8 → Bool
  | [] => true
  | second :: more =>
    (least ≤ second && second ≤ greatest) && more.all fun b => 0x80 ≤ b && b ≤ 0xBF

def utf8Char (first : UInt8) (tail : List UInt8) : Char :=
  let lead := if tail.isEmpty then first.toNat else first.toNat % 1 <<< (6 - tail.length)
  .ofNat (tail.foldl (fun code b => code * 64 + b.toNat % 64) lead)

/-- The characters that bytes spell, and the bytes of a last one that is not complete. -/
def decodeUtf8 : List UInt8 → Option (List Char × List UInt8)
  | [] => some ([], [])
  | first :: rest =>
    match utf8Tail? first with
    | none => none
    | some (length, least, greatest) =>
      let tail := rest.take length
      if !fitsTail least greatest tail then none
      else if tail.length < length then some ([], first :: rest)
      else (decodeUtf8 (rest.drop length)).map fun (chars, begun) =>
        (utf8Char first tail :: chars, begun)
termination_by bytes => bytes.length
decreasing_by simp only [List.length_drop, List.length_cons]; omega

end SchemaPlan.Text
