import SchemaPlan.Yaml.Cursor
import SchemaPlan.Yaml.Token

namespace SchemaPlan.Yaml.Scan

def isUriChar (c : Char) : Bool := c.isAlphanum || "-;/?:@&=+$,_.!~*'()[]%".toList.contains c

def isAnchorEnd (c : Char) : Bool := isBlankOrEnd c || "?:,]\x7d%@`".toList.contains c

def hexNumber (digits : List Char) : Nat :=
  Numeral.ofDigits 16 (digits.filterMap (Numeral.digitInBase? 16))

def hexCode (n : Nat) : Scan Nat := do
  let digits := (← get).rest.take n
  require (digits.all isHexDigit)
  lookOut n
  require (digits.length = n)
  return hexNumber digits

def escapedBytes : Nat → Scan (List UInt8)
  | 0 => return []
  | fuel + 1 => do
    if (← peek) = '%' then
      skip 1
      let byte ← hexCode 2
      skip 2
      return byte.toUInt8 :: (← escapedBytes fuel)
    else return []

def uriEscapes : Scan (List Char) := do
  let bytes ← escapedBytes (← fuel)
  match String.fromUTF8? bytes.toByteArray with
  | some s => return s.toList
  | none => reject

def uriChunks : Nat → Scan (List Char)
  | 0 => return []
  | fuel + 1 => do
    let chunk ← takeWhile fun c => isUriChar c && c ≠ '%'
    if (← peek) = '%' then
      let escaped ← uriEscapes
      return chunk ++ escaped ++ (← uriChunks fuel)
    else return chunk

def uri : Scan String := do
  require (isUriChar (← peek))
  return .ofList (← uriChunks (← fuel))

def tagHandle : Scan String := do
  require ((← peek) = '!')
  skip 1
  if (← peek) = ' ' then return "!"
  let name ← takeWhile isNameChar
  require ((← peek) = '!')
  skip 1
  return .ofList ('!' :: name ++ ['!'])

def directiveNumber : Scan Nat := do
  let digits ← takeWhile Char.isDigit
  require (!digits.isEmpty)
  match Numeral.read 10 digits with
  | .ok n => return n.toNat
  | .error fault => throw (.numeral fault)

def versionDirective : Scan Directive := do
  skipWhile (· = ' ')
  let major ← directiveNumber
  require ((← peek) = '.')
  skip 1
  let minor ← directiveNumber
  require (isSpaceOrEnd (← peek))
  return .version major minor

def tagDirective : Scan Directive := do
  skipWhile (· = ' ')
  let handle ← tagHandle
  require ((← peek) = ' ')
  skipWhile (· = ' ')
  let lead ← uri
  require (isSpaceOrEnd (← peek))
  return .tag handle lead

def directive : Scan Token := do
  skip 1
  let name ← takeWhile isNameChar
  require (!name.isEmpty && isSpaceOrEnd (← peek))
  let directive ←
    if name = "YAML".toList then versionDirective
    else if name = "TAG".toList then tagDirective
    else do
      skipWhile fun c => !isBreakOrEnd c
      pure .other
  endOfLine
  return .directive directive

def anchorName : Scan String := do
  skip 1
  let name ← takeWhile isNameChar
  require (!name.isEmpty && isAnchorEnd (← peek))
  return .ofList name

def hasSecondMark : Scan Bool := do
  let word := ((← get).rest.drop 1).takeWhile fun c => !isSpaceOrEnd c
  if word.contains '!' then return true
  lookOut (word.length + 2)
  return false

def verbatimTag : Scan Token := do
  skip 2
  let suffix ← uri
  require ((← peek) = '>')
  skip 1
  return .tag none suffix

def shorthandTag : Scan Token := do
  if ← hasSecondMark then
    let handle ← tagHandle
    return .tag (some handle) (← uri)
  else
    skip 1
    return .tag (some "!") (← uri)

def tag : Scan Token := do
  let c ← peekAt 1
  let token ←
    if c = '<' then verbatimTag
    else if isBlankOrEnd c then do
      skip 1
      pure (.tag none "!")
    else shorthandTag
  require (isSpaceOrEnd (← peek))
  return token

end SchemaPlan.Yaml.Scan
