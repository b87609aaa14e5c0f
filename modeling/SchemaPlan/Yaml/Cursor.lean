import SchemaPlan.Yaml.Fault

namespace SchemaPlan.Yaml

def isAllowed (c : Char) : Bool :=
  let n := c.toNat
  n ∈ [0x9, 0xA, 0xD, 0x85] || (0x20 ≤ n && n ≤ 0x7E) || (0xA0 ≤ n && n ≤ 0xFFFD) || 0x10000 ≤ n

def byteOrderMark : Char := '\uFEFF'

def endMark : Char := '\x00'

def isBreak (c : Char) : Bool := c.toNat ∈ [0xA, 0x85, 0x2028, 0x2029]

def isBreakOrEnd (c : Char) : Bool := c = endMark || isBreak c

def isSpaceOrEnd (c : Char) : Bool := c = ' ' || isBreakOrEnd c

def isBlankOrEnd (c : Char) : Bool := c = '\t' || isSpaceOrEnd c

def isNameChar (c : Char) : Bool := c.isAlphanum || c = '-' || c = '_'

def isHexDigit (c : Char) : Bool := (Numeral.digitInBase? 16 c).isSome

structure Cursor where
  rest : List Char
  /-- The number of characters before and behind the place. -/
  size : Nat
  index : Nat := 0
  line : Nat := 0
  column : Nat := 0
  /-- What is met behind the last character in place of the end. -/
  ending : Option Fault := none

namespace Cursor

def ofText (text : List Char) (ending : Option Fault := none) : Cursor :=
  { rest := text, size := text.length, ending }

def left (cursor : Cursor) : Nat := cursor.size - cursor.index

def peekAt (cursor : Cursor) (n : Nat) : Char := (cursor.rest.drop n).headD endMark

def peek (cursor : Cursor) : Char := cursor.rest.headD endMark

def next (cursor : Cursor) : Cursor :=
  match cursor.rest with
  | [] => cursor
  | c :: rest =>
    let cursor := { cursor with rest, index := cursor.index + 1 }
    if isBreak c then { cursor with line := cursor.line + 1, column := 0 }
    else if c = byteOrderMark then cursor
    else { cursor with column := cursor.column + 1 }

def advance : Nat → Cursor → Cursor
  | 0, cursor => cursor
  | n + 1, cursor => advance n cursor.next

end Cursor

abbrev Scan := StateT Cursor (Except Fault)

namespace Scan

def reject : Scan α := throw .malformed

def require (holds : Bool) : Scan Unit := if holds then pure () else reject

/-- Looks out for `n` characters, and meets with the fault of the block they lie in. -/
def lookOut (n : Nat) : Scan Unit := do
  let cursor ← get
  if let some fault := cursor.ending then
    if cursor.left < n then throw fault

def peek : Scan Char := return (← get).peek

def peekAt (n : Nat) : Scan Char := do
  lookOut (n + 1)
  return (← get).peekAt n

def skip (n : Nat) : Scan Unit := do
  modify (·.advance n)
  lookOut 1

def takeWhile (p : Char → Bool) : Scan (List Char) := do
  let taken := (← get).rest.takeWhile p
  skip taken.length
  return taken

def skipWhile (p : Char → Bool) : Scan Unit := do
  let _ ← takeWhile p

/-- A line break, if one stands here; all but the two separators read as a line feed. -/
def lineBreak : Scan (List Char) := do
  let c ← peek
  if c = '\n' || c = '\x85' then
    skip 1
    return ['\n']
  else if isBreak c then
    skip 1
    return [c]
  else return []

def restOfLine : Scan Unit := do
  skipWhile (· = ' ')
  if (← peek) = '#' then skipWhile fun c => !isBreakOrEnd c

def atDocumentMark : Scan Bool := do
  lookOut 3
  let lead := (← get).rest.take 3
  if lead = "---".toList || lead = "...".toList then return isBlankOrEnd (← peekAt 3)
  else return false

def endOfLine : Scan Unit := do
  restOfLine
  require (isBreakOrEnd (← peek))
  let _ ← lineBreak

/-- More steps than any loop over what is left can take. -/
def fuel : Scan Nat := return (← get).left + 1

end Scan

end SchemaPlan.Yaml
