import SchemaPlan.Yaml.Token.Name

namespace SchemaPlan.Yaml.Scan

/-- A single line feed between two lines is folded into a space, further ones are kept. -/
def foldBreaks (first breaks : List Char) : List Char :=
  (if first ≠ ['\n'] then first else if breaks.isEmpty then [' '] else []) ++ breaks

def quotedBreaks : Nat → Scan (List Char)
  | 0 => return []
  | fuel + 1 => do
    require (!(← atDocumentMark))
    skipWhile fun c => c = ' ' || c = '\t'
    if isBreak (← peek) then
      let first ← lineBreak
      return first ++ (← quotedBreaks fuel)
    else return []

def simpleEscape? (c : Char) : Option Char :=
  [('0', '\x00'), ('a', '\x07'), ('b', '\x08'), ('t', '\t'), ('\t', '\t'), ('n', '\n'),
    ('v', '\x0B'), ('f', '\x0C'), ('r', '\r'), ('e', '\x1B'), (' ', ' '), ('"', '"'),
    ('\\', '\\'), ('/', '/'), ('N', '\x85'), ('_', '\xA0'), ('L', '\u2028'),
    ('P', '\u2029')].lookup c

def codeLength? (c : Char) : Option Nat := [('x', 2), ('u', 4), ('U', 8)].lookup c

def letterOf (code : Nat) : Scan Letter :=
  if 0x80000000 ≤ code then throw .characterCodeTooLong
  else if 0x110000 ≤ code then throw .characterOutOfRange
  else if 0xD800 ≤ code ∧ code ≤ 0xDFFF then return .half code
  else return .char (.ofNat code)

def escape : Scan (List Letter) := do
  let c ← peek
  match simpleEscape? c, codeLength? c with
  | some image, _ =>
    skip 1
    return [.char image]
  | none, some length =>
    skip 1
    let image ← letterOf (← hexCode length)
    skip length
    return [image]
  | none, none =>
    require (isBreak c)
    let _ ← lineBreak
    return Letter.ofChars (← quotedBreaks (← fuel))

def isQuotedStop (c : Char) : Bool := isBlankOrEnd c || c = '\'' || c = '"' || c = '\\'

def quotedWord (double : Bool) : Nat → Scan (List Letter)
  | 0 => return []
  | fuel + 1 => do
    let word := Letter.ofChars (← takeWhile fun c => !isQuotedStop c)
    let c ← peek
    let doubled ← if !double && c = '\'' then (· == '\'') <$> peekAt 1 else pure false
    if doubled then
      skip 2
      return word ++ .char '\'' :: (← quotedWord double fuel)
    else if (double && c = '\'') || (!double && (c = '"' || c = '\\')) then
      skip 1
      return word ++ .char c :: (← quotedWord double fuel)
    else if double && c = '\\' then
      skip 1
      let image ← escape
      return word ++ image ++ (← quotedWord double fuel)
    else return word

def quotedGap : Scan (List Char) := do
  let blanks ← takeWhile fun c => c = ' ' || c = '\t'
  let c ← peek
  require (c ≠ endMark)
  if isBreak c then
    let first ← lineBreak
    return foldBreaks first (← quotedBreaks (← fuel))
  else return blanks

def quotedWords (double : Bool) : Nat → Scan (List Letter)
  | 0 => return []
  | fuel + 1 => do
    if (← peek) = (if double then '"' else '\'') then
      skip 1
      return []
    else
      let gap ← quotedGap
      let word ← quotedWord double (fuel + 1)
      return Letter.ofChars gap ++ word ++ (← quotedWords double fuel)

def quotedScalar (double : Bool) : Scan Token := do
  skip 1
  let first ← quotedWord double (← fuel)
  let more ← quotedWords double (← fuel)
  return .scalar (first ++ more) false

def plainLength (inFlow : Bool) : List Char → Nat
  | [] => 0
  | c :: rest =>
    let next := rest.headD endMark
    if isBlankOrEnd c || (inFlow && ",?[]\x7b\x7d".toList.contains c) ||
        (c = ':' && (isBlankOrEnd next || (inFlow && ",[]\x7b\x7d".toList.contains next))) then 0
    else plainLength inFlow rest + 1

def plainBreaks : Nat → Scan (Option (List Char))
  | 0 => return some []
  | fuel + 1 => do
    skipWhile (· = ' ')
    if isBreak (← peek) then
      let first ← lineBreak
      if ← atDocumentMark then return none
      return (← plainBreaks fuel).map (first ++ ·)
    else return some []

def plainGap : Scan (List Char × Bool) := do
  let spaces ← takeWhile (· = ' ')
  if isBreak (← peek) then
    let first ← lineBreak
    if ← atDocumentMark then return ([], true)
    match ← plainBreaks (← fuel) with
    | none => return ([], true)
    | some breaks => return (foldBreaks first breaks, true)
  else return (spaces, false)

def plainWords (indent : Int) (inFlow : Bool) :
    Nat → List Char → Bool → Scan (List Char × Bool)
  | 0, _, ended => return ([], ended)
  | fuel + 1, gap, ended => do
    let length := plainLength inFlow (← get).rest
    if (← peek) = '#' || length = 0 then return ([], ended)
    let word := (← get).rest.take length
    if (← get).peekAt length = ':' then lookOut (length + 2)
    skip length
    let (next, ended) ← plainGap
    let cursor ← get
    if next.isEmpty || cursor.peek = '#' || (!inFlow && (cursor.column : Int) < indent) then
      return (gap ++ word, ended)
    let (more, ended) ← plainWords indent inFlow fuel next ended
    return (gap ++ word ++ more, ended)

def plainScalar (indent : Int) (inFlow : Bool) : Scan (Token × Bool) := do
  let (text, ended) ← plainWords (indent + 1) inFlow (← fuel) [] false
  return (.scalar (Letter.ofChars text) true, ended)

inductive Chomping
  | strip
  | clip
  | keep
  deriving DecidableEq

def chompingOf (c : Char) : Chomping := if c = '+' then .keep else .strip

def isChompMark (c : Char) : Bool := c = '+' || c = '-'

def indentDigit : Scan (Option Nat) := do
  let c ← peek
  if c.isDigit then
    require (c ≠ '0')
    skip 1
    return some (c.toNat - '0'.toNat)
  else return none

def chompMark : Scan Chomping := do
  let c ← peek
  if isChompMark c then
    skip 1
    return chompingOf c
  else return .clip

def blockHeader : Scan (Chomping × Option Nat) := do
  let chomping ← chompMark
  let digit ← indentDigit
  let chomping ← if chomping = .clip && digit.isSome then chompMark else pure chomping
  require (isSpaceOrEnd (← peek))
  return (chomping, digit)

def leadingBreaks : Nat → Nat → Scan (List Char × Nat)
  | 0, widest => return ([], widest)
  | fuel + 1, widest => do
    let c ← peek
    if c = ' ' then
      skip 1
      leadingBreaks fuel (max widest (← get).column)
    else if isBreak c then
      let first ← lineBreak
      let (breaks, widest) ← leadingBreaks fuel widest
      return (first ++ breaks, widest)
    else return ([], widest)

def skipIndent (indent : Nat) : Scan Unit := do
  let cursor ← get
  let spaces := (cursor.rest.takeWhile (· = ' ')).length
  skip (min spaces (indent - cursor.column))

def blockBreaks (indent : Nat) : Nat → Scan (List Char)
  | 0 => return []
  | fuel + 1 => do
    skipIndent indent
    if isBreak (← peek) then
      let first ← lineBreak
      return first ++ (← blockBreaks indent fuel)
    else return []

def atBlockLine (indent : Nat) : Scan Bool := do
  let cursor ← get
  return cursor.column = indent && cursor.peek ≠ endMark

def blockJoint (folded indented : Bool) (lineEnd breaks : List Char) : List Char :=
  if folded && lineEnd = ['\n'] && !indented then
    if breaks.isEmpty then [' '] else []
  else lineEnd

def blockLines (folded : Bool) (indent : Nat) :
    Nat → List Char → Scan (List Char × List Char × List Char)
  | 0, breaks => return ([], [], breaks)
  | fuel + 1, breaks => do
    if !(← atBlockLine indent) then return ([], [], breaks)
    let isBlank (c : Char) := c = ' ' || c = '\t'
    let indented := isBlank (← peek)
    let line ← takeWhile fun c => !isBreakOrEnd c
    let lineEnd ← lineBreak
    let following ← blockBreaks indent (← Scan.fuel)
    if ← atBlockLine indent then
      let joint := blockJoint folded (indented || isBlank (← peek)) lineEnd following
      let (more, lastEnd, trailing) ← blockLines folded indent fuel following
      return (breaks ++ line ++ joint ++ more, lastEnd, trailing)
    else return (breaks ++ line, lineEnd, following)

def blockScalar (folded : Bool) (parentIndent : Int) : Scan Token := do
  skip 1
  let (chomping, digit) ← blockHeader
  endOfLine
  let least := (max (parentIndent + 1) 1).toNat
  let (breaks, indent) ←
    match digit with
    | some d => do
      let indent := least + d - 1
      pure (← blockBreaks indent (← fuel), indent)
    | none => do
      let (breaks, widest) ← leadingBreaks (← fuel) 0
      pure (breaks, max least widest)
  let (body, lastEnd, trailing) ← blockLines folded indent (← fuel) breaks
  let text := body ++ (if chomping = .strip then [] else lastEnd) ++
    (if chomping = .keep then trailing else [])
  return .scalar (Letter.ofChars text) false

end SchemaPlan.Yaml.Scan
