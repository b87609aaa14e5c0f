import SchemaPlan.Yaml.Source
import SchemaPlan.Yaml.Token.Scalar

namespace SchemaPlan.Yaml

structure KeyStart where
  /-- The number of tokens before it. -/
  token : Nat
  /-- Whether only a key may stand there. -/
  required : Bool
  index : Nat
  line : Nat
  column : Nat

/-- The greatest distance between the start of a key and its colon. -/
def KeyStart.maxLength : Nat := 1024

def KeyStart.isStale (key : KeyStart) (cursor : Cursor) : Bool :=
  key.line ≠ cursor.line || cursor.index - key.index > maxLength

structure Scanner where
  cursor : Cursor
  /-- The tokens so far, the last one first. -/
  tokens : List Token := []
  count : Nat := 0
  indent : Int := -1
  indents : List Int := []
  flowDepth : Nat := 0
  keyAllowed : Bool := true
  keys : List (Nat × KeyStart) := []
  done : Bool := false

namespace Scanner

abbrev Step := StateT Scanner (Except Fault)

def reject : Step α := throw .malformed

def scan (read : Scan α) : Step α := do
  let s ← get
  let (a, cursor) ← read s.cursor
  set { s with cursor }
  return a

def push (token : Token) : Step Unit :=
  modify fun s => { s with tokens := token :: s.tokens, count := s.count + 1 }

def inFlow : Step Bool := return (← get).flowDepth ≠ 0

def allowKey (allowed : Bool) : Step Unit := modify fun s => { s with keyAllowed := allowed }

def closeBlocks (column : Int) : List Int → Step Unit
  | [] => return ()
  | outer :: more => do
    let s ← get
    if column < s.indent then
      set { s with indent := outer, indents := more }
      push .blockEnd
      closeBlocks column more

def unwind (column : Int) : Step Unit := do
  if !(← inFlow) then closeBlocks column (← get).indents

def openBlock (column : Nat) : Step Bool := do
  let s ← get
  if s.indent < column then
    set { s with indent := column, indents := s.indent :: s.indents }
    return true
  else return false

def pendingKey? : Step (Option KeyStart) := do
  let s ← get
  return s.keys.lookup s.flowDepth

def dropKey : Step Unit := do
  if let some key ← pendingKey? then
    if key.required then reject
    modify fun s => { s with keys := s.keys.filter fun entry => entry.1 ≠ s.flowDepth }

def dropStaleKeys : Step Unit := do
  let s ← get
  if s.keys.any fun entry => entry.2.isStale s.cursor && entry.2.required then reject
  set { s with keys := s.keys.filter fun entry => !entry.2.isStale s.cursor }

def noteKey : Step Unit := do
  let s ← get
  if s.keyAllowed then
    dropKey
    let cursor := s.cursor
    let required := s.flowDepth = 0 && s.indent = cursor.column
    let key : KeyStart := ⟨s.count, required, cursor.index, cursor.line, cursor.column⟩
    modify fun s => { s with keys := (s.flowDepth, key) :: s.keys }

def toNextToken : Nat → Step Unit
  | 0 => return ()
  | fuel + 1 => do
    scan Scan.restOfLine
    if !(← scan Scan.lineBreak).isEmpty then
      if !(← inFlow) then allowKey true
      toNextToken fuel

def skipByteOrderMark : Step Unit := do
  let cursor := (← get).cursor
  if cursor.index = 0 && cursor.peek = byteOrderMark then scan (Scan.skip 1)

def single (token : Token) : Step Unit := do
  scan (Scan.skip 1)
  push token

def streamEnd : Step Unit := do
  unwind (-1)
  dropKey
  modify fun s => { s with keyAllowed := false, keys := [], done := true }
  push .streamEnd

def directive : Step Unit := do
  unwind (-1)
  dropKey
  allowKey false
  push (← scan Scan.directive)

def documentMark (token : Token) : Step Unit := do
  unwind (-1)
  dropKey
  allowKey false
  scan (Scan.skip 3)
  push token

def flowStart (token : Token) : Step Unit := do
  noteKey
  modify fun s => { s with flowDepth := s.flowDepth + 1 }
  allowKey true
  single token

/-- A closing bracket that closes nothing fits no document. -/
def flowEnd (token : Token) : Step Unit := do
  dropKey
  if !(← inFlow) then reject
  modify fun s => { s with flowDepth := s.flowDepth - 1 }
  allowKey false
  single token

def flowEntry : Step Unit := do
  allowKey true
  dropKey
  single .flowEntry

def openAtIndicator (token : Token) : Step Unit := do
  let s ← get
  if s.flowDepth = 0 then
    if !s.keyAllowed then reject
    if ← openBlock s.cursor.column then push token

def blockEntry : Step Unit := do
  openAtIndicator .blockSequenceStart
  allowKey true
  dropKey
  single .blockEntry

def key : Step Unit := do
  openAtIndicator .blockMappingStart
  allowKey !(← inFlow)
  dropKey
  single .key

/-- Puts the token of a key, and of the mapping that it opens, where the key began. -/
def insertKey (key : KeyStart) : Step Unit := do
  let opens ← if ← inFlow then pure false else openBlock key.column
  let inserted := if opens then [Token.key, .blockMappingStart] else [.key]
  modify fun s =>
    let (behind, before) := s.tokens.splitAt (s.count - key.token)
    { s with
      tokens := behind ++ inserted ++ before
      count := s.count + inserted.length
      keys := s.keys.filter fun entry => entry.1 ≠ s.flowDepth }

def value : Step Unit := do
  match ← pendingKey? with
  | some key =>
    insertKey key
    allowKey false
  | none =>
    openAtIndicator .blockMappingStart
    allowKey !(← inFlow)
    dropKey
  single .value

def content (read : Scan Token) : Step Unit := do
  noteKey
  allowKey false
  push (← scan read)

def blockScalar (folded : Bool) : Step Unit := do
  allowKey true
  dropKey
  push (← scan (Scan.blockScalar folded (← get).indent))

def plainScalar : Step Unit := do
  noteKey
  let s ← get
  let (token, ended) ← scan (Scan.plainScalar s.indent (s.flowDepth ≠ 0))
  allowKey ended
  push token

def startsPlain (c : Char) (beforeBlank inFlow : Bool) : Bool :=
  !(isBlankOrEnd c || "-?:,[]\x7b\x7d#&*!|>'\"%@`".toList.contains c) ||
    (!beforeBlank && (c = '-' || (!inFlow && (c = '?' || c = ':'))))

def looksAhead (c : Char) (inFlow : Bool) : Bool :=
  "-%@`\t".toList.contains c || (if inFlow then c = '|' || c = '>' else c = '?' || c = ':')

/-- Reads one token, with those that indentation brings about before it. -/
def next : Step Unit := do
  skipByteOrderMark
  toNextToken (← scan Scan.fuel)
  dropStaleKeys
  unwind (← get).cursor.column
  let s ← get
  let inFlow := s.flowDepth ≠ 0
  let c := s.cursor.peek
  let atMark ←
    if (c = '-' || c = '.') && s.cursor.column = 0 then scan Scan.atDocumentMark else pure false
  let beforeBlank ←
    if !atMark && looksAhead c inFlow then scan (isBlankOrEnd <$> Scan.peekAt 1)
    else pure false
  if c = endMark then streamEnd
  else if c = '%' && s.cursor.column = 0 then directive
  else if c = '-' && atMark then documentMark .documentStart
  else if c = '.' && atMark then documentMark .documentEnd
  else if c = '[' then flowStart .flowSequenceStart
  else if c = '\x7b' then flowStart .flowMappingStart
  else if c = ']' then flowEnd .flowSequenceEnd
  else if c = '\x7d' then flowEnd .flowMappingEnd
  else if c = ',' then flowEntry
  else if c = '-' && beforeBlank then blockEntry
  else if c = '?' && (inFlow || beforeBlank) then key
  else if c = ':' && (inFlow || beforeBlank) then value
  else if c = '*' then content (return .alias (← Scan.anchorName))
  else if c = '&' then content (return .anchor (← Scan.anchorName))
  else if c = '!' then content Scan.tag
  else if c = '|' && !inFlow then blockScalar false
  else if c = '>' && !inFlow then blockScalar true
  else if c = '\'' then content (Scan.quotedScalar false)
  else if c = '"' then content (Scan.quotedScalar true)
  else if startsPlain c beforeBlank inFlow then plainScalar
  else reject

/-- The tokens in front of the first pending key. Those behind it wait for what follows, since a
colon would put others in front of them. -/
def settled (s : Scanner) : List Token :=
  let n := s.keys.foldl
    (fun n entry => if entry.2.isStale s.cursor then n else min n entry.2.token) s.count
  (s.tokens.drop (s.count - n)).reverse

def run : Nat → Scanner → List Token × Option Fault
  | 0, s => (s.settled, none)
  | fuel + 1, s =>
    if s.done then (s.settled, none)
    else match next s with
      | .ok (_, s) => run fuel s
      | .error fault => (s.settled, some fault)

end Scanner

def tokens (source : Source) : List Token × Option Fault :=
  match Scan.lookOut 1 (.ofText source.text source.ending) with
  | .error fault => ([], some fault)
  | .ok (_, cursor) =>
    Scanner.run (cursor.size + 2) { cursor }

end SchemaPlan.Yaml
