import SchemaPlan.Logged
import SchemaPlan.Statement
import SchemaPlan.Text.Blank
import SchemaPlan.Text.LetterCase
import SchemaPlan.Text.Lines

namespace SchemaPlan.Plan

def marker : List Char := ['-', '>', ' ']

def keywords : List (List Char) := ["CREATE".toList, "ALTER".toList, "DROP".toList]

def contains (part : List Char) : List Char → Bool
  | [] => part.isEmpty
  | c :: rest => part.isPrefixOf (c :: rest) || contains part rest

def mentionsKeyword (s : List Char) : Bool := keywords.any fun k => contains k (Text.upper s)

def marked? (line : List Char) : Option (List Char) :=
  let line := Text.trim line
  if marker.isPrefixOf line then some (Text.trim (line.drop marker.length)) else none

def statementText? (line : List Char) : Logged (Option (List Char)) :=
  match marked? line with
  | none => pure none
  | some sql =>
    if mentionsKeyword sql then pure (some sql)
    else do
      Logged.debug s!"Skipping non-DDL plan line: {String.ofList sql}"
      return none

def statementTexts : List (List Char) → Logged (List String)
  | [] => pure []
  | line :: rest => do
    let text? ← statementText? line
    let texts ← statementTexts rest
    return (text?.map String.ofList).toList ++ texts

def statements (output : String) : Logged (List Statement) := do
  let texts ← statementTexts (Text.lines output.toList)
  Logged.debug s!"Extracted {texts.length} statement(s) from Atlas output"
  return Statement.number 0 texts

end SchemaPlan.Plan
