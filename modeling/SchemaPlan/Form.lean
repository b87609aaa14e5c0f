import SchemaPlan.Text.Blank
import SchemaPlan.Text.Word

namespace SchemaPlan

/-- A statement in one of the known forms, with its words as they are spelled. -/
inductive Form
  | createTable (table : List Char)
  | dropTable (table : List Char)
  | addColumn (table column typeToken : List Char) (nullable : Option Bool)
  | dropColumn (table column : List Char)
  | createIndex (unique : Bool) (name table column : List Char)
  | dropIndex (name : List Char) (table : Option (List Char))
  deriving DecidableEq

namespace Form

/-- Letters are compared without case; the dotted and the dotless I both pass for an I. -/
def isLetter (letter c : Char) : Bool :=
  c.toLower = letter || (letter = 'i' && (c.toNat = 0x130 || c.toNat = 0x131))

def afterKeyword? : List Char → List Char → Option (List Char)
  | [], s => some s
  | _ :: _, [] => none
  | letter :: more, c :: s => if isLetter letter c then afterKeyword? more s else none

def skipBlanks (s : List Char) : List Char := s.dropWhile Text.isBlank

def afterGap? : List Char → Option (List Char)
  | [] => none
  | c :: s => if Text.isBlank c then some (skipBlanks s) else none

def afterKeywords? : List String → List Char → Option (List Char)
  | [], s => some s
  | k :: ks, s => do
    let s ← afterKeyword? k.toList s
    let s ← afterGap? s
    afterKeywords? ks s

def after? (c : Char) : List Char → Option (List Char)
  | [] => none
  | d :: s => if d = c then some s else none

def quotationMarks : List Char := "\"`".toList

def skipMark : List Char → List Char
  | [] => []
  | c :: s => if quotationMarks.contains c then s else c :: s

def word? (s : List Char) : Option (List Char × List Char) :=
  match s.takeWhile Text.isWordChar with
  | [] => none
  | word => some (word, s.dropWhile Text.isWordChar)

def identifier? (s : List Char) : Option (List Char × List Char) := do
  let (word, s) ← word? (skipMark s)
  return (word, skipMark s)

def isEnd (s : List Char) : Bool :=
  match skipBlanks s with
  | [] => true
  | c :: s => c = ';' && (skipBlanks s).isEmpty

def typeToken? (s : List Char) : Option (List Char × List Char) := do
  let (name, s) ← word? s
  match skipBlanks s with
  | '(' :: body =>
    match body.dropWhile (· ≠ ')') with
    | [] => return (name, s)
    | _ :: rest =>
      return (name ++ s.takeWhile Text.isBlank ++ '(' :: body.takeWhile (· ≠ ')') ++ [')'], rest)
  | _ => return (name, s)

def nullability (s : List Char) : Option Bool × List Char :=
  match afterGap? s with
  | none => (none, s)
  | some body =>
    match afterKeywords? ["not"] body >>= afterKeyword? "null".toList with
    | some rest => (some false, rest)
    | none =>
      match afterKeyword? "null".toList body with
      | some rest => (some true, rest)
      | none => (none, s)

def createTable? (s : List Char) : Option Form := do
  let s ← afterKeywords? ["create", "table"] s
  let (table, s) ← identifier? s
  let _ ← after? '(' (skipBlanks s)
  return .createTable table

def dropTable? (s : List Char) : Option Form := do
  let s ← afterKeywords? ["drop", "table"] s
  let (table, s) ← identifier? s
  guard (isEnd s)
  return .dropTable table

def addColumn? (s : List Char) : Option Form := do
  let s ← afterKeywords? ["alter", "table"] s
  let (table, s) ← identifier? s
  let s ← afterGap? s
  let s ← afterKeywords? ["add", "column"] s
  let (column, s) ← identifier? s
  let s ← afterGap? s
  let (token, s) ← typeToken? s
  let (nullable, s) := nullability s
  guard (isEnd s)
  return .addColumn table column token nullable

def dropColumn? (s : List Char) : Option Form := do
  let s ← afterKeywords? ["alter", "table"] s
  let (table, s) ← identifier? s
  let s ← afterGap? s
  let s ← afterKeywords? ["drop", "column"] s
  let (column, s) ← identifier? s
  guard (isEnd s)
  return .dropColumn table column

def createIndex? (unique : Bool) (s : List Char) : Option Form := do
  let s ← afterKeywords? (if unique then ["create", "unique", "index"] else ["create", "index"]) s
  let (name, s) ← identifier? s
  let s ← afterGap? s
  let s ← afterKeywords? ["on"] s
  let (table, s) ← identifier? s
  let s ← after? '(' (skipBlanks s)
  let (column, s) ← identifier? (skipBlanks s)
  let s ← after? ')' (skipBlanks s)
  guard (isEnd s)
  return .createIndex unique name table column

def dropIndex? (s : List Char) : Option Form := do
  let s ← afterKeywords? ["drop", "index"] s
  let (name, s) ← identifier? s
  match afterGap? s >>= afterKeywords? ["on"] >>= identifier? with
  | some (table, rest) =>
    guard (isEnd rest)
    return .dropIndex name (some table)
  | none =>
    guard (isEnd s)
    return .dropIndex name none

def readers : List (List Char → Option Form) :=
  [createTable?, dropTable?, addColumn?, dropColumn?, createIndex? true, createIndex? false,
    dropIndex?]

def read? (s : List Char) : Option Form := readers.findSome? (· s)

end Form

end SchemaPlan
