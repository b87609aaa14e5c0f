import SchemaPlan.Text.Lines
import SchemaPlan.Yaml.Cursor

namespace SchemaPlan.Yaml

def standardTag (name : String) : String := "tag:yaml.org,2002:" ++ name

namespace Notation

def isOneOf (words : List String) (s : List Char) : Bool := words.contains (.ofList s)

def areDigits (base : Nat) (s : List Char) : Bool :=
  !s.isEmpty && s.all fun c => c = '_' || (Numeral.digitInBase? base c).isSome

def dropSign : List Char → List Char
  | '-' :: rest => rest
  | '+' :: rest => rest
  | s => s

def isDecimalRun : List Char → Bool
  | [] => false
  | c :: rest => c.isDigit && rest.all fun d => d = '_' || d.isDigit

def isSixtieth : List Char → Bool
  | [c] => c.isDigit
  | [c, d] => '0' ≤ c && c ≤ '5' && d.isDigit
  | _ => false

def isSexagesimal (s : List Char) : Bool :=
  match Text.splitOn ':' s with
  | first :: second :: more => isDecimalRun first && (second :: more).all isSixtieth
  | _ => false

def isExponent : List Char → Bool
  | [] => true
  | e :: sign :: digits =>
    (e = 'e' || e = 'E') && (sign = '-' || sign = '+') && !digits.isEmpty && digits.all Char.isDigit
  | _ => false

def isFraction (s : List Char) : Bool :=
  isExponent (s.dropWhile fun c => c = '_' || c.isDigit)

def isInteger (s : List Char) : Bool :=
  match dropSign s with
  | '0' :: 'b' :: digits => areDigits 2 digits
  | '0' :: 'x' :: digits => areDigits 16 digits
  | ['0'] => true
  | '0' :: digits => areDigits 8 digits
  | body => isDecimalRun body || isSexagesimal body

def isFloat (s : List Char) : Bool :=
  let body := dropSign s
  isOneOf [".inf", ".Inf", ".INF"] body || isOneOf [".nan", ".NaN", ".NAN"] s ||
  match body.takeWhile (· ≠ '.'), body.dropWhile (· ≠ '.') with
  | [], _ :: d :: fraction => s.head? = some '.' && d.isDigit && isFraction fraction
  | whole, _ :: fraction =>
    (isDecimalRun whole && isFraction fraction) ||
      (isSexagesimal whole && fraction.all fun c => c = '_' || c.isDigit)
  | _, [] => false

def isBoolean : List Char → Bool :=
  isOneOf ["yes", "Yes", "YES", "no", "No", "NO", "true", "True", "TRUE", "false", "False",
    "FALSE", "on", "On", "ON", "off", "Off", "OFF"]

/-- The marks of tags, anchors and aliases, which only a quoted text can hold alone. -/
def isMark : List Char → Bool := isOneOf ["!", "&", "*"]

def isNull : List Char → Bool := isOneOf ["~", "null", "Null", "NULL", ""]

end Notation

structure TimeFields where
  year : List Char
  month : List Char
  day : List Char
  hour : Option (List Char × List Char × List Char) := none
  fraction : List Char := []
  /-- The sign, hours and minutes of the offset; without fields for UTC. -/
  offset : Option (Option (Char × List Char × List Char)) := none

namespace TimeFields

def digits? (least most : Nat) (s : List Char) : Option (List Char × List Char) :=
  let taken := (s.take most).takeWhile Char.isDigit
  if least ≤ taken.length then some (taken, s.drop taken.length) else none

def char? (c : Char) : List Char → Option (List Char)
  | [] => none
  | d :: rest => if d = c then some rest else none

def isSpace (c : Char) : Bool := c = ' ' || c = '\t'

def offset? (s : List Char) : Option (Option (Option (Char × List Char × List Char))) :=
  match s.dropWhile isSpace with
  | [] => if s.isEmpty then some none else none
  | ['Z'] => some (some none)
  | sign :: rest => do
    guard (sign = '-' || sign = '+')
    let (hours, rest) ← digits? 1 2 rest
    match rest with
    | [] => return some (some (sign, hours, []))
    | _ =>
      let (minutes, rest) ← char? ':' rest >>= digits? 2 2
      guard rest.isEmpty
      return some (some (sign, hours, minutes))

def afterSeparator? : List Char → Option (List Char)
  | [] => none
  | c :: rest =>
    if c = 'T' || c = 't' then some rest
    else if isSpace c then some (rest.dropWhile isSpace)
    else none

def read? (s : List Char) : Option TimeFields := do
  let (year, s) ← digits? 4 4 s
  let (month, s) ← char? '-' s >>= digits? 1 2
  let (day, s) ← char? '-' s >>= digits? 1 2
  if s.isEmpty then return { year, month, day }
  let (hour, s) ← afterSeparator? s >>= digits? 1 2
  let (minute, s) ← char? ':' s >>= digits? 2 2
  let (second, s) ← char? ':' s >>= digits? 2 2
  let (fraction, s) :=
    match s with
    | '.' :: rest => (rest.takeWhile Char.isDigit, rest.dropWhile Char.isDigit)
    | s => ([], s)
  let offset ← offset? s
  return { year, month, day, hour := some (hour, minute, second), fraction, offset }

/-- A date alone has two digits for the month and for the day. -/
def isTimestamp (s : List Char) : Bool :=
  match read? s with
  | some fields => fields.hour.isSome || (fields.month.length = 2 && fields.day.length = 2)
  | none => false

end TimeFields

/-- A line feed at the end does not count, unless it is all there is. -/
def notationText (s : List Char) : List Char :=
  if s.getLast? = some '\n' && s.length ≠ 1 then s.dropLast else s

def implicitTag (s : List Char) : String :=
  let s := notationText s
  standardTag <|
    if Notation.isBoolean s then "bool"
    else if Notation.isFloat s then "float"
    else if Notation.isInteger s then "int"
    else if s = ['<', '<'] then "merge"
    else if Notation.isNull s then "null"
    else if TimeFields.isTimestamp s then "timestamp"
    else if s = ['='] then "value"
    else if Notation.isMark s then "yaml"
    else "str"

end SchemaPlan.Yaml
