import SchemaPlan.Yaml.Value.Order

namespace SchemaPlan

def Date.text (d : Date) : String :=
  .ofList (paddedDigits 4 d.year ++ '-' :: paddedDigits 2 d.month ++ '-' :: paddedDigits 2 d.day)

namespace Yaml

namespace Timestamp

def offsetText (minutes : Int) : List Char :=
  (if minutes < 0 then '-' else '+') :: paddedDigits 2 (minutes.natAbs / 60) ++
    ':' :: paddedDigits 2 (minutes.natAbs % 60)

def text (t : Timestamp) : String :=
  let clock := paddedDigits 2 t.moment.hour ++ ':' :: paddedDigits 2 t.moment.minute ++
    ':' :: paddedDigits 2 t.moment.second
  let fraction := if t.microsecond = 0 then [] else '.' :: paddedDigits 6 t.microsecond
  t.moment.date.text ++ " " ++ .ofList (clock ++ fraction ++ (t.offset.map offsetText).getD [])

def zoneText (minutes : Int) : String :=
  if minutes = 0 then "datetime.timezone.utc" else s!"datetime.timezone({spanText minutes})"

def spelledOut (t : Timestamp) : String :=
  let m := t.moment
  let fields := [m.date.year, m.date.month, m.date.day, m.hour, m.minute] ++
    (if m.second ≠ 0 ∨ t.microsecond ≠ 0 then [m.second] else []) ++
    (if t.microsecond ≠ 0 then [t.microsecond] else [])
  let zone := (t.offset.map fun minutes => "tzinfo=" ++ zoneText minutes).toList
  "datetime.datetime(" ++ ", ".intercalate (fields.map toString ++ zone) ++ ")"

end Timestamp

namespace Document

def bracketed (left right : String) (parts : List String) : String :=
  left ++ ", ".intercalate parts ++ right

def leftBrace : String := "\x7b"

def rightBrace : String := "\x7d"

/-- A value as it is shown within a container; `outer` holds the containers around it. The number
bounds how many more may lie within one another. -/
def shown (d : Document) : Nat → List Nat → Value → Except Fault String
  | _, _, .null => .ok "None"
  | _, _, .boolean b => .ok (if b then "True" else "False")
  | _, _, .whole n => (Numeral.write n).mapError .numeral
  | _, _, .float x => .ok (.ofList x.text)
  | _, _, .undefined _ => .ok (.ofList Binary64.nan.text)
  | _, _, .text s => .ok (quoted s)
  | _, _, .broken letters => .ok (.ofList (Letter.quote letters))
  | _, _, .bytes bytes => .ok (.ofList (Text.quoteBytes bytes))
  | _, _, .date date => .ok s!"datetime.date({date.year}, {date.month}, {date.day})"
  | _, _, .time t => .ok t.spelledOut
  | 0, _, .container _ => .error .nestedTooDeep
  | fuel + 1, outer, .container id => do
    let inside := outer.contains id
    let part := d.shown fuel (id :: outer)
    match d.containers[id]? with
    | none => return "None"
    | some (.list items) =>
      if inside then return "[...]"
      let parts ← items.mapM part
      return bracketed "[" "]" parts
    | some (.mapping entries) =>
      if inside then return bracketed leftBrace rightBrace ["..."]
      let parts ← entries.mapM fun (k, v) => return (← part k) ++ ": " ++ (← part v)
      return bracketed leftBrace rightBrace parts
    | some (.set members) =>
      if members.isEmpty then return "set()"
      let parts ← (Value.inSetOrder members).mapM part
      return bracketed leftBrace rightBrace parts
    | some (.pairs entries) =>
      if inside then return "[...]"
      let parts ← entries.mapM fun (k, v) => return bracketed "(" ")" [← part k, ← part v]
      return bracketed "[" "]" parts

def text (d : Document) (v : Value) : Except Fault String :=
  match v.text?, v with
  | some s, _ => .ok s
  | none, .date date => .ok date.text
  | none, .time t => .ok t.text
  | none, v => d.shown maxChain [] v

end Document

end Yaml

end SchemaPlan
