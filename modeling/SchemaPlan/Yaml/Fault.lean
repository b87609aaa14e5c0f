import SchemaPlan.Calendar.Moment
import SchemaPlan.Decimal.Binary64
import SchemaPlan.Numeral
import SchemaPlan.Yaml.Letter

namespace SchemaPlan.Yaml

inductive Fault
  /-- The document is not well-formed, or a value does not fit its tag. -/
  | malformed
  | undecodable
  /-- Collections, merged mappings or `=` entries within one another beyond all measure. -/
  | nestedTooDeep
  | characterOutOfRange
  | characterCodeTooLong
  | numeral (fault : Numeral.Fault)
  | notAWhole (base : Nat) (letters : List Letter)
  | notAFloat (letters : List Letter)
  | wholeTooLarge
  | emptyNumber
  | notABoolean (letters : List Letter)
  | notATimestamp
  | notText
  | moment (fault : Moment.Fault)
  /-- An offset of a day or more, in minutes. -/
  | offsetOutOfRange (minutes : Int)
  deriving DecidableEq

def spanText (minutes : Int) : String :=
  let days := minutes.fdiv 1440
  let seconds := (minutes.fmod 1440) * 60
  let parts := (if days = 0 then [] else [s!"days={days}"]) ++
    (if seconds = 0 then [] else [s!"seconds={seconds}"])
  "datetime.timedelta(" ++ (if parts.isEmpty then "0" else ", ".intercalate parts) ++ ")"

def Fault.message : Fault → String
  | .malformed => "Invalid YAML"
  | .undecodable => ""
  | .nestedTooDeep => "maximum recursion depth exceeded"
  | .characterOutOfRange => "chr() arg not in range(0x110000)"
  | .characterCodeTooLong => "Python int too large to convert to C int"
  | .numeral fault => fault.message
  | .notAWhole base letters => Numeral.malformedMessage base (Letter.quote letters)
  | .notAFloat letters => "could not convert string to float: " ++ .ofList (Letter.quote letters)
  | .wholeTooLarge => Binary64.tooLargeMessage
  | .emptyNumber => "string index out of range"
  | .notABoolean letters => .ofList (Letter.quote letters)
  | .notATimestamp => "'NoneType' object has no attribute 'groupdict'"
  | .notText => "expected string or bytes-like object"
  | .moment fault => fault.message
  | .offsetOutOfRange minutes =>
    "offset must be a timedelta strictly between -timedelta(hours=24) and timedelta(hours=24), " ++
      s!"not {spanText minutes}."

end SchemaPlan.Yaml
