import SchemaPlan.Calendar.Date

namespace SchemaPlan

def paddedDigits (width n : Nat) : List Char :=
  let digits := Nat.toDigits 10 n
  List.replicate (width - digits.length) '0' ++ digits

structure Moment where
  date : Date
  hour : Nat
  minute : Nat
  second : Nat
  deriving DecidableEq

namespace Moment

inductive Fault
  | date (fault : Date.Fault)
  | hourOutOfRange
  | minuteOutOfRange
  | secondOutOfRange
  /-- A field beyond 32 bits, or beyond 64. -/
  | fieldTooLarge
  | fieldTooSmall
  | fieldTooLong
  deriving DecidableEq

def Fault.message : Fault → String
  | .date fault => fault.message
  | .hourOutOfRange => "hour must be in 0..23"
  | .minuteOutOfRange => "minute must be in 0..59"
  | .secondOutOfRange => "second must be in 0..59"
  | .fieldTooLarge => "signed integer is greater than maximum"
  | .fieldTooSmall => "signed integer is less than minimum"
  | .fieldTooLong => "Python int too large to convert to C long"

/-- Fields are held in 32 bits. -/
def checkField (n : Int) : Except Fault Unit :=
  if n < -0x8000000000000000 ∨ 0x8000000000000000 ≤ n then .error .fieldTooLong
  else if 0x80000000 ≤ n then .error .fieldTooLarge
  else if n < -0x80000000 then .error .fieldTooSmall
  else .ok ()

def make (year month day hour minute second : Int) : Except Fault Moment := do
  [year, month, day, hour, minute, second].forM checkField
  let date ← (Date.make year month day).mapError .date
  if hour < 0 ∨ 23 < hour then throw .hourOutOfRange
  if minute < 0 ∨ 59 < minute then throw .minuteOutOfRange
  if second < 0 ∨ 59 < second then throw .secondOutOfRange
  return ⟨date, hour.toNat, minute.toNat, second.toNat⟩

def next? (m : Moment) : Option Moment :=
  if m.second < 59 then some { m with second := m.second + 1 }
  else if m.minute < 59 then some { m with minute := m.minute + 1, second := 0 }
  else if m.hour < 23 then some ⟨m.date, m.hour + 1, 0, 0⟩
  else m.date.next?.map fun date => ⟨date, 0, 0, 0⟩

def seconds (m : Moment) : Nat :=
  ((m.date.dayNumber * 24 + m.hour) * 60 + m.minute) * 60 + m.second

/-- Year, month, day, hour, minute and second without separators; the year is not padded. -/
def stamp (m : Moment) : List Char :=
  Nat.toDigits 10 m.date.year ++ paddedDigits 2 m.date.month ++ paddedDigits 2 m.date.day ++
    paddedDigits 2 m.hour ++ paddedDigits 2 m.minute ++ paddedDigits 2 m.second

end Moment

end SchemaPlan
