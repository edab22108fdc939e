import InterfaceAtlas.Decimal.Positional

/-!
# Dates and times

Days of the Gregorian calendar from year 1 to 9999, and times of such a day with an optional offset
from universal time.
-/

namespace InterfaceAtlas

/-- A day. -/
structure Date where
  year : Nat
  month : Nat
  day : Nat
deriving DecidableEq, Repr, Inhabited

/-- A time of a day, down to microseconds, with its offset from universal time in seconds. -/
structure Moment where
  date : Date
  hour : Nat
  minute : Nat
  second : Nat
  micro : Nat
  offset : Option Int
deriving DecidableEq, Repr, Inhabited

namespace Decimal

/-- A number with zeros in front up to `width` digits. -/
def padded (width n : Nat) : String :=
  let ds := natDigits n
  String.ofList (List.replicate (width - ds.length) '0' ++ ds)

end Decimal

namespace Date

/-- Whether a year has a 29th of February. -/
def isLeap (year : Nat) : Bool := year % 4 == 0 && (year % 100 != 0 || year % 400 == 0)

/-- The number of days of a month. -/
def daysIn (year month : Nat) : Nat :=
  if month = 2 then if isLeap year then 29 else 28
  else if month = 4 || month = 6 || month = 9 || month = 11 then 30
  else 31

/-- Why three numbers are no day. -/
def fault? (d : Date) : Option String :=
  if d.year < 1 || 9999 < d.year then some ("year " ++ Decimal.ofInt d.year ++ " is out of range")
  else if d.month < 1 || 12 < d.month then some "month must be in 1..12"
  else if d.day < 1 || daysIn d.year d.month < d.day then some "day is out of range for month"
  else none

/-- A day as year, month and day with dashes between them. -/
def text (d : Date) : String :=
  Decimal.padded 4 d.year ++ "-" ++ Decimal.padded 2 d.month ++ "-" ++ Decimal.padded 2 d.day

/-- The three numbers with commas between them. -/
def fields (d : Date) : List Nat := [d.year, d.month, d.day]

end Date

namespace Moment

/-- Why the parts are no time of a day. -/
def fault? (t : Moment) : Option String :=
  match t.date.fault? with
  | some fault => some fault
  | none =>
    if 23 < t.hour then some "hour must be in 0..23"
    else if 59 < t.minute then some "minute must be in 0..59"
    else if 59 < t.second then some "second must be in 0..59"
    else none

/-- Why an offset is none: it has to be less than a day. -/
def offsetFault? (t : Moment) : Option String :=
  t.offset.bind fun seconds =>
    if seconds.natAbs < 86400 then none
    else
      let days := if seconds / 86400 = 0 then []
        else ["days=" ++ Decimal.ofInt (seconds / 86400)]
      let left := if seconds % 86400 = 0 then []
        else ["seconds=" ++ Decimal.ofInt (seconds % 86400)]
      some ("offset must be a timedelta strictly between -timedelta(hours=24) and "
        ++ "timedelta(hours=24), not datetime.timedelta(" ++ ", ".intercalate (days ++ left)
        ++ ").")

/-- An offset as sign, hours and minutes. -/
def offsetText (seconds : Int) : String :=
  let n := seconds.natAbs
  (if seconds < 0 then "-" else "+") ++ Decimal.padded 2 (n / 3600) ++ ":"
    ++ Decimal.padded 2 (n / 60 % 60)

/-- A time as its day, the time of the day, and the offset. -/
def text (t : Moment) : String :=
  t.date.text ++ " " ++ Decimal.padded 2 t.hour ++ ":" ++ Decimal.padded 2 t.minute ++ ":"
    ++ Decimal.padded 2 t.second
    ++ (if t.micro = 0 then "" else "." ++ Decimal.padded 6 t.micro)
    ++ (match t.offset with
      | none => ""
      | some seconds => offsetText seconds)

end Moment

end InterfaceAtlas
