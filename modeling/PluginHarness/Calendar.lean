/-!
# Dates and moments

A date of the proleptic Gregorian calendar, and a moment: a date, a time of day, and possibly an
offset from universal time. Values outside the calendar are refused, each with its own fault.

## Main definitions

* `Date`, `Moment`: the values.
* `Date.make`, `Moment.make`: the checked constructors.
* `Date.text`, `Moment.text`: the ISO text; `Date.fields`, `Moment.fields`: the fields in order.
* `Moment.instant?`: a moment with an offset as a count of microseconds, by which two of them
  are compared.
-/

namespace PluginHarness

/-- Why numbers make no date or moment. -/
inductive CalendarFault where
  | year (year : Nat)
  | month
  | day
  | hour
  | minute
  | second
  /-- The offset is a whole day or more; it is given in seconds. -/
  | offset (seconds : Int)
  deriving DecidableEq, Repr

/-- A day. -/
structure Date where
  year : Nat
  month : Nat
  day : Nat
  deriving DecidableEq, Repr

/-- A day and a time of day; `offset` is the distance from universal time in seconds. -/
structure Moment where
  date : Date
  hour : Nat
  minute : Nat
  second : Nat
  microsecond : Nat
  offset : Option Int
  deriving DecidableEq, Repr

/-- A number in decimal with leading zeros up to `width` digits. -/
def padded (width n : Nat) : String :=
  let digits := Nat.toDigits 10 n
  String.ofList (List.replicate (width - digits.length) '0' ++ digits)

/-- A span of time as its nonzero fields; the seconds are those within the day, so a negative
span has a negative count of days. -/
def spanText (seconds : Int) : String :=
  let days := seconds / 86400
  let rest := seconds % 86400
  let fields := (if days = 0 then [] else ["days=" ++ toString days]) ++
    (if rest = 0 then [] else ["seconds=" ++ toString rest])
  "datetime.timedelta(" ++ (if fields.isEmpty then "0" else ", ".intercalate fields) ++ ")"

namespace CalendarFault

/-- The fault in words. -/
def message : CalendarFault → String
  | .year y => "year " ++ toString y ++ " is out of range"
  | .month => "month must be in 1..12"
  | .day => "day is out of range for month"
  | .hour => "hour must be in 0..23"
  | .minute => "minute must be in 0..59"
  | .second => "second must be in 0..59"
  | .offset seconds =>
    "offset must be a timedelta strictly between -timedelta(hours=24) and timedelta(hours=24), " ++
      "not " ++ spanText seconds

end CalendarFault

namespace Date

/-- Years divisible by 4 are leap years, those by 100 are not, those by 400 are. -/
def isLeap (year : Nat) : Bool := year % 4 == 0 && (year % 100 != 0 || year % 400 == 0)

/-- How many days a month has. -/
def daysInMonth (year month : Nat) : Nat :=
  if month = 2 then if isLeap year then 29 else 28
  else if month = 4 || month = 6 || month = 9 || month = 11 then 30 else 31

/-- The date with these fields. -/
def make (year month day : Nat) : Except CalendarFault Date := do
  if year = 0 || 9999 < year then throw (.year year)
  if month = 0 || 12 < month then throw .month
  if day = 0 || daysInMonth year month < day then throw .day
  return ⟨year, month, day⟩

/-- The ISO text. -/
def text (d : Date) : String :=
  padded 4 d.year ++ "-" ++ padded 2 d.month ++ "-" ++ padded 2 d.day

/-- The fields in order. -/
def fields (d : Date) : List Nat := [d.year, d.month, d.day]

/-- The number of days since the first of January of the year one. -/
def dayNumber (d : Date) : Nat :=
  let y := d.year - 1
  let months := (List.range (d.month - 1)).foldl (fun n m => n + daysInMonth d.year (m + 1)) 0
  365 * y + y / 4 - y / 100 + y / 400 + months + (d.day - 1)

end Date

namespace Moment

/-- The moment with these fields. -/
def make (year month day hour minute second microsecond : Nat) (offset : Option Int) :
    Except CalendarFault Moment := do
  if let some o := offset then
    if 86400 ≤ o.natAbs then throw (.offset o)
  let date ← Date.make year month day
  if 23 < hour then throw .hour
  if 59 < minute then throw .minute
  if 59 < second then throw .second
  return ⟨date, hour, minute, second, microsecond, offset⟩

/-- The offset as hours and minutes with a sign. -/
def offsetText (seconds : Int) : String :=
  let minutes := seconds.natAbs / 60
  (if seconds < 0 then "-" else "+") ++ padded 2 (minutes / 60) ++ ":" ++ padded 2 (minutes % 60)

/-- The ISO text with a space before the time; the fraction only if there is one. -/
def text (m : Moment) : String :=
  m.date.text ++ " " ++ padded 2 m.hour ++ ":" ++ padded 2 m.minute ++ ":" ++ padded 2 m.second ++
    (if m.microsecond = 0 then "" else "." ++ padded 6 m.microsecond) ++
    (m.offset.map offsetText).getD ""

/-- The fields in order; trailing seconds and microseconds are left out when zero. -/
def fields (m : Moment) : List Nat :=
  m.date.fields ++ [m.hour, m.minute] ++
    (if m.microsecond ≠ 0 then [m.second, m.microsecond]
     else if m.second ≠ 0 then [m.second] else [])

/-- A moment with an offset, in microseconds of universal time. -/
def instant? (m : Moment) : Option Int :=
  m.offset.map fun o =>
    (((m.date.dayNumber * 24 + m.hour) * 60 + m.minute) * 60 + m.second - o) * 1000000 +
      m.microsecond

/-- Moments without offset are the same when their fields are; moments with one when they are
the same instant. -/
def same (a b : Moment) : Bool :=
  match a.instant?, b.instant? with
  | some i, some j => i == j
  | none, none => a == b
  | _, _ => false

end Moment

end PluginHarness
