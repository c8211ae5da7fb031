import ODataToken.Text.Basic

/-!
# Dates, times and durations

Dates of the proleptic Gregorian calendar, times of day, offsets from UTC and durations, with their
canonical texts.

## What is here

* `CalendarDate`, `TimeOfDay` and `DateTimeOffset` hold the fields as they are written.  They do not
  restrict them: what a parser yields is in range, and a value that is out of range still has a text
  (`CalendarDate.text` and its like).  What the fields are is a parameter, which is `Int` unless it
  is said to be something else.  Everything that is read and written has integers in them; a program
  can put any floats there, and these only ever meet equality and the JSON form.
* `isLeapYear` and `daysInMonth?` are the calendar.
* `Duration` is a whole number of nanoseconds, of any size and either sign.  Its canonical text is
  `duration'…'` with the days, hours, minutes and seconds that are not zero, the days without bound.

Dates and times are neither compared by their order nor computed with, and there are no time zones:
an offset is a number of minutes.
-/

set_option autoImplicit false

namespace ODataToken

/-! ## Values -/

/-- A date of the proleptic Gregorian calendar.  The year may be zero or negative. -/
structure CalendarDate (ν : Type := Int) where
  year : ν
  month : ν
  day : ν
  deriving DecidableEq, Repr

/-- A time of day.  The hour ranges over 0 to 24. -/
structure TimeOfDay (ν : Type := Int) where
  hour : ν
  minute : ν
  second : ν
  nanosecond : ν
  deriving DecidableEq, Repr

/-- A date and a time with the minutes east of UTC. -/
structure DateTimeOffset (ν : Type := Int) where
  date : CalendarDate ν
  time : TimeOfDay ν
  offsetMinutes : ν
  deriving DecidableEq, Repr

/-! ## Equality -/

section Equality

variable {ν : Type} [BEq ν]

/-- Equality of dates, field by field. -/
def CalendarDate.equal (a b : CalendarDate ν) : Bool :=
  a.year == b.year && a.month == b.month && a.day == b.day

/-- Equality of times, field by field. -/
def TimeOfDay.equal (a b : TimeOfDay ν) : Bool :=
  a.hour == b.hour && a.minute == b.minute && a.second == b.second && a.nanosecond == b.nanosecond

/-- Equality of date, time and offset. -/
def DateTimeOffset.equal (a b : DateTimeOffset ν) : Bool :=
  a.date.equal b.date && a.time.equal b.time && a.offsetMinutes == b.offsetMinutes

end Equality

/-! ## The calendar -/

/-- Every fourth year is a leap year, but of the full centuries only every fourth. -/
def isLeapYear (year : Int) : Bool := (year % 4 == 0 && year % 100 != 0) || year % 400 == 0

/-- The number of days of a month, which is counted from 1 to 12. -/
def daysInMonth? (year month : Int) : Option Nat :=
  if month = 2 then some (if isLeapYear year then 29 else 28)
  else if month ∈ [4, 6, 9, 11] then some 30
  else if 1 ≤ month ∧ month ≤ 12 then some 31
  else none

/-! ## Canonical text -/

/-- The decimal digits of an integer, with zeros in front up to `width` characters.  The sign counts
as a character and stays where it is, behind the zeros. -/
def padInt (n : Int) (width : Nat) : Text := Text.padStart width (Text.ofInt n)

/-- A year with four digits at least, after `-` if it is negative. -/
def yearText (year : Int) : Text :=
  if year < 0 then "-" ++ padInt (-year) 4 else padInt year 4

/-- The form `yyyy-mm-dd`. -/
def CalendarDate.text (d : CalendarDate) : Text :=
  yearText d.year ++ "-" ++ padInt d.month 2 ++ "-" ++ padInt d.day 2

/-- The form `hh:mm:ss`, and the fraction of a second without the zeros at its end if it is not
zero. -/
def TimeOfDay.text (t : TimeOfDay) : Text :=
  let base := padInt t.hour 2 ++ ":" ++ padInt t.minute 2 ++ ":" ++ padInt t.second 2
  if t.nanosecond = 0 then base
  else base ++ "." ++ Text.trimEndZeros (padInt t.nanosecond 9)

/-- The letter `Z` for UTC, or a sign and `hh:mm`. -/
def offsetText (offsetMinutes : Int) : Text :=
  if offsetMinutes = 0 then "Z"
  else
    let sign : Text := if offsetMinutes < 0 then "-" else "+"
    sign ++ padInt (offsetMinutes.natAbs / 60 : Nat) 2 ++ ":"
      ++ padInt (offsetMinutes.natAbs % 60 : Nat) 2

/-- The date, `T`, the time and the offset. -/
def DateTimeOffset.text (v : DateTimeOffset) : Text :=
  v.date.text ++ "T" ++ v.time.text ++ offsetText v.offsetMinutes

/-! ## Durations -/

/-- A signed elapsed time. -/
structure Duration where
  nanoseconds : Int
  deriving DecidableEq, Repr

namespace Duration

/-! ## Units -/

/-- The nanoseconds of a second. -/
def nanosPerSecond : Nat := 1000000000

/-- The nanoseconds of a minute. -/
def nanosPerMinute : Nat := 60 * nanosPerSecond

/-- The nanoseconds of an hour. -/
def nanosPerHour : Nat := 60 * nanosPerMinute

/-- The nanoseconds of a day. -/
def nanosPerDay : Nat := 24 * nanosPerHour

/-! ## Canonical text -/

/-- A number and its unit, or nothing for zero. -/
def componentText (n : Nat) (unit : Text) : Text :=
  if n = 0 then [] else Text.ofNat n ++ unit

/-- Seconds with a fraction in nanoseconds, or nothing if both are zero. -/
def secondsText (seconds fraction : Nat) : Text :=
  if fraction = 0 then componentText seconds "S"
  else
    Text.ofNat seconds ++ "."
      ++ Text.trimEndZeros (Text.padStart 9 (Text.ofNat fraction)) ++ "S"

/-- The hours, minutes and seconds of less than a day. -/
def timePartText (nanoseconds : Nat) : Text :=
  componentText (nanoseconds / nanosPerHour) "H"
    ++ componentText (nanoseconds % nanosPerHour / nanosPerMinute) "M"
    ++ secondsText (nanoseconds % nanosPerMinute / nanosPerSecond) (nanoseconds % nanosPerSecond)

/-- The components of a duration without its sign. -/
def componentsText (nanoseconds : Nat) : Text :=
  let days := componentText (nanoseconds / nanosPerDay) "D"
  let time := timePartText (nanoseconds % nanosPerDay)
  let body := if time.isEmpty then days else days ++ "T" ++ time
  if body.isEmpty then "T0S" else body

/-- The canonical text of a duration. -/
def text (d : Duration) : Text :=
  let sign : Text := if d.nanoseconds < 0 then "-" else []
  "duration'" ++ sign ++ "P" ++ componentsText d.nanoseconds.natAbs ++ "'"

end Duration
end ODataToken
