import ODataToken.Decimal
import ODataToken.Literal
import ODataToken.Parser.Combinator
import ODataToken.Parser.Primitive
import ODataToken.Temporal

/-!
# Dates, times and durations

The parsers for dates, times of day, offsets from UTC, the three put together, and durations.

## What is here

* `DateShape`, `TimeShape` and `OffsetShape` are what is recognised, unchecked: the fields with the
  places where they stand.  `checkDate`, `checkTime` and `checkOffset` range-check them afterwards.
  So a token that merely begins like a date fails on its shape, and a date with an impossible field
  is a domain failure at that field.
* `calendarDate`, `timeOfDay` and `utcOffset` put shape and check together, and `dateTimeOffset` the
  three shapes before any check.
* `durationValue` is a sign, if there is one, `P`, days, and after `T` hours, minutes and seconds,
  each of them optional and of any size.  `duration` puts this between apostrophes after the keyword
  `duration`, which can be left away unless it is asked for.

Fractions of a second are cut off after the ninth digit and never rounded.  A time is not carried
over: 24:59:59 is read as it stands and is not turned into another day.  There are no durations in
weeks, months or years, and a fraction stands behind seconds only.
-/

set_option autoImplicit false

namespace ODataToken
namespace Grammar

open ODataToken.Parser

/-! ## Fields -/

/-- Four digits after an optional `-`. -/
def year : Parser Int :=
  (seq (optional (char "-")) (takeExactly CharClass.digit 4 "four-digit year")).map
    fun (sign, digits) =>
      let n : Int := Text.toNat digits
      if sign.isSome then -n else n

/-- Two digits, with the place where they stand. -/
def field (what : Text) : Parser (Spanned Nat) :=
  spanned ((takeExactly CharClass.digit 2 ("two-digit " ++ what)).map Text.toNat)

/-- One to twelve digits of a fraction of a second, in nanoseconds, cut off and never rounded. -/
def fractionalSeconds : Parser Nat :=
  (takeBetween CharClass.digit 1 (some 12) "fractional seconds").map (readFraction 9)

/-- Rejects a field outside the range from `least` to `greatest`, at the field. -/
def checkRange (f : Spanned Nat) (least greatest : Nat) (what : Text) : Except Rejection Unit :=
  if least ≤ f.value ∧ f.value ≤ greatest then .ok ()
  else
    .error ⟨what ++ " between " ++ padInt least 2 ++ " and " ++ padInt greatest 2, some f.start⟩

/-! ## Shapes -/

/-- The fields of a date, unchecked. -/
structure DateShape where
  year : Int
  month : Spanned Nat
  day : Spanned Nat

/-- The fields of a time of day, unchecked. -/
structure TimeShape where
  hour : Spanned Nat
  minute : Spanned Nat
  /-- The second and its fraction in nanoseconds. -/
  second : Option (Spanned Nat × Option Nat)

/-- The fields of an offset from UTC, unchecked. -/
inductive OffsetShape where
  | utc
  | signed (sign : Text) (hour minute : Spanned Nat)

/-- Year, month and day with hyphens between them. -/
def dateShape : Parser DateShape :=
  (seq3 year (preceded (char "-") (field "month")) (preceded (char "-") (field "day"))).map
    fun (y, m, d) => ⟨y, m, d⟩

/-- Hour and minute, and perhaps a second, and perhaps a fraction of it. -/
def timeShape : Parser TimeShape :=
  (seq3 (field "hour") (preceded (char ":") (field "minute"))
    (optional (preceded (char ":")
      (seq (field "second") (optional (preceded (char ".") fractionalSeconds)))))).map
    fun (h, m, s) => ⟨h, m, s⟩

/-- An unchecked offset: `Z` in either case, or a sign with hour and minute. -/
def offsetShape : Parser OffsetShape :=
  alt ((keyword "Z").replace .utc)
    ((seq3 (oneOf "+-") (field "hour") (preceded (char ":") (field "minute"))).map
      fun (sign, h, m) => .signed sign h m)

/-! ## Checks -/

/-- Accepts the dates of the calendar. -/
def checkDate (d : DateShape) : Except Rejection CalendarDate := do
  checkRange d.month 1 12 "month"
  checkRange d.day 1 31 "day"
  match daysInMonth? d.year d.month.value with
  | some last =>
    if last < d.day.value then
      throw ⟨"a day between 01 and " ++ Text.ofNat last ++ " for " ++ yearText d.year ++ "-"
        ++ padInt d.month.value 2, some d.day.start⟩
  | none => pure ()
  return ⟨d.year, d.month.value, d.day.value⟩

/-- Accepts hours up to 24 and minutes and seconds up to 59.  A missing second is zero. -/
def checkTime (t : TimeShape) : Except Rejection TimeOfDay := do
  checkRange t.hour 0 24 "hour"
  checkRange t.minute 0 59 "minute"
  match t.second with
  | some (second, fraction) =>
    checkRange second 0 59 "second"
    return ⟨t.hour.value, t.minute.value, second.value, (fraction.getD 0 : Nat)⟩
  | none => return ⟨t.hour.value, t.minute.value, 0, 0⟩

/-- Accepts offsets of up to 24 hours and 59 minutes, as minutes east of UTC. -/
def checkOffset : OffsetShape → Except Rejection Int
  | .utc => return 0
  | .signed sign hour minute => do
    checkRange hour 0 24 "offset hour"
    checkRange minute 0 59 "offset minute"
    let minutes : Int := hour.value * 60 + minute.value
    return if sign = "-" then -minutes else minutes

/-- Checks date, time and offset in this order.  A missing offset is that of UTC. -/
def checkDateTime (d : DateShape) (t : TimeShape) (o : Option OffsetShape) :
    Except Rejection DateTimeOffset := do
  let date ← checkDate d
  let time ← checkTime t
  let offsetMinutes ← checkOffset (o.getD .utc)
  return ⟨date, time, offsetMinutes⟩

/-! ## Parsers -/

/-- A date of the calendar. -/
def calendarDate : Parser CalendarDate := dateShape.tryMap checkDate

/-- A time of day. -/
def timeOfDay : Parser TimeOfDay := timeShape.tryMap checkTime

/-- An offset from UTC, in minutes. -/
def utcOffset : Parser Int := offsetShape.tryMap checkOffset

/-- A date literal. -/
def date : Parser Literal := label (calendarDate.map .date) "date"

/-- A time literal. -/
def time : Parser Literal := label (timeOfDay.map .time) "time"

/-- A date, `T`, a time and perhaps an offset. -/
def dateTimeOffset : Parser Literal :=
  label
    ((seq3 dateShape (preceded (keyword "T") timeShape) (optional offsetShape)).tryMap
      fun (d, t, o) => (checkDateTime d t o).map .dateTimeOffset)
    "datetime"

/-! ## Durations -/

/-- One or more digits. -/
def digits : Parser Text := takeWhile1 CharClass.digit "digits"

/-- A number and its unit, in nanoseconds. -/
def component (unit : Text) (nanosPerUnit : Nat) : Parser Nat :=
  (terminated digits (keyword unit)).map fun n => Text.toNat n * nanosPerUnit

/-- Seconds with an optional fraction of any length, cut off after the ninth digit. -/
def seconds : Parser Nat :=
  (terminated (seq digits (optional (preceded (char ".") digits))) (keyword "S")).map
    fun (whole, fraction) =>
      Text.toNat whole * Duration.nanosPerSecond + readFraction 9 (fraction.getD [])

/-- The components of less than a day, after `T`. -/
def timeComponents : Parser Nat :=
  (preceded (keyword "T")
    (seq3 (optional (component "H" Duration.nanosPerHour))
      (optional (component "M" Duration.nanosPerMinute)) (optional seconds))).map
    fun (h, m, s) => h.getD 0 + m.getD 0 + s.getD 0

/-- A duration in nanoseconds.  Missing components are zero. -/
def durationValue : Parser Int :=
  (seq3 (optional (oneOf "+-"))
    (preceded (keyword "P") (optional (component "D" Duration.nanosPerDay)))
    (optional timeComponents)).map
    fun (sign, days, time) =>
      let total : Int := (days.getD 0 + time.getD 0 : Nat)
      if sign = some "-" then -total else total

/-- A duration between apostrophes. -/
def quotedDuration : Parser Int := between (char "'") durationValue (char "'")

/-- A duration literal.  The keyword is optional unless `requireKeyword` is set. -/
def duration (requireKeyword : Bool) : Parser Literal :=
  let quoted :=
    if requireKeyword then preceded (keyword "duration") quotedDuration
    else preceded (optional (keyword "duration")) quotedDuration
  label (quoted.map fun n => .duration ⟨n⟩) "duration"

end Grammar
end ODataToken
