import ODataToken.Proofs.CharClass
import ODataToken.Proofs.Text.Case
import ODataToken.Proofs.Text.Digits

/-!
# Dates and times and their texts

Which dates, times of day and offsets are in range, and which texts write them.  Every value in
range is written by its canonical text; a time of day and an offset have other texts as well.

* `CalendarDate.IsValid`, `TimeOfDay.IsValid`, `DateTimeOffset.IsValid` — in range.
* `CalendarDate.IsGregorian` — a date of the proleptic Gregorian calendar, by a leap rule and a
  table of months of its own.
* `CalendarDate.IsWritten`, `TimeOfDay.IsWritten`, `IsOffset` — a text of the value.
-/

set_option autoImplicit false

namespace ODataToken

open CodeUnit (hyphen point colon)

/-! ## Fields -/

namespace Text

/-- Two digits with the value `n`. -/
def IsTwoDigits (t : Text) (n : Int) : Prop := t.length = 2 ∧ t.IsDigits ∧ n = t.toNat

/-- Four digits after an optional minus sign, with the value `y`. -/
def IsYear (t : Text) (y : Int) : Prop :=
  ∃ digits : Text, digits.length = 4 ∧ digits.IsDigits
    ∧ (t = digits ∧ y = digits.toNat ∨ t = hyphen :: digits ∧ y = -digits.toNat)

theorem isTwoDigits_padInt {n : Nat} (h : n < 100) : IsTwoDigits (padInt n 2) n := by
  obtain ⟨hlen, hdigits, hval⟩ := padInt_spec (n := n) (w := 2) (by decide) h
  exact ⟨hlen, hdigits, by rw [hval]⟩

theorem isTwoDigits_padInt_of_le {n : Int} (h₀ : 0 ≤ n) (h : n < 100) :
    IsTwoDigits (padInt n 2) n := by
  obtain ⟨k, rfl⟩ := Int.eq_ofNat_of_zero_le h₀
  exact isTwoDigits_padInt (by omega)

theorem IsTwoDigits.bounds {t : Text} {n : Int} (h : t.IsTwoDigits n) : 0 ≤ n ∧ n < 100 := by
  obtain ⟨hlen, hdigits, rfl⟩ := h
  have := toNat_lt hdigits
  rw [hlen] at this
  omega

theorem isYear_yearText {y : Int} (h : -9999 ≤ y ∧ y ≤ 9999) : IsYear (yearText y) y := by
  have digits (n : Nat) (hn : n ≤ 9999) := padInt_spec (n := n) (w := 4) (by decide) (by omega)
  by_cases hy : y < 0
  · obtain ⟨hlen, hdigits, hval⟩ := digits y.natAbs (by omega)
    have hneg : -y = (y.natAbs : Int) := by omega
    refine ⟨padInt y.natAbs 4, hlen, hdigits, .inr ⟨?_, by omega⟩⟩
    rw [yearText, if_pos hy, hneg]
    rfl
  · obtain ⟨hlen, hdigits, hval⟩ := digits y.natAbs (by omega)
    have hpos : y = (y.natAbs : Int) := by omega
    refine ⟨padInt y.natAbs 4, hlen, hdigits, .inl ⟨?_, by omega⟩⟩
    rw [yearText, if_neg hy, ← hpos]

theorem IsYear.bounds {t : Text} {y : Int} (h : t.IsYear y) : -9999 ≤ y ∧ y ≤ 9999 := by
  obtain ⟨digits, hlen, hdigits, h⟩ := h
  have := toNat_lt hdigits
  rw [hlen] at this
  omega

end Text

/-! ## Dates -/

/-- A date of the calendar. -/
structure CalendarDate.IsValid (d : CalendarDate) : Prop where
  month : 1 ≤ d.month ∧ d.month ≤ 12
  day : 1 ≤ d.day ∧ ∀ last ∈ daysInMonth? d.year d.month, d.day ≤ (last : Int)

theorem daysInMonth?_of_valid (year : Int) {month : Int} (h : 1 ≤ month ∧ month ≤ 12) :
    ∃ last, daysInMonth? year month = some last ∧ last ≤ 31 := by
  unfold daysInMonth?
  split
  · refine ⟨_, rfl, ?_⟩
    split <;> decide
  · split
    · exact ⟨30, rfl, by decide⟩
    · exact ⟨31, rfl, by decide⟩

theorem CalendarDate.IsValid.day_le {d : CalendarDate} (h : d.IsValid) : d.day ≤ 31 := by
  obtain ⟨last, hlast, hle⟩ := daysInMonth?_of_valid d.year h.month
  have := h.day.2 last hlast
  omega

/-! ### The proleptic Gregorian calendar -/

/-- The leap years of the Gregorian calendar, carried on to all years: the multiples of 4, but of
the multiples of 100 only those of 400. -/
def IsLeapYear (year : Int) : Prop := 4 ∣ year ∧ (100 ∣ year → 400 ∣ year)

instance : DecidablePred IsLeapYear := fun year =>
  inferInstanceAs (Decidable (4 ∣ year ∧ (100 ∣ year → 400 ∣ year)))

theorem isLeapYear_eq_true_iff {year : Int} : isLeapYear year = true ↔ IsLeapYear year := by
  simp only [isLeapYear, IsLeapYear, Bool.or_eq_true, Bool.and_eq_true, beq_iff_eq, bne_iff_ne]
  omega

/-- The lengths of the months of a year that is no leap year. -/
def commonMonthLengths : List Nat := [31, 28, 31, 30, 31, 30, 31, 31, 30, 31, 30, 31]

/-- The length of a month, which is counted from 1 to 12.  February is longer in a leap year. -/
def monthLength (year month : Int) : Nat :=
  commonMonthLengths.getD (month - 1).toNat 0 + if month = 2 ∧ IsLeapYear year then 1 else 0

theorem daysInMonth?_eq_some {year month : Int} (h : 1 ≤ month ∧ month ≤ 12) :
    daysInMonth? year month = some (monthLength year month) := by
  obtain rfl | rfl | rfl | rfl | rfl | rfl | rfl | rfl | rfl | rfl | rfl | rfl :
      month = 1 ∨ month = 2 ∨ month = 3 ∨ month = 4 ∨ month = 5 ∨ month = 6 ∨ month = 7
        ∨ month = 8 ∨ month = 9 ∨ month = 10 ∨ month = 11 ∨ month = 12 := by omega
  case inr.inl =>
    by_cases hleap : IsLeapYear year
    · simp [daysInMonth?, monthLength, isLeapYear_eq_true_iff, hleap, commonMonthLengths]
    · simp [daysInMonth?, monthLength, isLeapYear_eq_true_iff, hleap, commonMonthLengths]
  all_goals rfl

/-- A date of the proleptic Gregorian calendar whose year has four digits. -/
structure CalendarDate.IsGregorian (d : CalendarDate) : Prop where
  year : -9999 ≤ d.year ∧ d.year ≤ 9999
  month : 1 ≤ d.month ∧ d.month ≤ 12
  day : 1 ≤ d.day ∧ d.day ≤ monthLength d.year d.month

theorem CalendarDate.IsValid.isGregorian {d : CalendarDate} (h : d.IsValid)
    (hyear : -9999 ≤ d.year ∧ d.year ≤ 9999) : d.IsGregorian where
  year := hyear
  month := h.month
  day := ⟨h.day.1, h.day.2 _ (daysInMonth?_eq_some h.month)⟩

/-! ### Texts of a date -/

/-- The text is the year, the month and the day with hyphens between them. -/
def CalendarDate.IsWritten (d : CalendarDate) (t : Text) : Prop :=
  ∃ year month day : Text, t = year ++ hyphen :: (month ++ hyphen :: day)
    ∧ year.IsYear d.year ∧ month.IsTwoDigits d.month ∧ day.IsTwoDigits d.day

theorem CalendarDate.isWritten_text {d : CalendarDate} (hyear : -9999 ≤ d.year ∧ d.year ≤ 9999)
    (h : d.IsValid) : d.IsWritten d.text := by
  have hmonth := h.month
  have hday := h.day_le
  have hday' := h.day.1
  refine ⟨yearText d.year, padInt d.month 2, padInt d.day 2, ?_, Text.isYear_yearText hyear,
    Text.isTwoDigits_padInt_of_le (by omega) (by omega),
    Text.isTwoDigits_padInt_of_le (by omega) (by omega)⟩
  simp [CalendarDate.text]

/-! ## Times of day -/

/-- A time of day in range.  The hour may be 24. -/
structure TimeOfDay.IsValid (t : TimeOfDay) : Prop where
  hour : 0 ≤ t.hour ∧ t.hour ≤ 24
  minute : 0 ≤ t.minute ∧ t.minute ≤ 59
  second : 0 ≤ t.second ∧ t.second ≤ 59
  nanosecond : 0 ≤ t.nanosecond ∧ t.nanosecond ≤ 999999999

/-- The text is nothing, or a point and the digits of a fraction of `n` nanoseconds. -/
def IsFractionOfSecond (t : Text) (n : Int) : Prop :=
  t = [] ∧ n = 0
    ∨ ∃ digits : Text, t = point :: digits ∧ digits.IsDigits ∧ 1 ≤ digits.length
        ∧ digits.length ≤ 12 ∧ n = readFraction 9 digits

/-- The digits of a fraction in nanoseconds, without the zeros at their end. -/
theorem isFractionOfSecond_trimEndZeros {n : Nat} (hne : n ≠ 0) (hle : n ≤ 999999999) :
    IsFractionOfSecond (point :: Text.trimEndZeros (padInt n 9)) n := by
  obtain ⟨hlen, hdigits, hval⟩ := padInt_spec (n := n) (w := 9) (by decide) (by omega)
  have hpre := Text.trimEndZeros_isPrefix (padInt n 9)
  have hnonempty : Text.trimEndZeros (padInt n 9) ≠ [] :=
    Text.trimEndZeros_ne_nil (by rw [hval]; exact hne)
  refine .inr ⟨_, rfl, fun u hu => hdigits u (hpre.subset hu),
    List.length_pos_iff.mpr hnonempty, ?_, ?_⟩
  · have := hpre.length_le
    omega
  · have := readFraction_trimEndZeros (padInt n 9)
    rw [hlen, hval] at this
    rw [this]

theorem IsFractionOfSecond.bounds {t : Text} {n : Int} (h : IsFractionOfSecond t n) :
    0 ≤ n ∧ n ≤ 999999999 := by
  rcases h with ⟨-, rfl⟩ | ⟨digits, -, hdigits, -, -, rfl⟩
  · decide
  · have := readFraction_lt 9 hdigits
    omega

/-- The text is the hour and the minute, perhaps the second, and perhaps a fraction of it. -/
def TimeOfDay.IsWritten (t : TimeOfDay) (w : Text) : Prop :=
  ∃ hour minute rest : Text, w = hour ++ colon :: (minute ++ rest)
    ∧ hour.IsTwoDigits t.hour ∧ minute.IsTwoDigits t.minute
    ∧ (rest = [] ∧ t.second = 0 ∧ t.nanosecond = 0
      ∨ ∃ second fraction : Text, rest = colon :: (second ++ fraction)
          ∧ second.IsTwoDigits t.second ∧ IsFractionOfSecond fraction t.nanosecond)

theorem TimeOfDay.isWritten_text {t : TimeOfDay} (h : t.IsValid) : t.IsWritten t.text := by
  obtain ⟨hhour, hminute, hsecond, hnano⟩ := h
  have two {n : Int} (h₀ : 0 ≤ n) (h : n ≤ 59) : Text.IsTwoDigits (padInt n 2) n :=
    Text.isTwoDigits_padInt_of_le h₀ (by omega)
  have hhour' := two hhour.1 (by omega)
  have hminute' := two hminute.1 hminute.2
  have hsecond' := two hsecond.1 hsecond.2
  by_cases hzero : t.nanosecond = 0
  · refine ⟨_, _, colon :: (padInt t.second 2 ++ []), ?_, hhour', hminute',
      .inr ⟨_, [], rfl, hsecond', .inl ⟨rfl, hzero⟩⟩⟩
    simp [TimeOfDay.text, hzero]
  · obtain ⟨n, hn⟩ := Int.eq_ofNat_of_zero_le hnano.1
    have hfraction := isFractionOfSecond_trimEndZeros (n := n) (by omega) (by omega)
    rw [← hn] at hfraction
    refine ⟨_, _, colon :: (padInt t.second 2
      ++ point :: Text.trimEndZeros (padInt t.nanosecond 9)), ?_, hhour', hminute',
      .inr ⟨_, _, rfl, hsecond', hfraction⟩⟩
    simp [TimeOfDay.text, hzero]

/-! ## Offsets from UTC -/

/-- The text is `Z` in either case, or a sign with an hour up to 24 and a minute. -/
def IsOffset (t : Text) (minutes : Int) : Prop :=
  t.lower = "z" ∧ minutes = 0
    ∨ ∃ (sign : CodeUnit) (hourText minuteText : Text) (hour minute : Int),
        t = sign :: (hourText ++ colon :: minuteText)
          ∧ hourText.IsTwoDigits hour ∧ minuteText.IsTwoDigits minute ∧ hour ≤ 24 ∧ minute ≤ 59
          ∧ (sign = CodeUnit.ofChar '+' ∧ minutes = hour * 60 + minute
            ∨ sign = hyphen ∧ minutes = -(hour * 60 + minute))

theorem isOffset_offsetText {minutes : Int} (h : minutes.natAbs ≤ 1499) :
    IsOffset (offsetText minutes) minutes := by
  by_cases hzero : minutes = 0
  · subst hzero
    exact .inl ⟨by decide, rfl⟩
  · refine .inr ⟨if minutes < 0 then hyphen else CodeUnit.ofChar '+', _, _, _, _, ?_,
      Text.isTwoDigits_padInt (n := minutes.natAbs / 60) (by omega),
      Text.isTwoDigits_padInt (n := minutes.natAbs % 60) (by omega), by omega, by omega, ?_⟩
    · rw [offsetText, if_neg hzero]
      split
      · simp
      · simp
        rfl
    · split
      · exact .inr ⟨rfl, by omega⟩
      · exact .inl ⟨rfl, by omega⟩

theorem IsOffset.bounds {t : Text} {minutes : Int} (h : IsOffset t minutes) :
    minutes.natAbs ≤ 1499 := by
  rcases h with ⟨-, rfl⟩ | ⟨sign, ht, mt, hour, minute, -, hhour, hminute, hle, hle', hval⟩
  · decide
  · have hb := hhour.bounds
    have hb' := hminute.bounds
    omega

/-! ## Dates with times -/

/-- A date, a time of day and an offset in range. -/
structure DateTimeOffset.IsValid (v : DateTimeOffset) : Prop where
  date : v.date.IsValid
  time : v.time.IsValid
  offset : v.offsetMinutes.natAbs ≤ 1499

/-- The text is a date, the letter `T` in either case, a time of day and perhaps an offset. -/
def DateTimeOffset.IsWritten (v : DateTimeOffset) (c : Text) : Prop :=
  ∃ (date time offset : Text) (mark : CodeUnit), c = date ++ mark :: (time ++ offset)
    ∧ v.date.IsWritten date ∧ mark.lower = 0x74 ∧ v.time.IsWritten time
    ∧ (IsOffset offset v.offsetMinutes ∨ offset = [] ∧ v.offsetMinutes = 0)

end ODataToken
