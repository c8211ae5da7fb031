import ODataToken.Grammar.Temporal
import ODataToken.Proofs.Calendar
import ODataToken.Proofs.Parser.Map
import ODataToken.Proofs.Parser.Runs

/-!
# What dates and times read

A date literal reads a text of a date of the calendar, whatever follows.  A time of day stops early
only in front of what could go on with it, and the same holds of a date with a time that has no
offset.

The shapes keep the places of their fields for the sake of the errors.  Forgetting the places turns
them into plain parsers, and whether a check succeeds does not depend on the places.
-/

set_option autoImplicit false

namespace ODataToken
namespace Grammar

open ODataToken.Parser Text
open CodeUnit (hyphen point colon)

variable {c r : Text}

/-! ## Fields -/

/-- Two digits. -/
def twoDigits (what : Text) : Parser Nat :=
  (takeExactly CharClass.digit 2 ("two-digit " ++ what)).map Text.toNat

theorem field_map_value (what : Text) : (field what).map Spanned.value = twoDigits what :=
  spanned_map_value _

instance (what : Text) : Plain (twoDigits what) := inferInstanceAs (Plain (Parser.map _ _))

instance (what : Text) : ShapeOnly (twoDigits what) := inferInstanceAs (ShapeOnly (Parser.map _ _))

theorem twoDigits_reads_iff {what : Text} {n : Nat} :
    (twoDigits what).Reads n c r ↔ c.IsTwoDigits n := by
  simp only [twoDigits, map_reads_iff, takeExactly_reads_iff CharClass.digit_ofSingleUnits]
  constructor
  · rintro ⟨v, rfl, rfl, hlen, hdigits⟩
    exact ⟨hlen, hdigits, rfl⟩
  · rintro ⟨hlen, hdigits, hval⟩
    exact ⟨c, by omega, rfl, hlen, hdigits⟩

/-- Two digits after a mark. -/
theorem marked_twoDigits_reads_iff {u : CodeUnit} {what : Text} {n : Nat} :
    (preceded (char [u]) (twoDigits what)).Reads n c r
      ↔ ∃ digits, c = u :: digits ∧ Text.IsTwoDigits digits n := by
  simp only [preceded_reads_iff, twoDigits_reads_iff, char_reads_iff]
  constructor
  · rintro ⟨_, _, d, rfl, ⟨rfl, rfl⟩, hd⟩
    exact ⟨d, rfl, hd⟩
  · rintro ⟨d, rfl, hd⟩
    exact ⟨[u], [u], d, rfl, ⟨rfl, rfl⟩, hd⟩

instance : Plain year := inferInstanceAs (Plain (Parser.map _ _))

instance : ShapeOnly year := inferInstanceAs (ShapeOnly (Parser.map _ _))

theorem year_reads_iff {y : Int} : year.Reads y c r ↔ c.IsYear y := by
  have hminus {v c r : Text} : (char "-").Reads v c r ↔ v = [hyphen] ∧ c = [hyphen] :=
    char_reads_iff (u := hyphen)
  have hminus' {w : Text} : (char "-").Refuses w ↔ w.head? ≠ some hyphen :=
    char_refuses_iff (u := hyphen)
  simp only [year, map_reads_iff, Prod.exists, seq_reads_iff, optional_reads_iff, hminus, hminus',
    takeExactly_reads_iff CharClass.digit_ofSingleUnits]
  constructor
  · rintro ⟨o, _, hval, s, d, rfl, hsign, rfl, hlen, hdigits⟩
    rcases hsign with ⟨_, rfl, rfl, rfl⟩ | ⟨rfl, rfl, -⟩
    · exact ⟨_, hlen, hdigits, .inr ⟨rfl, hval.symm⟩⟩
    · exact ⟨_, hlen, hdigits, .inl ⟨rfl, hval.symm⟩⟩
  · rintro ⟨digits, hlen, hdigits, ⟨rfl, rfl⟩ | ⟨rfl, rfl⟩⟩
    · refine ⟨none, c, rfl, [], c, rfl, .inr ⟨rfl, rfl, ?_⟩, rfl, hlen, hdigits⟩
      intro hhead
      cases (hdigits.isNumeral hlen).isDigit_of_head? hhead
    · exact ⟨some [hyphen], digits, rfl, [hyphen], digits, rfl, .inl ⟨_, rfl, rfl, rfl⟩, rfl, hlen,
        hdigits⟩

/-! ## Dates -/

/-- The date of a shape, without the places of its fields. -/
def DateShape.toDate (d : DateShape) : CalendarDate := ⟨d.year, d.month.value, d.day.value⟩

/-- A date without the places of its fields. -/
def plainDate : Parser CalendarDate :=
  (seq3 year (preceded (char "-") (twoDigits "month")) (preceded (char "-") (twoDigits "day"))).map
    fun x => ⟨x.1, x.2.1, x.2.2⟩

theorem dateShape_map_toDate : dateShape.map DateShape.toDate = plainDate := by
  rw [plainDate, ← field_map_value, ← field_map_value, ← preceded_map, ← preceded_map,
    ← map_id year, ← seq3_map, map_map, dateShape, map_map]
  rfl

instance : Plain plainDate := inferInstanceAs (Plain (Parser.map _ _))

instance : ShapeOnly plainDate := inferInstanceAs (ShapeOnly (Parser.map _ _))

theorem plainDate_reads_iff {d : CalendarDate} : plainDate.Reads d c r ↔ d.IsWritten c := by
  have hmarked {what : Text} {n : Nat} {c r : Text} :
      (preceded (char "-") (twoDigits what)).Reads n c r
        ↔ ∃ digits, c = hyphen :: digits ∧ Text.IsTwoDigits digits n :=
    marked_twoDigits_reads_iff
  simp only [plainDate, map_reads_iff, Prod.exists, seq3_reads_iff, year_reads_iff, hmarked]
  constructor
  · rintro ⟨y, m, n, rfl, ty, _, _, rfl, hy, ⟨tm, rfl, hm⟩, ⟨td, rfl, hd⟩⟩
    exact ⟨ty, tm, td, rfl, hy, hm, hd⟩
  · rintro ⟨ty, tm, td, rfl, hy, ⟨hmlen, hmdig, hmval⟩, ⟨hdlen, hddig, hdval⟩⟩
    refine ⟨d.year, tm.toNat, td.toNat, ?_, ty, _, _, rfl, hy, ⟨tm, rfl, hmlen, hmdig, rfl⟩,
      ⟨td, rfl, hdlen, hddig, rfl⟩⟩
    rw [← hmval, ← hdval]

theorem bind_eq_ok_iff {ε α β : Type} {x : Except ε α} {f : α → Except ε β} {b : β} :
    (x >>= f) = .ok b ↔ ∃ a, x = .ok a ∧ f a = .ok b := by
  cases x <;> simp [bind, Except.bind]

theorem checkRange_eq_ok_iff {f : Spanned Nat} {least greatest : Nat} {what : Text} {x : Unit} :
    checkRange f least greatest what = .ok x ↔ least ≤ f.value ∧ f.value ≤ greatest := by
  unfold checkRange
  split <;> simp [*]

/-- The check of a date accepts the dates of the calendar, wherever their fields stand. -/
theorem checkDate_eq_ok_iff {s : DateShape} {d : CalendarDate} :
    checkDate s = .ok d ↔ s.toDate = d ∧ d.IsValid := by
  simp only [checkDate, bind_eq_ok_iff, checkRange_eq_ok_iff]
  constructor
  · rintro ⟨-, hmonth, -, hday, h⟩
    have hmonth' : 1 ≤ (s.month.value : Int) ∧ (s.month.value : Int) ≤ 12 := by omega
    obtain ⟨last, hlast, -⟩ := daysInMonth?_of_valid s.year hmonth'
    rw [hlast] at h
    dsimp only at h
    split at h
    · cases h
    · obtain rfl := Except.ok.inj h
      have hbound : ∀ l ∈ daysInMonth? s.year s.month.value, (s.day.value : Int) ≤ l := by
        intro l hl
        rw [hlast] at hl
        obtain rfl := Option.some.inj hl
        omega
      exact ⟨rfl, ⟨by simp only; omega, by simp only; omega, hbound⟩⟩
  · rintro ⟨rfl, h⟩
    have hle := h.day_le
    obtain ⟨⟨hm, hm'⟩, hd, hlast⟩ := h
    simp only [DateShape.toDate] at hm hm' hd hlast hle
    refine ⟨(), by omega, (), by omega, ?_⟩
    split
    · rename_i last heq
      have := hlast last heq
      rw [if_neg (by omega)]
      rfl
    · rfl

theorem calendarDate_reads_iff {d : CalendarDate} :
    calendarDate.Reads d c r ↔ d.IsWritten c ∧ d.IsValid := by
  rw [← plainDate_reads_iff (r := r), ← dateShape_map_toDate, calendarDate, tryMap_reads_iff,
    map_reads_iff]
  simp only [checkDate_eq_ok_iff]
  constructor
  · rintro ⟨s, hs, hd, hvalid⟩
    exact ⟨⟨s, hd, hs⟩, hvalid⟩
  · rintro ⟨⟨s, hd, hs⟩, hvalid⟩
    exact ⟨s, hs, hd, hvalid⟩

/-- **A date literal reads the texts of the dates of the calendar.** -/
theorem date_reads_iff {a : Literal} :
    date.Reads a c r ↔ ∃ d : CalendarDate, a = .date d ∧ d.IsWritten c ∧ d.IsValid := by
  rw [date, label_reads_iff, map_reads_iff]
  simp only [calendarDate_reads_iff, eq_comm]

/-! ## Times of day -/

/-- The fields of a time of day: the hour, the minute, and perhaps the second and a fraction. -/
abbrev TimeFields := Nat × Nat × Option (Nat × Option Nat)

/-- The fields of a shape, without their places. -/
def TimeShape.fields (t : TimeShape) : TimeFields :=
  (t.hour.value, t.minute.value, t.second.map fun x => (x.1.value, x.2))

/-- The time of day with some fields.  What is missing is zero. -/
def TimeFields.toTime (x : TimeFields) : TimeOfDay :=
  ⟨x.1, x.2.1, ((x.2.2.map Prod.fst).getD 0 : Nat), ((x.2.2.bind Prod.snd).getD 0 : Nat)⟩

/-- A second and perhaps a fraction, without places. -/
def plainSecond : Parser (Nat × Option Nat) :=
  preceded (char ":")
    (seq (twoDigits "second") (optional (preceded (char ".") fractionalSeconds)))

/-- The fields of a time of day without their places. -/
def plainTime : Parser TimeFields :=
  seq3 (twoDigits "hour") (preceded (char ":") (twoDigits "minute")) (optional plainSecond)

theorem timeShape_map_fields : timeShape.map TimeShape.fields = plainTime := by
  rw [plainTime, plainSecond, ← field_map_value, ← field_map_value, ← field_map_value,
    ← map_id (optional (preceded (char ".") fractionalSeconds)), ← seq_map, ← preceded_map,
    ← preceded_map, ← optional_map, ← seq3_map, timeShape, map_map]
  rfl

instance : Plain fractionalSeconds := inferInstanceAs (Plain (Parser.map _ _))

instance : ShapeOnly fractionalSeconds := inferInstanceAs (ShapeOnly (Parser.map _ _))

instance : Plain plainSecond := inferInstanceAs (Plain (preceded _ _))

instance : ShapeOnly plainSecond := inferInstanceAs (ShapeOnly (preceded _ _))

instance : Plain plainTime := inferInstanceAs (Plain (seq3 _ _ _))

instance : ShapeOnly plainTime := inferInstanceAs (ShapeOnly (seq3 _ _ _))

/-- A unit that a time of day may go on with. -/
def continuesTime (u : CodeUnit) : Bool := u == colon || u == point || u.isDigit

theorem ne_of_stopsAt_continuesTime (h : StopsAt continuesTime r) :
    r.head? ≠ some colon ∧ r.head? ≠ some point ∧ StopsAt CodeUnit.isDigit r := by
  refine ⟨fun hhead => ?_, fun hhead => ?_, fun u hu => ?_⟩
  · cases h _ hhead
  · cases h _ hhead
  · have := h u hu
    simp only [continuesTime, Bool.or_eq_false_iff] at this
    exact this.2

theorem fractionalSeconds_reads_iff {n : Nat} :
    fractionalSeconds.Reads n c r
      ↔ n = readFraction 9 c ∧ c.IsDigits ∧ 1 ≤ c.length ∧ c.length ≤ 12
          ∧ (c.length = 12 ∨ StopsAt CodeUnit.isDigit r) := by
  simp only [fractionalSeconds, map_reads_iff, takeBetween_reads_iff CharClass.digit_ofSingleUnits]
  constructor
  · rintro ⟨v, rfl, rfl, hdigits, hlen⟩
    exact ⟨rfl, hdigits, hlen⟩
  · rintro ⟨rfl, hdigits, hlen⟩
    exact ⟨c, rfl, rfl, hdigits, hlen⟩

theorem fraction_reads {o : Option Nat}
    (h : (optional (preceded (char ".") fractionalSeconds)).Reads o c r) :
    IsFractionOfSecond c (o.getD 0 : Nat) := by
  rcases optional_reads_iff.mp h with ⟨n, rfl, hn⟩ | ⟨rfl, rfl, -⟩
  · obtain ⟨_, _, digits, rfl, hpoint, hdigits⟩ := preceded_reads_iff.mp hn
    obtain ⟨-, rfl⟩ := (char_reads_iff (u := point)).mp hpoint
    obtain ⟨rfl, hall, hpos, hle, -⟩ := fractionalSeconds_reads_iff.mp hdigits
    exact .inr ⟨digits, rfl, hall, hpos, hle, rfl⟩
  · exact .inl ⟨rfl, rfl⟩

theorem exists_fraction_reads {n : Int} (h : IsFractionOfSecond c n)
    (hr : StopsAt continuesTime r) :
    ∃ o : Option Nat, (o.getD 0 : Nat) = n
      ∧ (optional (preceded (char ".") fractionalSeconds)).Reads o c r := by
  obtain ⟨-, hpoint, hdigit⟩ := ne_of_stopsAt_continuesTime hr
  rcases h with ⟨rfl, rfl⟩ | ⟨digits, rfl, hall, hpos, hle, rfl⟩
  · refine ⟨none, rfl, optional_reads_none_iff.mpr ⟨rfl, ?_⟩⟩
    exact preceded_refuses_iff.mpr (.inl ((char_refuses_iff (u := point)).mpr hpoint))
  · refine ⟨some (readFraction 9 digits), rfl, optional_reads_some_iff.mpr ?_⟩
    exact preceded_reads_iff.mpr ⟨[point], [point], digits, rfl,
      (char_reads_iff (u := point)).mpr ⟨rfl, rfl⟩,
      fractionalSeconds_reads_iff.mpr ⟨rfl, hall, hpos, hle, .inr hdigit⟩⟩

/-- What a time of day has read is a text of it. -/
theorem plainTime_reads {x : TimeFields} (h : plainTime.Reads x c r) : x.toTime.IsWritten c := by
  obtain ⟨ht, _, rest, rfl, hhour, hminute, hsecond⟩ := seq3_reads_iff.mp h
  obtain ⟨mt, rfl, hmt⟩ := (marked_twoDigits_reads_iff (u := colon)).mp hminute
  refine ⟨ht, mt, rest, rfl, twoDigits_reads_iff.mp hhour, hmt, ?_⟩
  obtain ⟨hour, minute, second⟩ := x
  rcases optional_reads_iff.mp hsecond with ⟨⟨s, o⟩, rfl, hs⟩ | ⟨rfl, rfl, -⟩
  · obtain ⟨_, _, _, rfl, hcolon, hsf⟩ := preceded_reads_iff.mp hs
    obtain ⟨-, rfl⟩ := (char_reads_iff (u := colon)).mp hcolon
    obtain ⟨st, ft, rfl, hst, hft⟩ := seq_reads_iff.mp hsf
    exact .inr ⟨st, ft, rfl, twoDigits_reads_iff.mp hst, fraction_reads hft⟩
  · exact .inl ⟨rfl, rfl, rfl⟩

/-- Every text of a time of day is read, in front of what cannot go on with it. -/
theorem exists_plainTime_reads {t : TimeOfDay} (h : t.IsWritten c)
    (hr : StopsAt continuesTime r) :
    ∃ x : TimeFields, x.toTime = t ∧ plainTime.Reads x c r := by
  obtain ⟨hour, minute, second, nanosecond⟩ := t
  obtain ⟨ht, mt, rest, rfl, ⟨hlen, hdigits, rfl⟩, ⟨mlen, mdigits, rfl⟩, hrest⟩ := h
  have hhour {w : Text} : (twoDigits "hour").Reads ht.toNat ht w :=
    twoDigits_reads_iff.mpr ⟨hlen, hdigits, rfl⟩
  have hminute {w : Text} :
      (preceded (char ":") (twoDigits "minute")).Reads mt.toNat (colon :: mt) w :=
    (marked_twoDigits_reads_iff (u := colon)).mpr ⟨mt, rfl, mlen, mdigits, rfl⟩
  rcases hrest with ⟨rfl, rfl, rfl⟩ | ⟨st, ft, rfl, ⟨slen, sdigits, rfl⟩, hft⟩
  · refine ⟨(ht.toNat, mt.toNat, none), rfl, seq3_reads_iff.mpr ⟨ht, colon :: mt, [], rfl, hhour,
      hminute, optional_reads_none_iff.mpr ⟨rfl, ?_⟩⟩⟩
    refine preceded_refuses_iff.mpr (.inl ((char_refuses_iff (u := colon)).mpr ?_))
    exact (ne_of_stopsAt_continuesTime hr).1
  · obtain ⟨o, rfl, ho⟩ := exists_fraction_reads hft hr
    have hsecond : (twoDigits "second").Reads st.toNat st (ft ++ r) :=
      twoDigits_reads_iff.mpr ⟨slen, sdigits, rfl⟩
    refine ⟨(ht.toNat, mt.toNat, some (st.toNat, o)), rfl, seq3_reads_iff.mpr
      ⟨ht, colon :: mt, colon :: (st ++ ft), rfl, hhour, hminute, optional_reads_some_iff.mpr ?_⟩⟩
    exact preceded_reads_iff.mpr ⟨[colon], [colon], st ++ ft, rfl,
      (char_reads_iff (u := colon)).mpr ⟨rfl, rfl⟩,
      seq_reads_iff.mpr ⟨st, ft, rfl, hsecond, ho⟩⟩

/-- The check of a time of day bounds the hour, the minute and the second. -/
theorem checkTime_eq_ok_iff {s : TimeShape} {t : TimeOfDay} :
    checkTime s = .ok t ↔ s.fields.toTime = t ∧ t.hour ≤ 24 ∧ t.minute ≤ 59 ∧ t.second ≤ 59 := by
  obtain ⟨hour, minute, second⟩ := s
  simp only [checkTime, bind_eq_ok_iff, checkRange_eq_ok_iff]
  constructor
  · rintro ⟨-, hhour, -, hminute, h⟩
    rcases second with _ | ⟨second, fraction⟩
    · obtain rfl := Except.ok.inj h
      refine ⟨rfl, ?_⟩
      simp only
      omega
    · obtain ⟨_, hsecond, h⟩ := bind_eq_ok_iff.mp h
      obtain rfl := Except.ok.inj h
      rw [checkRange_eq_ok_iff] at hsecond
      refine ⟨rfl, ?_⟩
      simp only
      omega
  · rintro ⟨rfl, hhour, hminute, hsecond⟩
    simp only [TimeShape.fields, TimeFields.toTime] at hhour hminute hsecond
    refine ⟨(), by omega, (), by omega, ?_⟩
    rcases second with _ | ⟨second, fraction⟩
    · rfl
    · refine bind_eq_ok_iff.mpr ⟨(), checkRange_eq_ok_iff.mpr ?_, rfl⟩
      simp only [Option.map_some, Option.getD_some] at hsecond
      omega

/-- A written time of day is in range if it passes the check. -/
theorem isValid_of_isWritten {t : TimeOfDay} (h : t.IsWritten c)
    (hle : t.hour ≤ 24 ∧ t.minute ≤ 59 ∧ t.second ≤ 59) : t.IsValid := by
  obtain ⟨ht, mt, rest, -, hhour, hminute, hrest⟩ := h
  refine ⟨⟨hhour.bounds.1, hle.1⟩, ⟨hminute.bounds.1, hle.2.1⟩, ⟨?_, hle.2.2⟩, ?_⟩
  · rcases hrest with ⟨-, hsecond, -⟩ | ⟨st, ft, -, hsecond, -⟩
    · omega
    · exact hsecond.bounds.1
  · rcases hrest with ⟨-, -, hnano⟩ | ⟨st, ft, -, -, hfraction⟩
    · omega
    · exact hfraction.bounds

theorem timeOfDay_reads_iff {t : TimeOfDay} :
    timeOfDay.Reads t c r
      ↔ ∃ x : TimeFields, plainTime.Reads x c r ∧ x.toTime = t
          ∧ t.hour ≤ 24 ∧ t.minute ≤ 59 ∧ t.second ≤ 59 := by
  rw [timeOfDay, tryMap_reads_iff, ← timeShape_map_fields]
  simp only [map_reads_iff, checkTime_eq_ok_iff]
  constructor
  · rintro ⟨s, hs, hcheck⟩
    exact ⟨s.fields, ⟨s, rfl, hs⟩, hcheck⟩
  · rintro ⟨_, ⟨s, rfl, hs⟩, hcheck⟩
    exact ⟨s, hs, hcheck⟩

/-- **What a time literal reads is a text of a time of day in range.** -/
theorem time_reads {a : Literal} (h : time.Reads a c r) :
    ∃ t : TimeOfDay, a = .time t ∧ t.IsWritten c ∧ t.IsValid := by
  rw [time, label_reads_iff, map_reads_iff] at h
  obtain ⟨t, rfl, ht⟩ := h
  obtain ⟨x, hx, rfl, hle⟩ := timeOfDay_reads_iff.mp ht
  exact ⟨_, rfl, plainTime_reads hx, isValid_of_isWritten (plainTime_reads hx) hle⟩

/-- **Every such text is read, in front of what cannot go on with it.** -/
theorem time_reads_of_isWritten {t : TimeOfDay} (h : t.IsWritten c) (hvalid : t.IsValid)
    (hr : StopsAt continuesTime r) : time.Reads (.time t) c r := by
  obtain ⟨x, rfl, hx⟩ := exists_plainTime_reads h hr
  rw [time, label_reads_iff, map_reads_iff]
  exact ⟨_, rfl, timeOfDay_reads_iff.mpr
    ⟨x, hx, rfl, hvalid.hour.2, hvalid.minute.2, hvalid.second.2⟩⟩

/-! ## Offsets from UTC -/

/-- The sign, hour and minute of an offset that has them. -/
abbrev OffsetFields := Option (Text × Nat × Nat)

/-- The fields of a shape, without their places. -/
def OffsetShape.fields : OffsetShape → OffsetFields
  | .utc => none
  | .signed sign hour minute => some (sign, hour.value, minute.value)

/-- The minutes that the fields stand for. -/
def OffsetFields.toMinutes : OffsetFields → Int
  | none => 0
  | some (sign, hour, minute) =>
    if sign = "-" then -((hour : Int) * 60 + minute) else (hour : Int) * 60 + minute

/-- The hour and the minute are in range. -/
def OffsetFields.InRange (x : OffsetFields) : Prop := ∀ y ∈ x, y.2.1 ≤ 24 ∧ y.2.2 ≤ 59

/-- The fields of an offset without their places. -/
def plainOffset : Parser OffsetFields :=
  alt ((keyword "Z").replace none)
    ((seq3 (oneOf "+-") (twoDigits "hour") (preceded (char ":") (twoDigits "minute"))).map some)

instance : Plain plainOffset := inferInstanceAs (Plain (alt _ _))

instance : ShapeOnly plainOffset := inferInstanceAs (ShapeOnly (alt _ _))

theorem offsetShape_map_fields : offsetShape.map OffsetShape.fields = plainOffset := by
  rw [plainOffset, ← field_map_value, ← field_map_value, ← preceded_map, ← map_id (oneOf "+-"),
    ← seq3_map, offsetShape, alt_map, map_map, replace, map_map, map_map]
  rfl

theorem toMinutes_plus (hour minute : Nat) :
    OffsetFields.toMinutes (some ([CodeUnit.ofChar '+'], hour, minute))
      = (hour : Int) * 60 + minute := by
  rw [OffsetFields.toMinutes, if_neg (by decide)]

theorem toMinutes_minus (hour minute : Nat) :
    OffsetFields.toMinutes (some ([hyphen], hour, minute)) = -((hour : Int) * 60 + minute) := by
  rw [OffsetFields.toMinutes, if_pos (by decide)]

theorem checkOffset_eq_ok_iff {s : OffsetShape} {minutes : Int} :
    checkOffset s = .ok minutes
      ↔ OffsetFields.toMinutes s.fields = minutes ∧ OffsetFields.InRange s.fields := by
  cases s with
  | utc =>
    refine ⟨fun h => ⟨Except.ok.inj h, fun y hy => by cases hy⟩, fun ⟨h, _⟩ => congrArg _ h⟩
  | signed sign hour minute =>
    simp only [checkOffset, bind_eq_ok_iff, checkRange_eq_ok_iff]
    constructor
    · rintro ⟨-, hhour, -, hminute, h⟩
      refine ⟨Except.ok.inj h, ?_⟩
      rintro _ ⟨⟩
      exact ⟨hhour.2, hminute.2⟩
    · rintro ⟨h, hrange⟩
      obtain ⟨hhour, hminute⟩ := hrange _ rfl
      exact ⟨(), ⟨by omega, hhour⟩, (), ⟨by omega, hminute⟩, congrArg _ h⟩

theorem plainOffset_reads_iff {x : OffsetFields} :
    plainOffset.Reads x c r
      ↔ x = none ∧ c.lower = "z"
        ∨ ∃ (sign : CodeUnit) (ht mt : Text) (hour minute : Nat), x = some ([sign], hour, minute)
            ∧ c = sign :: (ht ++ colon :: mt) ∧ sign ∈ Text.ofString "+-"
            ∧ ht.IsTwoDigits hour ∧ mt.IsTwoDigits minute := by
  have hplain : (Text.ofString "Z").all CodeUnit.isPlain = true := by decide
  have hlower : (Text.ofString "Z").lower = "z" := by decide
  have hminute {n : Nat} {c r : Text} :
      (preceded (char ":") (twoDigits "minute")).Reads n c r
        ↔ ∃ digits, c = colon :: digits ∧ Text.IsTwoDigits digits n :=
    marked_twoDigits_reads_iff
  rw [plainOffset, alt_reads_iff, replace_reads_iff, replace_refuses_iff, map_reads_iff]
  simp only [keyword_reads_iff hplain, hlower, exists_eq_left, Prod.exists, seq3_reads_iff,
    oneOf_reads_iff, twoDigits_reads_iff, hminute]
  refine or_congr_right ⟨?_, ?_⟩
  · rintro ⟨-, _, hour, minute, rfl, _, ht, _, rfl, ⟨sign, hsign, rfl, rfl⟩, hhour, mt, rfl, hmt⟩
    exact ⟨sign, ht, mt, hour, minute, rfl, rfl, hsign, hhour, hmt⟩
  · rintro ⟨sign, ht, mt, hour, minute, rfl, rfl, hsign, hhour, hmt⟩
    refine ⟨keyword_refuses_of_head (s := []) hplain ?_, [sign], hour, minute, rfl, [sign], ht,
      colon :: mt, rfl, ⟨sign, hsign, rfl, rfl⟩, hhour, mt, rfl, hmt⟩
    rintro _ ⟨⟩
    rcases mem_signs_iff.mp hsign with rfl | rfl
    · decide
    · decide

/-- The fields of an offset in range are read exactly from the texts of the offset. -/
theorem exists_plainOffset_reads_iff {minutes : Int} :
    (∃ x : OffsetFields, plainOffset.Reads x c r ∧ x.toMinutes = minutes ∧ x.InRange)
      ↔ IsOffset c minutes := by
  simp only [plainOffset_reads_iff]
  constructor
  · rintro ⟨x, ⟨rfl, hz⟩ | ⟨sign, ht, mt, hour, minute, rfl, rfl, hsign, hhour, hmt⟩, rfl, hrange⟩
    · exact .inl ⟨hz, rfl⟩
    · obtain ⟨hle, hle'⟩ := hrange _ rfl
      refine .inr ⟨sign, ht, mt, hour, minute, rfl, hhour, hmt, by exact_mod_cast hle,
        by exact_mod_cast hle', ?_⟩
      rcases mem_signs_iff.mp hsign with rfl | rfl
      · exact .inl ⟨rfl, toMinutes_plus hour minute⟩
      · exact .inr ⟨rfl, toMinutes_minus hour minute⟩
  · rintro (⟨hz, rfl⟩ | ⟨sign, ht, mt, hour, minute, rfl, hhour, hmt, hle, hle', hval⟩)
    · exact ⟨none, .inl ⟨rfl, hz⟩, rfl, fun y hy => by cases hy⟩
    · obtain ⟨h, rfl⟩ := Int.eq_ofNat_of_zero_le hhour.bounds.1
      obtain ⟨m, rfl⟩ := Int.eq_ofNat_of_zero_le hmt.bounds.1
      have hrange : OffsetFields.InRange (some ([sign], h, m)) := by
        rintro _ ⟨⟩
        exact ⟨by exact_mod_cast hle, by exact_mod_cast hle'⟩
      refine ⟨some ([sign], h, m), .inr ⟨sign, ht, mt, h, m, rfl, rfl, ?_, hhour, hmt⟩, ?_, hrange⟩
      · rcases hval with ⟨rfl, -⟩ | ⟨rfl, -⟩
        · exact mem_signs_iff.mpr (.inl rfl)
        · exact mem_signs_iff.mpr (.inr rfl)
      · rcases hval with ⟨rfl, rfl⟩ | ⟨rfl, rfl⟩
        · exact toMinutes_plus h m
        · exact toMinutes_minus h m

/-! ## Dates with times -/

theorem checkDateTime_eq_ok_iff {d : DateShape} {t : TimeShape} {o : Option OffsetShape}
    {v : DateTimeOffset} :
    checkDateTime d t o = .ok v
      ↔ checkDate d = .ok v.date ∧ checkTime t = .ok v.time
        ∧ checkOffset (o.getD .utc) = .ok v.offsetMinutes := by
  simp only [checkDateTime, bind_eq_ok_iff]
  constructor
  · rintro ⟨date, hdate, time, htime, offset, hoffset, h⟩
    obtain rfl := Except.ok.inj h
    exact ⟨hdate, htime, hoffset⟩
  · rintro ⟨hdate, htime, hoffset⟩
    exact ⟨_, hdate, _, htime, _, hoffset, rfl⟩

/-- The fields of a date, a time of day and an offset, without their places. -/
def plainDateTime : Parser (CalendarDate × TimeFields × Option OffsetFields) :=
  seq3 plainDate (preceded (keyword "T") plainTime) (optional plainOffset)

theorem dateTimeShape_map :
    ((seq3 dateShape (preceded (keyword "T") timeShape) (optional offsetShape)).map fun x =>
      (DateShape.toDate x.1, TimeShape.fields x.2.1, Option.map OffsetShape.fields x.2.2))
      = plainDateTime := by
  rw [seq3_map, preceded_map, optional_map, dateShape_map_toDate, timeShape_map_fields,
    offsetShape_map_fields]
  rfl

instance : Plain plainDateTime := inferInstanceAs (Plain (seq3 _ _ _))

theorem dateTimeOffset_reads_iff_plain {a : Literal} :
    dateTimeOffset.Reads a c r
      ↔ ∃ (x : TimeFields) (o : Option OffsetFields) (v : DateTimeOffset), a = .dateTimeOffset v
          ∧ plainDateTime.Reads (v.date, x, o) c r ∧ v.date.IsValid ∧ x.toTime = v.time
          ∧ (v.time.hour ≤ 24 ∧ v.time.minute ≤ 59 ∧ v.time.second ≤ 59)
          ∧ OffsetFields.toMinutes (o.getD none) = v.offsetMinutes
          ∧ OffsetFields.InRange (o.getD none) := by
  have hgetD (o : Option OffsetShape) :
      (o.getD .utc).fields = (o.map OffsetShape.fields).getD none := by cases o <;> rfl
  rw [dateTimeOffset, label_reads_iff, tryMap_reads_iff, ← dateTimeShape_map]
  simp only [map_reads_iff]
  constructor
  · rintro ⟨⟨d, t, o⟩, hs, hcheck⟩
    cases hv : checkDateTime d t o with
    | error e => simp [hv, Except.map] at hcheck
    | ok v =>
      simp only [hv, Except.map, Except.ok.injEq] at hcheck
      rw [checkDateTime_eq_ok_iff, checkDate_eq_ok_iff, checkTime_eq_ok_iff, checkOffset_eq_ok_iff,
        hgetD] at hv
      obtain ⟨⟨hdate, hvalid⟩, ⟨htime, hle⟩, hminutes, hrange⟩ := hv
      refine ⟨t.fields, o.map OffsetShape.fields, v, hcheck.symm, ⟨(d, t, o), ?_, hs⟩, hvalid,
        htime, hle, hminutes, hrange⟩
      rw [← hdate]
  · rintro ⟨x, o', v, rfl, ⟨⟨d, t, o⟩, heq, hs⟩, hvalid, htime, hle, hminutes, hrange⟩
    simp only [Prod.mk.injEq] at heq
    obtain ⟨hdate, rfl, rfl⟩ := heq
    have hv : checkDateTime d t o = .ok v := by
      rw [checkDateTime_eq_ok_iff, checkDate_eq_ok_iff, checkTime_eq_ok_iff, checkOffset_eq_ok_iff,
        hgetD]
      exact ⟨⟨hdate, hvalid⟩, ⟨htime, hle⟩, hminutes, hrange⟩
    exact ⟨(d, t, o), hs, by simp [hv, Except.map]⟩

/-- **What a literal of a date with a time reads is a text of one in range.** -/
theorem dateTimeOffset_reads {a : Literal} (h : dateTimeOffset.Reads a c r) :
    ∃ v : DateTimeOffset, a = .dateTimeOffset v ∧ v.IsWritten c ∧ v.IsValid := by
  obtain ⟨x, o, v, rfl, hreads, hvalid, htime, hle, hminutes, hrange⟩ :=
    dateTimeOffset_reads_iff_plain.mp h
  obtain ⟨dt, _, ot, rfl, hd, ht, ho⟩ := seq3_reads_iff.mp hreads
  obtain ⟨_, mt, tt, rfl, hmark, htt⟩ := preceded_reads_iff.mp ht
  obtain ⟨-, hlower⟩ := (keyword_reads_iff (by decide)).mp hmark
  obtain ⟨mark, rest, rfl, hu, hrest⟩ := exists_cons_of_lower_eq_cons hlower
  obtain rfl := List.map_eq_nil_iff.mp hrest
  have hwritten : v.time.IsWritten tt := htime ▸ plainTime_reads htt
  have hoffset : IsOffset ot v.offsetMinutes ∨ ot = [] ∧ v.offsetMinutes = 0 := by
    rcases optional_reads_iff.mp ho with ⟨y, rfl, hy⟩ | ⟨rfl, rfl, -⟩
    · exact .inl (exists_plainOffset_reads_iff.mp ⟨y, hy, hminutes, hrange⟩)
    · exact .inr ⟨rfl, hminutes.symm⟩
  refine ⟨v, rfl, ⟨dt, tt, ot, mark, by simp, plainDate_reads_iff.mp hd, hu, hwritten, hoffset⟩,
    hvalid, isValid_of_isWritten hwritten hle, ?_⟩
  rcases hoffset with hoffset | ⟨-, hzero⟩
  · exact hoffset.bounds
  · rw [hzero]
    decide

theorem stopsAt_continuesTime_of_isOffset {minutes : Int} (h : IsOffset c minutes) :
    StopsAt continuesTime (c ++ r) := by
  rcases h with ⟨hz, -⟩ | ⟨sign, ht, mt, hour, minute, rfl, -, -, -, -, hsign⟩
  · obtain ⟨u, rest, rfl, hu, -⟩ := exists_cons_of_lower_eq_cons hz
    refine stopsAt_cons.mpr ?_
    rcases CodeUnit.eq_or_eq_of_lower_eq hu with rfl | rfl <;> decide
  · refine stopsAt_cons.mpr ?_
    rcases hsign with ⟨rfl, -⟩ | ⟨rfl, -⟩ <;> decide

/-- Every such text is read where its offset is, if what follows cannot go on with the time. -/
theorem dateTimeOffset_reads_of_offset_reads {v : DateTimeOffset} {dt tt ot : Text}
    {mark : CodeUnit} {o : Option OffsetFields} (hd : v.date.IsWritten dt)
    (hmark : mark.lower = 0x74) (ht : v.time.IsWritten tt) (hstop : StopsAt continuesTime (ot ++ r))
    (ho : (optional plainOffset).Reads o ot r)
    (hminutes : OffsetFields.toMinutes (o.getD none) = v.offsetMinutes)
    (hrange : OffsetFields.InRange (o.getD none)) (hvalid : v.IsValid) :
    dateTimeOffset.Reads (.dateTimeOffset v) (dt ++ mark :: (tt ++ ot)) r := by
  obtain ⟨x, hx, hxreads⟩ := exists_plainTime_reads ht hstop
  have hT : (keyword "T").Reads [mark] [mark] (tt ++ (ot ++ r)) :=
    (keyword_reads_iff (by decide)).mpr ⟨rfl, congrArg (fun u => [u]) hmark⟩
  refine dateTimeOffset_reads_iff_plain.mpr ⟨x, o, v, rfl, seq3_reads_iff.mpr
    ⟨dt, mark :: tt, ot, by simp, plainDate_reads_iff.mpr hd, ?_, ho⟩,
    hvalid.date, hx, ⟨hvalid.time.hour.2, hvalid.time.minute.2, hvalid.time.second.2⟩, hminutes,
    hrange⟩
  exact preceded_reads_iff.mpr ⟨[mark], [mark], tt, rfl, hT, hxreads⟩

/-- **Every such text that has an offset is read, whatever follows.** -/
theorem dateTimeOffset_reads_of_isWritten {v : DateTimeOffset} {dt tt ot : Text} {mark : CodeUnit}
    (hd : v.date.IsWritten dt) (hmark : mark.lower = 0x74) (ht : v.time.IsWritten tt)
    (ho : IsOffset ot v.offsetMinutes) (hvalid : v.IsValid) :
    dateTimeOffset.Reads (.dateTimeOffset v) (dt ++ mark :: (tt ++ ot)) r := by
  obtain ⟨y, hy, hminutes, hrange⟩ := (exists_plainOffset_reads_iff (r := r)).mpr ho
  exact dateTimeOffset_reads_of_offset_reads hd hmark ht (stopsAt_continuesTime_of_isOffset ho)
    (optional_reads_some_iff.mpr hy) hminutes hrange hvalid

/-- **At the end of the input every such text is read.** -/
theorem dateTimeOffset_reads_nil {v : DateTimeOffset} (h : v.IsWritten c) (hvalid : v.IsValid) :
    dateTimeOffset.Reads (.dateTimeOffset v) c [] := by
  obtain ⟨dt, tt, ot, mark, rfl, hd, hmark, ht, ho | ⟨rfl, hzero⟩⟩ := h
  · exact dateTimeOffset_reads_of_isWritten hd hmark ht ho hvalid
  · have hnone : (optional plainOffset).Reads none [] [] :=
      optional_reads_none_iff.mpr ⟨rfl, _, rfl⟩
    exact dateTimeOffset_reads_of_offset_reads hd hmark ht (stopsAt_nil _) hnone hzero.symm
      (fun y hy => by cases hy) hvalid

end Grammar
end ODataToken
