import ODataToken.Proofs.Duration

/-!
# Durations by their components

A duration is written by its components, each a numeral of any length in front of the letter of its
unit.  Here the numerals that are written are data: `DurationParts` holds them, `DurationParts.text`
writes them down with capital letters, and `DurationParts.nanoseconds` adds up what they stand for,
with the fraction of the seconds cut off behind the ninth digit.

`isDurationText_iff` says that the texts of durations are those of such components, with the letters
in either case.
-/

set_option autoImplicit false

namespace ODataToken

open CodeUnit (point)
open Duration

/-! ## Texts up to case -/

namespace Text

variable {s t t' : Text} {x : CodeUnit}

theorem lower_eq_lower_append_iff :
    s.lower = lower (t ++ t')
      ↔ ∃ s₁ s₂, s = s₁ ++ s₂ ∧ lower s₁ = t.lower ∧ lower s₂ = t'.lower := by
  rw [lower, lower, List.map_append, List.map_eq_append_iff]
  rfl

theorem lower_eq_lower_cons_iff :
    s.lower = lower (x :: t) ↔ ∃ u s', s = u :: s' ∧ u.lower = x.lower ∧ lower s' = t.lower := by
  constructor
  · exact exists_cons_of_lower_eq_cons
  · rintro ⟨u, s', rfl, hu, hs'⟩
    exact congrArg₂ List.cons hu hs'

theorem lower_eq_lower_nil_iff : s.lower = lower [] ↔ s = [] := List.map_eq_nil_iff

/-- A text without letters is told by its lower case. -/
theorem lower_eq_lower_iff (ht : ∀ u ∈ t, u < 0x41) : s.lower = t.lower ↔ s = t := by
  refine ⟨fun h => ?_, fun h => h ▸ rfl⟩
  induction t generalizing s with
  | nil => exact List.map_eq_nil_iff.mp h
  | cons x t ih =>
    obtain ⟨hx, ht⟩ := List.forall_mem_cons.mp ht
    obtain ⟨u, s', rfl, hu, hs'⟩ := exists_cons_of_lower_eq_cons h
    have hlt : u.lower < 0x41 := by rwa [hu, CodeUnit.lower_eq_self hx]
    -- only a letter has a lower case that is another unit, and that is a letter too
    have hu' : u.lower = u := by
      unfold CodeUnit.lower at hlt ⊢
      split
      · rename_i hcapital
        simp only [hcapital, if_true, UInt16.lt_iff_toNat_lt, UInt16.toNat_add] at hlt
        simp only [Bool.and_eq_true, decide_eq_true_eq, UInt16.le_iff_toNat_le,
          UInt16.reduceToNat] at hcapital hlt
        omega
      · rfl
    rw [ih ht hs', ← hu', hu, CodeUnit.lower_eq_self hx]

theorem IsDigits.lt (h : t.IsDigits) : ∀ u ∈ t, u < 0x41 := by
  intro u hu
  have hdigit := h u hu
  simp only [CodeUnit.isDigit, Bool.and_eq_true, decide_eq_true_eq] at hdigit
  exact UInt16.lt_of_le_of_lt hdigit.2 (by decide)

theorem IsSign.lt (h : t.IsSign) : ∀ u ∈ t, u < 0x41 := by
  intro u hu
  rcases h with rfl | rfl | rfl
  · cases hu
  · rw [List.mem_singleton.mp hu]
    decide
  · rw [List.mem_singleton.mp hu]
    decide

end Text

/-! ## Components -/

/-- One or more digits. -/
abbrev Numeral := { t : Text // t.IsNumeral }

/-- The number that a numeral denotes, zero if there is none. -/
def numeralValue (d : Option Numeral) : Nat := d.elim 0 fun d => d.1.toNat

/-- A numeral in front of the letter of its unit, or nothing. -/
def numeralText (unit : CodeUnit) (d : Option Numeral) : Text := d.elim [] fun d => d.1 ++ [unit]

/-- The numerals of the hours, minutes and seconds.  There is no fraction without seconds. -/
structure ClockParts where
  hours : Option Numeral
  minutes : Option Numeral
  seconds : Option (Numeral × Option Numeral)

/-- The sign of a duration, the numeral of its days, and the part from the letter `T` on. -/
structure DurationParts where
  sign : { t : Text // t.IsSign }
  days : Option Numeral
  clock : Option ClockParts

/-- A point and the numeral of a fraction, or nothing. -/
def fractionText (f : Option Numeral) : Text := f.elim [] fun f => point :: f.1

/-- Seconds and their fraction, or nothing. -/
def clockSecondsText (s : Option (Numeral × Option Numeral)) : Text :=
  s.elim [] fun (whole, fraction) => whole.1 ++ (fractionText fraction ++ [0x53])

/-- The nanoseconds of a fraction, what is less than one left out. -/
def fractionNanos (f : Option Numeral) : Nat :=
  f.elim 0 fun f => f.1.toNat * 10 ^ 9 / 10 ^ f.1.length

namespace ClockParts

variable (c : ClockParts)

/-- The letter `T` and the components of less than a day. -/
def text : Text :=
  0x54 :: (numeralText 0x48 c.hours ++ (numeralText 0x4D c.minutes ++ clockSecondsText c.seconds))

/-- The nanoseconds of the hours, minutes and seconds. -/
def nanoseconds : Nat :=
  3600 * 10 ^ 9 * numeralValue c.hours + 60 * 10 ^ 9 * numeralValue c.minutes
    + 10 ^ 9 * numeralValue (c.seconds.map Prod.fst) + fractionNanos (c.seconds.bind Prod.snd)

end ClockParts

namespace DurationParts

variable (p : DurationParts)

/-- The components written down, with capital letters. -/
def text : Text :=
  p.sign.1 ++ 0x50 :: (numeralText 0x44 p.days ++ p.clock.elim [] ClockParts.text)

/-- The nanoseconds that the components add up to, negated behind a `-`. -/
def nanoseconds : Int :=
  let total : Nat := 86400 * 10 ^ 9 * numeralValue p.days + p.clock.elim 0 ClockParts.nanoseconds
  if p.sign.1 = "-" then -total else total

/-- The text spells the components, with letters in either case. -/
def IsSpelledBy (t : Text) : Prop := t.lower = p.text.lower

end DurationParts

/-! ## The texts of durations -/

theorem isOptional_isComponent_iff {unit : CodeUnit} {nanosPerUnit n : Nat} {t : Text} :
    IsOptional (IsComponent unit nanosPerUnit) t n
      ↔ ∃ d, t.lower = (numeralText unit d).lower ∧ n = nanosPerUnit * numeralValue d := by
  simp only [Option.exists, numeralText, numeralValue, Option.elim_none, Option.elim_some,
    Text.lower_eq_lower_nil_iff, Nat.mul_zero, Subtype.exists, Text.lower_eq_lower_append_iff]
  rw [IsOptional, or_comm]
  refine or_congr_right ⟨?_, ?_⟩
  · rintro ⟨digits, mark, rfl, hdigits, hmark, rfl⟩
    exact ⟨digits, hdigits, ⟨digits, [mark], rfl, rfl, congrArg (fun u => [u]) hmark⟩,
      Nat.mul_comm _ _⟩
  · rintro ⟨digits, hdigits, ⟨d, m, rfl, hd, hm⟩, rfl⟩
    obtain rfl := (Text.lower_eq_lower_iff hdigits.2.lt).mp hd
    obtain ⟨mark, m', rfl, hmark, hm'⟩ := Text.lower_eq_lower_cons_iff.mp hm
    obtain rfl := Text.lower_eq_lower_nil_iff.mp hm'
    exact ⟨d, mark, rfl, hdigits, hmark, Nat.mul_comm _ _⟩

theorem isFractionOfDuration_iff {n : Nat} {t : Text} :
    IsFractionOfDuration t n
      ↔ ∃ f, t.lower = (fractionText f).lower ∧ n = fractionNanos f := by
  simp only [Option.exists, fractionText, fractionNanos, Option.elim_none, Option.elim_some,
    Text.lower_eq_lower_nil_iff, Subtype.exists]
  refine or_congr_right ⟨?_, ?_⟩
  · rintro ⟨digits, rfl, hdigits, rfl⟩
    exact ⟨digits, hdigits, rfl, readFraction_eq 9 hdigits.2⟩
  · rintro ⟨digits, hdigits, ht, rfl⟩
    refine ⟨digits, ?_, hdigits, (readFraction_eq 9 hdigits.2).symm⟩
    exact (Text.lower_eq_lower_iff (List.forall_mem_cons.mpr ⟨by decide, hdigits.2.lt⟩)).mp ht

theorem isOptional_isSeconds_iff {n : Nat} {t : Text} :
    IsOptional IsSeconds t n
      ↔ ∃ s, t.lower = (clockSecondsText s).lower
        ∧ n = 10 ^ 9 * numeralValue (s.map Prod.fst) + fractionNanos (s.bind Prod.snd) := by
  rw [Option.exists, IsOptional, or_comm]
  refine or_congr (by rw [clockSecondsText, Option.elim_none, Text.lower_eq_lower_nil_iff]; rfl)
    ⟨?_, ?_⟩
  · rintro ⟨digits, fraction, mark, nanos, rfl, hdigits, hfraction, hmark, rfl⟩
    obtain ⟨f, hf, rfl⟩ := isFractionOfDuration_iff.mp hfraction
    refine ⟨(⟨digits, hdigits⟩, f), ?_, congrArg (· + fractionNanos f) (Nat.mul_comm _ _)⟩
    exact Text.lower_eq_lower_append_iff.mpr ⟨digits, _, rfl, rfl,
      Text.lower_eq_lower_append_iff.mpr ⟨fraction, [mark], rfl, hf, congrArg (fun u => [u]) hmark⟩⟩
  · rintro ⟨⟨⟨digits, hdigits⟩, f⟩, ht, rfl⟩
    obtain ⟨d, _, rfl, hd, hrest⟩ := Text.lower_eq_lower_append_iff.mp ht
    obtain ⟨fraction, m, rfl, hf, hm⟩ := Text.lower_eq_lower_append_iff.mp hrest
    obtain rfl := (Text.lower_eq_lower_iff hdigits.2.lt).mp hd
    obtain ⟨mark, m', rfl, hmark, hm'⟩ := Text.lower_eq_lower_cons_iff.mp hm
    obtain rfl := Text.lower_eq_lower_nil_iff.mp hm'
    exact ⟨d, fraction, mark, fractionNanos f, rfl, hdigits,
      isFractionOfDuration_iff.mpr ⟨f, hf, rfl⟩, hmark,
      congrArg (· + fractionNanos f) (Nat.mul_comm _ _)⟩

theorem isTimePart_iff {n : Nat} {t : Text} :
    IsTimePart t n ↔ ∃ c : ClockParts, t.lower = c.text.lower ∧ n = c.nanoseconds := by
  constructor
  · rintro ⟨mark, h, m, s, hours, minutes, seconds, rfl, hmark, hh, hm, hs, rfl⟩
    obtain ⟨dh, hh', rfl⟩ := isOptional_isComponent_iff.mp hh
    obtain ⟨dm, hm', rfl⟩ := isOptional_isComponent_iff.mp hm
    obtain ⟨ds, hs', rfl⟩ := isOptional_isSeconds_iff.mp hs
    refine ⟨⟨dh, dm, ds⟩, ?_, (Nat.add_assoc _ _ _).symm⟩
    exact Text.lower_eq_lower_cons_iff.mpr ⟨mark, _, rfl, hmark,
      Text.lower_eq_lower_append_iff.mpr ⟨h, _, rfl, hh',
        Text.lower_eq_lower_append_iff.mpr ⟨m, s, rfl, hm', hs'⟩⟩⟩
  · rintro ⟨⟨dh, dm, ds⟩, ht, rfl⟩
    obtain ⟨mark, _, rfl, hmark, hrest⟩ := Text.lower_eq_lower_cons_iff.mp ht
    obtain ⟨h, _, rfl, hh, hrest⟩ := Text.lower_eq_lower_append_iff.mp hrest
    obtain ⟨m, s, rfl, hm, hs⟩ := Text.lower_eq_lower_append_iff.mp hrest
    exact ⟨mark, h, m, s, _, _, _, rfl, hmark, isOptional_isComponent_iff.mpr ⟨dh, hh, rfl⟩,
      isOptional_isComponent_iff.mpr ⟨dm, hm, rfl⟩, isOptional_isSeconds_iff.mpr ⟨ds, hs, rfl⟩,
      Nat.add_assoc _ _ _⟩

theorem isOptional_isTimePart_iff {n : Nat} {t : Text} :
    IsOptional IsTimePart t n
      ↔ ∃ c : Option ClockParts, t.lower = Text.lower (c.elim [] ClockParts.text)
        ∧ n = c.elim 0 ClockParts.nanoseconds := by
  rw [Option.exists, IsOptional, or_comm]
  refine or_congr ?_ isTimePart_iff
  rw [Option.elim_none, Text.lower_eq_lower_nil_iff]
  rfl

/-- **The texts of durations are those of their components, and worth what these add up to.** -/
theorem isDurationText_iff {v : Int} {t : Text} :
    IsDurationText t v ↔ ∃ p : DurationParts, p.IsSpelledBy t ∧ v = p.nanoseconds := by
  constructor
  · rintro ⟨sign, mark, d, rest, days, time, rfl, hsign, hmark, hd, hrest, rfl⟩
    obtain ⟨dd, hd', rfl⟩ := isOptional_isComponent_iff.mp hd
    obtain ⟨clock, hrest', rfl⟩ := isOptional_isTimePart_iff.mp hrest
    refine ⟨⟨⟨sign, hsign⟩, dd, clock⟩, ?_, rfl⟩
    exact Text.lower_eq_lower_append_iff.mpr ⟨sign, _, rfl, rfl,
      Text.lower_eq_lower_cons_iff.mpr ⟨mark, _, rfl, hmark,
        Text.lower_eq_lower_append_iff.mpr ⟨d, rest, rfl, hd', hrest'⟩⟩⟩
  · rintro ⟨⟨⟨sign, hsign⟩, dd, clock⟩, ht, rfl⟩
    obtain ⟨s, _, rfl, hs, hrest⟩ := Text.lower_eq_lower_append_iff.mp ht
    obtain ⟨mark, _, rfl, hmark, hrest⟩ := Text.lower_eq_lower_cons_iff.mp hrest
    obtain ⟨d, rest, rfl, hd, hrest⟩ := Text.lower_eq_lower_append_iff.mp hrest
    obtain rfl := (Text.lower_eq_lower_iff hsign.lt).mp hs
    exact ⟨s, mark, d, rest, _, _, rfl, hsign, hmark,
      isOptional_isComponent_iff.mpr ⟨dd, hd, rfl⟩,
      isOptional_isTimePart_iff.mpr ⟨clock, hrest, rfl⟩, rfl⟩

end ODataToken
