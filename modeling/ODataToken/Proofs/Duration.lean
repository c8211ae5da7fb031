import ODataToken.Proofs.CharClass
import ODataToken.Proofs.Text.Case
import ODataToken.Proofs.Text.Digits
import ODataToken.Temporal

/-!
# Durations and their texts

`IsDurationText` says which texts write a duration of so many nanoseconds, and the canonical text of
a duration is one of them.  Each component is a numeral and a unit letter in either case; all of
them can be missing, and only the order is fixed.
-/

set_option autoImplicit false

namespace ODataToken

open CodeUnit (apostrophe hyphen point)
open Duration

/-! ## Shapes -/

/-- Nothing, which counts for nothing, or a text with a property that depends on its value. -/
def IsOptional (P : Text → Nat → Prop) (t : Text) (n : Nat) : Prop := P t n ∨ t = [] ∧ n = 0

/-- A numeral and the letter of a unit in either case, worth `n`. -/
def IsComponent (unit : CodeUnit) (nanosPerUnit : Nat) (t : Text) (n : Nat) : Prop :=
  ∃ (digits : Text) (mark : CodeUnit), t = digits ++ [mark] ∧ digits.IsNumeral
    ∧ mark.lower = unit.lower ∧ n = digits.toNat * nanosPerUnit

/-- Nothing, or a point and a numeral, worth `n` nanoseconds. -/
def IsFractionOfDuration (t : Text) (n : Nat) : Prop :=
  t = [] ∧ n = 0
    ∨ ∃ digits : Text, t = point :: digits ∧ digits.IsNumeral ∧ n = readFraction 9 digits

/-- Seconds with or without a fraction. -/
def IsSeconds (t : Text) (n : Nat) : Prop :=
  ∃ (digits fraction : Text) (mark : CodeUnit) (nanos : Nat), t = digits ++ (fraction ++ [mark])
    ∧ digits.IsNumeral ∧ IsFractionOfDuration fraction nanos ∧ mark.lower = 0x73
    ∧ n = digits.toNat * nanosPerSecond + nanos

/-- The letter `T` in either case and the components of less than a day, in order. -/
def IsTimePart (t : Text) (n : Nat) : Prop :=
  ∃ (mark : CodeUnit) (h m s : Text) (hours minutes seconds : Nat), t = mark :: (h ++ (m ++ s))
    ∧ mark.lower = 0x74 ∧ IsOptional (IsComponent 0x48 nanosPerHour) h hours
    ∧ IsOptional (IsComponent 0x4D nanosPerMinute) m minutes ∧ IsOptional IsSeconds s seconds
    ∧ n = hours + minutes + seconds

/-- A sign, the letter `P` in either case, days and the time part, worth `n` nanoseconds. -/
def IsDurationText (t : Text) (n : Int) : Prop :=
  ∃ (sign : Text) (mark : CodeUnit) (d rest : Text) (days time : Nat),
    t = sign ++ mark :: (d ++ rest) ∧ sign.IsSign ∧ mark.lower = 0x70
      ∧ IsOptional (IsComponent 0x44 nanosPerDay) d days ∧ IsOptional IsTimePart rest time
      ∧ n = if sign = "-" then -((days + time : Nat) : Int) else (days + time : Nat)

/-! ## Canonical texts -/

theorem isOptional_componentText (unit : CodeUnit) (nanosPerUnit n : Nat) :
    IsOptional (IsComponent unit nanosPerUnit) (componentText n [unit]) (n * nanosPerUnit) := by
  unfold componentText
  split
  · rename_i hzero
    exact .inr ⟨rfl, by rw [hzero, Nat.zero_mul]⟩
  · exact .inl ⟨Text.ofNat n, unit, rfl, Text.isNumeral_ofNat n, rfl, by rw [Text.toNat_ofNat]⟩

/-- The digits of a fraction in nanoseconds, without the zeros at their end. -/
theorem isFractionOfDuration_trimEndZeros {n : Nat} (hne : n ≠ 0) (hlt : n < nanosPerSecond) :
    IsFractionOfDuration (point :: Text.trimEndZeros (Text.padStart 9 (Text.ofNat n))) n := by
  have hlen : (Text.padStart 9 (Text.ofNat n)).length = 9 :=
    Text.length_padStart (Text.length_ofNat_le (by decide) hlt)
  have hval : (Text.padStart 9 (Text.ofNat n)).toNat = n := by
    rw [Text.toNat_padStart, Text.toNat_ofNat]
  have hdigits := Text.isDigits_padStart (Text.isDigits_ofNat n) 9
  refine .inr ⟨_, rfl, ⟨Text.trimEndZeros_ne_nil (by rw [hval]; exact hne),
    fun u hu => hdigits u ((Text.trimEndZeros_isPrefix _).subset hu)⟩, ?_⟩
  have := readFraction_trimEndZeros (Text.padStart 9 (Text.ofNat n))
  rw [hlen, hval] at this
  exact this.symm

theorem isOptional_secondsText {seconds fraction : Nat} (h : fraction < nanosPerSecond) :
    IsOptional IsSeconds (secondsText seconds fraction) (seconds * nanosPerSecond + fraction) := by
  unfold secondsText
  split
  · rename_i hzero
    subst hzero
    rcases isOptional_componentText 0x53 nanosPerSecond seconds with
      ⟨digits, mark, ht, hdigits, hmark, hval⟩ | ⟨ht, hval⟩
    · exact .inl ⟨digits, [], mark, 0, ht, hdigits, .inl ⟨rfl, rfl⟩, hmark, by rw [hval]⟩
    · exact .inr ⟨ht, by rw [Nat.add_zero, hval]⟩
  · rename_i hne
    have hS : Text.ofString "S" = [0x53] := by decide
    refine .inl ⟨Text.ofNat seconds, _, 0x53, fraction, ?_, Text.isNumeral_ofNat seconds,
      isFractionOfDuration_trimEndZeros hne h, by decide, by rw [Text.toNat_ofNat]⟩
    simp [hS]

theorem isTimePart_timePartText (n : Nat) : IsTimePart (0x54 :: timePartText n) n := by
  have hH : Text.ofString "H" = [0x48] := by decide
  have hM : Text.ofString "M" = [0x4D] := by decide
  have hfraction : n % nanosPerSecond < nanosPerSecond := Nat.mod_lt _ (by decide)
  refine ⟨0x54, componentText (n / nanosPerHour) [0x48],
    componentText (n % nanosPerHour / nanosPerMinute) [0x4D],
    secondsText (n % nanosPerMinute / nanosPerSecond) (n % nanosPerSecond), _, _, _, ?_, by decide,
    isOptional_componentText _ _ _, isOptional_componentText _ _ _,
    isOptional_secondsText hfraction, ?_⟩
  · rw [timePartText, hH, hM, List.append_assoc]
  · simp only [nanosPerHour, nanosPerMinute, nanosPerSecond]
    omega

theorem IsOptional.eq_zero {P : Text → Nat → Prop} {n : Nat} (hP : ∀ n, ¬ P [] n)
    (h : IsOptional P [] n) : n = 0 := by
  rcases h with h | ⟨-, h⟩
  · exact absurd h (hP n)
  · exact h

theorem not_isComponent_nil (unit : CodeUnit) (nanosPerUnit n : Nat) :
    ¬ IsComponent unit nanosPerUnit [] n := by
  rintro ⟨digits, mark, h, -⟩
  simp at h

theorem not_isSeconds_nil (n : Nat) : ¬ IsSeconds [] n := by
  rintro ⟨digits, fraction, mark, nanos, h, -⟩
  simp at h

/-- A time part without components is worth nothing. -/
theorem IsTimePart.eq_zero {u : CodeUnit} {n : Nat} (h : IsTimePart [u] n) : n = 0 := by
  obtain ⟨mark, h, m, s, hours, minutes, seconds, ht, -, hh, hm, hs, rfl⟩ := h
  obtain ⟨-, hnil⟩ := List.cons.inj ht
  obtain ⟨rfl, hms⟩ := List.append_eq_nil_iff.mp hnil.symm
  obtain ⟨rfl, rfl⟩ := List.append_eq_nil_iff.mp hms
  rw [hh.eq_zero (not_isComponent_nil _ _), hm.eq_zero (not_isComponent_nil _ _),
    hs.eq_zero not_isSeconds_nil]

/-- The time part that stands for a duration of zero. -/
theorem isTimePart_zero : IsTimePart "T0S" 0 :=
  ⟨0x54, [], [], "0S", 0, 0, 0, by decide, by decide, .inr ⟨rfl, rfl⟩, .inr ⟨rfl, rfl⟩,
    .inl ⟨Text.ofNat 0, [], 0x53, 0, by decide, Text.isNumeral_ofNat 0, .inl ⟨rfl, rfl⟩, by decide,
      by decide⟩, rfl⟩

/-- The components that are written add up to the duration. -/
theorem exists_componentsText (n : Nat) :
    ∃ d rest days time, componentsText n = d ++ rest
      ∧ IsOptional (IsComponent 0x44 nanosPerDay) d days ∧ IsOptional IsTimePart rest time
      ∧ n = days + time := by
  have hD : Text.ofString "D" = [0x44] := by decide
  have hT : Text.ofString "T" = [0x54] := by decide
  have hsplit : n = n / nanosPerDay * nanosPerDay + n % nanosPerDay := (Nat.div_add_mod' _ _).symm
  have hday := isOptional_componentText 0x44 nanosPerDay (n / nanosPerDay)
  have htime := isTimePart_timePartText (n % nanosPerDay)
  rw [componentsText, hD, hT]
  generalize componentText (n / nanosPerDay) [0x44] = d at hday ⊢
  generalize timePartText (n % nanosPerDay) = t at htime ⊢
  generalize n / nanosPerDay * nanosPerDay = days at hsplit hday
  generalize n % nanosPerDay = time at hsplit htime
  cases t with
  | cons u t => exact ⟨d, 0x54 :: u :: t, days, time, by simp, hday, .inl htime, hsplit⟩
  | nil =>
    have hzero := htime.eq_zero
    cases d with
    | cons u d => exact ⟨u :: d, [], days, time, by simp, hday, .inr ⟨rfl, hzero⟩, hsplit⟩
    | nil =>
      have hzero' := hday.eq_zero (not_isComponent_nil _ _)
      exact ⟨[], "T0S", days, 0, rfl, hday, .inl isTimePart_zero, by omega⟩

/-- **The canonical text of a duration has the duration between its apostrophes.** -/
theorem Duration.exists_text_eq (v : Duration) :
    ∃ t, v.text = Text.ofString "duration" ++ apostrophe :: (t ++ [apostrophe])
      ∧ IsDurationText t v.nanoseconds := by
  have hquote : Text.ofString "duration'" = Text.ofString "duration" ++ [apostrophe] := by decide
  have hP : Text.ofString "P" = [0x50] := by decide
  obtain ⟨d, rest, days, time, htext, hd, hrest, hval⟩ := exists_componentsText v.nanoseconds.natAbs
  refine ⟨(if v.nanoseconds < 0 then Text.ofString "-" else []) ++ 0x50 :: (d ++ rest), ?_, ?_⟩
  · simp only [Duration.text, htext, hquote, Text.ofString_apostrophe, hP, List.append_assoc,
      List.cons_append, List.nil_append]
  · refine ⟨_, 0x50, d, rest, days, time, rfl, ?_, by decide, hd, hrest, ?_⟩
    · split
      · exact .inr (.inr rfl)
      · exact .inl rfl
    · by_cases hneg : v.nanoseconds < 0
      · rw [if_pos hneg, if_pos rfl]
        omega
      · rw [if_neg hneg, if_neg (by decide)]
        omega

end ODataToken
