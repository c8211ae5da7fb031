import Mathlib.Data.List.TakeWhile
import Mathlib.Tactic.Ring
import ODataToken.Decimal
import ODataToken.Temporal

/-!
# Decimal digits

Writing and reading decimal digits: `Text.ofNat` against `Text.toNat`, padding with zeros on either
side, and the digits of a fraction.  The facts about `Text.ofNat` come from those about
`Nat.toDigits`.

* `Text.toNat_ofNat`, `Text.toNat_padStart` — what is written reads back, with or without zeros in
  front.
* `readFraction_trimEndZeros` — nor do the zeros matter that are left away at the end of a fraction.
* `readFraction_eq` — the digits of a fraction behind the last place are cut off.
-/

set_option autoImplicit false

namespace ODataToken

/-! ## Digits and their value -/

namespace Text

/-- The text consists of decimal digits. -/
def IsDigits (t : Text) : Prop := ∀ u ∈ t, u.isDigit = true

/-- Digits, at least one. -/
def IsNumeral (t : Text) : Prop := t ≠ [] ∧ t.IsDigits

/-- One sign or none. -/
def IsSign (t : Text) : Prop := t = [] ∨ t = "+" ∨ t = "-"

theorem IsDigits.append {s t : Text} (hs : s.IsDigits) (ht : t.IsDigits) : (s ++ t).IsDigits := by
  intro u hu
  rcases List.mem_append.mp hu with h | h
  · exact hs u h
  · exact ht u h

/-- What begins with a digit begins with nothing else. -/
theorem IsNumeral.isDigit_of_head? {c r : Text} {u : CodeUnit} (h : c.IsNumeral)
    (hu : (c ++ r).head? = some u) : u.isDigit = true := by
  obtain ⟨x, c', rfl⟩ := List.exists_cons_of_ne_nil h.1
  obtain rfl : x = u := Option.some.inj hu
  exact h.2 x List.mem_cons_self

theorem IsDigits.isNumeral {t : Text} {n : Nat} (h : t.IsDigits) (hlen : t.length = n + 1) :
    t.IsNumeral :=
  ⟨List.length_pos_iff.mp (by omega), h⟩

/-- The unit after the digits that a text begins with. -/
def nextMark (w : Text) : Option CodeUnit := (w.dropWhile CodeUnit.isDigit).head?

theorem nextMark_append {d : Text} (h : d.IsDigits) (w : Text) :
    nextMark (d ++ w) = w.nextMark := by
  rw [nextMark, List.dropWhile_append_of_pos h]
  rfl

theorem nextMark_cons {u : CodeUnit} (h : u.isDigit = false) (w : Text) :
    nextMark (u :: w) = some u := by
  rw [nextMark, List.dropWhile_cons_of_neg (by simp [h])]
  rfl

theorem isDigits_replicate_zero (n : Nat) :
    IsDigits (List.replicate n (CodeUnit.ofChar '0')) := by
  intro u hu
  rw [List.eq_of_mem_replicate hu]
  rfl

/-- The value of a digit is below ten. -/
theorem toNat_sub_lt_ten {u : CodeUnit} (h : u.isDigit = true) : u.toNat - 48 < 10 := by
  simp only [CodeUnit.isDigit, Bool.and_eq_true, decide_eq_true_eq, UInt16.le_iff_toNat_le] at h
  have h' : u.toNat ≤ 57 := h.2
  omega

theorem foldl_digits (t : Text) (n : Nat) :
    t.foldl (fun n u => 10 * n + (u.toNat - 48)) n = n * 10 ^ t.length + t.toNat := by
  induction t generalizing n with
  | nil => simp [toNat]
  | cons u t ih =>
    rw [toNat, List.foldl_cons, List.foldl_cons, ih, ih (10 * 0 + _), List.length_cons,
      Nat.pow_succ]
    ring

theorem toNat_cons (u : CodeUnit) (t : Text) :
    toNat (u :: t) = (u.toNat - 48) * 10 ^ t.length + t.toNat := by
  rw [toNat, List.foldl_cons, foldl_digits, Nat.mul_zero, Nat.zero_add]

theorem toNat_append (s t : Text) : toNat (s ++ t) = s.toNat * 10 ^ t.length + t.toNat := by
  rw [toNat, List.foldl_append, foldl_digits]
  rfl

theorem toNat_lt {t : Text} (h : t.IsDigits) : t.toNat < 10 ^ t.length := by
  induction t with
  | nil => simp [toNat]
  | cons u t ih =>
    have hu : u.toNat - 48 < 10 := toNat_sub_lt_ten (h u List.mem_cons_self)
    have ht : toNat t < 10 ^ t.length := ih fun v hv => h v (List.mem_cons_of_mem u hv)
    rw [toNat_cons, List.length_cons, Nat.pow_succ]
    calc (u.toNat - 48) * 10 ^ t.length + toNat t
        < (u.toNat - 48) * 10 ^ t.length + 10 ^ t.length := Nat.add_lt_add_left ht _
      _ = (u.toNat - 48 + 1) * 10 ^ t.length := by ring
      _ ≤ 10 * 10 ^ t.length := Nat.mul_le_mul_right _ hu
      _ = 10 ^ t.length * 10 := Nat.mul_comm _ _

theorem toNat_replicate_zero (n : Nat) : toNat (List.replicate n (CodeUnit.ofChar '0')) = 0 := by
  induction n with
  | zero => rfl
  | succ n ih =>
    rw [List.replicate_succ, toNat_cons, ih]
    simp [CodeUnit.ofChar]

/-! ## Writing a natural number -/

/-- A digit character and its code unit have one value. -/
theorem ofChar_digit {c : Char} (h : c.isDigit = true) :
    (CodeUnit.ofChar c).isDigit = true ∧ (CodeUnit.ofChar c).toNat = c.toNat := by
  obtain ⟨hle, hge⟩ : 48 ≤ c.toNat ∧ c.toNat ≤ 57 := Char.isDigit_iff_toNat.mp h
  have hval : (CodeUnit.ofChar c).toNat = c.toNat := by
    rw [CodeUnit.ofChar, UInt16.toNat_ofNat']
    omega
  refine ⟨?_, hval⟩
  simp only [CodeUnit.isDigit, Bool.and_eq_true, decide_eq_true_eq, UInt16.le_iff_toNat_le, hval]
  exact ⟨hle, hge⟩

theorem isDigits_ofNat (n : Nat) : (ofNat n).IsDigits := by
  intro u hu
  obtain ⟨c, hc, rfl⟩ := List.mem_map.mp hu
  exact (ofChar_digit (Nat.isDigit_of_mem_toDigits (by decide) (by decide) hc)).1

theorem isNumeral_ofNat (n : Nat) : (ofNat n).IsNumeral := by
  refine ⟨?_, isDigits_ofNat n⟩
  simp [ofNat, Nat.toDigits_ne_nil]

/-- **A natural number reads back from its digits.** -/
theorem toNat_ofNat (n : Nat) : (ofNat n).toNat = n := by
  have digits (cs : List Char) (init : Nat) (h : ∀ c ∈ cs, c.isDigit = true) :
      (cs.map CodeUnit.ofChar).foldl (fun n u => 10 * n + (u.toNat - 48)) init
        = Nat.ofDigitChars 10 cs init := by
    induction cs generalizing init with
    | nil => simp
    | cons c cs ih =>
      rw [List.map_cons, List.foldl_cons, (ofChar_digit (h c List.mem_cons_self)).2,
        Nat.ofDigitChars_cons, ih _ fun d hd => h d (List.mem_cons_of_mem c hd)]
      rfl
  rw [toNat, ofNat, digits _ 0 fun c hc => Nat.isDigit_of_mem_toDigits (by decide) (by decide) hc]
  exact Nat.ofDigitChars_ten_toDigits

theorem length_ofNat_le {n k : Nat} (hk : 0 < k) (h : n < 10 ^ k) : (ofNat n).length ≤ k := by
  rw [ofNat, List.length_map]
  exact (Nat.length_toDigits_le_iff (by decide) hk).mpr h

/-! ## Zeros on either side -/

theorem isDigits_padStart {t : Text} (h : t.IsDigits) (w : Nat) : (padStart w t).IsDigits :=
  (isDigits_replicate_zero _).append h

theorem toNat_padStart (w : Nat) (t : Text) : (padStart w t).toNat = t.toNat := by
  show toNat (List.replicate (w - t.length) (CodeUnit.ofChar '0') ++ t) = _
  rw [toNat_append, toNat_replicate_zero, Nat.zero_mul, Nat.zero_add]

theorem length_padStart {w : Nat} {t : Text} (h : t.length ≤ w) : (padStart w t).length = w := by
  rw [padStart, List.length_leftpad]
  exact Nat.max_eq_left h

theorem isDigits_padEnd {t : Text} (h : t.IsDigits) (w : Nat) : (padEnd w t).IsDigits :=
  h.append (isDigits_replicate_zero _)

theorem trimEndZeros_isPrefix (t : Text) : t.trimEndZeros <+: t := by
  rw [trimEndZeros, ← List.reverse_suffix, List.reverse_reverse]
  exact List.dropWhile_suffix _

/-- Filling a trimmed text up to its old length undoes the trimming. -/
theorem padEnd_trimEndZeros (t : Text) : padEnd t.length t.trimEndZeros = t := by
  have hsplit : (t.reverse.dropWhile (· == CodeUnit.ofChar '0')).reverse
      ++ (t.reverse.takeWhile (· == CodeUnit.ofChar '0')).reverse = t := by
    rw [← List.reverse_append, List.takeWhile_append_dropWhile, List.reverse_reverse]
  have hzeros : (t.reverse.takeWhile (· == CodeUnit.ofChar '0')).reverse
      = List.replicate (t.length - t.trimEndZeros.length) (CodeUnit.ofChar '0') := by
    refine List.eq_replicate_iff.mpr ⟨?_, fun u hu => ?_⟩
    · have := congrArg List.length hsplit
      rw [List.length_append] at this
      rw [trimEndZeros]
      omega
    · simpa using List.mem_takeWhile_imp (List.mem_reverse.mp hu)
  show t.trimEndZeros ++ List.replicate (t.length - t.trimEndZeros.length) (CodeUnit.ofChar '0') = t
  rw [← hzeros]
  exact hsplit

theorem trimEndZeros_ne_nil {t : Text} (h : t.toNat ≠ 0) : t.trimEndZeros ≠ [] := by
  intro hnil
  apply h
  rw [← padEnd_trimEndZeros t, hnil]
  exact toNat_replicate_zero _

end Text

/-! ## Fractions -/

open Text

/-- **A fraction reads back without the zeros at its end.** -/
theorem readFraction_trimEndZeros (t : Text) : readFraction t.length t.trimEndZeros = t.toNat := by
  rw [readFraction, padEnd_trimEndZeros, List.take_length]

theorem readFraction_lt (places : Nat) {t : Text} (h : t.IsDigits) :
    readFraction places t < 10 ^ places := by
  have hdigits : IsDigits ((padEnd places t).take places) :=
    fun u hu => isDigits_padEnd h places u (List.mem_of_mem_take hu)
  refine Nat.lt_of_lt_of_le (toNat_lt hdigits) (Nat.pow_le_pow_right (by decide) ?_)
  exact List.length_take_le _ _

/-- **A fraction of any length is cut off, and never rounded.** -/
theorem readFraction_eq (places : Nat) {t : Text} (h : t.IsDigits) :
    readFraction places t = t.toNat * 10 ^ places / 10 ^ t.length := by
  rcases Nat.le_total t.length places with hle | hge
  · have hpow : 10 ^ places = 10 ^ (places - t.length) * 10 ^ t.length := by
      rw [← Nat.pow_add, Nat.sub_add_cancel hle]
    have hpad : padEnd places t
        = t ++ List.replicate (places - t.length) (CodeUnit.ofChar '0') := rfl
    have hlen : (padEnd places t).length = places := by
      rw [hpad, List.length_append, List.length_replicate]
      omega
    rw [readFraction, List.take_of_length_le (Nat.le_of_eq hlen), hpad, toNat_append,
      toNat_replicate_zero, Nat.add_zero, List.length_replicate, hpow, ← Nat.mul_assoc,
      Nat.mul_div_cancel _ (Nat.pow_pos (by decide))]
  · have hpad : padEnd places t = t := by
      show t ++ List.replicate (places - t.length) (CodeUnit.ofChar '0') = t
      rw [Nat.sub_eq_zero_of_le hge, List.replicate_zero, List.append_nil]
    have hpow : 10 ^ t.length = 10 ^ (t.length - places) * 10 ^ places := by
      rw [← Nat.pow_add, Nat.sub_add_cancel hge]
    have hdrop : toNat (t.drop places) < 10 ^ (t.length - places) := by
      rw [← List.length_drop]
      exact toNat_lt fun u hu => h u (List.mem_of_mem_drop hu)
    have hsplit : t.toNat
        = toNat (t.take places) * 10 ^ (t.length - places) + toNat (t.drop places) := by
      rw [← List.length_drop, ← toNat_append, List.take_append_drop]
    rw [readFraction, hpad, hpow, Nat.mul_div_mul_right _ _ (Nat.pow_pos (by decide)), hsplit,
      Nat.add_comm, Nat.add_mul_div_right _ _ (Nat.pow_pos (by decide)), Nat.div_eq_of_lt hdrop,
      Nat.zero_add]

/-! ## Integers -/

theorem mem_signs_iff {u : CodeUnit} :
    u ∈ Text.ofString "+-" ↔ u = CodeUnit.ofChar '+' ∨ u = CodeUnit.ofChar '-' := by
  have hsigns : Text.ofString "+-" = [CodeUnit.ofChar '+', CodeUnit.ofChar '-'] := by decide
  simp [hsigns]

/-- No sign is a digit. -/
theorem ne_sign_of_isDigit {u : CodeUnit} (h : u.isDigit = true) : u ∉ Text.ofString "+-" := by
  intro hmem
  rcases mem_signs_iff.mp hmem with rfl | rfl
  · cases h
  · cases h

/-- Digits do not begin with a sign. -/
theorem splitSign_digits {t : Text} (h : t.IsDigits) : splitSign t = (false, t) := by
  cases t with
  | nil => rfl
  | cons u t =>
    have hu : u.isDigit = true := h u List.mem_cons_self
    have hne (c : CodeUnit) (hc : c.isDigit = false) : (u == c) = false := by
      rw [beq_eq_false_iff_ne]
      rintro rfl
      rw [hu] at hc
      cases hc
    simp [splitSign, hne (CodeUnit.ofChar '-') rfl, hne (CodeUnit.ofChar '+') rfl]

theorem readInt_digits {t : Text} (h : t.IsDigits) : readInt t = t.toNat := by
  simp [readInt, splitSign_digits h]

theorem readInt_minus (t : Text) : readInt ("-" ++ t) = -(t.toNat : Int) := rfl

/-- **An integer reads back from its decimal digits and its sign.** -/
theorem readInt_ofInt (n : Int) : readInt (Text.ofInt n) = n := by
  unfold Text.ofInt
  split
  · rw [readInt_minus, toNat_ofNat]
    omega
  · rw [readInt_digits (isDigits_ofNat _), toNat_ofNat]
    omega

/-! ## Numbers of a fixed width -/

theorem padInt_natCast (n w : Nat) : padInt n w = padStart w (ofNat n) := by
  rw [padInt, Text.ofInt, if_neg (by omega)]
  rfl

/-- A number below the given power of ten, written with zeros in front. -/
theorem padInt_spec {n w : Nat} (hw : 0 < w) (h : n < 10 ^ w) :
    (padInt n w).length = w ∧ (padInt n w).IsDigits ∧ (padInt n w).toNat = n := by
  rw [padInt_natCast, toNat_padStart, toNat_ofNat]
  exact ⟨length_padStart (length_ofNat_le hw h), isDigits_padStart (isDigits_ofNat n) w, rfl⟩

end ODataToken
