import Mathlib
import ODataToken.Decimal

/-!
# Equality of floats

`x == y` compares floats as numbers, `x = y` as the values that they are.  The two come apart at
`NaN`, which is a number equal to none, and at the two zeros, which are one number.  Everywhere else
they agree (`IsStandard.beq_eq_true_iff`): a float is its bits, the bits are a sign, an exponent and
a mantissa, and numbers that are neither zero nor `NaN` share all three when they are equal.
-/

set_option autoImplicit false

open Float.Model (UnpackedFloat)
open Float.Model.UnpackedFloat

namespace ODataToken

/-! ## A float is a sign, an exponent and a mantissa -/

/-- The bits of a float. -/
abbrev FloatBits := BitVec Float.Model.Format.binary64.numBits

namespace FloatBits

variable {b c : FloatBits} {x y : UnpackedFloat}

theorem eq_of_parts_eq (hsign : unpackSign b = unpackSign c)
    (hexponent : unpackExponent b = unpackExponent c)
    (hmantissa : unpackMantissa b = unpackMantissa c) : b = c := by
  have hs := congrArg BitVec.toNat hsign
  have he := congrArg BitVec.toNat hexponent
  have hm := congrArg BitVec.toNat hmantissa
  have hb : b.toNat < 2 ^ 64 := b.isLt
  have hc : c.toNat < 2 ^ 64 := c.isLt
  simp only [unpackSign, unpackExponent, unpackMantissa, BitVec.toNat_cast,
    BitVec.extractLsb_toNat, Nat.shiftRight_eq_div_pow] at hs he hm
  norm_num at hs he hm
  apply BitVec.eq_of_toNat_eq
  omega

theorem sign_injective {s t : BitVec 1} (h : Sign.ofBitVec s = Sign.ofBitVec t) : s = t := by
  rcases BitVec.eq_zero_or_eq_one s with rfl | rfl <;>
    rcases BitVec.eq_zero_or_eq_one t with rfl | rfl
  · rfl
  · cases h
  · cases h
  · rfl

/-- What bits stand for, by their parts. -/
inductive StandsFor (b : FloatBits) : UnpackedFloat → Prop
  | notANumber : StandsFor b .notANumber
  | infinity {s : Sign} (hs : .ofBitVec (unpackSign b) = s)
      (he : (unpackExponent b).toNat = 2047) (hm : (unpackMantissa b).toNat = 0) :
      StandsFor b (.infinity s)
  | zero {s : Sign} (hs : .ofBitVec (unpackSign b) = s)
      (he : (unpackExponent b).toNat = 0) (hm : (unpackMantissa b).toNat = 0) :
      StandsFor b (.zero s)
  | subnormal {s : Sign} {m : Nat} {e : Int} {hpos : 0 < m} (hs : .ofBitVec (unpackSign b) = s)
      (he : (unpackExponent b).toNat = 0) (hm : (unpackMantissa b).toNat = m) (hexp : e = -1074) :
      StandsFor b (.finite s m e hpos)
  | normal {s : Sign} {m : Nat} {e : Int} {hpos : 0 < m} (hs : .ofBitVec (unpackSign b) = s)
      (he : (unpackExponent b).toNat = e + 1075) (hm : 2 ^ 52 + (unpackMantissa b).toNat = m) :
      StandsFor b (.finite s m e hpos)

theorem standsFor_unpack (b : FloatBits) : StandsFor b (unpack .binary64 b) := by
  unfold UnpackedFloat.unpack
  dsimp only
  split
  next he =>
    split
    next hm => exact .infinity rfl (congrArg BitVec.toNat he) (congrArg BitVec.toNat hm)
    next => exact .notANumber
  next =>
    split
    next he =>
      split
      next hm => exact .zero rfl (congrArg BitVec.toNat he) (congrArg BitVec.toNat hm)
      next =>
        have hexp : ((unpackExponent b).toNat : Int) = 0 := by rw [he]; rfl
        refine .subnormal rfl (congrArg BitVec.toNat he) rfl ?_
        rw [hexp]
        rfl
    next =>
      have hone : (1#1 ++ unpackMantissa b).toNat = 2 ^ 52 + (unpackMantissa b).toNat := by
        rw [BitVec.toNat_append, ← Nat.shiftLeft_add_eq_or_of_lt (unpackMantissa b).isLt]
        rfl
      exact .normal rfl (sub_add_cancel _ _).symm hone.symm

/-- The bits can be told from the number that they stand for. -/
theorem StandsFor.unique (hb : StandsFor b x) (hc : StandsFor c x) (hx : x ≠ .notANumber) :
    b = c := by
  have hlt : (unpackMantissa b).toNat < 2 ^ 52 := (unpackMantissa b).isLt
  have hlt' : (unpackMantissa c).toNat < 2 ^ 52 := (unpackMantissa c).isLt
  suffices Sign.ofBitVec (unpackSign b) = .ofBitVec (unpackSign c)
      ∧ (unpackExponent b).toNat = (unpackExponent c).toNat
      ∧ (unpackMantissa b).toNat = (unpackMantissa c).toNat from
    eq_of_parts_eq (sign_injective this.1) (BitVec.eq_of_toNat_eq this.2.1)
      (BitVec.eq_of_toNat_eq this.2.2)
  cases hb with
  | notANumber => exact absurd rfl hx
  | infinity hs he hm =>
    cases hc with
    | infinity hs' he' hm' => exact ⟨hs.trans hs'.symm, he.trans he'.symm, hm.trans hm'.symm⟩
  | zero hs he hm =>
    cases hc with
    | zero hs' he' hm' => exact ⟨hs.trans hs'.symm, he.trans he'.symm, hm.trans hm'.symm⟩
  -- a mantissa below `2 ^ 52` is that of a subnormal number
  | subnormal hs he hm hexp =>
    cases hc with
    | subnormal hs' he' hm' hexp' => exact ⟨hs.trans hs'.symm, by omega, by omega⟩
    | normal hs' he' hm' => omega
  | normal hs he hm =>
    cases hc with
    | subnormal hs' he' hm' hexp' => omega
    | normal hs' he' hm' => exact ⟨hs.trans hs'.symm, by omega, by omega⟩

theorem eq_of_unpack_eq (h : unpack .binary64 b = unpack .binary64 c)
    (hnumber : unpack .binary64 b ≠ .notANumber) : b = c :=
  (standsFor_unpack b).unique (h ▸ standsFor_unpack c) hnumber

end FloatBits

/-! ## Equal numbers -/

theorem compare_sign_eq_eq_iff {s t : Sign} : compare s t = .eq ↔ s = t := by
  cases s <;> cases t
  · exact ⟨fun _ => rfl, fun _ => rfl⟩
  · exact ⟨nofun, nofun⟩
  · exact ⟨nofun, nofun⟩
  · exact ⟨fun _ => rfl, fun _ => rfl⟩

/-- What compares as equal is the same number, except that the two zeros are one. -/
theorem compare_eq_eq_iff {x y : UnpackedFloat} :
    x.compare y = some .eq
      ↔ (x ≠ .notANumber ∧ x = y) ∨ ∃ s t, x = .zero s ∧ y = .zero t := by
  cases x with
  | notANumber => simp [UnpackedFloat.compare]
  | infinity s => cases s <;> cases y <;> simp [UnpackedFloat.compare, compare_sign_eq_eq_iff]
  | zero s =>
    cases y with
    | notANumber => simp [UnpackedFloat.compare]
    | infinity t => cases t <;> simp [UnpackedFloat.compare]
    | zero t => simp [UnpackedFloat.compare]
    | finite t => cases t <;> simp [UnpackedFloat.compare]
  | finite s m e =>
    cases y with
    | notANumber => simp [UnpackedFloat.compare]
    | infinity t => cases t <;> simp [UnpackedFloat.compare]
    | zero t => cases s <;> simp [UnpackedFloat.compare]
    | finite t m' e' =>
      cases s <;> cases t <;> simp [UnpackedFloat.compare, Ordering.then_eq_eq, and_comm]

/-! ## Floats -/

/-- What a float stands for. -/
abbrev unpackFloat (x : Float) : UnpackedFloat := x.toModel.unpack

variable {x y : Float}

theorem beq_eq_compare (x y : Float) :
    (x == y) = ((unpackFloat x).compare (unpackFloat y) == some .eq) := rfl

theorem unpackFloat_ne_notANumber_iff : unpackFloat x ≠ .notANumber ↔ x.isNaN = false := by
  change _ ↔ (unpackFloat x).isNaN = false
  cases unpackFloat x <;> simp [UnpackedFloat.isNaN]

theorem eq_of_toBits_eq (h : x.toBits.toBitVec = y.toBits.toBitVec) : x = y := by
  obtain ⟨⟨bits, _⟩⟩ := x
  obtain ⟨⟨bits', _⟩⟩ := y
  obtain rfl : bits = bits' := UInt64.toBitVec_inj.mp h
  rfl

theorem eq_of_unpackFloat_eq (h : unpackFloat x = unpackFloat y) (hx : x.isNaN = false) : x = y :=
  eq_of_toBits_eq (FloatBits.eq_of_unpack_eq h (unpackFloat_ne_notANumber_iff.mpr hx))

/-- The float is neither `NaN` nor the negative zero. -/
structure IsStandard (x : Float) : Prop where
  isNumber : x.isNaN = false
  isNotMinusZero : x ≠ -0.0

namespace IsStandard

theorem eq_positive {s : Sign} (hx : IsStandard x) (h : unpackFloat x = .zero s) :
    s = .positive := by
  cases s with
  | positive => rfl
  | negative =>
    have hminus : unpackFloat (-0.0) = .zero .negative := rfl
    exact absurd (eq_of_unpackFloat_eq (h.trans hminus.symm) hx.isNumber) hx.isNotMinusZero

/-- **Where neither `NaN` nor the negative zero is about, equality of floats is identity.** -/
theorem beq_eq_true_iff (hx : IsStandard x) (hy : IsStandard y) : (x == y) = true ↔ x = y := by
  rw [beq_eq_compare, beq_iff_eq, compare_eq_eq_iff]
  constructor
  · rintro (⟨-, h⟩ | ⟨s, t, hs, ht⟩)
    · exact eq_of_unpackFloat_eq h hx.isNumber
    · refine eq_of_unpackFloat_eq ?_ hx.isNumber
      rw [hs, ht, hx.eq_positive hs, hy.eq_positive ht]
  · rintro rfl
    exact .inl ⟨unpackFloat_ne_notANumber_iff.mpr hx.isNumber, rfl⟩

end IsStandard
end ODataToken
