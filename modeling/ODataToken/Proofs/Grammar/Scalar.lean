import ODataToken.Grammar.Scalar
import ODataToken.Proofs.Parser.Reads
import ODataToken.Proofs.Parser.Runs
import ODataToken.Proofs.Pattern
import ODataToken.Proofs.Text.Digits

/-!
# What words, GUIDs and numbers read

## Main results

* `nullValue_reads_iff` and `boolean_reads_iff`: `null` reads as itself in lower case, a truth value
  in any case, and neither looks at what follows.
* `guid_reads_iff`: a GUID literal reads five groups of hexadecimal digits with hyphens between
  them, whatever follows, and its value is that text.
* `integer_reads_iff`: an integer literal reads digits after an optional sign, all the digits there
  are, whose value is a signed 64-bit integer.
* `float_reads`, `float_reads_of_isDecimal`: what a float literal reads is a decimal with a
  fraction, an exponent or both, or one of the three names; and a decimal that is all there is, it
  reads whole.
-/

set_option autoImplicit false

namespace ODataToken
namespace Grammar

open ODataToken.Parser Text

variable {a : Literal} {c r : Text}

/-- The word for a truth value. -/
def booleanWord (b : Bool) : Text := if b then "true" else "false"

instance : Plain nullValue := inferInstanceAs (Plain (Parser.replace _ _))

instance : ShapeOnly nullValue := inferInstanceAs (ShapeOnly (Parser.replace _ _))

theorem nullValue_reads_iff : nullValue.Reads a c r ↔ a = .null ∧ c = "null" := by
  rw [nullValue, replace_reads_iff]
  refine and_congr_right fun _ => ⟨fun ⟨v, hv⟩ => (literal_reads_iff.mp hv).2, ?_⟩
  rintro rfl
  exact ⟨_, literal_reads_iff.mpr ⟨rfl, rfl⟩⟩

instance : Plain boolean := inferInstanceAs (Plain (label _ _))

theorem booleanWord_isPlain (b : Bool) : (booleanWord b).all CodeUnit.isPlain = true := by
  cases b <;> decide

theorem boolean_reads_iff :
    boolean.Reads a c r ↔ ∃ b, a = .boolean b ∧ c.lower = booleanWord b := by
  have reads (b : Bool) : ((keyword (booleanWord b)).replace (Literal.boolean b)).Reads a c r
      ↔ a = .boolean b ∧ c.lower = booleanWord b := by
    have hlower : (booleanWord b).lower = booleanWord b := by cases b <;> decide
    rw [replace_reads_iff]
    simp only [keyword_reads_iff (booleanWord_isPlain b), exists_eq_left, hlower]
  rw [boolean, label_reads_iff, alt_reads_iff, Bool.exists_bool]
  constructor
  · rintro (h | ⟨-, h⟩)
    · exact .inr ((reads true).mp h)
    · exact .inl ((reads false).mp h)
  · rintro (h | h)
    · refine .inr ⟨?_, (reads false).mpr h⟩
      obtain ⟨u, c', rfl, hu, -⟩ := exists_cons_of_lower_eq_cons h.2
      refine replace_refuses_iff.mpr (keyword_refuses_of_head (booleanWord_isPlain true) ?_)
      rintro _ ⟨⟩
      rw [hu]
      decide
    · exact .inl ((reads true).mpr h)

end Grammar

/-! ## GUIDs -/

open CodeUnit (hyphen)

namespace Text

/-- A group of `n` hexadecimal digits. -/
def IsHexGroup (n : Nat) (t : Text) : Prop := t.length = n ∧ ∀ u ∈ t, u.isHexDigit = true

/-- Groups of 8, 4, 4, 4 and 12 hexadecimal digits with hyphens between them. -/
def IsGuid (t : Text) : Prop :=
  ∃ g₁ g₂ g₃ g₄ g₅ : Text,
    t = g₁ ++ hyphen :: (g₂ ++ hyphen :: (g₃ ++ hyphen :: (g₄ ++ hyphen :: g₅)))
      ∧ g₁.IsHexGroup 8 ∧ g₂.IsHexGroup 4 ∧ g₃.IsHexGroup 4 ∧ g₄.IsHexGroup 4
      ∧ g₅.IsHexGroup 12

end Text

namespace Grammar

open ODataToken.Parser Text

variable {v c r : Text} {n : Nat}

instance (n : Nat) : Plain (hexGroup n) := inferInstanceAs (Plain (takeExactly _ _ _))

instance (n : Nat) : ShapeOnly (hexGroup n) := inferInstanceAs (ShapeOnly (takeExactly _ _ _))

theorem hexGroup_reads_iff : (hexGroup n).Reads v c r ↔ v = c ∧ c.IsHexGroup n :=
  takeExactly_reads_iff CharClass.hexDigit_ofSingleUnits

/-- A group and the hyphen after it. -/
theorem hexGroup_hyphen_reads_iff :
    (terminated (hexGroup n) (char "-")).Reads v c r
      ↔ c = v ++ [hyphen] ∧ v.IsHexGroup n := by
  simp only [terminated_reads_iff, hexGroup_reads_iff]
  constructor
  · rintro ⟨q, v', mark, rfl, ⟨rfl, hv⟩, hmark⟩
    obtain ⟨-, rfl⟩ := (char_reads_iff (u := hyphen)).mp hmark
    exact ⟨rfl, hv⟩
  · rintro ⟨rfl, hv⟩
    exact ⟨[hyphen], v, [hyphen], rfl, ⟨rfl, hv⟩, (char_reads_iff (u := hyphen)).mpr ⟨rfl, rfl⟩⟩

instance : Plain guid := inferInstanceAs (Plain (label _ _))

/-- **A GUID literal reads a text of the form of a GUID, which is its value.** -/
theorem guid_reads_iff {a : Literal} : guid.Reads a c r ↔ a = .guid c ∧ c.IsGuid := by
  simp only [guid, label_reads_iff, map_reads_iff, recognize_reads_iff, Prod.exists, seq_reads_iff,
    commit_reads_iff, hexGroup_hyphen_reads_iff, hexGroup_reads_iff, count_succ_reads_iff,
    count_zero_reads_iff]
  constructor
  · rintro ⟨_, rfl, rfl, g₁, vs, g₅, _, _, rfl, ⟨rfl, h₁⟩, _, _, rfl,
      ⟨g₂, _, _, _, rfl, rfl, ⟨rfl, h₂⟩, g₃, _, _, _, rfl, rfl, ⟨rfl, h₃⟩, g₄, _, _, _, rfl, rfl,
        ⟨rfl, h₄⟩, rfl, rfl⟩, rfl, h₅⟩
    exact ⟨rfl, g₁, g₂, g₃, g₄, g₅, by simp, h₁, h₂, h₃, h₄, h₅⟩
  · rintro ⟨rfl, g₁, g₂, g₃, g₄, g₅, rfl, h₁, h₂, h₃, h₄, h₅⟩
    refine ⟨_, rfl, rfl, g₁, [g₂, g₃, g₄], g₅, g₁ ++ [hyphen], g₂ ++ hyphen :: (g₃ ++ hyphen ::
      (g₄ ++ hyphen :: g₅)), by simp, ⟨rfl, h₁⟩, ?_⟩
    refine ⟨(g₂ ++ [hyphen]) ++ ((g₃ ++ [hyphen]) ++ ((g₄ ++ [hyphen]) ++ [])), g₅, by simp, ?_,
      rfl, h₅⟩
    exact ⟨g₂, _, _, _, rfl, rfl, ⟨rfl, h₂⟩, g₃, _, _, _, rfl, rfl, ⟨rfl, h₃⟩, g₄, _, _, _, rfl,
      rfl, ⟨rfl, h₄⟩, rfl, rfl⟩

end Grammar

/-! ## Numbers -/

namespace Text

/-- A mark, an optional sign and digits. -/
def IsExponent (t : Text) : Prop :=
  ∃ (mark : CodeUnit) (sign digits : Text), t = mark :: (sign ++ digits)
    ∧ (mark = CodeUnit.ofChar 'e' ∨ mark = CodeUnit.ofChar 'E') ∧ sign.IsSign ∧ digits.IsNumeral

/-- A point, digits and perhaps an exponent. -/
def IsFraction (t : Text) : Prop :=
  ∃ digits rest : Text, t = CodeUnit.point :: (digits ++ rest) ∧ digits.IsNumeral
    ∧ (rest.IsExponent ∨ rest = [])

/-- Digits after an optional sign, then a fraction, an exponent or both. -/
def IsDecimal (t : Text) : Prop :=
  ∃ sign whole rest : Text, t = sign ++ (whole ++ rest) ∧ sign.IsSign ∧ whole.IsNumeral
    ∧ (rest.IsFraction ∨ rest.IsExponent)

end Text

namespace Grammar

open ODataToken.Parser Text

variable {v c r : Text} {a : Literal}

/-! ### Integers -/

theorem signedDigits_reads_iff :
    signedDigits.Reads v c r
      ↔ v = c ∧ ∃ sign digits : Text, c = sign ++ digits ∧ sign.IsSign ∧ digits.IsNumeral
          ∧ StopsAt CodeUnit.isDigit r := by
  have hdigit := CharClass.digit_ofSingleUnits.toOfUnits
  simp only [signedDigits, recognize_reads_iff, Prod.exists, seq_reads_iff,
    takeWhile1_reads_iff hdigit]
  refine and_congr_right fun _ => ⟨?_, ?_⟩
  · rintro ⟨o, digits, sign, _, rfl, hsign, rfl, hne, hall, hr⟩
    exact ⟨sign, digits, rfl, (isSign_of_reads hsign).1, ⟨hne, hall⟩, hr⟩
  · rintro ⟨sign, digits, rfl, hsign, hdigits, hr⟩
    obtain ⟨o, ho, -⟩ := exists_optional_sign_reads (r := digits ++ r) hsign fun u hu =>
      ne_sign_of_isDigit (hdigits.isDigit_of_head? hu)
    exact ⟨o, digits, sign, digits, rfl, ho, rfl, hdigits.1, hdigits.2, hr⟩

theorem int64Min_eq : int64Min = -2 ^ 63 := by decide

theorem int64Max_eq : int64Max = 2 ^ 63 - 1 := by decide

instance : Plain signedDigits := inferInstanceAs (Plain (recognize _))

theorem checkInteger_eq_ok_iff {t : Text} :
    checkInteger t = .ok a
      ↔ int64Min ≤ readInt t ∧ readInt t ≤ int64Max ∧ a = .integer (readInt t) := by
  simp only [checkInteger]
  split
  · rename_i h
    refine ⟨fun h' => (by cases h'), fun ⟨hmin, hmax, _⟩ => ?_⟩
    omega
  · rename_i h
    rw [Except.ok.injEq, eq_comm]
    refine ⟨fun ha => ⟨by omega, by omega, ha⟩, fun ⟨_, _, ha⟩ => ha⟩

/-- **An integer literal reads a numeral after an optional sign, if its value fits.** -/
theorem integer_reads_iff :
    integer.Reads a c r
      ↔ (∃ sign digits : Text, c = sign ++ digits ∧ sign.IsSign ∧ digits.IsNumeral)
        ∧ StopsAt CodeUnit.isDigit r
        ∧ int64Min ≤ readInt c ∧ readInt c ≤ int64Max ∧ a = .integer (readInt c) := by
  simp only [integer, label_reads_iff, tryMap_reads_iff, signedDigits_reads_iff,
    checkInteger_eq_ok_iff]
  constructor
  · rintro ⟨_, ⟨rfl, sign, digits, hc, hsign, hdigits, hr⟩, hrange⟩
    exact ⟨⟨sign, digits, hc, hsign, hdigits⟩, hr, hrange⟩
  · rintro ⟨⟨sign, digits, hc, hsign, hdigits⟩, hr, hrange⟩
    exact ⟨c, ⟨rfl, sign, digits, hc, hsign, hdigits, hr⟩, hrange⟩

/-! ### Floats -/

/-- Each range of the class holds a unit, and then the unit is in the class. -/
theorem accepts_ranges_iff {items : List (CodeUnit × CodeUnit)} {u : CodeUnit} :
    (UnitClass.ranges items).accepts false u = true
      ↔ ∃ first last, (first, last) ∈ items ∧ first ≤ u ∧ u ≤ last := by
  simp [UnitClass.accepts, UnitClass.mem]

theorem eq_of_le_of_le {u s : CodeUnit} (h : s ≤ u) (h' : u ≤ s) : u = s :=
  UInt16.le_antisymm h' h

theorem accepts_digit (u : CodeUnit) :
    (UnitClass.ranges [(CodeUnit.ofChar '0', CodeUnit.ofChar '9')]).accepts false u
      = u.isDigit := by
  rw [Bool.eq_iff_iff, accepts_ranges_iff]
  simp only [List.mem_singleton, Prod.mk.injEq, CodeUnit.isDigit, Bool.and_eq_true,
    decide_eq_true_eq]
  constructor
  · rintro ⟨_, _, ⟨rfl, rfl⟩, h⟩
    exact h
  · exact fun h => ⟨_, _, ⟨rfl, rfl⟩, h⟩

theorem accepts_pair_iff {x y u : CodeUnit} :
    (UnitClass.ranges [(x, x), (y, y)]).accepts false u = true ↔ u = x ∨ u = y := by
  rw [accepts_ranges_iff]
  simp only [List.mem_cons, Prod.mk.injEq, List.not_mem_nil, or_false]
  constructor
  · rintro ⟨_, _, ⟨rfl, rfl⟩ | ⟨rfl, rfl⟩, hle, hge⟩
    · exact .inl (eq_of_le_of_le hle hge)
    · exact .inr (eq_of_le_of_le hle hge)
  · rintro (rfl | rfl)
    · exact ⟨u, u, .inl ⟨rfl, rfl⟩, UInt16.le_refl u, UInt16.le_refl u⟩
    · exact ⟨u, u, .inr ⟨rfl, rfl⟩, UInt16.le_refl u, UInt16.le_refl u⟩

theorem digitsPattern_matches {t : Text} (h : digitsPattern.Matches false t) : t.IsNumeral :=
  ⟨List.length_pos_iff.mp h.1, fun u hu => accepts_digit u ▸ h.2 u hu⟩

theorem signPattern_matches {t : Text} (h : signPattern.Matches false t) : t.IsSign := by
  rcases h with ⟨u, rfl, hu⟩ | rfl
  · rcases accepts_pair_iff.mp hu with rfl | rfl
    · exact .inr (.inl rfl)
    · exact .inr (.inr rfl)
  · exact .inl rfl

theorem exponentPattern_matches {t : Text} (h : exponentPattern.Matches false t) :
    t.IsExponent := by
  obtain ⟨_, rest, rfl, ⟨mark, rfl, hmark⟩, sign, digits, rfl, hsign, hdigits⟩ := h
  exact ⟨mark, sign, digits, rfl, accepts_pair_iff.mp hmark, signPattern_matches hsign,
    digitsPattern_matches hdigits⟩

theorem decimalPattern_matches {t : Text} (h : decimalPattern.Matches false t) : t.IsDecimal := by
  obtain ⟨sign, _, rfl, hsign, whole, rest, rfl, hwhole, hrest⟩ := h
  refine ⟨sign, whole, rest, rfl, signPattern_matches hsign, digitsPattern_matches hwhole, ?_⟩
  rcases hrest with ⟨_, _, rfl, ⟨point, rfl, hpoint⟩, digits, exponent, rfl, hdigits, hexponent⟩ | h
  · have hpoint' : point = CodeUnit.ofChar '.' := by
      simpa [UnitClass.accepts, UnitClass.mem] using hpoint
    subst hpoint'
    exact .inl ⟨digits, exponent, rfl, digitsPattern_matches hdigits,
      hexponent.imp_left exponentPattern_matches⟩
  · exact .inr (exponentPattern_matches h)

/-! ### Decimals are read whole -/

theorem digitsPattern_prefers {d : Text} (hd : d.IsNumeral) (hr : StopsAt CodeUnit.isDigit r) :
    digitsPattern.Prefers d r := by
  refine Pattern.prefers_run (List.length_pos_iff.mpr hd.1) (fun u hu => ?_) fun u hu => ?_
  · rw [accepts_digit, hd.2 u hu]
  · rw [accepts_digit, hr u hu]

/-- A sign is read, or none in front of what is no sign, such as a digit. -/
theorem signPattern_prefers {sign : Text} (hsign : sign.IsSign)
    (hr : ∀ u ∈ r.head?, u.isDigit = true) : signPattern.Prefers sign r := by
  rcases hsign with rfl | rfl | rfl
  · refine Pattern.prefers_opt_nil (Pattern.ends_unit_eq_nil fun u hu => ?_)
    rw [← Bool.not_eq_true, accepts_pair_iff]
    rintro (rfl | rfl) <;> exact absurd (hr _ hu) (by decide)
  · exact Pattern.prefers_opt (Pattern.prefers_unit (accepts_pair_iff.mpr (.inl rfl)) r)
  · exact Pattern.prefers_opt (Pattern.prefers_unit (accepts_pair_iff.mpr (.inr rfl)) r)

theorem exponentPattern_prefers {e : Text} (he : e.IsExponent)
    (hr : StopsAt CodeUnit.isDigit r) : exponentPattern.Prefers e r := by
  obtain ⟨mark, sign, digits, rfl, hmark, hsign, hdigits⟩ := he
  have hfirst : ∀ u ∈ (digits ++ r).head?, u.isDigit = true :=
    fun u hu => hdigits.isDigit_of_head? hu
  exact Pattern.prefers_seq (c := [mark]) (by decide)
    (Pattern.prefers_unit (accepts_pair_iff.mpr hmark) _)
    (Pattern.prefers_seq (by decide) (signPattern_prefers hsign hfirst)
      (digitsPattern_prefers hdigits hr))

theorem stopsAt_of_isExponent {e : Text} (h : e.IsExponent) (w : Text) :
    StopsAt CodeUnit.isDigit (e ++ w) := by
  obtain ⟨mark, _, _, rfl, rfl | rfl, -⟩ := h
  · exact stopsAt_cons.mpr (by decide)
  · exact stopsAt_cons.mpr (by decide)

/-- A decimal is read whole when it is all there is. -/
theorem decimalPattern_prefers {t : Text} (h : t.IsDecimal) : decimalPattern.Prefers t [] := by
  obtain ⟨sign, whole, rest, rfl, hsign, hwhole, hrest⟩ := h
  have hfirst : ∀ u ∈ (whole ++ rest ++ []).head?, u.isDigit = true := by
    rw [List.append_assoc]
    exact fun u hu => hwhole.isDigit_of_head? hu
  refine Pattern.prefers_seq (by decide) (signPattern_prefers hsign hfirst)
    (Pattern.prefers_seq (by decide) (digitsPattern_prefers hwhole ?_) ?_)
  · rcases hrest with ⟨_, _, rfl, -⟩ | hrest
    · exact stopsAt_cons.mpr (by decide)
    · exact stopsAt_of_isExponent hrest []
  · rcases hrest with ⟨digits, e, rfl, hdigits, he⟩ | hrest
    · refine Pattern.prefers_alt_left (Pattern.prefers_seq (c := [CodeUnit.point]) (by decide)
        (Pattern.prefers_unit (by decide) _) (Pattern.prefers_seq (by decide)
          (digitsPattern_prefers hdigits ?_) ?_))
      · rcases he with he | rfl
        · exact stopsAt_of_isExponent he []
        · exact stopsAt_nil _
      · rcases he with he | rfl
        · exact Pattern.prefers_opt (exponentPattern_prefers he (stopsAt_nil _))
        · exact Pattern.prefers_opt_nil (by decide)
    · refine Pattern.prefers_alt_right (Pattern.ends_seq_eq_nil (Pattern.ends_unit_eq_nil ?_))
        (exponentPattern_prefers hrest (stopsAt_nil _))
      obtain ⟨mark, _, _, rfl, rfl | rfl, -⟩ := hrest
      · rintro _ ⟨⟩; decide
      · rintro _ ⟨⟩; decide

/-! ### Float literals -/

/-- The forms of a float literal in order of rank. -/
def floatForms : List (Parser Literal) := [
  (pattern decimalPattern "decimal number").map fun t => .float (readFloat t),
  (literal "NaN").replace (.float (0 / 0)),
  (literal "INF").replace (.float (1 / 0)),
  (literal "-INF").replace (.float (-1 / 0))]

theorem float_eq : float = label (choice floatForms) "float" := rfl

/-- What holds of every form is shown for the decimal and for the three names. -/
theorem forall_mem_floatForms {P : Parser Literal → Prop}
    (decimal : P ((pattern decimalPattern "decimal number").map fun t => .float (readFloat t)))
    (names : ∀ name ∈ (["NaN", "INF", "-INF"] : List String), ∀ x : Float,
      P ((literal name).replace (.float x))) : ∀ p ∈ floatForms, P p := by
  intro p hp
  simp only [floatForms, List.mem_cons, List.not_mem_nil, or_false] at hp
  rcases hp with rfl | rfl | rfl | rfl
  · exact decimal
  all_goals exact names _ (by simp) _

/-- **What a float literal reads is a decimal or one of the three names.** -/
theorem float_reads (h : float.Reads a c r) :
    (∃ x, a = .float x)
      ∧ (c.IsDecimal ∨ c = Text.ofString "NaN" ∨ c = Text.ofString "INF"
          ∨ c = Text.ofString "-INF") := by
  rw [float, label_reads_iff] at h
  obtain ⟨p, hp, hreads⟩ := exists_mem_of_choice_reads h
  simp only [List.mem_cons, List.not_mem_nil, or_false] at hp
  rcases hp with rfl | rfl | rfl | rfl
  · obtain ⟨t, rfl, ht⟩ := map_reads_iff.mp hreads
    exact ⟨⟨_, rfl⟩, .inl (decimalPattern_matches (pattern_reads ht).2)⟩
  · obtain ⟨rfl, t, ht⟩ := replace_reads_iff.mp hreads
    exact ⟨⟨_, rfl⟩, .inr (.inl (literal_reads_iff.mp ht).2)⟩
  · obtain ⟨rfl, t, ht⟩ := replace_reads_iff.mp hreads
    exact ⟨⟨_, rfl⟩, .inr (.inr (.inl (literal_reads_iff.mp ht).2))⟩
  · obtain ⟨rfl, t, ht⟩ := replace_reads_iff.mp hreads
    exact ⟨⟨_, rfl⟩, .inr (.inr (.inr (literal_reads_iff.mp ht).2))⟩

/-- **A decimal that is all there is, a float literal reads whole.** -/
theorem float_reads_of_isDecimal (h : c.IsDecimal) : float.Reads (.float (readFloat c)) c [] := by
  rw [float_eq, label_reads_iff, choice_reads_iff]
  refine ⟨[], _, _, rfl, fun q hq => absurd hq List.not_mem_nil, map_reads_iff.mpr ⟨c, rfl, ?_⟩⟩
  exact pattern_reads_iff.mpr ⟨rfl, decimalPattern_prefers h⟩

end Grammar
end ODataToken
