import ODataToken.Json.Reader
import ODataToken.Proofs.Grammar.Scalar

/-!
# The texts of JSON numbers

`Json.IsNumber` is the grammar of JSON numbers: an optional minus, digits without leading zeros, and
then a fraction and an exponent, of which either can be missing.  A reader takes such a text to its
end, unless what follows could go on with it (`Json.readNumber_append`).

Both ways in which numbers are written keep to the grammar: the digits of an integer
(`Json.isNumber_ofInt`) and the notation of a float (`Json.isNumber_floatNotation`).  For floats
this comes down to one thing.  Every layout of a decimal either begins with its digits or has a
single zero in front of the point, so the only leading zero that could be too many is that of the
decimal zero; and no decimal that rounds to something else has the digits of zero.
-/

set_option autoImplicit false

namespace ODataToken

open Text (IsDigits IsNumeral StopsAt)

/-! ## Leading zeros -/

/-- **The digits of a number do not begin with a zero**, but for those of zero. -/
theorem Text.head?_ofNat_ne {n : Nat} (h : 0 < n) :
    (Text.ofNat n).head? ≠ some (CodeUnit.ofChar '0') := by
  intro hhead
  obtain ⟨t, ht⟩ := List.head?_eq_some_iff.mp hhead
  have hdigits : IsDigits t := fun u hu => Text.isDigits_ofNat n u (ht ▸ List.mem_cons_of_mem _ hu)
  have hlt : n < 10 ^ t.length := by
    have hvalue := Text.toNat_ofNat n
    rw [ht, Text.toNat_cons, show (CodeUnit.ofChar '0').toNat - 48 = 0 from rfl, Nat.zero_mul,
      Nat.zero_add] at hvalue
    exact hvalue ▸ Text.toNat_lt hdigits
  cases t with
  | nil =>
    rw [List.length_nil, Nat.pow_zero] at hlt
    omega
  | cons u t =>
    have hle := Text.length_ofNat_le (Nat.succ_pos _) hlt
    rw [ht, List.length_cons] at hle
    exact Nat.lt_irrefl _ hle

/-! ## The digits of a shortest decimal -/

namespace Binary64

variable {x : Binary64} {e : Int} {n : Nat}

/-- No multiple that rounds to something else than zero is zero. -/
theorem multiple?_pos (hx : 0 < x.mantissa) (h : x.multiple? e = some n) : 0 < n := by
  have hlower : 0 < x.lowerEnd := by
    unfold lowerEnd
    split <;> omega
  have hscale : 0 < Nat.pow 2 (x.exponent - 2).toNat * Nat.pow 10 (-e).toNat :=
    Nat.mul_pos (Nat.pow_pos (by decide)) (Nat.pow_pos (by decide))
  have hpos := Nat.mul_pos hlower hscale
  unfold multiple? at h
  extract_lets scale unit value below readsBack at h
  have hback {m : Nat} (hm : readsBack m = true) : 0 < m := by
    rcases Nat.eq_zero_or_pos m with rfl | hm'
    · have hzero : x.lowerEnd * scale ≤ 0 * unit := by
        simp only [readsBack] at hm
        split at hm
        · exact decide_eq_true_eq.mp (Bool.and_eq_true _ _ ▸ hm).1
        · exact Nat.le_of_lt (decide_eq_true_eq.mp (Bool.and_eq_true _ _ ▸ hm).1)
      rw [Nat.zero_mul] at hzero
      exact absurd (Nat.lt_of_lt_of_le hpos hzero) (Nat.lt_irrefl _)
    · exact hm'
  split at h
  · cases h
  · rename_i hbelow _
    exact Option.some.inj h ▸ hback hbelow
  · exact Option.some.inj h ▸ Nat.succ_pos below
  · rename_i hbelow _
    split at h
    · exact Option.some.inj h ▸ hback hbelow
    · exact Option.some.inj h ▸ Nat.succ_pos below
    · obtain rfl := Option.some.inj h
      split
      · exact hback hbelow
      · exact Nat.succ_pos below

/-- **Only zero is written with the digits of zero.** -/
theorem shortest_digits_pos (hx : 0 < x.mantissa) : 0 < x.shortest.digits := by
  unfold shortest
  cases hfirst : exponents.findSome? fun e => (x.multiple? e).map fun n => (⟨n, e⟩ : Decimal) with
  | none => exact Nat.mul_pos (Nat.mul_pos hx (Nat.pow_pos (by decide))) (Nat.pow_pos (by decide))
  | some d =>
    obtain ⟨e, -, hd⟩ := List.exists_of_findSome?_eq_some hfirst
    obtain ⟨n, hn, rfl⟩ := Option.map_eq_some_iff.mp hd
    exact multiple?_pos hx hn

end Binary64

namespace Json

variable {t r sign digits : Text}

/-! ## Grammar -/

/-- The digits in front of the point: no leading zeros. -/
def IsWhole (t : Text) : Prop :=
  t = "0" ∨ IsNumeral t ∧ t.head? ≠ some (CodeUnit.ofChar '0')

/-- Nothing, or a point with digits behind it. -/
def IsFraction (t : Text) : Prop :=
  t = [] ∨ ∃ digits, t = CodeUnit.ofChar '.' :: digits ∧ IsNumeral digits

/-- Nothing, or an exponent with its mark. -/
def IsExponent (t : Text) : Prop := t = [] ∨ t.IsExponent

/-- The text of a JSON number. -/
def IsNumber (t : Text) : Prop :=
  ∃ sign whole fraction exponent : Text, t = sign ++ (whole ++ (fraction ++ exponent))
    ∧ (sign = [] ∨ sign = "-") ∧ IsWhole whole ∧ IsFraction fraction ∧ IsExponent exponent

/-- Could the digits and the fraction of a number go on with the unit? -/
def continuesFraction (u : CodeUnit) : Bool := u.isDigit || u == CodeUnit.ofChar '.'

/-- Could a number go on with the unit? -/
def continuesNumber (u : CodeUnit) : Bool :=
  continuesFraction u || u == CodeUnit.ofChar 'e' || u == CodeUnit.ofChar 'E'

theorem isWhole_ofNat (n : Nat) : IsWhole (Text.ofNat n) := by
  rcases Nat.eq_zero_or_pos n with rfl | hn
  · exact .inl rfl
  · exact .inr ⟨Text.isNumeral_ofNat n, Text.head?_ofNat_ne hn⟩

/-! ## Reading a number -/

/-- The pattern of the digits in front of the point. -/
def wholePattern : Pattern :=
  .alt (.unit (.one (CodeUnit.ofChar '0')))
    (.seq (.unit (.ranges [(CodeUnit.ofChar '1', CodeUnit.ofChar '9')])) (digitRun 0))

theorem wholePattern_prefers (h : IsWhole t) (hr : StopsAt CodeUnit.isDigit r) :
    wholePattern.Prefers t r := by
  rcases h with rfl | ⟨⟨hne, hdigits⟩, hzero⟩
  · exact Pattern.prefers_alt_left (Pattern.prefers_unit (by decide) r)
  · obtain ⟨u, d, rfl⟩ := List.exists_cons_of_ne_nil hne
    obtain ⟨hu, hd⟩ := List.forall_mem_cons.mp hdigits
    have hne : u ≠ CodeUnit.ofChar '0' := fun heq => hzero (congrArg some heq)
    have hnonzero : CodeUnit.ofChar '1' ≤ u ∧ u ≤ CodeUnit.ofChar '9' := by
      simp only [CodeUnit.isDigit, Bool.and_eq_true, decide_eq_true_eq,
        UInt16.le_iff_toNat_le] at hu ⊢
      have hne' : u.toNat ≠ 0x30 := fun heq => hne (UInt16.toNat_inj.mp heq)
      have hlower : 0x30 ≤ u.toNat := hu.1
      exact ⟨show 0x31 ≤ u.toNat by omega, hu.2⟩
    refine Pattern.prefers_alt_right (Pattern.ends_unit_eq_nil fun v hv => ?_)
      (Pattern.prefers_seq (c := [u]) (by decide) (Pattern.prefers_unit ?_ _)
        (Pattern.prefers_run (Nat.zero_le _) (fun v hv => ?_) fun v hv => ?_))
    · obtain rfl : u = v := Option.some.inj hv
      simpa [UnitClass.accepts, UnitClass.mem] using hne
    · exact Grammar.accepts_ranges_iff.mpr ⟨_, _, List.mem_singleton_self _, hnonzero⟩
    · rw [Grammar.accepts_digit, hd v hv]
    · rw [Grammar.accepts_digit, hr v hv]

theorem exponentPattern_prefers (h : IsExponent t) (hr : StopsAt continuesNumber r) :
    (Pattern.opt Grammar.exponentPattern).Prefers t r := by
  simp only [StopsAt, continuesNumber, continuesFraction, Bool.or_eq_false_iff,
    beq_eq_false_iff_ne] at hr
  rcases h with rfl | h
  · refine Pattern.prefers_opt_nil (Pattern.ends_seq_eq_nil (Pattern.ends_unit_eq_nil ?_))
    intro u hu
    rw [← Bool.not_eq_true, Grammar.accepts_pair_iff, not_or]
    exact ⟨(hr u hu).1.2, (hr u hu).2⟩
  · exact Pattern.prefers_opt (Grammar.exponentPattern_prefers h fun u hu => (hr u hu).1.1.1)

/-- No exponent begins like the rest of a fraction. -/
theorem stopsAt_exponent (h : IsExponent t) (hr : StopsAt continuesNumber r) :
    StopsAt continuesFraction (t ++ r) := by
  rcases h with rfl | ⟨mark, _, _, rfl, hmark, -⟩
  · simp only [StopsAt, continuesNumber, Bool.or_eq_false_iff] at hr
    exact fun u hu => (hr u hu).1.1
  · rcases hmark with rfl | rfl <;> exact Text.stopsAt_cons.mpr (by decide)

/-- The pattern of a fraction. -/
def fractionPattern : Pattern := .opt (.seq (.unit (.one (CodeUnit.ofChar '.'))) (digitRun 1))

theorem fractionPattern_prefers (h : IsFraction t) (hr : StopsAt continuesFraction r) :
    fractionPattern.Prefers t r := by
  simp only [StopsAt, continuesFraction, Bool.or_eq_false_iff, beq_eq_false_iff_ne] at hr
  rcases h with rfl | ⟨digits, rfl, hdigits⟩
  · refine Pattern.prefers_opt_nil (Pattern.ends_seq_eq_nil (Pattern.ends_unit_eq_nil ?_))
    intro u hu
    simpa [UnitClass.accepts, UnitClass.mem] using (hr u hu).2
  · exact Pattern.prefers_opt (Pattern.prefers_seq (c := [CodeUnit.ofChar '.']) (by decide)
      (Pattern.prefers_unit (by decide) _)
      (Grammar.digitsPattern_prefers hdigits fun u hu => (hr u hu).1))

/-- No fraction begins with a digit. -/
theorem stopsAt_fraction (h : IsFraction t) (hr : StopsAt continuesFraction r) :
    StopsAt CodeUnit.isDigit (t ++ r) := by
  rcases h with rfl | ⟨digits, rfl, -⟩
  · simp only [StopsAt, continuesFraction, Bool.or_eq_false_iff] at hr
    exact fun u hu => (hr u hu).1
  · exact Text.stopsAt_cons.mpr (by decide)

/-- The first unit of a number behind its sign is a digit. -/
theorem isDigit_of_head?_isWhole (h : IsWhole t) {u : CodeUnit} (hu : u ∈ (t ++ r).head?) :
    u.isDigit = true := by
  rcases h with rfl | ⟨h, -⟩
  · obtain rfl := Option.some.inj hu
    rfl
  · exact h.isDigit_of_head? hu

theorem minusPattern_prefers (hsign : sign = [] ∨ sign = "-")
    (hr : ∀ u ∈ r.head?, u.isDigit = true) :
    (Pattern.opt (.unit (.one (CodeUnit.ofChar '-')))).Prefers sign r := by
  rcases hsign with rfl | rfl
  · refine Pattern.prefers_opt_nil (Pattern.ends_unit_eq_nil fun u hu => ?_)
    have hne : u ≠ CodeUnit.ofChar '-' := by
      rintro rfl
      exact absurd (hr _ hu) (by decide)
    simpa [UnitClass.accepts, UnitClass.mem] using hne
  · exact Pattern.prefers_opt (Pattern.prefers_unit (by decide) r)

/-- **A number is read to its end**, where nothing follows that it could go on with. -/
theorem numberPattern_prefers (h : IsNumber t) (hr : StopsAt continuesNumber r) :
    numberPattern.Prefers t r := by
  obtain ⟨sign, whole, fraction, exponent, rfl, hsign, hwhole, hfraction, hexponent⟩ := h
  have hrest := stopsAt_exponent hexponent hr
  have hbehind : StopsAt CodeUnit.isDigit (fraction ++ exponent ++ r) := by
    rw [List.append_assoc]
    exact stopsAt_fraction hfraction hrest
  refine Pattern.prefers_seq (by decide) (minusPattern_prefers hsign fun u hu => ?_)
    (Pattern.prefers_seq (by decide) (wholePattern_prefers hwhole hbehind)
      (Pattern.prefers_seq (by decide) (fractionPattern_prefers hfraction hrest)
        (exponentPattern_prefers hexponent hr)))
  rw [List.append_assoc] at hu
  exact isDigit_of_head?_isWhole hwhole hu

theorem readNumber_append (h : IsNumber t) (hr : StopsAt continuesNumber r) :
    readNumber (t ++ r) = some (numberValue t, r) := by
  have hend : numberPattern.matchEnd? (t ++ r) 0 = some t.length := numberPattern_prefers h hr
  rw [readNumber, hend, Option.map_some, List.take_left, List.drop_left]

/-! ## Numbers that are written -/

/-- A number may end in front of the point. -/
theorem isNumber_of_whole (hsign : sign = [] ∨ sign = "-") (hwhole : IsWhole t) :
    IsNumber (sign ++ t) :=
  ⟨sign, t, [], [], by rw [List.append_nil, List.append_nil], hsign, hwhole, .inl rfl, .inl rfl⟩

/-- A number may end behind its fraction. -/
theorem isNumber_of_point (hsign : sign = [] ∨ sign = "-") (hwhole : IsWhole t)
    (hdigits : IsNumeral digits) : IsNumber (sign ++ (t ++ CodeUnit.ofChar '.' :: digits)) :=
  ⟨sign, t, CodeUnit.ofChar '.' :: digits, [], by rw [List.append_nil], hsign, hwhole,
    .inr ⟨digits, rfl, hdigits⟩, .inl rfl⟩

theorem isNumber_ofInt (n : Int) : IsNumber (Text.ofInt n) := by
  unfold Text.ofInt
  split
  · exact isNumber_of_whole (.inr rfl) (isWhole_ofNat _)
  · exact isNumber_of_whole (.inl rfl) (isWhole_ofNat _)

/-- An integer reads back as itself. -/
theorem numberValue_ofInt (n : Int) : numberValue (Text.ofInt n) = .int n := by
  have hall : (Text.ofInt n).all (fun u => u.isDigit || u == CodeUnit.ofChar '-') = true := by
    have hdigits (k : Nat) :
        (Text.ofNat k).all (fun u => u.isDigit || u == CodeUnit.ofChar '-') = true :=
      List.all_eq_true.mpr fun u hu => by rw [Text.isDigits_ofNat k u hu, Bool.true_or]
    unfold Text.ofInt
    split
    · rw [List.all_append, hdigits]
      rfl
    · exact hdigits _
  rw [numberValue, if_pos hall, readInt_ofInt]

/-- Digits that do not begin with a zero stand in front of a point, and so do others behind the
first of them. -/
theorem isWhole_cons {u : CodeUnit} (hu : u.isDigit = true) (hzero : u ≠ CodeUnit.ofChar '0')
    (hdigits : IsDigits t) : IsWhole (u :: t) :=
  .inr ⟨⟨List.cons_ne_nil u t, List.forall_mem_cons.mpr ⟨hu, hdigits⟩⟩,
    fun h => hzero (Option.some.inj h)⟩

/-- An exponent with either of its marks. -/
theorem isExponent_mark (below : Prop) [Decidable below] (n : Nat) :
    IsExponent ((if below then ("e-" : Text) else "e+") ++ Text.ofNat n) := by
  split
  · exact .inr ⟨_, "-", _, rfl, .inl rfl, .inr (.inr rfl), Text.isNumeral_ofNat n⟩
  · exact .inr ⟨_, "+", _, rfl, .inl rfl, .inr (.inl rfl), Text.isNumeral_ofNat n⟩

/-- The digits behind the first, if there are any, behind a point. -/
theorem isFraction_of_isDigits (hdigits : IsDigits digits) :
    IsFraction (if digits.isEmpty then [] else ("." : Text) ++ digits) := by
  split
  · exact .inl rfl
  · rename_i hne
    exact .inr ⟨digits, rfl, fun h => hne (List.isEmpty_iff.mpr h), hdigits⟩

/-- **Every layout of a decimal other than zero is a number.** -/
theorem isNumber_layout {d : Decimal} (hd : 0 < d.digits) (hsign : sign = [] ∨ sign = "-") :
    IsNumber (sign ++ d.layout) := by
  have hdigits := Text.isDigits_ofNat d.digits
  have hhead := Text.head?_ofNat_ne hd
  obtain ⟨first, others, hcons⟩ := List.exists_cons_of_ne_nil (Text.isNumeral_ofNat d.digits).1
  rw [hcons] at hdigits hhead
  obtain ⟨hfirst, hothers⟩ := List.forall_mem_cons.mp hdigits
  have hwhole {more : Text} (hmore : IsDigits more) : IsWhole (first :: more) :=
    isWhole_cons hfirst (fun heq => hhead (congrArg some heq)) hmore
  unfold Decimal.layout
  rw [hcons]
  extract_lets digits point zeros fraction mark
  split
  · exact isNumber_of_whole hsign
      (hwhole (IsDigits.append hothers (Text.isDigits_replicate_zero _)))
  split
  · -- The digits are cut at the point, and there are some on both sides of it.
    obtain ⟨k, hk⟩ : ∃ k, point.toNat = k + 1 := ⟨point.toNat - 1, by omega⟩
    have hlt : point.toNat < digits.length := by
      have hvalue : point = digits.length + d.exponent := rfl
      omega
    have hbehind : IsNumeral (digits.drop point.toNat) :=
      ⟨List.ne_nil_of_length_pos (by rw [List.length_drop]; omega),
        fun u hu => hdigits u (List.mem_of_mem_drop hu)⟩
    have hbefore : IsWhole (digits.take point.toNat) := by
      rw [hk]
      exact hwhole fun u hu => hothers u (List.mem_of_mem_take hu)
    rw [List.append_assoc]
    exact isNumber_of_point hsign hbefore hbehind
  split
  · have hbehind : IsNumeral (zeros (-point) ++ digits) :=
      ⟨List.append_ne_nil_of_right_ne_nil _ (List.cons_ne_nil _ _),
        (Text.isDigits_replicate_zero _).append hdigits⟩
    rw [List.append_assoc]
    exact isNumber_of_point hsign (.inl rfl) hbehind
  · refine ⟨sign, [first], _, _, ?_, hsign, hwhole nofun, isFraction_of_isDigits hothers,
      isExponent_mark (point - 1 < 0) (point - 1).natAbs⟩
    rw [List.append_assoc, List.append_assoc]
    rfl

/-- **The notation of a finite float is a number.** -/
theorem isNumber_floatNotation (x : Float) : IsNumber (floatNotation x) := by
  unfold floatNotation
  extract_lets magnitude
  split
  · exact isNumber_ofInt 0
  · rename_i hne
    refine isNumber_layout (Binary64.shortest_digits_pos (Nat.pos_of_ne_zero hne)) ?_
    split
    · exact .inr rfl
    · exact .inl rfl

end Json

end ODataToken
