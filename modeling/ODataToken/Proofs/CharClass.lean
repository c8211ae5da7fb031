import Mathlib.Data.List.TakeWhile
import ODataToken.CharClass
import ODataToken.Decimal

/-!
# Classes of single units

The character classes of the literal grammar can be told unit by unit: a surrogate pair is in the
class when its two halves are.  The leading code points of such a class are then its leading units,
so that what a run reads can be said without splitting a text into code points.

The classes here are the ASCII digits, the hexadecimal digits, the base64url characters, and
everything but one unit.
-/

set_option autoImplicit false

namespace ODataToken

/-! ## Classes of units -/

/-- The class is told unit by unit: `units` says which ones are in it, and of a surrogate pair
either both halves are or neither. -/
structure CharClass.OfUnits (accepts : CharClass) (units : CodeUnit → Bool) : Prop where
  /-- On one unit the two agree. -/
  single : ∀ u, accepts [u] = units u
  /-- A surrogate pair goes by either of its halves. -/
  pair : ∀ u v, u.isHighSurrogate = true → v.isLowSurrogate = true →
    accepts [u, v] = units u ∧ units v = units u

/-- The class is told unit by unit and holds no surrogate. -/
structure CharClass.OfSingleUnits (accepts : CharClass) (units : CodeUnit → Bool) : Prop
    extends accepts.OfUnits units where
  /-- The first half of a surrogate pair is not in the class. -/
  high : ∀ u, u.isHighSurrogate = true → units u = false

namespace Text

/-- No unit of the class stands at the start of the text. -/
def StopsAt (units : CodeUnit → Bool) (r : Text) : Prop := ∀ u ∈ r.head?, units u = false

/-- What the first unit satisfies. -/
theorem forall_mem_head_of_eq {P : CodeUnit → Prop} {u : CodeUnit} {r : Text}
    (h : r.head? = some u) (hu : P u) : ∀ x ∈ r.head?, P x := by
  rw [h]
  rintro _ ⟨⟩
  exact hu

theorem stopsAt_nil (units : CodeUnit → Bool) : StopsAt units [] := by simp [StopsAt]

theorem stopsAt_cons {units : CodeUnit → Bool} {u : CodeUnit} {r : Text} :
    StopsAt units (u :: r) ↔ units u = false := by simp [StopsAt]

theorem takeWhile_isPrefix (units : CodeUnit → Bool) (w : Text) : w.takeWhile units <+: w := by
  exact List.takeWhile_prefix units

/-- The leading units of a class are `c` when `c` consists of them and none follows. -/
theorem takeWhile_append_eq_iff {units : CodeUnit → Bool} {c r : Text} :
    (c ++ r).takeWhile units = c ↔ (∀ u ∈ c, units u = true) ∧ StopsAt units r := by
  constructor
  · intro h
    have hall : ∀ u ∈ c, units u = true := fun u hu => List.mem_takeWhile_imp (by rwa [h])
    refine ⟨hall, ?_⟩
    rw [List.takeWhile_append_of_pos hall] at h
    cases r with
    | nil => exact stopsAt_nil units
    | cons u r =>
      rw [stopsAt_cons]
      by_contra hu
      simp [List.takeWhile_cons, hu] at h
  · rintro ⟨hall, hr⟩
    rw [List.takeWhile_append_of_pos hall]
    cases r with
    | nil => simp
    | cons u r => simp [stopsAt_cons.mp hr]

/-- Every text begins with a run of the class, perhaps an empty one. -/
theorem exists_run_append (units : CodeUnit → Bool) (w : Text) :
    ∃ c r, w = c ++ r ∧ (∀ u ∈ c, units u = true) ∧ StopsAt units r := by
  have hsplit := List.takeWhile_append_dropWhile (p := units) (l := w)
  have hrun : (w.takeWhile units ++ w.dropWhile units).takeWhile units = w.takeWhile units := by
    rw [hsplit]
  exact ⟨_, _, hsplit.symm, takeWhile_append_eq_iff.mp hrun⟩

/-- The same with a limit on the number of units. -/
theorem take_takeWhile_append_eq_iff {units : CodeUnit → Bool} {c r : Text} {n : Nat} :
    ((c ++ r).takeWhile units).take n = c
      ↔ (∀ u ∈ c, units u = true) ∧ c.length ≤ n ∧ (c.length = n ∨ StopsAt units r) := by
  constructor
  · intro h
    have hlen : c.length ≤ n := by rw [← h]; exact List.length_take_le _ _
    refine ⟨fun u hu => List.mem_takeWhile_imp (List.mem_of_mem_take (by rwa [h])), hlen, ?_⟩
    refine (Nat.eq_or_lt_of_le hlen).imp_right fun hlt => ?_
    rw [List.take_of_length_le] at h
    · exact (takeWhile_append_eq_iff.mp h).2
    · by_contra hn
      rw [← h, List.length_take] at hlt
      omega
  · rintro ⟨hall, hn, rfl | hr⟩
    · rw [List.takeWhile_append_of_pos hall, List.take_left]
    · rw [takeWhile_append_eq_iff.mpr ⟨hall, hr⟩, List.take_of_length_le hn]

theorem ne_nil_of_mem_codePoints {w c : Text} (h : c ∈ w.codePoints) : c ≠ [] := by
  fun_induction codePoints w <;> simp_all
  · rintro rfl; simp_all
  · rintro rfl; simp_all

/-- The leading code points of a class that is told unit by unit are its leading units. -/
theorem flatten_takeWhile_codePoints {accepts : CharClass} {units : CodeUnit → Bool}
    (h : accepts.OfUnits units) (w : Text) :
    (w.codePoints.takeWhile accepts).flatten = w.takeWhile units := by
  fun_induction codePoints w with
  | case1 => rfl
  | case2 u => by_cases hu : units u = true <;> simp [h.single, hu]
  | case3 u v rest huv ih =>
    rw [Bool.and_eq_true] at huv
    obtain ⟨hacc, hv⟩ := h.pair u v huv.1 huv.2
    by_cases hu : units u = true <;> simp [hacc, hv, hu, ih]
  | case4 u v rest huv ih =>
    rw [List.takeWhile_cons (l := v :: rest), List.takeWhile_cons, h.single]
    split
    · rw [List.flatten_cons, ih]; rfl
    · rfl

/-- Without surrogates in the class, its leading code points are one unit each. -/
theorem takeWhile_codePoints {accepts : CharClass} {units : CodeUnit → Bool}
    (h : accepts.OfSingleUnits units) (w : Text) :
    w.codePoints.takeWhile accepts = (w.takeWhile units).map fun u => [u] := by
  fun_induction codePoints w with
  | case1 => rfl
  | case2 u => by_cases hu : units u = true <;> simp [h.single, hu]
  | case3 u v rest huv ih =>
    rw [Bool.and_eq_true] at huv
    obtain ⟨hacc, -⟩ := h.pair u v huv.1 huv.2
    simp [hacc, h.high u huv.1]
  | case4 u v rest huv ih =>
    rw [List.takeWhile_cons (l := v :: rest), List.takeWhile_cons, h.single]
    split
    · rw [List.map_cons, ih]
    · rfl

end Text

/-! ## The classes of the grammar -/

namespace CodeUnit

/-- The apostrophe. -/
def apostrophe : CodeUnit := 0x27

/-- The hyphen, which is also the minus sign. -/
def hyphen : CodeUnit := 0x2D

/-- The point. -/
def point : CodeUnit := 0x2E

/-- The colon. -/
def colon : CodeUnit := 0x3A

/-- A hexadecimal digit. -/
def isHexDigit (u : CodeUnit) : Bool :=
  u.isDigit || (0x61 ≤ u && u ≤ 0x66) || (0x41 ≤ u && u ≤ 0x46)

/-- A character of the URL-safe base64 alphabet, or the padding character. -/
def isBase64Url (u : CodeUnit) : Bool :=
  u.isDigit || (0x61 ≤ u && u ≤ 0x7A) || (0x41 ≤ u && u ≤ 0x5A) || u == 0x2D || u == 0x5F
    || u == 0x3D

end CodeUnit

namespace Text

@[simp] theorem ofString_apostrophe : ofString "'" = [CodeUnit.apostrophe] := by decide

@[simp] theorem ofString_hyphen : ofString "-" = [CodeUnit.hyphen] := by decide

@[simp] theorem ofString_point : ofString "." = [CodeUnit.point] := by decide

@[simp] theorem ofString_colon : ofString ":" = [CodeUnit.colon] := by decide

end Text

namespace CharClass

theorem singleton_le_cons_iff (a u : CodeUnit) (t : Text) : [a] ≤ u :: t ↔ a ≤ u := by
  rw [← List.not_lt, List.cons_lt_cons_iff]
  simp

theorem cons_le_singleton_iff (u b : CodeUnit) (t : Text) :
    u :: t ≤ [b] ↔ u < b ∨ u = b ∧ t = [] := by
  rw [← List.not_lt, List.cons_lt_cons_iff]
  cases t with
  | nil => simp [UInt16.lt_iff_toNat_lt, ← UInt16.toNat_inj]; omega
  | cons v t => simp [UInt16.lt_iff_toNat_lt, ← UInt16.toNat_inj]; omega

theorem range_single (a b u : CodeUnit) : range [a] [b] [u] = (a ≤ u && u ≤ b) := by
  rw [Bool.eq_iff_iff]
  simp only [range, Bool.and_eq_true, decide_eq_true_eq]
  refine and_congr (singleton_le_cons_iff a u []) ((cons_le_singleton_iff u b []).trans ?_)
  simp only [and_true, UInt16.le_iff_toNat_le, UInt16.lt_iff_toNat_lt, ← UInt16.toNat_inj]
  omega

/-- A range below the surrogates holds no surrogate pair. -/
theorem range_pair {a b u : CodeUnit} (hb : b < 0xD800) (hu : u.isHighSurrogate = true)
    (v : CodeUnit) : range [a] [b] [u, v] = false := by
  rw [Bool.eq_false_iff]
  simp only [range, ne_eq, Bool.and_eq_true, decide_eq_true_eq, not_and]
  intro _ h
  have h' := (cons_le_singleton_iff u b [v]).mp h
  simp only [CodeUnit.isHighSurrogate, Bool.and_eq_true, decide_eq_true_eq,
    UInt16.le_iff_toNat_le] at hu
  simp only [UInt16.lt_iff_toNat_lt, ← UInt16.toNat_inj] at h' hb
  omega

/-- A class of units below the surrogates without surrogate pairs. -/
theorem OfSingleUnits.of_lt {accepts : CharClass} {units : CodeUnit → Bool}
    (single : ∀ u, accepts [u] = units u)
    (pair : ∀ u v, u.isHighSurrogate = true → accepts [u, v] = false)
    (lt : ∀ u, units u = true → u < 0xD800) : accepts.OfSingleUnits units := by
  have above (u : CodeUnit) (h : 0xD800 ≤ u) : units u = false := by
    rw [Bool.eq_false_iff]
    intro hu
    exact absurd (lt u hu) (UInt16.not_lt.mpr h)
  have high (u : CodeUnit) (h : u.isHighSurrogate = true) : units u = false := by
    simp only [CodeUnit.isHighSurrogate, Bool.and_eq_true, decide_eq_true_eq] at h
    exact above u h.1
  have low (v : CodeUnit) (h : v.isLowSurrogate = true) : units v = false := by
    simp only [CodeUnit.isLowSurrogate, Bool.and_eq_true, decide_eq_true_eq] at h
    exact above v (UInt16.le_trans (by decide) h.1)
  exact
    { single := single
      pair := fun u v hu hv => by rw [pair u v hu, high u hu, low v hv]; exact ⟨rfl, rfl⟩
      high := high }

theorem digit_single (u : CodeUnit) : digit [u] = u.isDigit := by
  simp only [digit, CodeUnit.isDigit, List.length_singleton, BEq.rfl, Bool.and_true]
  exact range_single 0x30 0x39 u

theorem digit_pair (u v : CodeUnit) : digit [u, v] = false := by
  simp [digit]

theorem digit_ofSingleUnits : digit.OfSingleUnits CodeUnit.isDigit := by
  refine .of_lt digit_single (fun u v _ => digit_pair u v) fun u hu => ?_
  simp only [CodeUnit.isDigit, Bool.and_eq_true, decide_eq_true_eq] at hu
  exact UInt16.lt_of_le_of_lt hu.2 (by decide)

theorem hexDigit_ofSingleUnits : hexDigit.OfSingleUnits CodeUnit.isHexDigit := by
  refine .of_lt (fun u => ?_) (fun u v hu => ?_) fun u hu => ?_
  · rw [hexDigit, digit_single]
    exact congrArg₂ or (congrArg _ (range_single 0x61 0x66 u)) (range_single 0x41 0x46 u)
  · rw [hexDigit, digit_pair]
    exact congrArg₂ or (range_pair (by decide) hu v) (range_pair (by decide) hu v)
  · simp only [CodeUnit.isHexDigit, CodeUnit.isDigit, Bool.or_eq_true, Bool.and_eq_true,
      decide_eq_true_eq] at hu
    obtain (hu | hu) | hu := hu <;> exact UInt16.lt_of_le_of_lt hu.2 (by decide)

theorem base64Url_ofSingleUnits : base64Url.OfSingleUnits CodeUnit.isBase64Url := by
  have letter (u a : CodeUnit) : (([u] : Text) == [a]) = (u == a) := by simp
  refine .of_lt (fun u => ?_) (fun u v hu => ?_) fun u hu => ?_
  · rw [base64Url, digit_single, CodeUnit.isBase64Url, ← range_single, ← range_single,
      ← letter, ← letter, ← letter]
    rfl
  · have lower : range "a" "z" [u, v] = false := range_pair (b := 0x7A) (by decide) hu v
    have upper : range "A" "Z" [u, v] = false := range_pair (b := 0x5A) (by decide) hu v
    have mark (a : CodeUnit) : (([u, v] : Text) == [a]) = false := by simp
    rw [base64Url, digit_pair, lower, upper]
    exact congrArg₂ or (congrArg₂ or (mark 0x2D) (mark 0x5F)) (mark 0x3D)
  · simp only [CodeUnit.isBase64Url, CodeUnit.isDigit, Bool.or_eq_true, Bool.and_eq_true,
      decide_eq_true_eq, beq_iff_eq] at hu
    obtain ((((hu | hu) | hu) | rfl) | rfl) | rfl := hu
    iterate 3 exact UInt16.lt_of_le_of_lt hu.2 (by decide)
    all_goals decide

/-- Everything but one unit that is no surrogate. -/
theorem ne_ofUnits {q : CodeUnit} (hq : q < 0xD800) :
    CharClass.OfUnits (fun c => c != [q]) (fun u => u != q) where
  single u := by simp [bne]
  pair u v hu hv := by
    simp only [CodeUnit.isHighSurrogate, CodeUnit.isLowSurrogate, Bool.and_eq_true,
      decide_eq_true_eq] at hu hv
    have hne (x : CodeUnit) (hx : 0xD800 ≤ x) : (x != q) = true :=
      bne_iff_ne.mpr fun h => UInt16.not_lt.mpr hx (h ▸ hq)
    rw [hne u hu.1, hne v (UInt16.le_trans (by decide) hv.1)]
    simp

end CharClass
end ODataToken
