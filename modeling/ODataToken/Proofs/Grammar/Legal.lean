import ODataToken.Proofs.RoundTrip

/-!
# Every literal that was read is legal

The shape of a literal is recognised first and its fields are checked afterwards, by one check for
dates, one for times and one for offsets, on every path that leads to them.  So whatever the parser
of literals yields, wherever it stands in an input, is a legal value of its kind.

`Literal.IsLegal` says what that is without the checks: the bounds are numbers, and a date is one of
the proleptic Gregorian calendar.
-/

set_option autoImplicit false

namespace ODataToken

open ODataToken.Parser Grammar

/-- The literal is a legal value of its kind, and a GUID is the text `consumed` that it was read
from. -/
def Literal.IsLegal (consumed : Text) : Literal → Prop
  | integer n => -2 ^ 63 ≤ n ∧ n ≤ 2 ^ 63 - 1
  | guid t => t = consumed ∧ t.IsGuid
  | date d => d.IsGregorian
  | time t => t.IsValid
  | dateTimeOffset v =>
    v.date.IsGregorian ∧ v.time.IsValid ∧ -1499 ≤ v.offsetMinutes ∧ v.offsetMinutes ≤ 1499
  | _ => True

/-- A literal whose fields are in range is legal. -/
theorem Literal.WellFormed.isLegal {l : Literal} {consumed : Text} (h : l.WellFormed)
    (hguid : ∀ t, l = .guid t → t = consumed) : l.IsLegal consumed := by
  cases l with
  | integer n =>
    rw [IsLegal, ← int64Min_eq, ← int64Max_eq]
    exact h
  | guid t => exact ⟨hguid t rfl, h⟩
  | date d => exact h.2.isGregorian h.1
  | time t => exact h
  | dateTimeOffset v =>
    have hoffset := h.2.offset
    exact ⟨h.2.date.isGregorian h.1, h.2.time, by omega, by omega⟩
  | _ => trivial

/-- What the check of integers accepts, the constructor of integer literals accepts. -/
theorem integer?_of_checkInteger {t : Text} {l : Literal} (h : checkInteger t = .ok l) :
    Literal.integer? (readInt t) = .ok l := by
  obtain ⟨hmin, hmax, rfl⟩ := checkInteger_eq_ok_iff.mp h
  exact if_pos ⟨hmin, hmax⟩

/-- **Every literal that is read anywhere in an input is a legal value of its kind**, and the
constructor of integer literals never refuses what was read. -/
theorem primitiveLiteral_isLegal (options : LiteralOptions) (input : Text) (pos : Nat) :
    (∀ l stop, (primitiveLiteral options).run input pos = .ok l stop →
        l.IsLegal (input.extract pos stop))
      ∧ ∀ text l, checkInteger text = .ok l → Literal.integer? (readInt text) = .ok l := by
  refine ⟨fun l stop h => ?_, fun text l => integer?_of_checkInteger⟩
  obtain ⟨n, rfl, hle, hrun⟩ := Plain.exists_of_run_eq_ok h
  obtain ⟨before, x, after, hlist, -, hreads⟩ :=
    Alternatives.parser_reads_iff.mp (reads_of_run hrun hle)
  have hx := List.mem_of_getElem? (Alternatives.getElem?_of_split hlist)
  obtain ⟨hwf, -, hspelling⟩ := wellFormed_of_reads hx hreads
  refine hwf.isLegal fun t ht => ?_
  rw [List.extract_eq_take_drop, Nat.add_sub_cancel_left, hspelling t (.inr ht), ht]
  rfl

/-- A leap day before the year zero with all other fields at their bounds, and the least integer. -/
theorem primitiveLiteral_isLegal_bounds :
    let v : DateTimeOffset := ⟨⟨-4, 2, 29⟩, ⟨24, 59, 59, 999999999⟩, -1499⟩
    let input : Text := "eq -0004-02-29T24:59:59.999999999999-24:59)"
    (primitiveLiteral ⟨false⟩).run input 3 = .ok (.dateTimeOffset v) 42
      ∧ (Literal.dateTimeOffset v).IsLegal (input.extract 3 42)
      ∧ Literal.integer? (readInt "-9223372036854775808") = .ok (.integer (-2 ^ 63)) :=
  ⟨rfl, (primitiveLiteral_isLegal ⟨false⟩ _ 3).1 _ 42 rfl,
    (primitiveLiteral_isLegal ⟨false⟩ [] 0).2 "-9223372036854775808" _ rfl⟩

end ODataToken
