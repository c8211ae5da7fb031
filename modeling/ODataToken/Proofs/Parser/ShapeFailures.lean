import ODataToken.Proofs.Parser.ErrorSelection

/-!
# Failing on the shape

`p.FailsOnShape w` says that at the start of `w` the parser fails, and that what it did not find is
the shape: it says nothing against the text as another kind of value.  What begins with such a
parser fails on the shape as well.

If all alternatives but one fail in this way and that one fails on its domain, its failure is the
error that is reported (`Alternatives.parseComplete_of_one_domain`).
-/

set_option autoImplicit false

namespace ODataToken
namespace Parser

variable {α β γ : Type} {p : Parser α} {w : Text}

/-- The parser fails at the start of `w`, and it fails on the shape. -/
def FailsOnShape (p : Parser α) (w : Text) : Prop := ∃ f, p.run w 0 = .fail f ∧ f.kind = .shape

theorem Refuses.failsOnShape [ShapeOnly p] (h : p.Refuses w) : p.FailsOnShape w := by
  obtain ⟨f, hf⟩ := h
  exact ⟨f, hf, ShapeOnly.kind_eq hf⟩

theorem failsOnShape_map_iff {g : α → β} : (p.map g).FailsOnShape w ↔ p.FailsOnShape w := by
  simp only [FailsOnShape, map, Result.map_eq_fail_iff]

namespace FailsOnShape

/-- What begins with a parser fails where that fails. -/
theorem of_andThen {q : Parser β} {next : α → Nat → Result β} (h : p.FailsOnShape w)
    (hq : q.run w 0 = (p.run w 0).andThen next) : q.FailsOnShape w := by
  obtain ⟨f, hf, hkind⟩ := h
  exact ⟨f, by rw [hq, hf, Result.andThen_fail], hkind⟩

theorem seq (h : p.FailsOnShape w) (q : Parser β) : (p.seq q).FailsOnShape w := h.of_andThen rfl

theorem seq3 (h : p.FailsOnShape w) (q : Parser β) (s : Parser γ) :
    (p.seq3 q s).FailsOnShape w :=
  h.of_andThen rfl

theorem recognize (h : p.FailsOnShape w) : (recognize p).FailsOnShape w := h.of_andThen rfl

/-- Where the shape is not there, nothing is left to check. -/
theorem tryMap (h : p.FailsOnShape w) (check : α → Except Rejection β) :
    (p.tryMap check).FailsOnShape w :=
  h.of_andThen rfl

theorem label (h : p.FailsOnShape w) (expected : Text) : (label p expected).FailsOnShape w := by
  obtain ⟨f, hf, hkind⟩ := h
  by_cases hother : f.kind = .domain ∨ f.pos ≠ 0
  · exact ⟨f, by simp only [Parser.label, hf, if_pos hother], hkind⟩
  · exact ⟨.shape 0 expected, by simp only [Parser.label, hf, if_neg hother], rfl⟩

end FailsOnShape
end Parser

namespace Alternatives

open ODataToken.Parser

variable {α : Type} {alternatives tried : Alternatives α} {a : Alternative α} {input : Text}
  {f : Failure}

theorem exists_allFail_of_failsOnShape (h : ∀ x ∈ tried, x.parser.FailsOnShape input) :
    ∃ failures, AllFail input tried failures ∧ domainFailures failures = [] := by
  induction tried with
  | nil => exact ⟨[], .nil, rfl⟩
  | cons x tried ih =>
    obtain ⟨⟨f, hf, hkind⟩, htried⟩ := List.forall_mem_cons.mp h
    obtain ⟨failures, hall, hnone⟩ := ih htried
    refine ⟨⟨x.name, f⟩ :: failures, .cons ⟨rfl, hf⟩ hall, ?_⟩
    rw [domainFailures_eq_nil_iff] at hnone ⊢
    exact List.forall_mem_cons.mpr ⟨hkind, hnone⟩

/-- **One failure on the domain among failures on the shape is the error.** -/
theorem parseComplete_of_one_domain {i : Nat} (ha : alternatives[i]? = some a)
    (hrun : a.parser.run input 0 = .fail f) (hkind : f.kind = .domain)
    (hother : ∀ j x, alternatives[j]? = some x → j ≠ i → x.parser.FailsOnShape input) :
    alternatives.parseComplete input
      = .error ⟨.failed .domain, input, f.pos, f.expected, some a.name⟩ := by
  have hbefore : ∀ x ∈ alternatives.take i, x.parser.FailsOnShape input := by
    intro x hx
    obtain ⟨j, hj⟩ := List.mem_iff_getElem?.mp hx
    rw [List.getElem?_take] at hj
    split at hj
    · rename_i hlt
      exact hother j x hj (Nat.ne_of_lt hlt)
    · cases hj
  have hafter : ∀ x ∈ alternatives.drop (i + 1), x.parser.FailsOnShape input := by
    intro x hx
    obtain ⟨j, hj⟩ := List.mem_iff_getElem?.mp hx
    rw [List.getElem?_drop] at hj
    exact hother _ x hj (by omega)
  obtain ⟨failures, hfailures, hnone⟩ := exists_allFail_of_failsOnShape hbefore
  obtain ⟨failures', hfailures', hnone'⟩ := exists_allFail_of_failsOnShape hafter
  have hall : AllFail input alternatives (failures ++ ⟨a.name, f⟩ :: failures') := by
    have hlist : alternatives = alternatives.take i ++ a :: alternatives.drop (i + 1) := by
      obtain ⟨hi, rfl⟩ := List.getElem?_eq_some_iff.mp ha
      rw [← List.drop_eq_getElem_cons hi, List.take_append_drop]
    rw [hlist]
    exact List.rel_append hfailures (.cons ⟨rfl, hrun⟩ hfailures')
  have hone : domainFailures (failures ++ ⟨a.name, f⟩ :: failures') = [⟨a.name, f⟩] := by
    rw [domainFailures] at hnone hnone' ⊢
    rw [List.filter_append, hnone, List.nil_append, List.filter_cons_of_pos (by simp [hkind]),
      hnone']
  rw [parseComplete_of_allFail hall,
    errorOf_of_domain (hone ▸ isFirstGreatest_singleton _ (⟨a.name, f⟩ : FailedAttempt))]

end Alternatives
end ODataToken
