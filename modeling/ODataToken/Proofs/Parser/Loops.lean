import Mathlib.Logic.Relation
import ODataToken.Parser.Combinator
import ODataToken.Parser.Repeat
import ODataToken.Proofs.Parser.Plain

/-!
# Loops without a bound

A loop is its body, which says of a state whether another pass follows or the loop is left.  Whether
it is ever left is up to the body, so nothing here computes a result: `Reaches` says which states a
loop comes to and `Returns` with what it ends.  There is at most one such result (`Ends.unique`),
and it is what some state that the loop comes to leaves with (`returns_iff_reaches`).  So what holds
at the start and is kept by every pass holds when the loop is left (`Ends.of_invariant`).

`ManyReturns` and `ListReturns` are what the loops of repetitions and lists come to, for parsers of
any kind.
-/

set_option autoImplicit false

namespace ODataToken

/-! ## States and results -/

section

variable {σ ρ : Type} {body : σ → Pass σ ρ} {s t : σ} {n n' : Nat} {r r' : ρ}

/-- The state is one that the loop comes to. -/
def Reaches (body : σ → Pass σ ρ) : σ → σ → Prop :=
  Relation.ReflTransGen fun s t => body s = .again t

/-- From a state on, the loop ends, and it does so with this result alone. -/
def Returns (body : σ → Pass σ ρ) (s : σ) (r : ρ) : Prop := ∀ r', (∃ n, Ends body s n r') ↔ r' = r

/-- A loop ends in one way at most. -/
theorem Ends.unique (h : Ends body s n r) (h' : Ends body s n' r') : n = n' ∧ r = r' := by
  induction h generalizing n' with
  | last h =>
    cases h' with
    | last h' => exact ⟨rfl, Pass.leave.inj (h.symm.trans h')⟩
    | step h' _ => cases h.symm.trans h'
  | step h _ ih =>
    cases h' with
    | last h' => cases h.symm.trans h'
    | step h' hrest' =>
      obtain rfl := Pass.again.inj (h.symm.trans h')
      obtain ⟨rfl, rfl⟩ := ih hrest'
      exact ⟨rfl, rfl⟩

theorem Ends.returns (h : Ends body s n r) : Returns body s r :=
  fun _ => ⟨fun ⟨_, h'⟩ => (h'.unique h).2, fun heq => ⟨n, heq ▸ h⟩⟩

theorem Returns.exists_ends (h : Returns body s r) : ∃ n, Ends body s n r := (h r).mpr rfl

/-- The result is that of the state in which the loop is left. -/
theorem returns_iff_reaches : Returns body s r ↔ ∃ t, Reaches body s t ∧ body t = .leave r := by
  constructor
  · intro h
    obtain ⟨n, hends⟩ := h.exists_ends
    clear h
    induction hends with
    | @last s r h => exact ⟨s, .refl, h⟩
    | step h _ ih =>
      obtain ⟨t, hreaches, hleave⟩ := ih
      exact ⟨t, .head h hreaches, hleave⟩
  · rintro ⟨t, hreaches, hleave⟩
    suffices ∃ n, Ends body s n r from this.elim fun _ h => h.returns
    induction hreaches using Relation.ReflTransGen.head_induction_on with
    | refl => exact ⟨1, .last hleave⟩
    | head h _ ih =>
      obtain ⟨n, hends⟩ := ih
      exact ⟨n + 1, .step h hends⟩

/-- **What every pass keeps holds when the loop is left.** -/
theorem Ends.of_invariant (invariant : σ → Prop) {post : ρ → Prop}
    (hagain : ∀ {s t}, invariant s → body s = .again t → invariant t)
    (hleave : ∀ {s r}, invariant s → body s = .leave r → post r)
    (h : Ends body s n r) (hs : invariant s) : post r := by
  induction h with
  | last h => exact hleave hs h
  | step h _ ih => exact ih (hagain hs h)

end

namespace Parser

variable {α β : Type} {p item : Parser α} {sep : Parser β} {input : Text} {cur next mid : Nat}
  {value : α} {mark : β} {values : List α} {f : Failure}

/-! ## One pass -/

theorem onFailure_of_domain (h : f.kind = .domain) : onFailure values cur f = .fail f := if_pos h

theorem onFailure_of_ne_domain (h : f.kind ≠ .domain) : onFailure values cur f = .ok values cur :=
  if_neg h

theorem onFailure_eq_fail_iff {g : Failure} :
    onFailure values cur f = .fail g ↔ f = g ∧ g.kind = .domain := by
  by_cases hkind : f.kind = .domain
  · rw [onFailure_of_domain hkind, Result.fail.injEq]
    exact ⟨fun h => ⟨h, h ▸ hkind⟩, And.left⟩
  · rw [onFailure_of_ne_domain hkind]
    exact ⟨nofun, fun h => absurd (h.1 ▸ h.2) hkind⟩

theorem manyBody_of_fail (hrun : p.run input cur = .fail f) :
    manyBody p input (values, cur) = .leave (onFailure values cur f) := by
  simp only [manyBody, manyPass, hrun]

theorem manyBody_of_still (hrun : p.run input cur = .ok value cur) :
    manyBody p input (values, cur) = .leave (.ok values cur) := by
  simp only [manyBody, manyPass, hrun, if_true]

theorem manyBody_of_moves (hrun : p.run input cur = .ok value next) (hmoves : next ≠ cur) :
    manyBody p input (values, cur) = .again (values ++ [value], next) := by
  simp only [manyBody, manyPass, hrun, hmoves, if_false]

theorem listBody_of_separator (hsep : sep.run input cur = .fail f) :
    listBody item sep input (values, cur) = .leave (.ok values cur) := by
  simp only [listBody, hsep]

theorem listBody_of_item (hsep : sep.run input cur = .ok mark mid)
    (hitem : item.run input mid = .fail f) :
    listBody item sep input (values, cur) = .leave (onFailure values cur f) := by
  simp only [listBody, hsep, hitem]

theorem listBody_of_both (hsep : sep.run input cur = .ok mark mid)
    (hitem : item.run input mid = .ok value next) :
    listBody item sep input (values, cur) = .again (values ++ [value], next) := by
  simp only [listBody, hsep, hitem]

/-- A round of a list is a separator and an item. -/
theorem preceded_run_eq_ok_iff :
    (preceded sep item).run input cur = .ok value next
      ↔ ∃ mark mid, sep.run input cur = .ok mark mid ∧ item.run input mid = .ok value next := by
  rw [preceded_run, Result.andThen_eq_ok_iff]

/-! ## Repetitions and lists -/

/-- What a repetition comes to when its loop is left to itself. -/
def ManyReturns (p : Parser α) (input : Text) (pos : Nat) (r : Result (List α)) : Prop :=
  Returns (manyBody p input) ([], pos) r

/-- What a list comes to when its loop is left to itself: its first item stands before the loop. -/
def ListReturns (item : Parser α) (sep : Parser β) (input : Text) (pos : Nat)
    (r : Result (List α)) : Prop :=
  match item.run input pos with
  | .fail f => r = .fail f
  | .ok value first => Returns (listBody item sep input) ([value], first) r

theorem listReturns_of_fail {r : Result (List α)} (hfirst : item.run input cur = .fail f) :
    ListReturns item sep input cur r ↔ r = .fail f := by
  rw [ListReturns, hfirst]

theorem listReturns_of_ok {r : Result (List α)} (hfirst : item.run input cur = .ok value next) :
    ListReturns item sep input cur r ↔ Returns (listBody item sep input) ([value], next) r := by
  rw [ListReturns, hfirst]

end Parser
end ODataToken
