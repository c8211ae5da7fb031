import ODataToken.Parser.Combinator
import ODataToken.Parser.Primitive
import ODataToken.Parser.Repeat
import ODataToken.Proofs.Parser.Loops
import ODataToken.Proofs.Parser.Plain

/-!
# Domain failures in options, repetitions and lists

A component that is there but names no valid value fails on the domain, and such a failure must not
be taken for the end of a repetition.  The statement is about parsers of any kind, also those that
move back or past the end of the input, so it is about the loops without a guard.  With the states
that a loop comes to (`Reaches`), `domainFailures_pass` says exactly when an option, a repetition or
a list fails: with the first failure of its items on the domain, at whatever pass, and never
otherwise but for the first item of a list.

The separator of a list is the exception.  Any failure of it ends the list, one on the domain as
well (`sepBy1_separator_domain`): a separator that is there but invalid counts as absent.
-/

set_option autoImplicit false

namespace ODataToken
namespace Parser

variable {α β : Type} {p item : Parser α} {sep : Parser β} {input : Text} {pos cur first : Nat}
  {value : α} {values : List α} {f : Failure}

/-! ## When the combinators fail -/

theorem optional_run_eq_fail_iff :
    (optional p).run input pos = .fail f ↔ p.run input pos = .fail f ∧ f.kind = .domain := by
  simp only [optional]
  cases p.run input pos with
  | ok value stop => simp
  | fail g =>
    by_cases hg : g.kind = .domain
    · simp only [hg, if_true, Result.fail.injEq]
      exact ⟨fun h => ⟨h, h ▸ hg⟩, And.left⟩
    · simp only [hg, if_false, reduceCtorEq, Result.fail.injEq, false_iff, not_and]
      exact fun h hf => hg (h ▸ hf)

/-- A pass of a repetition leaves with a failure when the parser fails with it on the domain. -/
theorem manyBody_eq_leave_fail_iff :
    manyBody p input (values, cur) = .leave (.fail f)
      ↔ p.run input cur = .fail f ∧ f.kind = .domain := by
  cases hrun : p.run input cur with
  | fail g => rw [manyBody_of_fail hrun, Pass.leave.injEq, onFailure_eq_fail_iff, Result.fail.injEq]
  | ok value next =>
    by_cases hstill : next = cur
    · subst hstill
      simp [manyBody_of_still hrun]
    · simp [manyBody_of_moves hrun hstill]

/-- A pass of a list leaves with a failure when an item behind a separator fails with it on the
domain. -/
theorem listBody_eq_leave_fail_iff :
    listBody item sep input (values, cur) = .leave (.fail f)
      ↔ (∃ mark mid, sep.run input cur = .ok mark mid ∧ item.run input mid = .fail f)
        ∧ f.kind = .domain := by
  cases hsep : sep.run input cur with
  | fail g => simp [listBody_of_separator hsep]
  | ok mark mid =>
    cases hitem : item.run input mid with
    | fail g =>
      rw [listBody_of_item hsep hitem, Pass.leave.injEq, onFailure_eq_fail_iff]
      refine and_congr_left fun _ => ⟨?_, ?_⟩
      · rintro rfl
        exact ⟨mark, mid, rfl, hitem⟩
      · rintro ⟨_, _, hok, hfail⟩
        cases hok
        exact Result.fail.inj (hitem.symm.trans hfail)
    | ok value next =>
      rw [listBody_of_both hsep hitem]
      refine ⟨nofun, ?_⟩
      rintro ⟨⟨_, _, hok, hfail⟩, -⟩
      cases hok
      cases hitem.symm.trans hfail

/-- The loop of a repetition fails with the domain failure of a call that it comes to. -/
theorem manyReturns_fail_iff :
    ManyReturns p input pos (.fail f)
      ↔ f.kind = .domain ∧ ∃ values cur,
          Reaches (manyBody p input) ([], pos) (values, cur) ∧ p.run input cur = .fail f := by
  rw [ManyReturns, returns_iff_reaches]
  simp only [Prod.exists, manyBody_eq_leave_fail_iff]
  constructor
  · rintro ⟨values, cur, hreaches, hrun, hkind⟩
    exact ⟨hkind, values, cur, hreaches, hrun⟩
  · rintro ⟨hkind, values, cur, hreaches, hrun⟩
    exact ⟨values, cur, hreaches, hrun, hkind⟩

/-- A list fails with the failure of its first item, or with the domain failure of a later item that
its loop comes to. -/
theorem listReturns_fail_iff :
    ListReturns item sep input pos (.fail f)
      ↔ item.run input pos = .fail f
        ∨ f.kind = .domain ∧ ∃ value first values cur mark mid,
            item.run input pos = .ok value first
              ∧ Reaches (listBody item sep input) ([value], first) (values, cur)
              ∧ sep.run input cur = .ok mark mid ∧ item.run input mid = .fail f := by
  cases hfirst : item.run input pos with
  | fail g => simp [listReturns_of_fail hfirst, eq_comm]
  | ok value first =>
    rw [listReturns_of_ok hfirst, returns_iff_reaches]
    simp only [Prod.exists, listBody_eq_leave_fail_iff]
    constructor
    · rintro ⟨values, cur, hreaches, ⟨mark, mid, hsep, hitem⟩, hkind⟩
      exact .inr ⟨hkind, value, first, values, cur, mark, mid, rfl, hreaches, hsep, hitem⟩
    · rintro (h | ⟨hkind, _, _, values, cur, mark, mid, hok, hreaches, hsep, hitem⟩)
      · cases h
      · cases hok
        exact ⟨values, cur, hreaches, ⟨mark, mid, hsep, hitem⟩, hkind⟩

/-- A separator that fails ends the list, whatever kind of failure it is. -/
theorem listReturns_of_separator (hfirst : item.run input pos = .ok value first)
    (hreaches : Reaches (listBody item sep input) ([value], first) (values, cur))
    (hsep : sep.run input cur = .fail f) : ListReturns item sep input pos (.ok values cur) := by
  rw [listReturns_of_ok hfirst]
  exact returns_iff_reaches.mpr ⟨(values, cur), hreaches, listBody_of_separator hsep⟩

/-- **Domain failures pass through options, repetitions and the items of lists.**  An option fails
with the domain failure of its parser, and with nothing else.  A repetition fails with the domain
failure of a call that its loop comes to.  A list fails with the failure of its first item, or with
the domain failure of a later item that its loop comes to.  The separator of a list only ever ends
it, also by failing on the domain. -/
theorem domainFailures_pass (p item : Parser α) (sep : Parser β) (input : Text) (pos : Nat)
    (f : Failure) :
    ((optional p).run input pos = .fail f ↔ p.run input pos = .fail f ∧ f.kind = .domain)
      ∧ (ManyReturns p input pos (.fail f)
          ↔ f.kind = .domain ∧ ∃ values cur,
              Reaches (manyBody p input) ([], pos) (values, cur) ∧ p.run input cur = .fail f)
      ∧ (ListReturns item sep input pos (.fail f)
          ↔ item.run input pos = .fail f
            ∨ f.kind = .domain ∧ ∃ value first values cur mark mid,
                item.run input pos = .ok value first
                  ∧ Reaches (listBody item sep input) ([value], first) (values, cur)
                  ∧ sep.run input cur = .ok mark mid ∧ item.run input mid = .fail f)
      ∧ ∀ value first values cur, item.run input pos = .ok value first →
          Reaches (listBody item sep input) ([value], first) (values, cur) →
          sep.run input cur = .fail f → ListReturns item sep input pos (.ok values cur) :=
  ⟨optional_run_eq_fail_iff, manyReturns_fail_iff, listReturns_fail_iff,
    fun _ _ _ _ => listReturns_of_separator⟩

/-! ## A list with an invalid separator -/

/-- A digit below five; any other digit fails on the domain. -/
def digitBelowFive : Parser Text :=
  verify (takeExactly CharClass.digit 1 "digit") (fun t => t < "5") "a digit below 5"

/-- A seven fails a repetition and a list of digits at the pass that comes to it, and ends a list
that it should separate. -/
theorem domainFailures_pass_seven :
    ManyReturns digitBelowFive "127" 0 (.fail (.domain 2 "a digit below 5"))
      ∧ ListReturns digitBelowFive (char ",") "1,2,7" 0 (.fail (.domain 4 "a digit below 5"))
      ∧ ListReturns (char "a") digitBelowFive "a1a7a" 0 (.ok ["a", "a"] 3) := by
  have hdigits : Reaches (manyBody digitBelowFive "127") ([], 0) (["1", "2"], 2) :=
    .head rfl (.head rfl .refl)
  have hitems : Reaches (listBody digitBelowFive (char ",") "1,2,7") (["1"], 1) (["1", "2"], 3) :=
    .head rfl .refl
  have hletters : Reaches (listBody (char "a") digitBelowFive "a1a7a") (["a"], 1) (["a", "a"], 3) :=
    .head rfl .refl
  obtain ⟨-, hmany, -⟩ := domainFailures_pass digitBelowFive (char ",") (char ",") "127" 0
    (.domain 2 "a digit below 5")
  obtain ⟨-, -, hlist, -⟩ := domainFailures_pass digitBelowFive digitBelowFive (char ",") "1,2,7" 0
    (.domain 4 "a digit below 5")
  obtain ⟨-, -, -, hseparator⟩ := domainFailures_pass (char "a") (char "a") digitBelowFive "a1a7a" 0
    (.domain 3 "a digit below 5")
  exact ⟨hmany.mpr ⟨rfl, _, _, hdigits, rfl⟩,
    hlist.mpr (.inr ⟨rfl, _, _, _, _, _, _, rfl, hitems, rfl, rfl⟩),
    hseparator _ _ _ _ rfl hletters rfl⟩

/-- **A separator that is there but invalid counts as absent.**  Behind the first item the loop of
the list comes to a separator that fails on the domain, and the list succeeds in front of it. -/
theorem sepBy1_separator_domain :
    (char "a").run "a9a" 0 = .ok "a" 1
      ∧ digitBelowFive.run "a9a" 1 = .fail (.domain 1 "a digit below 5")
      ∧ ListReturns (char "a") digitBelowFive "a9a" 0 (.ok ["a"] 1)
      ∧ (sepBy1 (char "a") digitBelowFive).run "a9a" 0 = .ok ["a"] 1 := by
  have hitem : (char "a").run "a9a" 0 = .ok "a" 1 := by rfl
  have hsep : digitBelowFive.run "a9a" 1 = .fail (.domain 1 "a digit below 5") := by rfl
  refine ⟨hitem, hsep, listReturns_of_separator hitem .refl hsep, ?_⟩
  rw [sepBy1_run, hitem, Result.andThen_ok, sepByFrom, hsep]
  rfl

end Parser
end ODataToken
