import ODataToken.Proofs.Parser.Keeps
import ODataToken.Proofs.Parser.Loops

/-!
# Repetitions and lists come to an end

`many` and `sepBy1` end whatever they repeat, because a round that does not move forward inside the
input is their last.  The loops that they stand for have no such bound: the one of a repetition
leaves only if a round ends where it started, and the one of a list does not even look at that.
Whether they end is up to the parsers.  This file is about these loops.  `manyBody` and `listBody`
are one pass through each of them, and `Ends` says that pass after pass comes to an end.

* A parser that stays inside the input (`Contained`) has one maximal sequence of rounds from each
  position there (`Contained.exists_maximalRounds`, `MaximalRounds.unique`).
* The loop of a repetition makes a pass for each of these rounds and one more, and leaves with the
  result of `many` (`ends_manyBody`).
* So does the loop of a list with the result of `sepBy1`, on the condition that a separator and an
  item together always move forward (`ends_listBody`).  Where they do not, it never leaves
  (`not_ends_listBody`).
-/

set_option autoImplicit false

namespace ODataToken

namespace Parser

variable {α β : Type} {p item : Parser α} {sep : Parser β} {input : Text} {pos cur first : Nat}
  {value : α} {values sofar : List α} {f : Failure}

/-! ## Parsers that stay inside the input -/

/-- From a position inside the input, a success ends no earlier than there and no later than at the
end of the input.  Nothing is said about the position of a failure. -/
structure Contained (p : Parser α) : Prop where
  stop_within : ∀ {input pos value stop}, pos ≤ input.length → p.run input pos = .ok value stop →
    pos ≤ stop ∧ stop ≤ input.length

theorem Bounded.contained (p : Parser α) [Bounded p] : p.Contained := ⟨Bounded.stop_within⟩

theorem Contained.preceded (hsep : sep.Contained) (hitem : item.Contained) :
    (preceded sep item).Contained where
  stop_within hpos hrun := by
    obtain ⟨mark, mid, hmark, hvalue⟩ := preceded_run_eq_ok_iff.mp hrun
    have hmid := hsep.stop_within hpos hmark
    have hstop := hitem.stop_within hmid.2 hvalue
    exact ⟨hmid.1.trans hstop.1, hstop.2⟩

/-! ## Rounds -/

/-- Rounds of the parser from a position on: they read some values and come to another position.
A round moves forward inside the input; one that does not ends the repetition and does not count. -/
inductive Rounds (p : Parser α) (input : Text) : Nat → List α → Nat → Prop
  | nil (pos : Nat) : Rounds p input pos [] pos
  | cons {pos next cur : Nat} {value : α} {values : List α}
      (hround : p.run input pos = .ok value next) (hmoves : pos < next)
      (hinside : pos ≤ input.length) (hrest : Rounds p input next values cur) :
      Rounds p input pos (value :: values) cur

theorem manyFrom_of_rounds (h : Rounds p input pos values cur) :
    manyFrom p input pos = (manyFrom p input cur).map (values ++ ·) := by
  induction h with
  | nil pos => cases manyFrom p input pos <;> rfl
  | @cons pos next cur value values hround hmoves hinside hrest ih =>
    rw [manyFrom, hround]
    simp only [hmoves, hinside, and_self, if_true, ih]
    cases manyFrom p input cur <;> rfl

theorem sepByFrom_of_rounds (h : Rounds (preceded sep item) input pos values cur) :
    sepByFrom item sep input pos = (sepByFrom item sep input cur).map (values ++ ·) := by
  induction h with
  | nil pos => cases sepByFrom item sep input pos <;> rfl
  | @cons pos next cur value values hround hmoves hinside hrest ih =>
    obtain ⟨mark, mid, hsep, hitem⟩ := preceded_run_eq_ok_iff.mp hround
    rw [sepByFrom, hsep]
    simp only [hitem, hmoves, hinside, and_self, if_true, ih]
    cases sepByFrom item sep input cur <;> rfl

/-- A separator that fails ends the list, whatever kind of failure it is. -/
theorem sepBy1_run_of_separator (hitem : item.run input pos = .ok value first)
    (hrounds : Rounds (preceded sep item) input first values cur)
    (hsep : sep.run input cur = .fail f) :
    (sepBy1 item sep).run input pos = .ok (value :: values) cur := by
  rw [sepBy1_run, hitem, Result.andThen_ok, sepByFrom_of_rounds hrounds, sepByFrom, hsep]
  simp

theorem sepBy1_run_of_fail (hfirst : item.run input pos = .fail f) :
    (sepBy1 item sep).run input pos = .fail f := by
  rw [sepBy1_run, hfirst, Result.andThen_fail]

/-! ## Maximal rounds -/

/-- Rounds of the parser that no other round follows. -/
structure MaximalRounds (p : Parser α) (input : Text) (pos : Nat) (values : List α) (cur : Nat) :
    Prop where
  rounds : Rounds p input pos values cur
  last : ∀ value next, p.run input cur = .ok value next → ¬ cur < next

/-- Each round reads a unit at least. -/
theorem Rounds.add_length_le (h : Rounds p input pos values cur) : pos + values.length ≤ cur := by
  induction h with
  | nil pos => exact Nat.le_refl pos
  | cons _ hmoves _ _ ih =>
    rw [List.length_cons]
    omega

theorem Rounds.le_length (h : Rounds p input pos values cur) (hp : p.Contained)
    (hpos : pos ≤ input.length) : cur ≤ input.length := by
  induction h with
  | nil pos => exact hpos
  | cons hround _ _ _ ih => exact ih (hp.stop_within hpos hround).2

theorem MaximalRounds.unique {values' : List α} {cur' : Nat}
    (h : MaximalRounds p input pos values cur) (h' : MaximalRounds p input pos values' cur') :
    values' = values ∧ cur' = cur := by
  obtain ⟨hrounds, hlast⟩ := h
  obtain ⟨hrounds', hlast'⟩ := h'
  induction hrounds generalizing values' with
  | nil pos =>
    cases hrounds' with
    | nil => exact ⟨rfl, rfl⟩
    | cons hround' hmoves' _ _ => exact absurd hmoves' (hlast _ _ hround')
  | cons hround hmoves _ _ ih =>
    cases hrounds' with
    | nil => exact absurd hmoves (hlast' _ _ hround)
    | cons hround' _ _ hrest' =>
      obtain ⟨rfl, rfl⟩ := Result.ok.inj (hround.symm.trans hround')
      obtain ⟨rfl, rfl⟩ := ih hlast hrest'
      exact ⟨rfl, rfl⟩

/-- **Rounds that stay inside the input come to a last one.**  What is left of the input gets
shorter with each. -/
theorem Contained.exists_maximalRounds (hp : p.Contained) (hpos : pos ≤ input.length) :
    ∃ values cur, MaximalRounds p input pos values cur := by
  induction hleft : input.length - pos using Nat.strong_induction_on generalizing pos with
  | _ left ih =>
    by_cases hmoves : ∃ value next, p.run input pos = .ok value next ∧ pos < next
    · obtain ⟨value, next, hround, hlt⟩ := hmoves
      have hnext := (hp.stop_within hpos hround).2
      obtain ⟨values, cur, hrounds, hlast⟩ := ih (input.length - next) (by omega) hnext rfl
      exact ⟨value :: values, cur, .cons hround hlt hpos hrounds, hlast⟩
    · exact ⟨[], pos, .nil pos, fun value next hround hlt => hmoves ⟨value, next, hround, hlt⟩⟩

/-- The parser was called once for each round and once more, which is no more than there are
positions left in the input. -/
theorem Rounds.calls_le (h : Rounds p input pos values cur) (hp : p.Contained)
    (hpos : pos ≤ input.length) : values.length + 1 ≤ input.length - pos + 1 := by
  have hadd := h.add_length_le
  have hcur := h.le_length hp hpos
  omega

/-- A loop that goes on from each round of a parser makes a pass for each of them. -/
theorem Rounds.ends {body : List α × Nat → Pass (List α × Nat) (Result (List α))} {n : Nat}
    {r : Result (List α)}
    (hbody : ∀ {sofar pos value next}, p.run input pos = .ok value next → pos < next →
      body (sofar, pos) = .again (sofar ++ [value], next))
    (h : Rounds p input pos values cur) (hends : Ends body (sofar ++ values, cur) n r) :
    Ends body (sofar, pos) (values.length + n) r := by
  induction h generalizing sofar with
  | nil pos => simpa using hends
  | @cons pos next cur value values hround hmoves hinside hrest ih =>
    have hbehind : Ends body (sofar ++ [value], next) (values.length + n) r :=
      ih (by simpa using hends)
    rw [List.length_cons, Nat.add_right_comm]
    exact .step (hbody hround hmoves) hbehind

/-! ## The loop of a repetition -/

theorem manyBody_of_round {next : Nat} (hround : p.run input cur = .ok value next)
    (hmoves : cur < next) :
    manyBody p input (values, cur) = .again (values ++ [value], next) :=
  manyBody_of_moves hround (Nat.ne_of_gt hmoves)

theorem many_run_of_fail (h : Rounds p input pos values cur) (hrun : p.run input cur = .fail f) :
    (many p).run input pos = onFailure values cur f := by
  show manyFrom p input pos = _
  rw [manyFrom_of_rounds h, manyFrom, hrun, onFailure]
  by_cases hkind : f.kind = .domain
  · simp only [hkind, if_true, Result.map_fail]
  · simp only [hkind, if_false, Result.map_ok, List.append_nil]

theorem many_run_of_still (h : Rounds p input pos values cur)
    (hrun : p.run input cur = .ok value cur) : (many p).run input pos = .ok values cur := by
  show manyFrom p input pos = _
  rw [manyFrom_of_rounds h, manyFrom, hrun]
  simp only [Nat.lt_irrefl, false_and, if_false, Result.map_ok, List.append_nil]

/-- Behind the maximal rounds the parser fails, or ends where it started. -/
theorem MaximalRounds.eq_of_run_eq_ok {next : Nat} (h : MaximalRounds p input pos values cur)
    (hp : p.Contained) (hpos : pos ≤ input.length) (hrun : p.run input cur = .ok value next) :
    next = cur := by
  have hle := (hp.stop_within (h.rounds.le_length hp hpos) hrun).1
  have hlast := h.last value next hrun
  omega

/-- The pass behind the maximal rounds is the last. -/
theorem manyBody_last (hp : p.Contained) (hpos : pos ≤ input.length)
    (h : MaximalRounds p input pos values cur) :
    manyBody p input (values, cur) = .leave ((many p).run input pos) := by
  cases hrun : p.run input cur with
  | fail f => rw [manyBody_of_fail hrun, many_run_of_fail h.rounds hrun]
  | ok value next =>
    obtain rfl := h.eq_of_run_eq_ok hp hpos hrun
    rw [manyBody_of_still hrun, many_run_of_still h.rounds hrun]

/-- **The loop of a repetition ends, with a pass for each round and one more.** -/
theorem ends_manyBody (hp : p.Contained) (hpos : pos ≤ input.length)
    (h : MaximalRounds p input pos values cur) :
    Ends (manyBody p input) ([], pos) (values.length + 1) ((many p).run input pos) :=
  h.rounds.ends manyBody_of_round (.last (manyBody_last hp hpos h))

/-! ## The loop of a list -/

theorem listBody_of_round {next : Nat}
    (hround : (preceded sep item).run input cur = .ok value next) :
    listBody item sep input (values, cur) = .again (values ++ [value], next) := by
  obtain ⟨mark, mid, hsep, hitem⟩ := preceded_run_eq_ok_iff.mp hround
  exact listBody_of_both hsep hitem

theorem sepBy1_run_of_item {mark : β} {mid : Nat} (hfirst : item.run input pos = .ok value first)
    (h : Rounds (preceded sep item) input first values cur)
    (hsep : sep.run input cur = .ok mark mid) (hitem : item.run input mid = .fail f) :
    (sepBy1 item sep).run input pos = onFailure (value :: values) cur f := by
  rw [sepBy1_run, hfirst, Result.andThen_ok, sepByFrom_of_rounds h, sepByFrom, hsep]
  simp only [hitem, onFailure]
  by_cases hkind : f.kind = .domain
  · simp only [hkind, if_true, Result.map_fail]
  · simp only [hkind, if_false, Result.map_ok, List.append_nil]

/-- Behind the maximal rounds of a list no item follows a separator. -/
theorem MaximalRounds.exists_fail {mark : β} {mid : Nat}
    (h : MaximalRounds (preceded sep item) input first values cur)
    (hforward : ∀ mark mid a next, sep.run input cur = .ok mark mid →
      item.run input mid = .ok a next → cur < next)
    (hsep : sep.run input cur = .ok mark mid) : ∃ f, item.run input mid = .fail f := by
  cases hitem : item.run input mid with
  | fail f => exact ⟨f, rfl⟩
  | ok a next =>
    have hround := preceded_run_eq_ok_iff.mpr ⟨mark, mid, hsep, hitem⟩
    exact absurd (hforward mark mid a next hsep hitem) (h.last a next hround)

/-- **The loop of a list ends, with a pass for each further item and one more.** -/
theorem ends_listBody (hfirst : item.run input pos = .ok value first)
    (h : MaximalRounds (preceded sep item) input first values cur)
    (hforward : ∀ mark mid a next, sep.run input cur = .ok mark mid →
      item.run input mid = .ok a next → cur < next) :
    Ends (listBody item sep input) ([value], first) (values.length + 1)
      ((sepBy1 item sep).run input pos) := by
  refine h.rounds.ends (fun hround _ => listBody_of_round hround) (.last ?_)
  rw [List.singleton_append]
  cases hsep : sep.run input cur with
  | fail f => rw [listBody_of_separator hsep, sepBy1_run_of_separator hfirst h.rounds hsep]
  | ok mark mid =>
    obtain ⟨f, hitem⟩ := h.exists_fail hforward hsep
    rw [listBody_of_item hsep hitem, sepBy1_run_of_item hfirst h.rounds hsep hitem]

/-- Where a separator and an item succeed without moving, the loop of a list never leaves. -/
theorem not_ends_listBody {n : Nat} {r : Result (List α)}
    (hround : (preceded sep item).run input cur = .ok value cur) :
    ¬ Ends (listBody item sep input) (values, cur) n r := by
  intro h
  -- Each pass comes back to the same position, only the values grow.
  induction n generalizing values with
  | zero => cases h
  | succ n ih =>
    cases h with
    | last h => cases h.symm.trans (listBody_of_round hround)
    | step h hrest =>
      obtain rfl := Pass.again.inj (h.symm.trans (listBody_of_round hround))
      exact ih hrest

/-! ## Both together -/

/-- **Repetitions and lists end, with the values of their maximal rounds.**  A repetition of a
parser that stays inside the input has one maximal sequence of rounds.  Its loop calls the parser
once for each of them and once more, which is no more often than there are positions left and one.
Where the last call fails on the domain the repetition fails with that, and else it has the values,
up to where that call was made.

A list whose first item fails does so too.  Otherwise, if item and separator stay inside the input
and move forward together, there is one maximal sequence of rounds behind that item, and the loop
ends.  The list has all the items, up to the end of the last one, unless an item behind a separator
fails on the domain there; a separator that follows it is followed by no item. -/
theorem many_and_sepBy1_end :
    (∀ {α : Type} (p : Parser α) (input : Text) (pos : Nat), p.Contained → pos ≤ input.length →
      ∃ values cur, MaximalRounds p input pos values cur
        ∧ (∀ values' cur', MaximalRounds p input pos values' cur' → values' = values ∧ cur' = cur)
        ∧ Ends (manyBody p input) ([], pos) (values.length + 1) ((many p).run input pos)
        ∧ values.length + 1 ≤ input.length - pos + 1
        ∧ (∀ f, p.run input cur = .fail f → f.kind = .domain → (many p).run input pos = .fail f)
        ∧ (∀ f, p.run input cur = .fail f → f.kind = .shape →
            (many p).run input pos = .ok values cur)
        ∧ ∀ value next, p.run input cur = .ok value next →
            next = cur ∧ (many p).run input pos = .ok values cur)
      ∧ ∀ {α β : Type} (item : Parser α) (sep : Parser β) (input : Text) (pos : Nat),
        item.Contained → sep.Contained → pos ≤ input.length →
        (∀ cur mark mid a next, cur ≤ input.length → sep.run input cur = .ok mark mid →
          item.run input mid = .ok a next → cur < next) →
        (∀ f, item.run input pos = .fail f → (sepBy1 item sep).run input pos = .fail f)
          ∧ ∀ value first, item.run input pos = .ok value first →
            ∃ values cur, MaximalRounds (preceded sep item) input first values cur
              ∧ (∀ values' cur', MaximalRounds (preceded sep item) input first values' cur' →
                  values' = values ∧ cur' = cur)
              ∧ Ends (listBody item sep input) ([value], first) (values.length + 1)
                  ((sepBy1 item sep).run input pos)
              ∧ values.length + 1 ≤ input.length - first + 1
              ∧ ((∀ mark mid f, sep.run input cur = .ok mark mid → item.run input mid = .fail f →
                    f.kind ≠ .domain) →
                  (sepBy1 item sep).run input pos = .ok (value :: values) cur)
              ∧ ∀ mark mid, sep.run input cur = .ok mark mid →
                  ∃ f, item.run input mid = .fail f := by
  refine ⟨?_, ?_⟩
  · intro α p input pos hp hpos
    obtain ⟨values, cur, h⟩ := hp.exists_maximalRounds hpos
    refine ⟨values, cur, h, fun _ _ => h.unique, ends_manyBody hp hpos h,
      h.rounds.calls_le hp hpos, fun f hrun hkind => ?_, fun f hrun hkind => ?_,
      fun value next hrun => ?_⟩
    · rw [many_run_of_fail h.rounds hrun, onFailure_of_domain hkind]
    · rw [many_run_of_fail h.rounds hrun, onFailure_of_ne_domain (by simp [hkind])]
    · obtain rfl := h.eq_of_run_eq_ok hp hpos hrun
      exact ⟨rfl, many_run_of_still h.rounds hrun⟩
  · intro α β item sep input pos hitem hsep hpos hforward
    refine ⟨fun f hfail => sepBy1_run_of_fail hfail, fun value first hfirst => ?_⟩
    have hle := (hitem.stop_within hpos hfirst).2
    have hround := hsep.preceded hitem
    obtain ⟨values, cur, h⟩ := hround.exists_maximalRounds hle
    have hcur := h.rounds.le_length hround hle
    have hforward := fun mark mid a next => hforward cur mark mid a next hcur
    refine ⟨values, cur, h, fun _ _ => h.unique, ends_listBody hfirst h hforward,
      h.rounds.calls_le hround hle, fun hdomain => ?_, fun mark mid => h.exists_fail hforward⟩
    cases hrun : sep.run input cur with
    | fail f => exact sepBy1_run_of_separator hfirst h.rounds hrun
    | ok mark mid =>
      obtain ⟨f, hfail⟩ := h.exists_fail hforward hrun
      rw [sepBy1_run_of_item hfirst h.rounds hrun hfail,
        onFailure_of_ne_domain (hdomain mark mid f hrun hfail)]

/-- A digit that may be missing is read as often as there is one, and a point with no digit behind
it stays. -/
theorem many_and_sepBy1_end_instances :
    (takeBetween CharClass.digit 0 (some 1) "digit").Contained
      ∧ (many (takeBetween CharClass.digit 0 (some 1) "digit")).run "12x" 0 = .ok ["1", "2"] 2
      ∧ Ends (manyBody (takeBetween CharClass.digit 0 (some 1) "digit") "12x") ([], 0) 3
          (.ok ["1", "2"] 2)
      ∧ (satisfy CharClass.digit "digit").Contained ∧ (char ".").Contained
      ∧ (sepBy1 (satisfy CharClass.digit "digit") (char ".")).run "1.2." 0 = .ok ["1", "2"] 3
      ∧ Ends (listBody (satisfy CharClass.digit "digit") (char ".") "1.2.") (["1"], 1) 2
          (.ok ["1", "2"] 3) := by
  have hdigit : (takeBetween CharClass.digit 0 (some 1) "digit").Contained := Bounded.contained _
  have hitem : (satisfy CharClass.digit "digit").Contained := Bounded.contained _
  have hsep : (char ".").Contained := Bounded.contained _
  have hrounds : Rounds (takeBetween CharClass.digit 0 (some 1) "digit") "12x" 0 ["1", "2"] 2 :=
    .cons rfl (by decide) (by decide) (.cons rfl (by decide) (by decide) (.nil 2))
  have hitems : Rounds (preceded (char ".") (satisfy CharClass.digit "digit")) "1.2." 1 ["2"] 3 :=
    .cons rfl (by decide) (by decide) (.nil 3)
  have hempty : (takeBetween CharClass.digit 0 (some 1) "digit").run "12x" 2 = .ok [] 2 := rfl
  have hend : (satisfy CharClass.digit "digit").run "1.2." 4 = .fail (.shape 4 "digit") := rfl
  obtain ⟨hmany, hlist⟩ := many_and_sepBy1_end
  obtain ⟨values, cur, -, hunique, hends, -, -, -, hstill⟩ :=
    hmany (takeBetween CharClass.digit 0 (some 1) "digit") "12x" 0 hdigit (by decide)
  obtain ⟨rfl, rfl⟩ := hunique _ _ ⟨hrounds, fun value next hrun => by cases hrun; decide⟩
  obtain ⟨-, hfirst⟩ := hlist (satisfy CharClass.digit "digit") (char ".") "1.2." 0 hitem hsep
    (by decide) fun cur mark mid a next hcur hmark ha =>
      Nat.lt_of_le_of_lt (hsep.stop_within hcur hmark).1 (Advances.lt ha)
  obtain ⟨values, cur, -, hunique', hends', -, hok, -⟩ := hfirst "1" 1 rfl
  obtain ⟨rfl, rfl⟩ := hunique' _ _ ⟨hitems, fun value next hrun => by cases hrun⟩
  have hrun := (hstill _ _ hempty).2
  have hrun' := hok fun mark mid f hmark hfail => by
    cases hmark
    cases hend.symm.trans hfail
    decide
  rw [hrun] at hends
  rw [hrun'] at hends'
  exact ⟨hdigit, hrun, hends, hitem, hsep, hrun', hends'⟩

end Parser
end ODataToken
