import ODataToken.Parser.Basic

/-!
# Repetition

Greedy repetition: `many`, `count` and `sepBy1`.  A failure of the repeated parser on its shape ends
the repetition, a failure on the domain fails the whole.  The separator of a list only ever ends it,
whatever kind of failure it has.

## What is here

* `manyBody` and `listBody` are one pass through the loop of a repetition and of a list, and `Ends`
  says that a loop, pass after pass, ends with a result.  These loops are what is asked for.  They
  have no bound: that of a repetition leaves when a round ends exactly where it started, and that of
  a list does not look at where a round ends.  A parser that moves back, or on beyond the end of the
  input, can keep either of them going for ever.
* `manyFrom` and `sepByFrom` are the functions that run.  **They have a guard that is not in the
  loops**: a round has to move forward and start inside the input, or it is the last and does not
  count.  So they end for every parser.  Pass by pass that is all that they differ in
  (`manyFrom_eq_pass`, `sepByFrom_eq_pass`).

The guard is idle for a parser that stays inside the input, and in a list if a separator and an item
together always move forward: `ODataToken.Proofs.Parser.Repetition` shows that the loops then end
with what `many` and `sepBy1` give.  So it is for all repetitions and lists of the grammars.
-/

set_option autoImplicit false

namespace ODataToken

/-! ## Loops -/

/-- What one pass through the body of a loop comes to: the state of the next pass, or the result
with which it leaves the loop. -/
inductive Pass (σ ρ : Type) where
  | again (state : σ)
  | leave (result : ρ)

/-- From a state on, the loop with this body makes so many passes and leaves with a result. -/
inductive Ends {σ ρ : Type} (body : σ → Pass σ ρ) : σ → Nat → ρ → Prop
  | last {s : σ} {r : ρ} (h : body s = .leave r) : Ends body s 1 r
  | step {s next : σ} {n : Nat} {r : ρ} (h : body s = .again next) (hrest : Ends body next n r) :
      Ends body s (n + 1) r

namespace Parser

variable {α β : Type}

/-- With what a loop that has read `values` up to `cur` leaves when a parser fails there. -/
def onFailure (values : List α) (cur : Nat) (f : Failure) : Result (List α) :=
  if f.kind = .domain then .fail f else .ok values cur

/-- What a pass of a repetition makes of the one call in it. -/
def manyPass (values : List α) (cur : Nat) : Result α → Pass (List α × Nat) (Result (List α))
  | .fail f => .leave (onFailure values cur f)
  | .ok value next =>
    if next = cur then .leave (.ok values cur) else .again (values ++ [value], next)

/-- One pass through the loop of a repetition, which calls the parser once. -/
def manyBody (p : Parser α) (input : Text) (s : List α × Nat) :
    Pass (List α × Nat) (Result (List α)) :=
  manyPass s.1 s.2 (p.run input s.2)

/-- One pass through the loop of a list, behind an item: a separator and, if there is one, an item.
Where that ends does not matter. -/
def listBody (item : Parser α) (sep : Parser β) (input : Text) (s : List α × Nat) :
    Pass (List α × Nat) (Result (List α)) :=
  match sep.run input s.2 with
  | .fail _ => .leave (.ok s.1 s.2)
  | .ok _ mid =>
    match item.run input mid with
    | .fail f => .leave (onFailure s.1 s.2 f)
    | .ok value next => .again (s.1 ++ [value], next)

/-! ## Any number -/

/-- The rounds of `many` from `cur` on. -/
def manyFrom (p : Parser α) (input : Text) (cur : Nat) : Result (List α) :=
  match p.run input cur with
  | .fail f => if f.kind = .domain then .fail f else .ok [] cur
  | .ok value next =>
    if cur < next ∧ cur ≤ input.length then (manyFrom p input next).map (value :: ·)
    else .ok [] cur
termination_by input.length + 1 - cur

/-- A round from `cur` is a pass of the loop, except for the guard. -/
theorem manyFrom_eq_pass (p : Parser α) (input : Text) (cur : Nat) :
    manyFrom p input cur =
      match manyBody p input ([], cur) with
      | .leave r => r
      | .again (values, next) =>
        if cur < next ∧ cur ≤ input.length then (manyFrom p input next).map (values ++ ·)
        else .ok [] cur := by
  rw [manyFrom]
  simp only [manyBody]
  cases p.run input cur with
  | fail f => rfl
  | ok value next =>
    by_cases hstill : next = cur
    · simp [manyPass, hstill]
    · simp [manyPass, hstill]

/-- The parser as many times as it succeeds and moves forward. -/
def many (p : Parser α) : Parser (List α) where
  run input pos := manyFrom p input pos

/-! ## A fixed number -/

/-- The rounds of `count` from `cur` on. -/
def countFrom (p : Parser α) (input : Text) : Nat → Nat → Result (List α)
  | 0, cur => .ok [] cur
  | n + 1, cur =>
    (p.run input cur).andThen fun value next => (countFrom p input n next).map (value :: ·)

/-- The parser exactly `n` times. -/
def count (p : Parser α) (n : Nat) : Parser (List α) where
  run input pos := countFrom p input n pos

/-! ## Separated items -/

/-- The rounds of `sepBy1` after an item that ended at `cur`: a separator and an item each. -/
def sepByFrom (item : Parser α) (sep : Parser β) (input : Text) (cur : Nat) :
    Result (List α) :=
  match sep.run input cur with
  | .fail _ => .ok [] cur
  | .ok _ mid =>
    match item.run input mid with
    | .fail f => if f.kind = .domain then .fail f else .ok [] cur
    | .ok value next =>
      if cur < next ∧ cur ≤ input.length then
        (sepByFrom item sep input next).map (value :: ·)
      else .ok [] cur
termination_by input.length + 1 - cur

/-- A round behind an item is a pass of the loop, except for the guard. -/
theorem sepByFrom_eq_pass (item : Parser α) (sep : Parser β) (input : Text) (cur : Nat) :
    sepByFrom item sep input cur =
      match listBody item sep input ([], cur) with
      | .leave r => r
      | .again (values, next) =>
        if cur < next ∧ cur ≤ input.length then (sepByFrom item sep input next).map (values ++ ·)
        else .ok [] cur := by
  rw [sepByFrom]
  simp only [listBody]
  cases sep.run input cur with
  | fail f => rfl
  | ok mark mid =>
    dsimp only
    cases item.run input mid <;> rfl

/-- One or more items with a separator between neighbours.  A separator that no item follows is
left unconsumed. -/
def sepBy1 (item : Parser α) (sep : Parser β) : Parser (List α) where
  run input pos :=
    (item.run input pos).andThen fun value next =>
      (sepByFrom item sep input next).map (value :: ·)

theorem sepBy1_run (item : Parser α) (sep : Parser β) (input : Text) (pos : Nat) :
    (sepBy1 item sep).run input pos =
      (item.run input pos).andThen fun value next =>
        (sepByFrom item sep input next).map (value :: ·) := rfl

end Parser
end ODataToken
