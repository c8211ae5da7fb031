import ODataToken.Text.Basic

/-!
# Parsers and their failures

A `Parser α` reads a value from a text at a position and says where it ended, or why it failed.
Choice is ordered, the first success wins, and a parser that fails has consumed nothing.

## What is here

* `FailureKind` tells two kinds of failure apart.  A **shape** failure says that the thing is not
  there; a **domain** failure says that it is there and names no valid value, such as month 13.  The
  combinators treat the two differently: a shape failure lets another alternative be tried and ends
  a repetition, while a domain failure is passed on.
* `Failure.merge` picks the more informative of two failures from one starting point.  It joins what
  was expected only for shape failures at one position.
* `Result` is what a parser returns, and `Result.andThen` goes on from a success.
* `Parser` is any function from a text and a position to a result.  Positions are absolute, so a
  parser can look at the text before its position, and nothing says that it ends behind it or inside
  the text: that a parser does is a property of it (`Parser.Bounded`), and no part of what it is.

A position is a natural number.  Numbers that are no positions, such as fractions, are not among the
arguments of a parser here.
-/

set_option autoImplicit false

namespace ODataToken

/-! ## Failures -/

/-- Why a parser failed. -/
inductive FailureKind where
  /-- The input does not have the expected shape. -/
  | shape
  /-- The input has the expected shape but names an invalid value. -/
  | domain
  deriving DecidableEq, Repr

/-- A failure: of which kind, at which position, and what was expected there. -/
structure Failure where
  kind : FailureKind
  pos : Nat
  expected : Text
  deriving DecidableEq, Repr

namespace Failure

/-- A shape failure. -/
abbrev shape (pos : Nat) (expected : Text) : Failure := ⟨.shape, pos, expected⟩

/-- A domain failure. -/
abbrev domain (pos : Nat) (expected : Text) : Failure := ⟨.domain, pos, expected⟩

/-- The more informative of two failures from the same starting point.  A domain failure outranks a
shape failure, and of one kind the one farther on wins.  Of two domain failures at one position the
first wins; two shape failures at one position join what they expected. -/
def merge (a b : Failure) : Failure :=
  if a.kind ≠ b.kind then
    if a.kind = .domain then a else b
  else if a.pos ≠ b.pos then
    if b.pos < a.pos then a else b
  else if a.kind = .domain ∨ a.expected = b.expected then a
  else .shape a.pos (a.expected ++ " or " ++ b.expected)

end Failure

/-! ## Results -/

/-- What a parser returns: a value and the position just after it, or a failure. -/
inductive Result (α : Type) where
  | ok (value : α) (pos : Nat)
  | fail (failure : Failure)
  deriving DecidableEq, Repr

namespace Result

variable {α β : Type}

/-- Goes on from a success; a failure stays as it is. -/
def andThen (r : Result α) (next : α → Nat → Result β) : Result β :=
  match r with
  | ok value pos => next value pos
  | fail failure => fail failure

/-- Changes the value of a success. -/
def map (f : α → β) (r : Result α) : Result β :=
  r.andThen fun value pos => ok (f value) pos

@[simp] theorem andThen_ok (value : α) (pos : Nat) (next : α → Nat → Result β) :
    (ok value pos).andThen next = next value pos := rfl

@[simp] theorem andThen_fail (failure : Failure) (next : α → Nat → Result β) :
    (fail failure).andThen next = fail failure := rfl

@[simp] theorem map_ok (f : α → β) (value : α) (pos : Nat) :
    (ok value pos).map f = ok (f value) pos := rfl

@[simp] theorem map_fail (f : α → β) (failure : Failure) :
    (fail failure : Result α).map f = fail failure := rfl

end Result

/-! ## Parsers -/

/-- A parser: what it returns on a text from a position on.  Positions are absolute. -/
structure Parser (α : Type) where
  run : Text → Nat → Result α

end ODataToken
