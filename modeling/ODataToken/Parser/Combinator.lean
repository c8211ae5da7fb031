import ODataToken.Parser.Basic

/-!
# Parsers from parsers

The combinators that run each of their parsers once at most.  The first failure in a sequence is the
failure of the whole; a choice that fails reports the merge of all failures, from left to right.

## What is here

* **Sequences**: `seq`, `seq3`, `preceded`, `terminated` and `between` put parsers one after the
  other; `map`, `replace`, `recognize` and `spanned` change the value.
* **Checks**: `tryMap` lets a parser recognise a shape and converts the value or rejects it.  A
  rejection becomes a domain failure, at the position that it names or else where the parser
  started.
* **Choice and failure**: `alt` and `choice` are ordered, `optional` may find nothing, and `label`
  and `commit` change a failure.  They tell the two kinds of failure apart: `optional` passes a
  domain failure on, `label` renames only a shape failure that got nowhere, and `commit` makes a
  domain failure of every failure.

The combinators that run a parser over and over are in `ODataToken.Parser.Repeat`.  None of them
keeps anything between two runs, and a check is a function of the value alone: one that throws or
counts its calls has no place here.
-/

set_option autoImplicit false

namespace ODataToken
namespace Parser

variable {α β γ : Type}

/-- Changes the value of a parser. -/
def map (f : α → β) (p : Parser α) : Parser β where
  run input pos := (p.run input pos).map f

/-- Puts a constant in the place of the value. -/
def replace (p : Parser α) (value : β) : Parser β := p.map fun _ => value

/-- Two parsers, both values. -/
def seq (p : Parser α) (q : Parser β) : Parser (α × β) where
  run input pos :=
    (p.run input pos).andThen fun a pos => (q.run input pos).map fun b => (a, b)

/-- Three parsers, all values. -/
def seq3 (p : Parser α) (q : Parser β) (r : Parser γ) : Parser (α × β × γ) where
  run input pos :=
    (p.run input pos).andThen fun a pos =>
      (q.run input pos).andThen fun b pos => (r.run input pos).map fun c => (a, b, c)

/-- Two parsers, the value of the second. -/
def preceded (lead : Parser α) (p : Parser β) : Parser β := (lead.seq p).map Prod.snd

/-- Two parsers, the value of the first. -/
def terminated (p : Parser α) (trail : Parser β) : Parser α := (p.seq trail).map Prod.fst

/-- Three parsers, the value of the one in the middle. -/
def between (opening : Parser α) (p : Parser β) (closing : Parser γ) : Parser β where
  run input pos :=
    (opening.run input pos).andThen fun _ pos =>
      (p.run input pos).andThen fun b pos => (closing.run input pos).map fun _ => b

/-- The part of the input that the parser consumed, in the place of its value. -/
def recognize (p : Parser α) : Parser Text where
  run input pos := (p.run input pos).andThen fun _ stop => .ok (input.extract pos stop) stop

/-- A value and the range of the input that it was read from. -/
structure Spanned (α : Type) where
  value : α
  start : Nat
  stop : Nat
  deriving DecidableEq, Repr

/-- Pairs the value with the range of the input that was consumed. -/
def spanned (p : Parser α) : Parser (Spanned α) where
  run input pos := (p.run input pos).andThen fun value stop => .ok ⟨value, pos, stop⟩ stop

end Parser

/-! ## Checked conversion -/

/-- Why a value was rejected: what was expected, and at which position if one is to blame. -/
structure Rejection where
  expected : Text
  pos : Option Nat
  deriving DecidableEq, Repr

/-- A rejection that blames no position. -/
def Rejection.overall (expected : Text) : Rejection := ⟨expected, none⟩

namespace Parser

variable {α β : Type}

/-- Converts the value, or fails with the rejection. -/
def tryMap (p : Parser α) (check : α → Except Rejection β) : Parser β where
  run input pos :=
    (p.run input pos).andThen fun value stop =>
      match check value with
      | .ok converted => .ok converted stop
      | .error r => .fail (.domain (r.pos.getD pos) r.expected)

/-- Rejects the values that do not satisfy a predicate. -/
def verify (p : Parser α) (accepts : α → Bool) (expected : Text) : Parser α :=
  p.tryMap fun value => if accepts value then .ok value else .error (.overall expected)

/-! ## Choice and failure -/

variable {α : Type}

/-- The first parser, or else the second from the same position. -/
def alt (p q : Parser α) : Parser α where
  run input pos :=
    match p.run input pos with
    | .ok value stop => .ok value stop
    | .fail f =>
      match q.run input pos with
      | .ok value stop => .ok value stop
      | .fail g => .fail (f.merge g)

/-- The failure so far and one more. -/
def mergeInto (sofar : Option Failure) (f : Failure) : Failure :=
  match sofar with
  | none => f
  | some g => g.merge f

/-- The first of the parsers that succeeds, after the failure `sofar` of those before them. -/
def choiceFrom (input : Text) (pos : Nat) : Option Failure → List (Parser α) → Result α
  | sofar, [] => .fail (sofar.getD (.shape pos "an alternative"))
  | sofar, p :: rest =>
    match p.run input pos with
    | .ok value stop => .ok value stop
    | .fail f => choiceFrom input pos (some (mergeInto sofar f)) rest

/-- The first of the parsers that succeeds, all from the same position. -/
def choice (ps : List (Parser α)) : Parser α where
  run input pos := choiceFrom input pos none ps

/-- The parser, or nothing if it fails on the shape.  A domain failure means that the thing is
there but invalid, and is passed on. -/
def optional (p : Parser α) : Parser (Option α) where
  run input pos :=
    match p.run input pos with
    | .ok value stop => .ok (some value) stop
    | .fail f => if f.kind = .domain then .fail f else .ok none pos

/-- Names what was expected where the parser fails on the shape without having got anywhere. -/
def label (p : Parser α) (expected : Text) : Parser α where
  run input pos :=
    match p.run input pos with
    | .ok value stop => .ok value stop
    | .fail f =>
      if f.kind = .domain ∨ f.pos ≠ pos then .fail f else .fail (.shape pos expected)

/-- Once the input has committed to a production, a failure on the shape is a domain failure: the
thing is recognisably of this kind but malformed. -/
def commit (p : Parser α) : Parser α where
  run input pos :=
    match p.run input pos with
    | .ok value stop => .ok value stop
    | .fail f => .fail (.domain f.pos f.expected)

end Parser
end ODataToken
