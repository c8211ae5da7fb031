import ODataToken.Parser.Combinator
import ODataToken.Parser.Error

/-!
# Ranked alternatives

An explicit, ordered list of named parsers, tried from one position; the first success wins.

## What is here

* `Alternatives.parser` is the choice between the alternatives, for use inside other parsers.  It
  does not know the names.
* `Alternatives.attempt` tries the alternatives from the start of a text and stops at the first
  success.  It keeps the failures before that with the names of the alternatives they belong to.
* `Alternatives.parseComplete` is the top-level entry.  The winner has to consume the whole input,
  and no alternative is tried behind it if it does not.  Every outcome but that is a `ParseError`
  that names the alternative responsible.

In order of preference the error is

1. a domain failure of an alternative before the winner, the farthest of them;
2. the input left over after the winner;
3. a shape failure at the farthest position that any alternative reached, which is attributed to the
   first alternative that reached it and lists what all of those expected that did.

Among failures that got equally far the first counts, for domain failures as well.  The variant of
the entry point that throws the error instead of returning it has no definition of its own.
-/

set_option autoImplicit false

namespace ODataToken

/-- A parser with a name. -/
structure Alternative (α : Type) where
  name : Text
  parser : Parser α

/-- Alternatives in order of rank. -/
abbrev Alternatives (α : Type) := List (Alternative α)

/-- A value and the name of the alternative that read it. -/
structure Attributed (α : Type) where
  value : α
  alternative : Text
  deriving DecidableEq, Repr

/-- What a whole text reads as. -/
abbrev Outcome (α : Type) := Except ParseError (Attributed α)

/-- Changes the value of an outcome. -/
def Outcome.map {α β : Type} (f : α → β) (o : Outcome α) : Outcome β :=
  Except.map (fun a => ⟨f a.value, a.alternative⟩) o

namespace Alternatives

variable {α : Type}

/-- The parser that tries the alternatives in order. -/
def parser (alternatives : Alternatives α) : Parser α :=
  .choice (alternatives.map Alternative.parser)

/-! ## Attempts -/

/-- The failure of one alternative. -/
structure FailedAttempt where
  alternative : Text
  failure : Failure
  deriving DecidableEq, Repr

/-- The first alternative that succeeded, with its value and where it ended. -/
structure Winner (α : Type) where
  alternative : Text
  value : α
  pos : Nat

/-- The attempts on an input: the failures before the first success, and that success. -/
structure Attempts (α : Type) where
  failures : List FailedAttempt
  winner : Option (Winner α)

/-- Tries the alternatives from the start of the input, up to the first that succeeds. -/
def attempt (input : Text) : Alternatives α → Attempts α
  | [] => ⟨[], none⟩
  | a :: rest =>
    match a.parser.run input 0 with
    | .ok value pos => ⟨[], some ⟨a.name, value, pos⟩⟩
    | .fail f =>
      let later := attempt input rest
      ⟨⟨a.name, f⟩ :: later.failures, later.winner⟩

/-- The first of the failures that got farthest. -/
def farthest? (failures : List FailedAttempt) : Option FailedAttempt :=
  failures.foldl
    (fun best f =>
      match best with
      | none => some f
      | some b => if b.failure.pos < f.failure.pos then some f else some b)
    none

/-- The distinct expectations at a position, in order. -/
def expectationsAt (failures : List FailedAttempt) (pos : Nat) : List Text :=
  ((failures.filter fun f => f.failure.pos == pos).map fun f => f.failure.expected).eraseDups

/-! ## Whole texts -/

/-- The error when no alternative consumed the whole input. -/
def errorOf (input : Text) (attempts : Attempts α) : ParseError :=
  match farthest? (attempts.failures.filter fun f => f.failure.kind == .domain) with
  | some d => ⟨.failed .domain, input, d.failure.pos, d.failure.expected, some d.alternative⟩
  | none =>
    match attempts.winner with
    | some w => ⟨.trailingInput, input, w.pos, "end of input", some w.alternative⟩
    | none =>
      match farthest? attempts.failures with
      | some s =>
        ⟨.failed .shape, input, s.failure.pos,
          Text.join " or " (expectationsAt attempts.failures s.failure.pos), some s.alternative⟩
      | none => ⟨.failed .shape, input, 0, "an alternative", none⟩

/-- Reads the whole input with the first alternative that matches. -/
def parseComplete (alternatives : Alternatives α) (input : Text) : Outcome α :=
  let attempts := attempt input alternatives
  match attempts.winner with
  | some w =>
    if w.pos = input.length then .ok ⟨w.value, w.alternative⟩
    else .error (errorOf input attempts)
  | none => .error (errorOf input attempts)

end Alternatives
end ODataToken
