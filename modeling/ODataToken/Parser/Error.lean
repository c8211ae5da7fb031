import ODataToken.Parser.Basic

/-!
# Parse errors

What is reported when a whole text cannot be accounted for.

## What is here

* `Location` is a line and a column, both counted from one.  `Location.ofPos` walks the text up to a
  position; a line feed ends a line and belongs to it.  A position past the end has the location of
  the end.
* `ParseError` keeps the text and the position.  Line, column, snippet and message are functions of
  these, so an error cannot disagree with the text that it is about.
* `ParseError.message` says what kind of error it is, where it is and what was expected, and shows
  the code units around the position.  The snippet can begin or end between the halves of a
  surrogate pair.
* `Parser.parseAll` reads a whole text with one parser.  Its errors name no alternative; those of
  ranked alternatives do, see `ODataToken.Parser.Alternatives`.

An error is a value here.  What belongs to an exception apart from the message, such as its name and
a trace of calls, is not kept.
-/

set_option autoImplicit false

namespace ODataToken

/-! ## Locations -/

/-- A line and a column, both counted from one. -/
structure Location where
  line : Nat
  column : Nat
  deriving DecidableEq, Repr

namespace Location

/-- The location of the first code unit. -/
def start : Location := ⟨1, 1⟩

/-- The location after one more code unit: a line feed begins a new line. -/
def advance (l : Location) (u : CodeUnit) : Location :=
  if u = CodeUnit.ofChar '\n' then ⟨l.line + 1, 1⟩ else ⟨l.line, l.column + 1⟩

/-- The location of position `pos`; past the end it is that of the end. -/
def ofPos (input : Text) (pos : Nat) : Location := (input.take pos).foldl advance start

end Location

/-! ## Errors -/

/-- The kinds of parse error: a failure of one of the two kinds, or input left over. -/
inductive ErrorKind where
  | failed (kind : FailureKind)
  | trailingInput
  deriving DecidableEq, Repr

/-- How a message of this kind begins. -/
def ErrorKind.describe : ErrorKind → Text
  | .failed .shape => "Parse error"
  | .failed .domain => "Invalid value"
  | .trailingInput => "Unexpected trailing input"

/-- A parse error: the text and the position that it is about, what was expected there, and the
alternative that it is attributed to, if any. -/
structure ParseError where
  kind : ErrorKind
  input : Text
  pos : Nat
  expected : Text
  alternative : Option Text
  deriving DecidableEq, Repr

namespace ParseError

variable (e : ParseError)

/-- Where the error is. -/
def location : Location := .ofPos e.input e.pos

/-- The text around the error: ten code units before it and twenty from it on. -/
def snippet : Text := e.input.extract (e.pos - 10) (e.pos + 20)

/-- The full message, with the snippet on a second line. -/
def message : Text :=
  e.kind.describe ++ " at line " ++ Text.ofNat e.location.line ++ ", col "
    ++ Text.ofNat e.location.column ++ ": expected " ++ e.expected ++ "\n  ..." ++ e.snippet
    ++ "..."

end ParseError

/-! ## Whole texts -/

/-- Reads a whole text: a failure and input left over are errors. -/
def Parser.parseAll {α : Type} (p : Parser α) (input : Text) : Except ParseError α :=
  match p.run input 0 with
  | .fail f => .error ⟨.failed f.kind, input, f.pos, f.expected, none⟩
  | .ok value pos =>
    if pos = input.length then .ok value
    else .error ⟨.trailingInput, input, pos, "end of input", none⟩

end ODataToken
