import ODataToken.Grammar.Scalar
import ODataToken.Grammar.Temporal
import ODataToken.Literal
import ODataToken.Parser.Alternatives
import ODataToken.Parser.Combinator
import ODataToken.Parser.Primitive
import ODataToken.Parser.Repeat

/-!
# Tokens

The entry points: a whole text as a literal, as a name, or as either.

## What is here

* `Grammar.literalAlternatives` is the ranked list of the eleven kinds of literal.  The order
  matters: durations are tried before strings, so a quoted text that has the shape of a duration is
  one unless the keyword is required (`LiteralOptions`).
* `Grammar.identifier` is a letter or `_` and then letters, numbers and `_`; `Grammar.name` is one
  or more identifiers with dots between them.  A dot that no identifier follows is left unconsumed.
* `parseLiteral`, `parseName` and `parseToken` read a whole text.  A token is read as a literal
  first, and as a name if it is none.  If it is neither, the error is that of the literal, unless
  the attempt at a name got farther and the literal was not recognisably there.

The variants of the entry points that throw an error instead of returning it do nothing else, and
have no definition of their own.
-/

set_option autoImplicit false

namespace ODataToken

/-- How literals are read. -/
structure LiteralOptions where
  /-- Only take durations that are written with the keyword. -/
  requireDurationKeyword : Bool
  deriving DecidableEq, Repr

namespace Grammar

open ODataToken.Parser

/-- The alternatives for literals, in order of rank. -/
def literalAlternatives (options : LiteralOptions) : Alternatives Literal := [
  ⟨"null", nullValue⟩,
  ⟨"duration", duration options.requireDurationKeyword⟩,
  ⟨"boolean", boolean⟩,
  ⟨"string", string⟩,
  ⟨"datetime", dateTimeOffset⟩,
  ⟨"date", date⟩,
  ⟨"time", time⟩,
  ⟨"guid", guid⟩,
  ⟨"float", float⟩,
  ⟨"integer", integer⟩,
  ⟨"binary", binary⟩]

/-- A literal, which need not be the whole input. -/
def primitiveLiteral (options : LiteralOptions) : Parser Literal :=
  (literalAlternatives options).parser

/-! ## Names -/

/-- An identifier. -/
def identifier : Parser Text :=
  recognize
    (seq (satisfy CharClass.identifierLeading "identifier") (takeWhile CharClass.identifierChar))

/-- One or more identifiers with dots between them. -/
def dottedIdentifiers : Parser (List Text) := sepBy1 identifier (char ".")

/-- A name. -/
def name : Parser Name := label (dottedIdentifiers.map Name.ofSegments) "name"

/-- The alternatives for names, of which there is one. -/
def nameAlternatives : Alternatives Name := [⟨"name", name⟩]

end Grammar

/-! ## Entry points -/

/-- Reads a whole text as a literal. -/
def parseLiteral (options : LiteralOptions) (text : Text) : Outcome Literal :=
  (Grammar.literalAlternatives options).parseComplete text

/-- Reads a whole text as a name. -/
def parseName (text : Text) : Outcome Name := Grammar.nameAlternatives.parseComplete text

/-- A literal or a name. -/
inductive Token where
  | literal (value : Literal)
  | name (value : Name)

/-- Reads a whole text as a literal or else as a name. -/
def parseToken (options : LiteralOptions) (text : Text) : Outcome Token :=
  match parseLiteral options text with
  | .ok found => .ok ⟨.literal found.value, found.alternative⟩
  | .error literalError =>
    match parseName text with
    | .ok found => .ok ⟨.name found.value, found.alternative⟩
    | .error nameError =>
      if literalError.kind ≠ .failed .domain ∧ literalError.pos < nameError.pos then
        .error nameError
      else .error literalError

end ODataToken
