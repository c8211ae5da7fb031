import ODataToken.Base64Url
import ODataToken.Decimal
import ODataToken.Literal
import ODataToken.Parser.Combinator
import ODataToken.Parser.Primitive
import ODataToken.Parser.Repeat

/-!
# Literals that are neither dates nor durations

The parsers for words, numbers, GUIDs, strings and bytes.

## What is here

* **Words**: `nullValue`, which is written in lower case, and the truth values of `boolean`, which
  are written in any case.
* **Numbers**: digits alone are an `integer`; a `float` has a fraction, an exponent or both, or is
  one of `NaN`, `INF` and `-INF`.  An integer outside the signed 64-bit range is a domain failure,
  while a float rounds to the nearest, infinities included.
* **GUIDs**: five groups of hexadecimal digits with hyphens between them.  A GUID is committed once
  its first group and the hyphen after it are read: a later group that is malformed is a domain
  failure, and the token is no other kind of literal.
* **Quoted content**: `quotedString` is what strings and names of other grammars share.  A binary
  literal is committed once `binary'` is read: what is malformed from there on is a domain failure.

Each of these reads from a position on and may leave something behind.  Which of them a whole text
is, and in which order they are tried, is decided in `ODataToken.Token`.
-/

set_option autoImplicit false

namespace ODataToken
namespace Grammar

open ODataToken.Parser

/-! ## Words -/

/-- The word `null`, in lower case. -/
def nullValue : Parser Literal := (literal "null").replace .null

/-- The words `true` and `false`, in any case. -/
def boolean : Parser Literal :=
  label
    (alt ((keyword "true").replace (.boolean true)) ((keyword "false").replace (.boolean false)))
    "boolean"

/-! ## Numbers -/

/-- Digits after an optional sign. -/
def signedDigits : Parser Text :=
  recognize (seq (optional (oneOf "+-")) (takeWhile1 CharClass.digit "digit"))

/-- Accepts the texts of signed 64-bit integers. -/
def checkInteger (t : Text) : Except Rejection Literal :=
  let n := readInt t
  if n < int64Min ∨ int64Max < n then
    .error (.overall
      ("an integer between " ++ Text.ofInt int64Min ++ " and " ++ Text.ofInt int64Max))
  else .ok (.integer n)

/-- Digits after an optional sign that denote a signed 64-bit integer. -/
def integer : Parser Literal := label (signedDigits.tryMap checkInteger) "integer"

/-- One or more ASCII digits. -/
def digitsPattern : Pattern := .run (.ranges [(CodeUnit.ofChar '0', CodeUnit.ofChar '9')]) 1

/-- An optional sign. -/
def signPattern : Pattern :=
  .opt (.unit (.ranges [(CodeUnit.ofChar '+', CodeUnit.ofChar '+'),
    (CodeUnit.ofChar '-', CodeUnit.ofChar '-')]))

/-- An exponent with its mark. -/
def exponentPattern : Pattern :=
  .seq
    (.unit (.ranges [(CodeUnit.ofChar 'e', CodeUnit.ofChar 'e'),
      (CodeUnit.ofChar 'E', CodeUnit.ofChar 'E')]))
    (.seq signPattern digitsPattern)

/-- Digits after an optional sign, then a fraction, an exponent or both. -/
def decimalPattern : Pattern :=
  .seq signPattern (.seq digitsPattern
    (.alt
      (.seq (.unit (.one (CodeUnit.ofChar '.'))) (.seq digitsPattern (.opt exponentPattern)))
      exponentPattern))

/-- A decimal number, `NaN`, `INF` or `-INF`. -/
def float : Parser Literal :=
  label
    (choice [
      (pattern decimalPattern "decimal number").map fun t => .float (readFloat t),
      (literal "NaN").replace (.float (0 / 0)),
      (literal "INF").replace (.float (1 / 0)),
      (literal "-INF").replace (.float (-1 / 0))])
    "float"

/-! ## GUIDs -/

/-- A group of `n` hexadecimal digits. -/
def hexGroup (n : Nat) : Parser Text :=
  takeExactly CharClass.hexDigit n (Text.ofNat n ++ " hex digits")

/-- Groups of 8, 4, 4, 4 and 12 hexadecimal digits with hyphens between them. -/
def guid : Parser Literal :=
  label
    ((recognize
      (seq (terminated (hexGroup 8) (char "-"))
        (commit (seq (count (terminated (hexGroup 4) (char "-")) 3) (hexGroup 12))))).map .guid)
    "GUID"

/-! ## Quoted content -/

/-- A doubled apostrophe, which stands for one, or a run of other characters. -/
def stringPart : Parser Text :=
  alt ((literal "''").replace "'")
    (takeWhile1 (fun c => c != Text.ofString "'") "string character")

/-- The text between apostrophes, in which a doubled apostrophe stands for one. -/
def quotedString : Parser Text := (between (char "'") (many stringPart) (char "'")).map List.flatten

/-- A string literal. -/
def string : Parser Literal := label (quotedString.map .string) "string"

/-- The content of a binary literal and the apostrophe after it. -/
def base64Body : Parser Text :=
  terminated (takeWhile CharClass.base64Url)
    (label (char "'") "a base64url character or closing \"'\"")

/-- Accepts the texts that encode bytes. -/
def checkBase64 (t : Text) : Except Rejection (List UInt8) :=
  (Base64Url.decode t).mapError fun fault => .overall fault.expected

/-- Bytes as base64url text between apostrophes, after the word `binary` in any case. -/
def binary : Parser Literal :=
  label
    ((preceded (keyword "binary'") (commit (base64Body.tryMap checkBase64))).map .binary)
    "binary"

end Grammar
end ODataToken
