import ODataToken.Decimal
import ODataToken.Json.Basic
import ODataToken.Pattern

/-!
# Reading JSON

A strict reader of JSON texts: exactly one value with white space around it.  It has no answer for
any other text.

## What is here

* **Lexical pieces**: `Json.readString` takes escapes apart, `Json.numberPattern` is the grammar of
  numbers as a pattern, and `Json.readWord` knows the three words.  A number that is written without
  point and exponent is an integer, of any size, and every other is the nearest float.
* **Values**: `Json.readValue`, `Json.readItems` and `Json.readFields` each read a value, or what
  belongs to it, off the front of a text and return the rest.  The recursion is bounded by the
  length of the text, of which every step takes something.
* `Json.Rules` says how strict a reader is with the keys of a record.  `Json.read?` takes every JSON
  text, and where a key is repeated the last value counts, in the place of the first.

The fields of a record keep the order of the text, also those whose keys are decimal numbers.  It is
not said where and why a text is none.
-/

set_option autoImplicit false

namespace ODataToken
namespace Json

/-! ## Lexical pieces -/

/-- The white space of JSON. -/
def isSpace (u : CodeUnit) : Bool := u == 0x20 || u == 0x09 || u == 0x0A || u == 0x0D

/-- The text after its leading white space. -/
def skipSpace (t : Text) : Text := t.dropWhile isSpace

/-- The value of a hexadecimal digit. -/
def hexValue? (u : CodeUnit) : Option Nat :=
  if 0x30 ≤ u && u ≤ 0x39 then some (u.toNat - 0x30)
  else if 0x41 ≤ u && u ≤ 0x46 then some (u.toNat - 0x41 + 10)
  else if 0x61 ≤ u && u ≤ 0x66 then some (u.toNat - 0x61 + 10)
  else none

/-- The code unit of four hexadecimal digits. -/
def hexUnit? (a b c d : CodeUnit) : Option CodeUnit := do
  let a ← hexValue? a
  let b ← hexValue? b
  let c ← hexValue? c
  let d ← hexValue? d
  return UInt16.ofNat (((a * 16 + b) * 16 + c) * 16 + d)

/-- The code unit that a one-letter escape stands for. -/
def escaped? (u : CodeUnit) : Option CodeUnit :=
  if u == 0x22 || u == 0x5C || u == 0x2F then some u
  else if u == CodeUnit.ofChar 'b' then some 0x08
  else if u == CodeUnit.ofChar 'f' then some 0x0C
  else if u == CodeUnit.ofChar 'n' then some 0x0A
  else if u == CodeUnit.ofChar 'r' then some 0x0D
  else if u == CodeUnit.ofChar 't' then some 0x09
  else none

/-- The content of a string up to its closing quote, and the rest. -/
def readString : Text → Option (Text × Text)
  | [] => none
  | u :: rest =>
    if u = 0x22 then some ([], rest)
    else if u < 0x20 then none
    else if u = 0x5C then
      match rest with
      | [] => none
      | e :: rest =>
        if e = CodeUnit.ofChar 'u' then
          match rest with
          | a :: b :: c :: d :: rest => do
            let unit ← hexUnit? a b c d
            let (content, rest) ← readString rest
            return (unit :: content, rest)
          | _ => none
        else do
          let unit ← escaped? e
          let (content, rest) ← readString rest
          return (unit :: content, rest)
    else do
      let (content, rest) ← readString rest
      return (u :: content, rest)

/-- A run of ASCII digits. -/
def digitRun (atLeast : Nat) : Pattern :=
  .run (.ranges [(CodeUnit.ofChar '0', CodeUnit.ofChar '9')]) atLeast

/-- A number: no leading zeros, and digits on both sides of a point. -/
def numberPattern : Pattern :=
  .seq (.opt (.unit (.one (CodeUnit.ofChar '-'))))
    (.seq
      (.alt (.unit (.one (CodeUnit.ofChar '0')))
        (.seq (.unit (.ranges [(CodeUnit.ofChar '1', CodeUnit.ofChar '9')])) (digitRun 0)))
      (.seq (.opt (.seq (.unit (.one (CodeUnit.ofChar '.'))) (digitRun 1)))
        (.opt (.seq
          (.unit (.ranges [(CodeUnit.ofChar 'e', CodeUnit.ofChar 'e'),
            (CodeUnit.ofChar 'E', CodeUnit.ofChar 'E')]))
          (.seq
            (.opt (.unit (.ranges [(CodeUnit.ofChar '+', CodeUnit.ofChar '+'),
              (CodeUnit.ofChar '-', CodeUnit.ofChar '-')])))
            (digitRun 1))))))

/-- The value of a number: an integer if it is written without point and exponent. -/
def numberValue (t : Text) : Json :=
  if t.all fun u => u.isDigit || u == CodeUnit.ofChar '-' then int (readInt t)
  else float (readFloat t)

/-- A number and the rest. -/
def readNumber (t : Text) : Option (Json × Text) :=
  (numberPattern.matchEnd? t 0).map fun stop => (numberValue (t.take stop), t.drop stop)

/-- One of the words `null`, `true` and `false`, and the rest. -/
def readWord (t : Text) : Option (Json × Text) :=
  if ("null" : Text).isPrefixOf t then some (null, t.drop 4)
  else if ("true" : Text).isPrefixOf t then some (bool true, t.drop 4)
  else if ("false" : Text).isPrefixOf t then some (bool false, t.drop 5)
  else none

/-! ## Values -/

/-- What a reader asks of the keys of a record. -/
structure Rules where
  /-- May a key be repeated?  Its last value then counts. -/
  allowRepeats : Bool
  /-- The white space that may stand between a key and its colon. -/
  isKeySpace : CodeUnit → Bool

/-- The rules under which every JSON text has a value. -/
def Rules.lenient : Rules where
  allowRepeats := true
  isKeySpace := isSpace

/-- A key with the colon after it, and the rest. -/
def readKey (rules : Rules) (t : Text) : Option (Text × Text) :=
  match skipSpace t with
  | [] => none
  | u :: rest => do
    guard (u = 0x22)
    let (key, rest) ← readString rest
    match rest.dropWhile rules.isKeySpace with
    | c :: rest => do
      guard (c = CodeUnit.ofChar ':')
      return (key, rest)
    | [] => none

/-- What follows an item or a field: a comma, or the mark that closes the list. -/
def readSeparator (closing : CodeUnit) (t : Text) : Option (Bool × Text) :=
  match skipSpace t with
  | [] => none
  | u :: rest =>
    if u = CodeUnit.ofChar ',' then some (true, rest)
    else if u = closing then some (false, rest)
    else none

mutual

/-- A value and the rest, in at most `fuel` steps. -/
def readValue (rules : Rules) : Nat → Text → Option (Json × Text)
  | 0, _ => none
  | fuel + 1, t =>
    match skipSpace t with
    | [] => none
    | u :: rest =>
      if u = 0x22 then (readString rest).map fun (content, rest) => (str content, rest)
      else if u = CodeUnit.ofChar '[' then
        match skipSpace rest with
        | [] => none
        | c :: after =>
          if c = CodeUnit.ofChar ']' then some (arr [], after)
          else (readItems rules fuel rest).map fun (items, rest) => (arr items, rest)
      else if u = 0x7B then
        match skipSpace rest with
        | [] => none
        | c :: after =>
          if c = 0x7D then some (obj [], after)
          else (readFields rules fuel [] rest).map fun (fields, rest) => (obj fields, rest)
      else (readWord (u :: rest)).orElse fun _ => readNumber (u :: rest)

/-- The items of an array up to its end, and the rest. -/
def readItems (rules : Rules) : Nat → Text → Option (List Json × Text)
  | 0, _ => none
  | fuel + 1, t => do
    let (item, rest) ← readValue rules fuel t
    let (more, rest) ← readSeparator (CodeUnit.ofChar ']') rest
    if more then
      let (items, rest) ← readItems rules fuel rest
      return (item :: items, rest)
    else return ([item], rest)

/-- The fields of a record up to its end, after the fields `sofar`, and the rest. -/
def readFields (rules : Rules) : Nat → Fields → Text → Option (Fields × Text)
  | 0, _, _ => none
  | fuel + 1, sofar, t => do
    let (key, rest) ← readKey rules t
    guard (rules.allowRepeats || (lookup? key sofar).isNone)
    let (value, rest) ← readValue rules fuel rest
    let (more, rest) ← readSeparator 0x7D rest
    if more then readFields rules fuel (insert key value sofar) rest
    else return (insert key value sofar, rest)

end

/-- The value of a text that is one JSON value. -/
def readWhole? (rules : Rules) (t : Text) : Option Json := do
  let (value, rest) ← readValue rules (2 * t.length + 2) t
  guard (skipSpace rest).isEmpty
  return value

/-- The value of a JSON text.  Of a repeated key the last value counts. -/
def read? (t : Text) : Option Json := readWhole? .lenient t

end Json
end ODataToken
