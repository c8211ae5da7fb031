import ODataToken.Base64Url
import ODataToken.Decimal
import ODataToken.Json.Basic
import ODataToken.Temporal
import ODataToken.Text.Basic

/-!
# Literals and names

The values that the parsers yield and a program can build: primitive literals of eleven kinds, and
names.  Each has a canonical text, which reads back as an equal value, and a JSON form.

## What is here

* `Literal` is a literal.  The fields of its dates and times are integers unless it is said what
  else they are, as for these themselves.  `Literal.integer?` is the one constructor that can
  refuse; `ConstructionError` says why a value could not be built from its parts.
* `Literal.equal` compares kinds and payloads.  Floats compare as numbers, so `NaN` differs from
  itself and the two zeros are equal, and this goes for floats in the fields of a date as well.
* `Literal.text` is the canonical text.  A float always shows that it is one, by a point, an
  exponent or its name.
* `Name` is an identifier or several segments that are written with dots between them, with
  `Name.equal` and `Name.text`.
* `Literal.toJson` and `Name.toJson` are the JSON forms: the kind and the value.  JSON has no
  integers of unlimited size, no bytes and no infinities, so integers and durations become decimal
  digits, bytes become base64url text, and a float that is not finite becomes its canonical text.

Values are immutable here, so there is nothing to say about copying or freezing them.
-/

set_option autoImplicit false

namespace ODataToken

/-- What is wrong with the parts of a value. -/
inductive ConstructionError where
  /-- An integer literal holds a signed 64-bit integer. -/
  | outsideInt64 (value : Int)
  /-- A name has a first segment. -/
  | noSegments
  deriving DecidableEq, Repr

/-- The wording of the error. -/
def ConstructionError.message : ConstructionError → Text
  | outsideInt64 value => Text.ofInt value ++ " is outside the signed 64-bit range"
  | noSegments => "a qualified name needs at least one segment"

/-! ## Literals -/

/-- A primitive literal, with fields of dates and times in `ν`. -/
inductive Literal (ν : Type := Int) where
  | null
  | boolean (value : Bool)
  | integer (value : Int)
  | float (value : Float)
  | string (value : Text)
  /-- The text of the identifier as it was written. -/
  | guid (value : Text)
  | date (value : CalendarDate ν)
  | time (value : TimeOfDay ν)
  | dateTimeOffset (value : DateTimeOffset ν)
  | duration (value : Duration)
  | binary (value : List UInt8)

/-- The least signed 64-bit integer. -/
def int64Min : Int := -Int.pow 2 63

/-- The greatest signed 64-bit integer. -/
def int64Max : Int := Int.pow 2 63 - 1

namespace Literal

variable {ν : Type}

/-- An integer literal, if the value is a signed 64-bit integer. -/
def integer? (value : Int) : Except ConstructionError Literal :=
  if int64Min ≤ value ∧ value ≤ int64Max then .ok (integer value)
  else .error (.outsideInt64 value)

/-- The name of the kind. -/
def kind : Literal ν → Text
  | null => "null"
  | boolean _ => "boolean"
  | integer _ => "integer"
  | float _ => "float"
  | string _ => "string"
  | guid _ => "guid"
  | date _ => "date"
  | time _ => "time"
  | dateTimeOffset _ => "dateTimeOffset"
  | duration _ => "duration"
  | binary _ => "binary"

/-- Equality of kind and payload, floats compared as numbers. -/
def equal [BEq ν] : Literal ν → Literal ν → Bool
  | null, null => true
  | boolean a, boolean b => a == b
  | integer a, integer b => a == b
  | float a, float b => a == b
  | string a, string b => a == b
  | guid a, guid b => a == b
  | date a, date b => a.equal b
  | time a, time b => a.equal b
  | dateTimeOffset a, dateTimeOffset b => a.equal b
  | duration a, duration b => a == b
  | binary a, binary b => a == b
  | _, _ => false

end Literal

/-! ## Canonical text of literals -/

/-- The canonical text of a float. -/
def floatText (x : Float) : Text :=
  if x.isNaN then "NaN"
  else if x.isInf then if floatSign x then "-INF" else "INF"
  else
    let text := floatNotation x
    if x == 0 && floatSign x then "-0.0"
    else if text.any fun u => u == CodeUnit.ofChar '.' || u == CodeUnit.ofChar 'e' then text
    else text ++ ".0"

/-- A text between apostrophes, with every apostrophe inside doubled. -/
def apostropheQuoted (t : Text) : Text :=
  let doubled := t.flatMap fun u => if u = CodeUnit.ofChar '\'' then [u, u] else [u]
  "'" ++ doubled ++ "'"

/-- The canonical text of a literal. -/
def Literal.text : Literal → Text
  | null => "null"
  | boolean value => if value then "true" else "false"
  | integer value => Text.ofInt value
  | float value => floatText value
  | string value => apostropheQuoted value
  | guid value => value
  | date value => value.text
  | time value => value.text
  | dateTimeOffset value => value.text
  | duration value => value.text
  | binary value => "binary'" ++ Base64Url.encode value ++ "'"

/-! ## Names -/

/-- A name. -/
inductive Name where
  | identifier (name : Text)
  | qualified (segments : List Text)
  deriving DecidableEq, Repr

namespace Name

/-- The name with these segments; a single segment is an identifier. -/
def ofSegments : List Text → Name
  | [segment] => identifier segment
  | segments => qualified segments

/-- The name with these segments, if there are any. -/
def ofSegments? (segments : List Text) : Except ConstructionError Name :=
  if segments.isEmpty then .error .noSegments else .ok (ofSegments segments)

/-- The segments of a name. -/
def segments : Name → List Text
  | identifier name => [name]
  | qualified segments => segments

/-- The name of the kind. -/
def kind : Name → Text
  | identifier _ => "identifier"
  | qualified _ => "qualified"

/-- Equality of kind and of the segments, one by one. -/
def equal : Name → Name → Bool
  | identifier a, identifier b => a == b
  | qualified a, qualified b => a.length == b.length && (a.zip b).all fun pair => pair.1 == pair.2
  | _, _ => false

/-- The text of a name. -/
def text (n : Name) : Text := Text.join "." n.segments

end Name

/-! ## JSON form -/

/-- The fields of dates and times that have a JSON form. -/
class JsonNumber (ν : Type) where
  toJson : ν → Json

instance : JsonNumber Int := ⟨.int⟩

instance : JsonNumber Float := ⟨.float⟩

section

variable {ν : Type} [JsonNumber ν]

/-- A date as a record. -/
def CalendarDate.toJson (d : CalendarDate ν) : Json :=
  .obj [("year", JsonNumber.toJson d.year), ("month", JsonNumber.toJson d.month),
    ("day", JsonNumber.toJson d.day)]

/-- A time of day as a record. -/
def TimeOfDay.toJson (t : TimeOfDay ν) : Json :=
  .obj [("hour", JsonNumber.toJson t.hour), ("minute", JsonNumber.toJson t.minute),
    ("second", JsonNumber.toJson t.second), ("nanosecond", JsonNumber.toJson t.nanosecond)]

/-- The value of a literal as JSON. -/
def Literal.valueToJson : Literal ν → Json
  | null => .null
  | boolean value => .bool value
  | integer value => .str (Text.ofInt value)
  | float value => if value.isFinite then .float value else .str (floatText value)
  | string value => .str value
  | guid value => .str value
  | date value => value.toJson
  | time value => value.toJson
  | dateTimeOffset value =>
    .obj [("date", value.date.toJson), ("time", value.time.toJson),
      ("offsetMinutes", JsonNumber.toJson value.offsetMinutes)]
  | duration value => .str (Text.ofInt value.nanoseconds)
  | binary value => .str (Base64Url.encode value)

/-- A literal as JSON. -/
def Literal.toJson (l : Literal ν) : Json :=
  .obj [("kind", .str l.kind), ("value", l.valueToJson)]

end

/-- A name as JSON. -/
def Name.toJson (n : Name) : Json :=
  .obj [("kind", .str n.kind), ("segments", .arr (n.segments.map .str))]

end ODataToken
