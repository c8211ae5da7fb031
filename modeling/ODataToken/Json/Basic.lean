import ODataToken.Decimal
import ODataToken.Text.Basic

/-!
# JSON values and their texts

JSON values, with the integers apart from the other numbers, and records as lists of fields in the
order in which their keys were first written.

## What is here

* `Json.insert` writes a field: a present key keeps its place, a new one goes to the end.
* `Json.mergeFields` lays one record over another, at every depth.
* `Json.levels` counts how deep a value is nested.
* `Json.HasDistinctKeys` says that no record in a value repeats a key.  The type allows it, but no
  value that is read or built does it.
* `Json.render` is the compact text of a value: no spaces, fields in order.  A float that is not
  finite has no JSON text and prints as `null`.

What a program holds in memory beside these, such as functions, has no JSON value.  Where settings
are read such a value would count as `null` does: it is neither a truth value nor a text nor a
record.
-/

set_option autoImplicit false

namespace ODataToken

/-- A JSON value. -/
inductive Json where
  | null
  | bool (value : Bool)
  | int (value : Int)
  | float (value : Float)
  | str (value : Text)
  | arr (items : List Json)
  | obj (fields : List (Text × Json))

/-- The fields of a record, in order. -/
abbrev Fields := List (Text × Json)

namespace Json

/-- The fields of a record; no other value has any. -/
def fields? : Json → Option Fields
  | obj fields => some fields
  | _ => none

/-- Is the value a record? -/
def isRecord (j : Json) : Bool := j.fields?.isSome

/-- The value of a key. -/
def lookup? (key : Text) : Fields → Option Json
  | [] => none
  | (k, v) :: rest => if k = key then some v else lookup? key rest

/-- The fields with `value` under `key`. -/
def insert (key : Text) (value : Json) : Fields → Fields
  | [] => [(key, value)]
  | (k, v) :: rest => if k = key then (k, value) :: rest else (k, v) :: insert key value rest

@[simp] theorem lookup?_insert_self (key : Text) (value : Json) (fields : Fields) :
    lookup? key (insert key value fields) = some value := by
  induction fields with
  | nil => simp [insert, lookup?]
  | cons f rest ih =>
    by_cases h : f.1 = key
    · simp [insert, lookup?, h]
    · simp [insert, lookup?, h, ih]

@[simp] theorem lookup?_insert_of_ne {key other : Text} (h : other ≠ key) (value : Json)
    (fields : Fields) : lookup? other (insert key value fields) = lookup? other fields := by
  induction fields with
  | nil => simp [insert, lookup?, Ne.symm h]
  | cons f rest ih =>
    by_cases hk : f.1 = key
    · have ho : ¬ f.1 = other := fun e => h (e.symm.trans hk)
      simp [insert, lookup?, hk, Ne.symm h]
    · by_cases ho : f.1 = other
      · simp [insert, lookup?, ho, h]
      · simp [insert, lookup?, hk, ho, ih]

mutual

/-- One value laid over another: records are merged, and anything else is replaced. -/
def mergeOver (below : Option Json) : Json → Json
  | obj above =>
    match below with
    | some (obj fields) => obj (mergeFields fields above)
    | _ => obj above
  | other => other

/-- The fields of one record laid over those of another. -/
def mergeFields (below : Fields) : Fields → Fields
  | [] => below
  | (key, value) :: rest =>
    mergeFields (insert key (mergeOver (lookup? key below) value) below) rest

end

mutual

/-- The levels of nesting of a value: its own, and those of the deepest value in it. -/
def levels : Json → Nat
  | arr items => itemLevels items + 1
  | obj fields => fieldLevels fields + 1
  | _ => 1

/-- The levels of the deepest item. -/
def itemLevels : List Json → Nat
  | [] => 0
  | item :: rest => max (levels item) (itemLevels rest)

/-- The levels of the deepest field. -/
def fieldLevels : List (Text × Json) → Nat
  | [] => 0
  | (_, value) :: rest => max (levels value) (fieldLevels rest)

end

/-- No record in the value repeats a key. -/
inductive HasDistinctKeys : Json → Prop
  | null : HasDistinctKeys .null
  | bool (value : Bool) : HasDistinctKeys (.bool value)
  | int (value : Int) : HasDistinctKeys (.int value)
  | float (value : Float) : HasDistinctKeys (.float value)
  | str (value : Text) : HasDistinctKeys (.str value)
  | arr {items : List Json} (hitems : ∀ item ∈ items, HasDistinctKeys item) :
      HasDistinctKeys (.arr items)
  | obj {fields : Fields} (hkeys : (fields.map Prod.fst).Nodup)
      (hvalues : ∀ field ∈ fields, HasDistinctKeys field.2) : HasDistinctKeys (.obj fields)

end Json

/-! ## Printing -/

namespace Json

/-- The text of a float. -/
def floatText (x : Float) : Text := if x.isFinite then floatNotation x else "null"

mutual

/-- The compact text of a value. -/
def render : Json → Text
  | null => "null"
  | bool value => if value then "true" else "false"
  | int value => Text.ofInt value
  | float value => floatText value
  | str value => value.quote
  | arr items => "[" ++ renderItems items ++ "]"
  | obj fields => "\x7b" ++ renderFields fields ++ "\x7d"

/-- The texts of some values, with commas between them. -/
def renderItems : List Json → Text
  | [] => []
  | [item] => render item
  | item :: rest => render item ++ "," ++ renderItems rest

/-- The texts of some fields, with commas between them. -/
def renderFields : List (Text × Json) → Text
  | [] => []
  | [(key, value)] => key.quote ++ ":" ++ render value
  | (key, value) :: rest => key.quote ++ ":" ++ render value ++ "," ++ renderFields rest

end

end Json
end ODataToken
