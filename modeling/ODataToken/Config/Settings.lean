import ODataToken.Json.Basic
import ODataToken.Token

/-!
# Settings

The settings of the program, the records that they are read from, and the records that a program
supplies.

## What is here

* `Settings` has three fields, each of which always has a value.  `Settings.ofFields` reads them off
  a record: what is missing or invalid takes its default, and other keys are ignored.
  `Settings.toFields` is the record of some settings.
* `Supplied` is what a program supplies: a record of which any part may be undefined.  A field that
  is undefined is the same as none (`Supplied.definedFields`).  Of the keys only the known ones
  count, and the groups among them as records of their own (`Supplied.known`).
* `UserConfig` is a record that a program supplies with groups that are records, if they are there.
  Its values may be of any kind.

Everything about a record that is not one of the three settings is lost when it is read, and no
mistake in it is reported: an unknown key, a word that is none of those allowed, and a group that is
no record are all passed over in silence.  Functions and dates, which a record in memory may hold
and a JSON value may not, would be as invalid as any other value that is not expected.
-/

set_option autoImplicit false

namespace ODataToken

/-- Whether a duration has to be written with its keyword. -/
inductive DurationKeyword where
  | optional
  | required
  deriving DecidableEq, Repr

/-- How the command line shows what it read. -/
inductive OutputFormat where
  | text
  | json
  deriving DecidableEq, Repr

/-- The word for a value in a record of settings. -/
def DurationKeyword.word : DurationKeyword → Text
  | optional => "optional"
  | required => "required"

/-- The word for a value in a record of settings. -/
def OutputFormat.word : OutputFormat → Text
  | text => "text"
  | json => "json"

/-- The settings of the program. -/
structure Settings where
  /-- Log what is being done. -/
  debug : Bool
  durationKeyword : DurationKeyword
  outputFormat : OutputFormat
  deriving DecidableEq, Repr

namespace Settings

/-- The settings when nothing else is said. -/
def defaults : Settings := ⟨false, .optional, .text⟩

/-- How literals are read under these settings. -/
def literalOptions (s : Settings) : LiteralOptions := ⟨s.durationKeyword = .required⟩

/-! ## Settings as a record -/

/-- The record of some settings. -/
def toFields (s : Settings) : Fields := [
  ("debug", .bool s.debug),
  ("duration", .obj [("keyword", .str s.durationKeyword.word)]),
  ("output", .obj [("format", .str s.outputFormat.word)])]

/-- The record under a key; anything else there counts as a record without fields. -/
def group (key : Text) (fields : Fields) : Fields :=
  ((Json.lookup? key fields).bind Json.fields?).getD []

/-- The first of `allowed` whose word the value is, or else `fallback`. -/
def pick {α : Type} (word : α → Text) (allowed : List α) (fallback : α) : Option Json → α
  | some (.str t) => (allowed.find? fun a => word a == t).getD fallback
  | _ => fallback

/-- The truth value, or else `fallback`. -/
def pickBool (fallback : Bool) : Option Json → Bool
  | some (.bool b) => b
  | _ => fallback

/-- The settings that a record stands for. -/
def ofFields (fields : Fields) : Settings where
  debug := pickBool defaults.debug (Json.lookup? "debug" fields)
  durationKeyword :=
    pick DurationKeyword.word [.optional, .required] defaults.durationKeyword
      (Json.lookup? "keyword" (group "duration" fields))
  outputFormat :=
    pick OutputFormat.word [.text, .json] defaults.outputFormat
      (Json.lookup? "format" (group "output" fields))

end Settings

/-! ## Settings that a program supplies -/

/-- A value that a program supplies. -/
inductive Supplied where
  | undefined
  /-- A value with nothing undefined in it. -/
  | json (value : Json)
  | record (fields : List (Text × Supplied))

namespace Supplied

/-! ## Undefined values -/

mutual

/-- The value without the fields that are undefined, unless it is undefined itself. -/
def defined? : Supplied → Option Json
  | undefined => none
  | json value => some value
  | record fields => some (.obj (definedFields fields))

/-- The fields that are not undefined. -/
def definedFields : List (Text × Supplied) → Fields
  | [] => []
  | (key, value) :: rest =>
    match defined? value with
    | none => definedFields rest
    | some value => (key, value) :: definedFields rest

end

/-! ## Records -/

/-- The fields of a record; no other value has any. -/
def fields? : Supplied → Option (List (Text × Supplied))
  | undefined => none
  | json value => value.fields?.map fun fields => fields.map fun field => (field.1, json field.2)
  | record fields => some fields

/-- The value of a key, undefined without one. -/
def get (key : Text) : List (Text × Supplied) → Supplied
  | [] => undefined
  | (k, v) :: rest => if k = key then v else get key rest

/-- The record under a key; anything else there counts as a record without fields. -/
def group (key : Text) (fields : List (Text × Supplied)) : Supplied :=
  record ((get key fields).fields?.getD [])

/-- The known keys only, with the groups as records. -/
def known (fields : List (Text × Supplied)) : List (Text × Supplied) := [
  ("debug", get "debug" fields),
  ("duration", group "duration" fields),
  ("output", group "output" fields)]

/-- No record in the value repeats a key. -/
inductive HasDistinctKeys : Supplied → Prop
  | undefined : HasDistinctKeys .undefined
  | json {value : Json} (hvalue : value.HasDistinctKeys) : HasDistinctKeys (.json value)
  | record {fields : List (Text × Supplied)} (hkeys : (fields.map Prod.fst).Nodup)
      (hvalues : ∀ field ∈ fields, HasDistinctKeys field.2) : HasDistinctKeys (.record fields)

/-- Is it a record, unless there is nothing? -/
def IsGroup (value : Supplied) : Prop := value = undefined ∨ value.fields?.isSome

end Supplied

/-- A record of settings that a program supplies.  Its values may be of any kind, but its groups are
records. -/
structure UserConfig where
  fields : List (Text × Supplied)
  distinct : (Supplied.record fields).HasDistinctKeys
  duration : (Supplied.get "duration" fields).IsGroup
  output : (Supplied.get "output" fields).IsGroup

end ODataToken
