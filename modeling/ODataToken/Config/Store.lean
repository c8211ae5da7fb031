import ODataToken.Config.Settings
import ODataToken.Json.Basic
import ODataToken.Log
import ODataToken.Text.Lowercase

/-!
# The config store

The settings in force, where they come from, and what a program does with them.

## What is here

* `Environment.toFields` is the record that the environment variables set.  A variable whose name
  begins with `ODATA_LITERAL_` sets one field.  The rest of its name, in lower case, is the path to
  the field: `__`, `_` and `.` separate its segments.  Later variables write over earlier ones, and
  a path that leads through something else than a record puts a record in its place.
* `SearchResult` is what a search for a config file comes to.  The search itself is not modelled: it
  can find any value at any path, or end with any error.
* `Store` is the settings in force, whether they have been loaded, and from which file.  They are
  loaded from a search result and from environment variables, of which the variables count more,
  when they are first asked for or when a load is asked for (`Store.load`, `Store.ensureLoaded`);
  settings made by the program lie on top of what was loaded (`Store.set`).
* `Store.perform` is one operation of a program, and `Store.responses` are those of a session, one
  after another.  Files, environment and current directory can be others at every operation, so each
  comes with the `World` that it finds.

The store is a value, and what it is loaded from is an argument: a load depends on nothing else, and
every operation returns the store after it and the lines that it logs.

## What is left out

The content of a file is a JSON value.  A module can hold others, such as functions, dates and
undefined fields, but only kinds of values are ever looked at: one that is no record counts as null
does, and one that is a record counts as its fields.  Settings that are returned cannot be changed
by who gets them, so there is nothing to say about copies.
-/

set_option autoImplicit false

namespace ODataToken

/-! ## Environment variables -/

/-- Environment variables in order, with their values. -/
abbrev Environment := List (Text × Text)

namespace Environment

/-- What the names of the program's variables begin with. -/
def lead : Text := "ODATA_LITERAL_"

/-- The text with a dot in the place of every `__` and of every `_` that remains. -/
def dotted : Text → Text
  | [] => []
  | [u] => if u = CodeUnit.ofChar '_' then "." else [u]
  | u :: v :: rest =>
    if u = CodeUnit.ofChar '_' then
      if v = CodeUnit.ofChar '_' then CodeUnit.ofChar '.' :: dotted rest
      else CodeUnit.ofChar '.' :: dotted (v :: rest)
    else u :: dotted (v :: rest)

/-- The path that a variable sets, if it is one of the program's. -/
def path? (name : Text) : Option (List Text) :=
  if lead.isPrefixOf name then
    some ((dotted (Text.toLowercase (name.drop lead.length))).splitOn (CodeUnit.ofChar '.'))
  else none

/-- The value of a variable: `1` and `true` are true, `0`, `false` and the empty text are false. -/
def value (text : Text) : Json :=
  if text = "1" ∨ text = "true" then .bool true
  else if text = "0" ∨ text = "false" ∨ text = [] then .bool false
  else .str text

/-- The fields with `value` at the end of a path. -/
def setPath (value : Json) : List Text → Fields → Fields
  | [], fields => fields
  | [key], fields => Json.insert key value fields
  | key :: more, fields =>
    let below := ((Json.lookup? key fields).bind Json.fields?).getD []
    Json.insert key (.obj (setPath value more below)) fields

/-- The record after one more variable. -/
def apply (fields : Fields) (assignment : Text × Text) : Fields :=
  match path? assignment.1 with
  | some path => setPath (value assignment.2) path fields
  | none => fields

/-- The record that the variables set. -/
def toFields (environment : Environment) : Fields := environment.foldl apply []

end Environment

/-! ## The store -/

/-- What a search for a config file comes to. -/
inductive SearchResult where
  | nothing
  /-- A file with nothing in it. -/
  | empty (path : Text)
  | found (path : Text) (content : Json)
  /-- The search ended with an error. -/
  | failed (message : Text)

/-- Where a load takes its settings from: what a search comes to, and the environment. -/
structure Surroundings where
  search : SearchResult
  environment : Environment

/-- The settings in force, whether they have been loaded, and from which file. -/
structure Store where
  settings : Settings
  loaded : Bool
  path : Option Text
  deriving DecidableEq, Repr

namespace Store

/-- The store before anything is loaded. -/
def initial : Store := ⟨.defaults, false, none⟩

/-! ## Loading -/

/-- The logger of the store. -/
def logger : Logger := ⟨"config", false⟩

/-- What a search contributes: a record, the path of the file, and a warning if the file is of no
use.  The path stands before it is known whether the content is a record. -/
def contribution : SearchResult → Fields × Option Text × List LogLine
  | .nothing => ([], none, [])
  | .empty _ => ([], none, [])
  | .found path (.obj fields) => (fields, some path, [])
  | .found path _ =>
    ([], some path, logger.write .warn ("Ignoring " ++ path ++ ": expected an object"))
  | .failed message => ([], none, logger.write .warn ("Failed to load config file: " ++ message))

/-- The settings from the record of a file and the record of the environment. -/
def resolve (file environment : Fields) : Settings :=
  .ofFields (Json.mergeFields (Json.mergeFields Settings.defaults.toFields file) environment)

/-- The store after a load, and what is logged.  What was in force before does not matter. -/
def load (surroundings : Surroundings) : Store × List LogLine :=
  let (file, path, warnings) := contribution surroundings.search
  let settings := resolve file surroundings.environment.toFields
  let notice :=
    match path with
    | some path => if settings.debug then logger.write .info ("Loaded " ++ path) else []
    | none => []
  (⟨settings, true, path⟩, warnings ++ notice)

variable (store : Store)

/-- Loads the settings unless they are loaded already. -/
def ensureLoaded (surroundings : Surroundings) : Store × List LogLine :=
  if store.loaded then (store, []) else load surroundings

/-! ## Changing settings -/

/-- Lays settings of the program on top of those in force, which are loaded first. -/
def set (surroundings : Surroundings) (values : List (Text × Supplied)) : Store × List LogLine :=
  let (current, logged) := store.ensureLoaded surroundings
  let above := Supplied.definedFields (Supplied.known values)
  let settings := Settings.ofFields (Json.mergeFields current.settings.toFields above)
  (⟨settings, current.loaded, current.path⟩, logged)

/-- Forgets the settings; the next operation that needs them loads them again. -/
def reset (_ : Store) : Store := initial

end Store

/-! ## Sessions -/

/-- What an operation finds: files, by what a search for them comes to, and variables. -/
structure World where
  /-- The result of a search from a directory, or else from the current one. -/
  search : Option Text → SearchResult
  environment : Environment

/-- What a load takes its settings from. -/
def World.surroundings (world : World) (searchFrom : Option Text) : Surroundings :=
  ⟨world.search searchFrom, world.environment⟩

/-- What a program can ask of the store. -/
inductive Operation where
  | load (searchFrom : Option Text)
  | set (values : UserConfig)
  | getAll
  | getConfigFilePath
  | literalOptions
  | reset

/-- What an operation returns. -/
inductive Answer where
  | nothing
  | settings (settings : Settings)
  | path (path : Option Text)
  | options (options : LiteralOptions)
  deriving DecidableEq, Repr

/-- What an operation comes to: what it returns, the store after it, and the lines it logs. -/
structure Response where
  answer : Answer
  store : Store
  logged : List LogLine

namespace Store

/-- Looks something up in the settings in force, which are loaded first. -/
def read (store : Store) (surroundings : Surroundings) (answer : Store → Answer) : Response :=
  let (current, logged) := store.ensureLoaded surroundings
  ⟨answer current, current, logged⟩

/-- Performs an operation. -/
def perform (store : Store) (world : World) : Operation → Response
  | .load searchFrom =>
    let (loaded, logged) := load (world.surroundings searchFrom)
    ⟨.nothing, loaded, logged⟩
  | .set values =>
    let (current, logged) := store.set (world.surroundings none) values.fields
    ⟨.nothing, current, logged⟩
  | .getAll => store.read (world.surroundings none) fun current => .settings current.settings
  | .getConfigFilePath => store.read (world.surroundings none) fun current => .path current.path
  | .literalOptions =>
    store.read (world.surroundings none) fun current => .options current.settings.literalOptions
  | .reset => ⟨.nothing, store.reset, []⟩

/-- What the operations of a session come to, one after another. -/
def responses (store : Store) : List (World × Operation) → List Response
  | [] => []
  | (world, operation) :: rest =>
    let response := store.perform world operation
    response :: response.store.responses rest

end Store

end ODataToken
