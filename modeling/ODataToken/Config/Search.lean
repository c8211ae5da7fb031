import ODataToken.Config.Store
import ODataToken.Json.Reader

/-!
# Searching for a config file

The store takes the result of a search as it comes (`SearchResult`); how the search is made is not
its matter.  This is one search, for use where no other is at hand: the one that the program runs
when it is started, among files that hold JSON texts.

## What is here

* A text is *blank* when it holds nothing but white space: the Unicode spaces, the line and
  paragraph separators, the ASCII controls from tab to carriage return, and the byte order mark.
  The next-line control `U+0085` is not among them.
* `Yaml.read?` reads a JSON text as a YAML document in flow style.  Not every one is taken: no
  record repeats a key, a key and the colon after it are on one line, and there are at most a
  hundred levels of nesting.
* `Search.run` looks at five places of a directory, in order.  A file that is missing, blank or null
  is passed over, and so is a package file without the program's key.  The first other file ends the
  search, whether it is of use or not.

## What is left out

A full search has two more places behind these, for modules that have to be run
(`.odataliteralrc.cjs` and `odataliteral.config.cjs`), and reads every YAML document.  Here a
document in block style, or with anchors or comments, counts as one that does not denote a value.
The error text of such a file ends where an account of the mistake would follow.  Nothing that is
proved about the store depends on any of this.
-/

set_option autoImplicit false

namespace ODataToken

/-! ## Blank text -/

/-- The code units that count as white space. -/
def CodeUnit.isBlank (u : CodeUnit) : Bool :=
  (0x09 ≤ u && u ≤ 0x0D) || u == 0x20 || u == 0xA0 || u == 0x1680 || (0x2000 ≤ u && u ≤ 0x200A)
    || u == 0x2028 || u == 0x2029 || u == 0x202F || u == 0x205F || u == 0x3000 || u == 0xFEFF

/-- Nothing but white space. -/
def Text.isBlank (t : Text) : Bool := t.all CodeUnit.isBlank

/-! ## JSON texts as YAML documents -/

namespace Yaml

/-- The white space within a line. -/
def isLineSpace (u : CodeUnit) : Bool := u == 0x20 || u == 0x09

/-- A key is not repeated, and its colon is on its line. -/
def rules : Json.Rules where
  allowRepeats := false
  isKeySpace := isLineSpace

/-- The most levels of nesting that a document may have. -/
def maxLevels : Nat := 100

/-- The white space before the value of a document on the line where the value starts. -/
def indentation (t : Text) : Text :=
  ((t.takeWhile Json.isSpace).reverse.takeWhile isLineSpace).reverse

/-- The levels that a document has beside those of its value.  A value that starts its line may be
the first key of a record in block style, and is a level further in as such a key; block style is
not indented with tabs, so after a tab the value cannot be one. -/
def outerLevels (t : Text) : Nat := if (indentation t).contains 0x09 then 0 else 1

/-- The text after the byte order mark that may come first. -/
def skipMark : Text → Text
  | [] => []
  | u :: rest => if u = 0xFEFF then rest else u :: rest

/-- The value of a document that is a JSON text. -/
def read? (t : Text) : Option Json := do
  let document := skipMark t
  let value ← Json.readWhole? rules document
  guard (outerLevels document + value.levels ≤ maxLevels)
  return value

end Yaml

/-! ## Places -/

/-- A directory: where it is, and the contents of the files in it. -/
structure Directory where
  path : Text
  contents : Text → Option Text

/-- How a config file is written. -/
inductive FileFormat where
  | json
  /-- Only the documents that are JSON texts are read. -/
  | yaml
  deriving DecidableEq, Repr

/-- The name of the format. -/
def FileFormat.name : FileFormat → Text
  | json => "JSON"
  | yaml => "YAML"

/-- The value that the text of a file denotes. -/
def FileFormat.read? : FileFormat → Text → Option Json
  | json, t => Json.read? t
  | yaml, t => Yaml.read? t

/-- A place where a config file can be: its name, its format, and the key to look under if the
settings are not the whole of it. -/
structure Place where
  name : Text
  format : FileFormat
  key : Option Text
  deriving DecidableEq, Repr

/-! ## The search -/

namespace Search

/-- The places, in order. -/
def places : List Place := [
  ⟨"package.json", .json, some "odataliteral"⟩,
  ⟨".odataliteralrc", .yaml, none⟩,
  ⟨".odataliteralrc.json", .json, none⟩,
  ⟨".odataliteralrc.yaml", .yaml, none⟩,
  ⟨".odataliteralrc.yml", .yaml, none⟩]

/-- The part of a file's value that holds the settings. -/
def select? (place : Place) (content : Json) : Option Json :=
  match place.key with
  | none => some content
  | some key => content.fields?.bind (Json.lookup? key)

/-- What the search comes to at one place, unless it goes on. -/
def examine? (directory : Directory) (place : Place) : Option SearchResult :=
  let path := directory.path ++ "/" ++ place.name
  match directory.contents place.name with
  | none => none
  | some text =>
    if text.isBlank then none
    else
      match place.format.read? text with
      | none => some (.failed (place.format.name ++ " Error in " ++ path ++ ":"))
      | some content =>
        match select? place content with
        | none => none
        | some .null => none
        | some selected => some (.found path selected)

/-- Searches a directory.  The error of a file that does not denote a value names the file, and does
not say what is wrong with it. -/
def run (directory : Directory) : SearchResult :=
  (places.findSome? (examine? directory)).getD .nothing

end Search

end ODataToken
