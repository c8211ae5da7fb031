import ODataToken.Text.Basic

/-!
# Command-line arguments

A command, flags and tokens.

## What is here

* `Cli.Command` is what the tokens are read as.  The first argument can name it, and `token` is the
  command if it does not.
* `Cli.Arguments.readFrom` goes through the other arguments from left to right.  A token may begin
  with `-`, as in `-5`, so only the flags themselves are options, and what begins with `--` and is
  no flag is a mistake.  After `--` everything is a token, also what looks like a flag.
* `Cli.Arguments.read` reads all arguments, or says what is wrong with them (`Cli.UsageError`).  The
  first unknown option is reported, and that there are no tokens only if there is none and no help
  is asked for.

A flag that is given twice is as good as given once, and flags have no values and no short forms
that can be put together.  A word that names a command is a token wherever it does not come first.
-/

set_option autoImplicit false

namespace ODataToken
namespace Cli

/-- What the tokens are read as. -/
inductive Command where
  | literal
  | name
  | token
  deriving DecidableEq, Repr

/-- The word for a command. -/
def Command.word : Command → Text
  | literal => "literal"
  | name => "name"
  | token => "token"

/-- The command that a word stands for. -/
def Command.ofWord? (word : Text) : Option Command :=
  [Command.literal, .name, .token].find? fun c => c.word == word

/-- The arguments, read.  Flags that are not given are off. -/
structure Arguments where
  command : Command
  tokens : List Text
  json : Bool
  requireDurationKeyword : Bool
  verbose : Bool
  help : Bool
  deriving DecidableEq, Repr

/-- What is wrong with the arguments. -/
inductive UsageError where
  | unknownOption (argument : Text)
  | noTokens
  deriving DecidableEq, Repr

/-- The wording of the error. -/
def UsageError.message : UsageError → Text
  | unknownOption argument => "Unknown option: " ++ argument
  | noTokens => "No tokens given"

namespace Arguments

/-- The arguments of a command before any of them is read. -/
def none (command : Command) : Arguments := ⟨command, [], false, false, false, false⟩

/-- Reads arguments, on top of those read so far. -/
def readFrom (sofar : Arguments) : List Text → Except UsageError Arguments
  | [] => .ok sofar
  | argument :: rest =>
    if argument = "--" then .ok { sofar with tokens := sofar.tokens ++ rest }
    else if argument = "--json" then readFrom { sofar with json := true } rest
    else if argument = "--require-duration-keyword" then
      readFrom { sofar with requireDurationKeyword := true } rest
    else if argument = "--verbose" ∨ argument = "-v" then
      readFrom { sofar with verbose := true } rest
    else if argument = "--help" ∨ argument = "-h" then readFrom { sofar with help := true } rest
    else if ("--" : Text).isPrefixOf argument then .error (.unknownOption argument)
    else readFrom { sofar with tokens := sofar.tokens ++ [argument] } rest

/-- The command, which is `token` unless the first argument names another, and what follows it. -/
def splitCommand : List Text → Command × List Text
  | [] => (.token, [])
  | first :: rest =>
    match Command.ofWord? first with
    | some command => (command, rest)
    | .none => (.token, first :: rest)

/-- Reads the arguments.  Without tokens there is nothing to do but to help. -/
def read (args : List Text) : Except UsageError Arguments :=
  let (command, rest) := splitCommand args
  match readFrom (none command) rest with
  | .error e => .error e
  | .ok a => if !a.help ∧ a.tokens = [] then .error .noTokens else .ok a

end Arguments
end Cli
end ODataToken
