import ODataToken.Cli.Arguments
import ODataToken.Config.Store
import ODataToken.Json.Basic
import ODataToken.Literal
import ODataToken.Token

/-!
# Running the command line

What the program does with its arguments, as a list of the steps that can be seen from outside.

## What is here

* `Cli.Event` is one step: a line on the standard output, a line on the error stream, or a line that
  the config store logs.  `Cli.Report` is what a run comes to, with the store after it.
* `Cli.parseWith` reads one token as the command says.  `Cli.outputLine` is the line for a token
  that was read: its kind and canonical text, or a JSON object with the token, the alternative that
  read it and its value.
* `Cli.tokenEvents` is what happens for one token, which does not depend on the others.  A token
  that cannot be read gives a line on the error stream, and the run goes on.
* `Cli.jobOf` combines flags and settings: either can ask for JSON, for the duration keyword and for
  verbose lines, and neither can take back what the other asks for.
* `Cli.run` is the whole run.  The exit code is 0 if every token was read, 1 if one was not, and 2
  if the arguments made no sense; then no settings are loaded, and neither are they for the help
  text.

A run cannot fail in any other way.  The effects themselves, printing and reading files, are those
of `ODataToken.Main`.
-/

set_option autoImplicit false

namespace ODataToken
namespace Cli

/-- What a run does, step by step. -/
inductive Event where
  | output (line : Text)
  | complaint (line : Text)
  /-- A line that the config store logged. -/
  | logged (line : LogLine)
  deriving DecidableEq, Repr

/-- What a run comes to: the exit code, what happened, and the store after it. -/
structure Report where
  exitCode : Nat
  events : List Event
  store : Store

/-- The help text. -/
def helpText : Text := "
odata-literal - Parse OData primitive literals and qualified names

USAGE:
  odata-literal [command] [options] <token...>

COMMANDS:
  token    A literal if the whole token is one, otherwise a name (default)
  literal  Primitive literals only
  name     Identifiers and dotted names only

OPTIONS:
  --json                       Print one JSON object per token
  --require-duration-keyword   Read '...' as a string, never as a duration
  -v, --verbose                Enable verbose logging
  -h, --help                   Show this help message
  --                           Treat every later argument as a token

EXAMPLES:
  odata-literal 42 \"'it''s'\" 2023-01-01T12:00Z
  odata-literal literal --json \"duration'P1DT2H'\"
  odata-literal name Sales.Orders
"

/-! ## Tokens -/

/-- The kind of a token and its canonical text. -/
def tokenText : Token → Text
  | .literal l => l.kind ++ " " ++ l.text
  | .name n => n.kind ++ " " ++ n.text

/-- A token as JSON. -/
def tokenJson : Token → Json
  | .literal l => l.toJson
  | .name n => n.toJson

/-- Reads a text as the command says. -/
def parseWith (command : Command) (options : LiteralOptions) (text : Text) : Outcome Token :=
  match command with
  | .token => parseToken options text
  | .literal => (parseLiteral options text).map .literal
  | .name => (parseName text).map .name

/-- The line for a token that was read. -/
def outputLine (json : Bool) (text : Text) (found : Attributed Token) : Text :=
  if json then
    Json.render (.obj [("input", .str text), ("alternative", .str found.alternative),
      ("value", tokenJson found.value)])
  else tokenText found.value

/-! ## Runs -/

/-- What a run over tokens needs to know: the command, the options in force, and the logger. -/
structure Job where
  command : Command
  json : Bool
  options : LiteralOptions
  logger : Logger

/-- Logger lines of the run go to the error stream. -/
def debugEvents (logger : Logger) (message : Text) : List Event :=
  (logger.write .debug message).map fun line => .complaint line.text

/-- What happens for one token. -/
def tokenEvents (job : Job) (text : Text) : List Event :=
  match parseWith job.command job.options text with
  | .error e => [.complaint ("error: " ++ e.message)]
  | .ok found =>
    debugEvents job.logger (text.quote ++ " matched " ++ found.alternative)
      ++ [.output (outputLine job.json text found)]

/-- Could the token be read? -/
def isRead (job : Job) (text : Text) : Bool :=
  (parseWith job.command job.options text).toOption.isSome

/-- The job that the arguments and the settings describe. -/
def jobOf (arguments : Arguments) (settings : Settings) : Job where
  command := arguments.command
  json := arguments.json || settings.outputFormat == .json
  options := ⟨arguments.requireDurationKeyword || settings.durationKeyword == .required⟩
  logger := ⟨"cli", arguments.verbose || settings.debug⟩

/-- What is logged before the first token. -/
def preamble (job : Job) (path : Option Text) (tokens : List Text) : List Event :=
  let file : Text :=
    match path with
    | some path => "Using config: " ++ path
    | none => "No config file found"
  debugEvents job.logger file
    ++ debugEvents job.logger
      ("Parsing " ++ Text.ofNat tokens.length ++ " token(s) as " ++ job.command.word)

/-- Runs the command line. -/
def run (surroundings : Surroundings) (store : Store) (args : List Text) : Report :=
  match Arguments.read args with
  | .error e =>
    ⟨2, [.complaint ("error: " ++ e.message), .complaint "Run with --help for usage."], store⟩
  | .ok arguments =>
    if arguments.help then ⟨0, [.output helpText], store⟩
    else
      let (store, logged) := store.ensureLoaded surroundings
      let job := jobOf arguments store.settings
      ⟨if arguments.tokens.all (isRead job) then 0 else 1,
        logged.map .logged ++ preamble job store.path arguments.tokens
          ++ arguments.tokens.flatMap (tokenEvents job),
        store⟩

end Cli
end ODataToken
