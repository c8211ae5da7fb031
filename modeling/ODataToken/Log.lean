import ODataToken.Text.Basic

/-!
# Logging

A logger turns messages into lines.

## What is here

* `LogLevel` is how much a message matters, and `Channel` where its line is meant to go: warnings
  and errors to channels of their own, everything else to the ordinary one.
* `Logger.format` puts the scope of the logger in front of a message, so that a reader of the log
  can tell the parts of the program apart.
* `Logger.write` is the line that a message makes.  A debug message makes one only if the logger is
  verbose, and messages of the other levels always do.

Nothing is written here, and there is no sink to write to.  Who logs something returns the lines in
order, and the outer layer of the program prints them; so which lines there are is a fact about a
result, and not an effect.
-/

set_option autoImplicit false

namespace ODataToken

/-- The channels that log lines go to. -/
inductive Channel where
  | log
  | warn
  | error
  deriving DecidableEq, Repr

/-- How much a message matters. -/
inductive LogLevel where
  | debug
  | info
  | warn
  | error
  deriving DecidableEq, Repr

/-- A line and the channel it goes to. -/
structure LogLine where
  channel : Channel
  text : Text
  deriving DecidableEq, Repr

/-- A logger for a scope. -/
structure Logger where
  scope : Text
  verbose : Bool
  deriving DecidableEq, Repr

/-- The channel for messages of a level. -/
def LogLevel.channel : LogLevel → Channel
  | debug => .log
  | info => .log
  | warn => .warn
  | error => .error

namespace Logger

variable (l : Logger)

/-- A message with the scope in front. -/
def format (message : Text) : Text := "[odata-literal:" ++ l.scope ++ "] " ++ message

/-- The line that a message makes, if any. -/
def write (level : LogLevel) (message : Text) : List LogLine :=
  if level = .debug ∧ !l.verbose then [] else [⟨level.channel, l.format message⟩]

end Logger
end ODataToken
