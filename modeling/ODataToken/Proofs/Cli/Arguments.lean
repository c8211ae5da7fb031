import Mathlib.Data.List.Basic
import ODataToken.Cli.Arguments

/-!
# How arguments are read

Behind `--` everything is a token, whatever it looks like.  So with a command and flags in front of
`--`, any texts at all can be given as tokens (`Arguments.read_commandLine`).

In front of `--` each argument is taken by itself (`Arguments.readFrom_cons`), and no flag says what
another one means.  In particular asking for more to be logged changes nothing else
(`Arguments.read_insert_verbose`).
-/

set_option autoImplicit false

namespace ODataToken
namespace Cli

theorem Command.ofWord?_word (c : Command) : ofWord? c.word = some c := by cases c <;> decide

namespace Arguments

variable {flags front back args tokens : List Text} {argument flag : Text} {sofar : Arguments}
  {command : Option Command}

/-! ## Flags in front of the tokens -/

/-- A flag that says how tokens are read or shown, and nothing about logging or help. -/
def IsPlainFlag (flag : Text) : Prop := flag = "--json" ∨ flag = "--require-duration-keyword"

/-- A command, if one is given, flags, and the tokens behind `--`. -/
def commandLine (command : Option Command) (flags tokens : List Text) : List Text :=
  command.toList.map Command.word ++ (flags ++ ("--" : Text) :: tokens)

theorem readFrom_flags (hflags : ∀ flag ∈ flags, IsPlainFlag flag) (sofar : Arguments)
    (tokens : List Text) :
    readFrom sofar (flags ++ ("--" : Text) :: tokens)
      = .ok { sofar with
          tokens := sofar.tokens ++ tokens
          json := sofar.json || flags.contains ("--json" : Text)
          requireDurationKeyword := sofar.requireDurationKeyword
            || flags.contains ("--require-duration-keyword" : Text) } := by
  induction flags generalizing sofar with
  | nil => simp [readFrom]
  | cons flag flags ih =>
    obtain ⟨hflag, hrest⟩ := List.forall_mem_cons.mp hflags
    rw [List.cons_append, readFrom, List.contains_cons, List.contains_cons]
    rcases hflag with rfl | rfl
    · have hne : (("--require-duration-keyword" : Text) == "--json") = false := by decide
      rw [if_neg (by decide), if_pos rfl, ih hrest, hne]
      simp
    · have hne : (("--json" : Text) == "--require-duration-keyword") = false := by decide
      rw [if_neg (by decide), if_neg (by decide), if_pos rfl, ih hrest, hne]
      simp

theorem splitCommand_commandLine (hflags : ∀ flag ∈ flags, IsPlainFlag flag) :
    splitCommand (commandLine command flags tokens)
      = (command.getD .token, flags ++ ("--" : Text) :: tokens) := by
  cases command with
  | some command => simp [commandLine, splitCommand, Command.ofWord?_word]
  | none =>
    cases flags with
    | nil => rfl
    | cons flag flags => rcases hflags flag List.mem_cons_self with rfl | rfl <;> rfl

/-- **Behind `--` every text is a token.** -/
theorem read_commandLine (hflags : ∀ flag ∈ flags, IsPlainFlag flag) (htokens : tokens ≠ []) :
    read (commandLine command flags tokens)
      = .ok ⟨command.getD .token, tokens, flags.contains ("--json" : Text),
          flags.contains ("--require-duration-keyword" : Text), false, false⟩ := by
  rw [read, splitCommand_commandLine hflags]
  simp only [readFrom_flags hflags]
  simp [none, htokens]

/-! ## One argument after another -/

/-- Takes one argument, on top of those read so far. -/
def take (argument : Text) (sofar : Arguments) : Except UsageError Arguments :=
  if argument = "--json" then .ok { sofar with json := true }
  else if argument = "--require-duration-keyword" then
    .ok { sofar with requireDurationKeyword := true }
  else if argument = "--verbose" ∨ argument = "-v" then .ok { sofar with verbose := true }
  else if argument = "--help" ∨ argument = "-h" then .ok { sofar with help := true }
  else if ("--" : Text).isPrefixOf argument then .error (.unknownOption argument)
  else .ok { sofar with tokens := sofar.tokens ++ [argument] }

theorem readFrom_cons (h : argument ≠ "--") :
    readFrom sofar (argument :: args) = (take argument sofar).bind fun a => readFrom a args := by
  rw [readFrom, if_neg h, take]
  repeat' split
  all_goals rfl

/-- The arguments with more to be logged. -/
def withVerbose (a : Arguments) : Arguments := { a with verbose := true }

theorem take_withVerbose :
    take argument sofar.withVerbose = (take argument sofar).map withVerbose := by
  unfold take
  repeat' split
  all_goals rfl

theorem readFrom_withVerbose :
    readFrom sofar.withVerbose args = (readFrom sofar args).map withVerbose := by
  induction args generalizing sofar with
  | nil => rfl
  | cons argument args ih =>
    by_cases h : argument = "--"
    · rw [readFrom, readFrom, if_pos h, if_pos h]
      rfl
    · rw [readFrom_cons h, readFrom_cons h, take_withVerbose]
      cases take argument sofar with
      | error e => rfl
      | ok a => exact ih

theorem readFrom_insert_verbose (hflag : flag = "--verbose" ∨ flag = "-v")
    (hfront : Text.ofString "--" ∉ front) :
    readFrom sofar (front ++ flag :: back) = (readFrom sofar (front ++ back)).map withVerbose := by
  induction front generalizing sofar with
  | nil =>
    have htake : take flag sofar = .ok sofar.withVerbose := by rcases hflag with rfl | rfl <;> rfl
    have hne : flag ≠ "--" := by rcases hflag with rfl | rfl <;> decide
    rw [List.nil_append, readFrom_cons hne, htake]
    exact readFrom_withVerbose
  | cons argument front ih =>
    obtain ⟨hne, hrest⟩ := not_or.mp (List.mem_cons.not.mp hfront)
    rw [List.cons_append, List.cons_append, readFrom_cons (Ne.symm hne),
      readFrom_cons (Ne.symm hne)]
    cases take argument sofar with
    | error e => rfl
    | ok a => exact ih hrest

/-! ## All arguments -/

/-- The last check of the arguments. -/
def check (a : Arguments) : Except UsageError Arguments :=
  if !a.help ∧ a.tokens = [] then .error .noTokens else .ok a

theorem read_eq (args : List Text) :
    read args = (readFrom (none (splitCommand args).1) (splitCommand args).2).bind check := by
  rw [read]
  dsimp only
  split
  · rename_i h
    rw [h]
    rfl
  · rename_i h
    rw [h]
    rfl

theorem check_withVerbose (a : Arguments) : check a.withVerbose = (check a).map withVerbose := by
  rw [check, check]
  show (if !a.help ∧ a.tokens = [] then _ else _) = _
  split
  · rfl
  · rfl

/-- What stands behind the command does not say what the command is. -/
theorem exists_splitCommand (flag : Text) (hflag : Command.ofWord? flag = .none)
    (hfirst : front = [] → ∀ word ∈ back.head?, Command.ofWord? word = .none) :
    ∃ command front', front' ⊆ front
      ∧ splitCommand (front ++ flag :: back) = (command, front' ++ flag :: back)
      ∧ splitCommand (front ++ back) = (command, front' ++ back) := by
  cases front with
  | nil =>
    refine ⟨.token, [], List.Subset.refl _, by simp [splitCommand, hflag], ?_⟩
    cases back with
    | nil => rfl
    | cons word back => simp [splitCommand, hfirst rfl word rfl]
  | cons word front =>
    simp only [List.cons_append, splitCommand]
    cases Command.ofWord? word with
    | some command => exact ⟨command, front, List.subset_cons_self _ _, rfl, rfl⟩
    | none => exact ⟨.token, word :: front, List.Subset.refl _, rfl, rfl⟩

/-- **A flag that asks for more to be logged changes nothing else**, wherever it stands among the
options.  Where it stands first, what follows must not become the command instead. -/
theorem read_insert_verbose (hflag : flag = "--verbose" ∨ flag = "-v")
    (hfront : Text.ofString "--" ∉ front)
    (hfirst : front = [] → ∀ word ∈ back.head?, Command.ofWord? word = .none) :
    read (front ++ flag :: back) = (read (front ++ back)).map withVerbose := by
  have hword : Command.ofWord? flag = .none := by rcases hflag with rfl | rfl <;> rfl
  obtain ⟨command, front', hsubset, hwith, hwithout⟩ := exists_splitCommand flag hword hfirst
  rw [read_eq, read_eq, hwith, hwithout,
    readFrom_insert_verbose hflag fun hmem => hfront (hsubset hmem)]
  cases readFrom (none command) (front' ++ back) with
  | error e => rfl
  | ok a => exact check_withVerbose a

end Arguments
end Cli
end ODataToken
