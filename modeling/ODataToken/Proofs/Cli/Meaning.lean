import ODataToken.Proofs.Cli.Arguments

/-!
# What arguments mean

Arguments are read one after another, and each one changes what has been read so far.  What comes of
it can be said of the list as a whole (`Arguments.meaning`): the first `--` cuts it in two, and what
is behind it are tokens.  In front of it the first unknown option is a mistake, a flag is given if
it stands anywhere, and everything else is a token.

`Arguments.read_eq_meaning` says so of every list of arguments, and that the places of the flags
among the tokens do not matter.  The two can come apart only where an argument counts differently
after another one, so all rests on `Arguments.take_eq`: what one argument adds does not depend on
those read so far.
-/

set_option autoImplicit false

namespace ODataToken
namespace Cli
namespace Arguments

/-! ## The list as a whole -/

/-- The flags that are written out. -/
def longFlags : List Text := ["--json", "--require-duration-keyword", "--verbose", "--help"]

/-- All flags. -/
def flags : List Text := "-v" :: "-h" :: longFlags

/-- Does the argument begin like an option without being one? -/
def isUnknown (argument : Text) : Bool :=
  ("--" : Text).isPrefixOf argument && !longFlags.contains argument

/-- Is the argument neither a flag nor unknown? -/
def isToken (argument : Text) : Bool := !flags.contains argument && !isUnknown argument

/-- The arguments in front of the first `--`, or all of them without one. -/
def options (args : List Text) : List Text := args.takeWhile (· != ("--" : Text))

/-- The arguments behind the first `--`. -/
def operands (args : List Text) : List Text := (args.dropWhile (· != ("--" : Text))).drop 1

/-- What the arguments behind a command mean. -/
def meaning (command : Command) (args : List Text) : Except UsageError Arguments :=
  match (options args).find? isUnknown with
  | some argument => .error (.unknownOption argument)
  | .none =>
    let tokens := (options args).filter (!flags.contains ·) ++ operands args
    let help := (options args).contains ("--help" : Text) || (options args).contains ("-h" : Text)
    if help = false ∧ tokens = [] then .error .noTokens
    else .ok {
      command, tokens, help
      json := (options args).contains ("--json" : Text)
      requireDurationKeyword := (options args).contains ("--require-duration-keyword" : Text)
      verbose :=
        (options args).contains ("--verbose" : Text) || (options args).contains ("-v" : Text) }

/-- The same tokens in the same order and the same flags, wherever these stand and however often.
Of unknown options only the first one counts. -/
structure SameOptions (front front' : List Text) : Prop where
  tokens : front.filter isToken = front'.filter isToken
  unknown : front.find? isUnknown = front'.find? isUnknown
  flags : ∀ flag ∈ flags, flag ∈ front ↔ flag ∈ front'

variable {argument : Text} {args args' front front' back : List Text} {sofar : Arguments}

/-! ## What an argument adds -/

/-- The arguments read so far with options, none of them unknown, and operands added. -/
def add (sofar : Arguments) (front back : List Text) : Arguments where
  command := sofar.command
  tokens := sofar.tokens ++ (front.filter (!flags.contains ·) ++ back)
  json := sofar.json || front.contains ("--json" : Text)
  requireDurationKeyword :=
    sofar.requireDurationKeyword || front.contains ("--require-duration-keyword" : Text)
  verbose := sofar.verbose || (front.contains ("--verbose" : Text) || front.contains ("-v" : Text))
  help := sofar.help || (front.contains ("--help" : Text) || front.contains ("-h" : Text))

theorem add_nil (sofar : Arguments) (back : List Text) :
    sofar.add [] back = { sofar with tokens := sofar.tokens ++ back } := by simp [add]

theorem add_add (sofar : Arguments) (front front' back : List Text) :
    (sofar.add front []).add front' back = sofar.add (front ++ front') back := by
  simp [add, Bool.or_assoc, Bool.or_left_comm]

theorem add_of_not_mem (h : argument ∉ flags) :
    sofar.add [argument] [] = { sofar with tokens := sofar.tokens ++ [argument] } := by
  simp only [flags, longFlags, List.mem_cons, List.not_mem_nil, or_false, not_or] at h
  obtain ⟨hv, hh, hjson, hkeyword, hverbose, hhelp⟩ := h
  simp [add, flags, longFlags, hv, hh, hjson, hkeyword, hverbose, hhelp, Ne.symm hv, Ne.symm hh,
    Ne.symm hjson, Ne.symm hkeyword, Ne.symm hverbose, Ne.symm hhelp]

/-- What one argument adds, if it is not unknown. -/
theorem take_eq (argument : Text) (sofar : Arguments) :
    take argument sofar
      = if isUnknown argument then .error (.unknownOption argument)
        else .ok (sofar.add [argument] []) := by
  by_cases hflag : argument ∈ flags
  · simp only [flags, longFlags, List.mem_cons, List.not_mem_nil, or_false] at hflag
    rcases hflag with rfl | rfl | rfl | rfl | rfl | rfl
    all_goals simp +decide [take, add]
  · have hlong : longFlags.contains argument = false := by
      rw [List.contains_eq_mem]
      exact decide_eq_false fun hmem => hflag (List.mem_cons_of_mem _ (List.mem_cons_of_mem _ hmem))
    rw [isUnknown, hlong, add_of_not_mem hflag, Bool.not_false, Bool.and_true]
    simp only [flags, longFlags, List.mem_cons, List.not_mem_nil, or_false, not_or] at hflag
    obtain ⟨hv, hh, hjson, hkeyword, hverbose, hhelp⟩ := hflag
    simp only [take, hv, hh, hjson, hkeyword, hverbose, hhelp, or_self, if_false]

/-- **Arguments read one after another** add what they add together. -/
theorem readFrom_eq (sofar : Arguments) (args : List Text) :
    readFrom sofar args
      = match (options args).find? isUnknown with
        | some argument => .error (.unknownOption argument)
        | .none => .ok (sofar.add (options args) (operands args)) := by
  induction args generalizing sofar with
  | nil => simp [readFrom, options, operands, add_nil]
  | cons argument args ih =>
    by_cases h : argument = "--"
    · subst h
      simp [readFrom, options, operands, add_nil]
    · have hoptions : options (argument :: args) = argument :: options args := by
        simp [options, h]
      have hoperands : operands (argument :: args) = operands args := by
        simp [operands, h]
      rw [readFrom_cons h, take_eq, hoptions, hoperands, List.find?_cons]
      cases isUnknown argument with
      | true => rfl
      | false =>
        simp only [Bool.false_eq_true, if_false, Except.bind, ih, add_add, List.singleton_append]

/-! ## The command -/

theorem splitCommand_fst (args : List Text) :
    (splitCommand args).1 = (args.head?.bind Command.ofWord?).getD .token := by
  cases args with
  | nil => rfl
  | cons first rest =>
    rw [splitCommand, List.head?_cons, Option.bind_some]
    cases Command.ofWord? first with
    | _ => rfl

theorem splitCommand_of_head? (h : ∀ command : Command, args.head? ≠ some command.word) :
    splitCommand args = (.token, args) := by
  cases args with
  | nil => rfl
  | cons first rest =>
    have hfirst : Command.ofWord? first = .none := by
      refine Option.eq_none_iff_forall_ne_some.mpr fun command hcommand => h command ?_
      have hword := List.find?_some hcommand
      rw [List.head?_cons, eq_of_beq hword]
    rw [splitCommand, hfirst]

theorem read_eq_meaning_splitCommand (args : List Text) :
    read args = meaning (splitCommand args).1 (splitCommand args).2 := by
  rw [read_eq, readFrom_eq, meaning]
  cases (options (splitCommand args).2).find? isUnknown with
  | some argument => rfl
  | none => simp [Except.bind, check, add, none]

/-! ## The places of the flags -/

theorem SameOptions.contains_eq (h : SameOptions front front') (flag : Text)
    (hflag : flag ∈ Arguments.flags) : front.contains flag = front'.contains flag := by
  rw [List.contains_eq_mem, List.contains_eq_mem, decide_eq_decide]
  exact h.flags flag hflag

/-- Where no option is unknown, whatever is no flag is a token. -/
theorem filter_isToken (h : front.find? isUnknown = .none) :
    front.filter isToken = front.filter (!flags.contains ·) := by
  refine List.filter_congr fun argument hargument => ?_
  rw [isToken, eq_false_of_ne_true (List.find?_eq_none.mp h argument hargument), Bool.not_false,
    Bool.and_true]

theorem meaning_congr {command : Command} (h : SameOptions (options args) (options args'))
    (hoperands : operands args = operands args') :
    meaning command args = meaning command args' := by
  rw [meaning, meaning, h.unknown]
  cases hunknown : (options args').find? isUnknown with
  | some argument => rfl
  | none =>
    have htokens := h.tokens
    rw [filter_isToken (h.unknown.trans hunknown), filter_isToken hunknown] at htokens
    simp only [htokens, hoperands, h.contains_eq "--json" (by decide),
      h.contains_eq "--require-duration-keyword" (by decide),
      h.contains_eq "--verbose" (by decide), h.contains_eq "-v" (by decide),
      h.contains_eq "--help" (by decide), h.contains_eq "-h" (by decide)]

/-- **What arguments mean.**  The command is what the first argument says, or else `token`, and the
list behind it is taken as a whole.  Where flags stand, and how often, does not matter as long as
the first argument stays the same.  A mistake is reported by name. -/
theorem read_eq_meaning :
    (∀ (command : Command) (args : List Text), read (command.word :: args) = meaning command args)
    ∧ (∀ args : List Text, (∀ command : Command, args.head? ≠ some command.word) →
      read args = meaning .token args)
    ∧ (∀ args args' : List Text, args.head? = args'.head? →
      SameOptions (options (splitCommand args).2) (options (splitCommand args').2) →
      operands (splitCommand args).2 = operands (splitCommand args').2 →
        read args = read args')
    ∧ (∀ argument, UsageError.message (.unknownOption argument) = "Unknown option: " ++ argument)
    ∧ UsageError.message .noTokens = "No tokens given" := by
  refine ⟨fun command args => ?_, fun args h => ?_, fun args args' hhead hoptions hoperands => ?_,
    fun _ => rfl, rfl⟩
  · rw [read_eq_meaning_splitCommand, splitCommand, Command.ofWord?_word]
  · rw [read_eq_meaning_splitCommand, splitCommand_of_head? h]
  · rw [read_eq_meaning_splitCommand, read_eq_meaning_splitCommand, splitCommand_fst, hhead,
      ← splitCommand_fst, meaning_congr hoptions hoperands]

/-- A word for a command is a token where it does not come first, and so is everything behind `--`.
A flag may stand between the tokens or twice, but an unknown option is a mistake even when help is
asked for. -/
theorem read_eq_meaning_instances :
    read ["-5", "name", "--", "--json"]
      = .ok ⟨.token, ["-5", "name", "--json"], false, false, false, false⟩
    ∧ read ["-h", "--jsn", "--"] = .error (.unknownOption "--jsn")
    ∧ read ["name", "a", "--json", "b", "-v", "--", "-h"]
      = read ["name", "-v", "--json", "a", "-v", "b", "--", "-h"] := by
  obtain ⟨-, htoken, hflags, -⟩ := read_eq_meaning
  refine ⟨(htoken _ ?_).trans (by decide), (htoken _ ?_).trans (by decide),
    hflags _ _ rfl ⟨by decide, by decide, by decide⟩ (by decide)⟩
  · intro command
    cases command with
    | _ => decide
  · intro command
    cases command with
    | _ => decide

end Arguments
end Cli
end ODataToken
