import ODataToken.Cli.Run
import ODataToken.Proofs.Cli.Arguments
import ODataToken.Proofs.Json.RoundTrip

/-!
# What a run writes

A run over tokens writes to two streams, and its logger writes to one of them in between.  Still
nothing passes from one token to the next, nor from the logger to the results: the lines on the
output stream, and those on the error stream that no logger wrote, are found token by token
(`outputs_flatMap_tokenEvents`, `errorLines_flatMap_tokenEvents`).

`run_tokens` says what a run comes to under settings that are loaded already.

* Each token that is read gives one line.  An ordinary line is the kind of the token, a space and
  its canonical text.  A line of JSON is known by what it reads back as: an object of the token, the
  alternative that read it and the value, with no other fields (`read?_outputLine`).
* Tokens given together are read like tokens given one group after the other.
* Asking for more to be logged changes neither the results nor the exit code.
-/

set_option autoImplicit false

namespace ODataToken
namespace Cli

variable {job : Job} {text : Text} {tokens : List Text} {events events' : List Event}

/-! ## The two streams -/

/-- The line is one of a logger. -/
def isLoggerLine (line : Text) : Bool := ("[odata-literal:" : Text).isPrefixOf line

/-- The line of an event on the output stream. -/
def Event.output? : Event → Option Text
  | output line => some line
  | _ => none

/-- The line of an event on the error stream, unless a logger wrote it. -/
def Event.errorLine? : Event → Option Text
  | complaint line => if isLoggerLine line then none else some line
  | _ => none

/-- The lines on the output stream. -/
def outputs (events : List Event) : List Text := events.filterMap Event.output?

/-- The lines on the error stream that no logger wrote. -/
def errorLines (events : List Event) : List Text := events.filterMap Event.errorLine?

@[simp] theorem outputs_append : outputs (events ++ events') = outputs events ++ outputs events' :=
  List.filterMap_append

@[simp] theorem errorLines_append :
    errorLines (events ++ events') = errorLines events ++ errorLines events' :=
  List.filterMap_append

theorem isLoggerLine_format (logger : Logger) (message : Text) :
    isLoggerLine (logger.format message) = true := by
  rw [isLoggerLine, List.isPrefixOf_iff_prefix, Logger.format, List.append_assoc, List.append_assoc]
  exact List.prefix_append _ _

theorem isLoggerLine_error (message : Text) : isLoggerLine ("error: " ++ message) = false := rfl

@[simp] theorem outputs_debugEvents (logger : Logger) (message : Text) :
    outputs (debugEvents logger message) = [] := by
  simp only [outputs, debugEvents, List.filterMap_map]
  exact List.filterMap_eq_nil_iff.mpr fun _ _ => rfl

@[simp] theorem errorLines_debugEvents (logger : Logger) (message : Text) :
    errorLines (debugEvents logger message) = [] := by
  simp only [errorLines, debugEvents, List.filterMap_map, Logger.write]
  split
  · rfl
  · simp [Event.errorLine?, isLoggerLine_format]

/-- A logger that is not verbose writes nothing. -/
theorem debugEvents_of_not_verbose {logger : Logger} (h : logger.verbose = false)
    (message : Text) : debugEvents logger message = [] := by
  simp [debugEvents, Logger.write, h]

/-! ## One token -/

/-- The line for a text that can be read as the command says. -/
def answer? (command : Command) (options : LiteralOptions) (json : Bool) (text : Text) :
    Option Text :=
  (parseWith command options text).toOption.map (outputLine json text)

/-- The line for a text that cannot be read as the command says. -/
def rejection? (command : Command) (options : LiteralOptions) (text : Text) : Option Text :=
  match parseWith command options text with
  | .ok _ => none
  | .error e => some ("error: " ++ e.message)

/-- A token is answered on the output stream, or not at all. -/
theorem outputs_tokenEvents (job : Job) (text : Text) :
    outputs (tokenEvents job text) = (answer? job.command job.options job.json text).toList := by
  unfold tokenEvents answer?
  cases parseWith job.command job.options text with
  | ok found => simp only [outputs_append, outputs_debugEvents]; rfl
  | error e => rfl

/-- A token is rejected on the error stream, or not at all. -/
theorem errorLines_tokenEvents (job : Job) (text : Text) :
    errorLines (tokenEvents job text) = (rejection? job.command job.options text).toList := by
  unfold tokenEvents rejection?
  cases parseWith job.command job.options text with
  | ok found => simp only [errorLines_append, errorLines_debugEvents]; rfl
  | error e => simp [errorLines, Event.errorLine?, isLoggerLine_error]

theorem isRead_iff : isRead job text = true ↔ rejection? job.command job.options text = none := by
  unfold isRead rejection?
  cases parseWith job.command job.options text <;> simp [Except.toOption]

/-! ## One line -/

open Json (HasDistinctKeys)

/-- A record of these keys repeats none if the list of them does not. -/
theorem distinctKeys_of_keys (keys : List Text) (hkeys : keys.Nodup) {fields : Fields}
    (h : fields.map Prod.fst = keys)
    (hvalues : fields.Forall fun field => HasDistinctKeys field.2) :
    HasDistinctKeys (.obj fields) :=
  .obj (h ▸ hkeys) (List.forall_iff_forall_mem.mp hvalues)

theorem date_distinctKeys (d : CalendarDate) : HasDistinctKeys d.toJson :=
  distinctKeys_of_keys ["year", "month", "day"] (by decide) rfl ⟨.int _, .int _, .int _⟩

theorem time_distinctKeys (t : TimeOfDay) : HasDistinctKeys t.toJson :=
  distinctKeys_of_keys ["hour", "minute", "second", "nanosecond"] (by decide) rfl
    ⟨.int _, .int _, .int _, .int _⟩

theorem literal_distinctKeys (l : Literal) : HasDistinctKeys l.toJson := by
  refine distinctKeys_of_keys ["kind", "value"] (by decide) rfl ⟨.str _, ?_⟩
  cases l with
  | null => exact .null
  | boolean value => exact .bool value
  | float value =>
    show HasDistinctKeys (if value.isFinite then .float value else .str (floatText value))
    split
    · exact .float value
    · exact .str _
  | date value => exact date_distinctKeys value
  | time value => exact time_distinctKeys value
  | dateTimeOffset value =>
    exact distinctKeys_of_keys ["date", "time", "offsetMinutes"] (by decide) rfl
      ⟨date_distinctKeys value.date, time_distinctKeys value.time, .int _⟩
  | _ => exact .str _

theorem token_distinctKeys (token : Token) : HasDistinctKeys (tokenJson token) := by
  cases token with
  | literal l => exact literal_distinctKeys l
  | name n =>
    refine distinctKeys_of_keys ["kind", "segments"] (by decide) rfl ⟨.str _, .arr ?_⟩
    intro item hitem
    obtain ⟨segment, -, rfl⟩ := List.mem_map.mp hitem
    exact .str segment

/-- The JSON form of a token as it can be read off its line.  That of a finite float has the number
that its digits denote. -/
def lineJson : Token → Json
  | .literal (.float value) =>
    .obj [("kind", .str "float"),
      ("value", if value.isFinite then Json.numberValue (floatNotation value)
        else .str (floatText value))]
  | token => tokenJson token

theorem readBackItems_map_str (texts : List Text) :
    Json.readBackItems (texts.map .str) = texts.map .str := by
  induction texts with
  | nil => rfl
  | cons text texts ih => exact congrArg (Json.str text :: ·) ih

theorem readBack_tokenJson (token : Token) : (tokenJson token).readBack = lineJson token := by
  cases token with
  | literal l =>
    cases l with
    | float value =>
      simp only [tokenJson, lineJson, Literal.toJson, Literal.valueToJson, Literal.kind,
        Json.readBack, Json.readBackFields]
      by_cases h : value.isFinite = true
      · simp only [if_pos h, Json.readBack]
      · simp only [if_neg h, Json.readBack]
    | _ => rfl
  | name n =>
    show Json.obj [_, ("segments", .arr (Json.readBackItems _))] = _
    rw [readBackItems_map_str]
    rfl

/-- **The JSON line of a token reads back** as a record of its text, of the alternative that read
it, and of its JSON form. -/
theorem read?_outputLine (text : Text) (found : Attributed Token) :
    Json.read? (outputLine true text found)
      = some (.obj [("input", .str text), ("alternative", .str found.alternative),
          ("value", lineJson found.value)]) := by
  have hline : HasDistinctKeys (.obj [("input", .str text), ("alternative", .str found.alternative),
      ("value", tokenJson found.value)]) :=
    distinctKeys_of_keys ["input", "alternative", "value"] (by decide) rfl
      ⟨.str _, .str _, token_distinctKeys _⟩
  rw [outputLine, if_pos rfl, Json.read?_render hline, ← readBack_tokenJson]
  rfl

/-! ## All tokens -/

theorem outputs_flatMap_tokenEvents (job : Job) (tokens : List Text) :
    outputs (tokens.flatMap (tokenEvents job))
      = tokens.filterMap (answer? job.command job.options job.json) := by
  induction tokens with
  | nil => rfl
  | cons text tokens ih =>
    rw [List.flatMap_cons, outputs_append, outputs_tokenEvents, ih, List.filterMap_cons]
    cases answer? job.command job.options job.json text <;> rfl

theorem errorLines_flatMap_tokenEvents (job : Job) (tokens : List Text) :
    errorLines (tokens.flatMap (tokenEvents job))
      = tokens.filterMap (rejection? job.command job.options) := by
  induction tokens with
  | nil => rfl
  | cons text tokens ih =>
    rw [List.flatMap_cons, errorLines_append, errorLines_tokenEvents, ih, List.filterMap_cons]
    cases rejection? job.command job.options text <;> rfl

theorem all_isRead_iff :
    tokens.all (isRead job) = true
      ↔ ¬ ∃ text ∈ tokens, (rejection? job.command job.options text).isSome = true := by
  simp only [List.all_eq_true, isRead_iff, ← Option.not_isSome_iff_eq_none, not_exists, not_and]

/-! ## Runs -/

section Run

variable {surroundings : Surroundings} {store : Store} {args args' : List Text} {a : Arguments}

/-- The job that a run does, under the settings in force once they are loaded. -/
def runJob (surroundings : Surroundings) (store : Store) (a : Arguments) : Job :=
  jobOf a (store.ensureLoaded surroundings).1.settings

theorem run_of_read (h : Arguments.read args = .ok a) (hhelp : a.help = false) :
    let job := runJob surroundings store a
    run surroundings store args
      = ⟨if a.tokens.all (isRead job) then 0 else 1,
          (store.ensureLoaded surroundings).2.map .logged
            ++ preamble job (store.ensureLoaded surroundings).1.path a.tokens
            ++ a.tokens.flatMap (tokenEvents job),
          (store.ensureLoaded surroundings).1⟩ := by
  simp [run, h, hhelp, runJob]

theorem outputs_logged (lines : List LogLine) : outputs (lines.map .logged) = [] := by
  rw [outputs, List.filterMap_map]
  exact List.filterMap_eq_nil_iff.mpr fun _ _ => rfl

theorem errorLines_logged (lines : List LogLine) : errorLines (lines.map .logged) = [] := by
  rw [errorLines, List.filterMap_map]
  exact List.filterMap_eq_nil_iff.mpr fun _ _ => rfl

/-- **The output stream has a line for each token that can be read, in order.** -/
theorem outputs_run (h : Arguments.read args = .ok a) (hhelp : a.help = false) :
    let job := runJob surroundings store a
    outputs (run surroundings store args).events
      = a.tokens.filterMap (answer? job.command job.options job.json) := by
  intro job
  rw [run_of_read h hhelp]
  simp only [outputs_append, outputs_logged, preamble, outputs_debugEvents, List.nil_append]
  exact outputs_flatMap_tokenEvents job a.tokens

/-- **The error stream has a line for each token that cannot, and else only lines of loggers.** -/
theorem errorLines_run (h : Arguments.read args = .ok a) (hhelp : a.help = false) :
    let job := runJob surroundings store a
    errorLines (run surroundings store args).events
      = a.tokens.filterMap (rejection? job.command job.options) := by
  intro job
  rw [run_of_read h hhelp]
  simp only [errorLines_append, errorLines_logged, preamble, errorLines_debugEvents,
    List.nil_append]
  exact errorLines_flatMap_tokenEvents job a.tokens

theorem exitCode_run (h : Arguments.read args = .ok a) (hhelp : a.help = false) :
    let job := runJob surroundings store a
    (run surroundings store args).exitCode
      = if ∃ text ∈ a.tokens, (rejection? job.command job.options text).isSome = true then 1
        else 0 := by
  intro job
  rw [run_of_read h hhelp]
  by_cases hall : a.tokens.all (isRead job) = true
  · rw [if_neg (all_isRead_iff.mp hall)]
    exact if_pos hall
  · rw [if_pos (not_not.mp (all_isRead_iff.not.mp hall))]
    exact if_neg hall

/-- Nothing but the logger depends on how much is to be logged. -/
theorem run_eq_of_verbose {v : Bool} (h : Arguments.read args = .ok a)
    (h' : Arguments.read args' = .ok { a with verbose := v }) :
    let report := run surroundings store args
    let report' := run surroundings store args'
    outputs report'.events = outputs report.events
      ∧ errorLines report'.events = errorLines report.events
      ∧ report'.exitCode = report.exitCode := by
  intro report report'
  cases hhelp : a.help with
  | true =>
    have heq : report' = report := by simp [report, report', run, h, h', hhelp]
    rw [heq]
    exact ⟨rfl, rfl, rfl⟩
  | false =>
    exact ⟨(outputs_run h' hhelp).trans (outputs_run h hhelp).symm,
      (errorLines_run h' hhelp).trans (errorLines_run h hhelp).symm,
      (exitCode_run h' hhelp).trans (exitCode_run h hhelp).symm⟩

end Run

/-! ## Runs under settings that are loaded already -/

section Settled

variable {surroundings : Surroundings} {settings : Settings} {path : Option Text}
  {command : Option Command} {flags tokens : List Text}

/-- The job that a command and flags describe, whatever the tokens are. -/
def flagsJob (command : Option Command) (flags : List Text) (settings : Settings) : Job :=
  jobOf ⟨command.getD .token, [], flags.contains ("--json" : Text),
    flags.contains ("--require-duration-keyword" : Text), false, false⟩ settings

/-- Where nothing is logged, what happens is what happens for each of the tokens. -/
theorem run_commandLine (hflags : ∀ flag ∈ flags, Arguments.IsPlainFlag flag)
    (htokens : tokens ≠ []) (hdebug : settings.debug = false) :
    let job := flagsJob command flags settings
    run surroundings ⟨settings, true, path⟩ (Arguments.commandLine command flags tokens)
      = ⟨if tokens.all (isRead job) then 0 else 1, tokens.flatMap (tokenEvents job),
          ⟨settings, true, path⟩⟩ := by
  intro job
  have hquiet : job.logger.verbose = false := by
    show (false || settings.debug) = false
    rw [hdebug, Bool.or_self]
  have hpreamble : preamble job path tokens = [] := by
    simp only [preamble, debugEvents_of_not_verbose hquiet, List.append_nil]
  rw [run_of_read (Arguments.read_commandLine hflags htokens) rfl]
  show Report.mk _ ([] ++ preamble job path tokens ++ _) _ = _
  rw [hpreamble]
  rfl

end Settled

/-- **A run that logs more has the same results**, wherever among the options it is told to. -/
theorem run_insert_verbose {surroundings : Surroundings} {store : Store} {flag : Text}
    {front back : List Text} (hflag : flag = "--verbose" ∨ flag = "-v")
    (hfront : Text.ofString "--" ∉ front)
    (hfirst : front = [] → ∀ word ∈ back.head?, Command.ofWord? word = none) :
    let report := run surroundings store (front ++ back)
    let report' := run surroundings store (front ++ flag :: back)
    outputs report'.events = outputs report.events
      ∧ errorLines report'.events = errorLines report.events
      ∧ report'.exitCode = report.exitCode := by
  have hinsert := Arguments.read_insert_verbose hflag hfront hfirst
  cases h : Arguments.read (front ++ back) with
  | ok a => exact run_eq_of_verbose h (hinsert.trans (congrArg _ h))
  | error e =>
    have h' : Arguments.read (front ++ flag :: back) = .error e := hinsert.trans (congrArg _ h)
    simp [run, h, h']

end Cli
end ODataToken
