import ODataToken.Config.Store
import ODataToken.Proofs.Config.Precedence

/-!
# Config files that are of no use

A search can end with an error, as at a file that cannot be read or does not denote a value, or it
can find a file whose value is no record.  Either way a load takes no settings from the file, so
what it finds in the environment goes over the defaults as if there were no file
(`Store.load_unused_file`).  This goes for every error, whatever its text is, and for every value
that is no record.

The two differ in what is left of the file.  An error leaves nothing but a warning with its text.  A
value that is no record is warned about as well, but the path of its file stays in the store, as the
path of the file that was loaded.
-/

set_option autoImplicit false

namespace ODataToken
namespace Store

/-! ## What a search leaves behind -/

/-- The warning about a search that ended with an error. -/
def failureWarning (message : Text) : LogLine :=
  ⟨.warn, logger.format ("Failed to load config file: " ++ message)⟩

/-- The warning about a file whose value is no record. -/
def ignoredWarning (path : Text) : LogLine :=
  ⟨.warn, logger.format ("Ignoring " ++ path ++ ": expected an object")⟩

/-- The notice that names the file of the settings. -/
def loadedNotice (path : Text) : LogLine := ⟨.log, logger.format ("Loaded " ++ path)⟩

variable {surroundings : Surroundings} {path message : Text} {content : Json}

theorem load_of_nothing (h : surroundings.search = .nothing) :
    load surroundings = (⟨resolve [] surroundings.environment.toFields, true, none⟩, []) := by
  rw [load, h]
  rfl

theorem load_of_failed (h : surroundings.search = .failed message) :
    load surroundings
      = (⟨resolve [] surroundings.environment.toFields, true, none⟩,
          [failureWarning message]) := by
  rw [load, h]
  rfl

theorem contribution_of_fields? (h : content.fields? = none) :
    contribution (.found path content) = ([], some path, [ignoredWarning path]) := by
  cases content with
  | obj fields => cases h
  | _ => rfl

theorem load_of_fields? (h : surroundings.search = .found path content)
    (hcontent : content.fields? = none) :
    load surroundings
      = (⟨resolve [] surroundings.environment.toFields, true, some path⟩,
          ignoredWarning path
            :: if (resolve [] surroundings.environment.toFields).debug then [loadedNotice path]
              else []) := by
  rw [load, h, contribution_of_fields? hcontent]
  rfl

/-! ## What can be seen of it -/

/-- All that can be read from a store: the settings, how literals are read, and the path. -/
def observe (store : Store) (world : World) : Answer × Answer × Answer :=
  ((store.perform world .getAll).answer, (store.perform world .literalOptions).answer,
    (store.perform world .getConfigFilePath).answer)

/-- **A file that is of no use.**  If a search ends with an error, a load leaves the store as it is
left without a file in the same environment, and logs a warning.  If it finds a value that is no
record, the store has the path of the file in addition, and the settings are those without a
file. -/
theorem load_unused_file (store store' : Store) (world world' : World)
    (searchFrom searchFrom' : Option Text) (henvironment : world.environment = world'.environment)
    (hnothing : world'.search searchFrom' = .nothing) :
    let after := store.perform world (.load searchFrom)
    let clean := store'.perform world' (.load searchFrom')
    (∀ message, world.search searchFrom = .failed message →
      after.store = clean.store
        ∧ after.logged = failureWarning message :: clean.logged
        ∧ ∀ later, after.store.observe later = clean.store.observe later)
    ∧ ∀ path content, world.search searchFrom = .found path content →
      content.fields? = none →
        after.store = { clean.store with path := some path }
        ∧ after.logged = ignoredWarning path
            :: (clean.logged ++ if clean.store.settings.debug then [loadedNotice path] else [])
        ∧ ∀ later, (clean.store.observe later).2.2 = .path none
          ∧ after.store.observe later
            = ((clean.store.observe later).1, (clean.store.observe later).2.1,
                .path (some path)) := by
  have hclean : load (world'.surroundings searchFrom')
      = (⟨resolve [] world.environment.toFields, true, none⟩, []) := by
    rw [henvironment]
    exact load_of_nothing hnothing
  simp only [perform, hclean]
  refine ⟨fun message h => ?_, fun path content h hcontent => ?_⟩
  · rw [load_of_failed h]
    exact ⟨rfl, rfl, fun _ => rfl⟩
  · rw [load_of_fields? h hcontent]
    exact ⟨rfl, rfl, fun _ => ⟨rfl, rfl⟩⟩

/-- A world in which a search comes to this, and a variable asks to log. -/
def worldWith (search : SearchResult) : World := ⟨fun _ => search, [("ODATA_LITERAL_DEBUG", "1")]⟩

/-- A search that ends with an error, and one that finds a list: its file is named as the file of
the settings right after it is said to be ignored. -/
theorem load_unused_file_instances :
    (initial.perform (worldWith (.failed "EACCES: permission denied")) (.load none)).store
        = (initial.perform (worldWith .nothing) (.load none)).store
      ∧ (initial.perform (worldWith (.found "/rc.json" (.arr []))) (.load none)).store
        = { (initial.perform (worldWith .nothing) (.load none)).store with path := some "/rc.json" }
      ∧ (initial.perform (worldWith (.found "/rc.json" (.arr []))) (.load none)).logged
        = [ignoredWarning "/rc.json", loadedNotice "/rc.json"] := by
  have hfailed := load_unused_file initial initial
    (worldWith (.failed "EACCES: permission denied")) (worldWith .nothing) none none rfl rfl
  have hlist := load_unused_file initial initial (worldWith (.found "/rc.json" (.arr [])))
    (worldWith .nothing) none none rfl rfl
  have hdebug :
      (initial.perform (worldWith .nothing) (.load none)).store.settings.debug = true := by
    decide +kernel
  obtain ⟨hstore, hlogged, -⟩ := hlist.2 "/rc.json" (.arr []) rfl rfl
  refine ⟨(hfailed.1 _ rfl).1, hstore, hlogged.trans ?_⟩
  rw [if_pos hdebug]
  rfl

/-- **A list in the place of a record leaves its path behind**, as no load without a file does. -/
theorem load_array_keeps_path :
    ((initial.perform (worldWith (.found "/rc.json" (.arr []))) (.load none)).store.observe
        (worldWith .nothing)).2.2 = .path (some "/rc.json")
      ∧ ((initial.perform (worldWith .nothing) (.load none)).store.observe
        (worldWith .nothing)).2.2 = .path none :=
  ⟨by decide +kernel, by decide +kernel⟩

end Store
end ODataToken
