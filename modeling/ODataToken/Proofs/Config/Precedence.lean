import ODataToken.Config.Store
import ODataToken.Proofs.Config.Fields
import ODataToken.Proofs.Json.Reader

/-!
# Which source a loaded setting comes from

A load merges the record of the environment over the record of the config file over the defaults.
The environment decides a setting if it mentions it at all, even with an invalid value, and else the
file does (`Store.load_precedence`).

Nothing is assumed about where the file is looked for, in which format it is, or what a search that
fails says.  The one thing that a search has to keep to is that no record in what it finds repeats a
key (`SearchResult.HasDistinctKeys`), and no value that a program holds in memory does.  The record
that the environment makes keeps to it (`Environment.toFields_distinctKeys`), and so does whatever
the search among files with JSON texts finds (`Search.run_distinctKeys`).
-/

set_option autoImplicit false

namespace ODataToken

open Json (HasDistinctKeys hasDistinctKeys_nil)

/-! ## The record of the environment -/

namespace Environment

theorem value_distinctKeys (text : Text) : HasDistinctKeys (value text) := by
  rw [value]
  split
  · exact .bool true
  · split
    · exact .bool false
    · exact .str text

/-- The record found under a key, or an empty one. -/
theorem group_distinctKeys {fields : Fields} (h : HasDistinctKeys (.obj fields)) (key : Text) :
    HasDistinctKeys (.obj (((Json.lookup? key fields).bind Json.fields?).getD [])) := by
  cases hvalue : Json.lookup? key fields with
  | none => exact hasDistinctKeys_nil
  | some v => exact (h.of_lookup? hvalue).getD_fields?

theorem setPath_distinctKeys {v : Json} (hv : HasDistinctKeys v) (path : List Text) :
    ∀ {fields : Fields}, HasDistinctKeys (.obj fields) →
      HasDistinctKeys (.obj (setPath v path fields)) := by
  induction path with
  | nil => exact id
  | cons key more ih =>
    intro fields h
    cases more with
    | nil => exact h.insert hv key
    | cons next rest => exact h.insert (ih (group_distinctKeys h key)) key

theorem apply_distinctKeys {fields : Fields} (h : HasDistinctKeys (.obj fields))
    (assignment : Text × Text) : HasDistinctKeys (.obj (apply fields assignment)) := by
  rw [apply]
  split
  · exact setPath_distinctKeys (value_distinctKeys _) _ h
  · exact h

theorem foldl_apply_distinctKeys (environment : Environment) :
    ∀ {fields : Fields}, HasDistinctKeys (.obj fields) →
      HasDistinctKeys (.obj (environment.foldl apply fields)) := by
  induction environment with
  | nil => exact id
  | cons assignment rest ih => exact fun h => ih (apply_distinctKeys h assignment)

/-- The record that the variables set repeats no key. -/
theorem toFields_distinctKeys (environment : Environment) :
    HasDistinctKeys (.obj environment.toFields) :=
  foldl_apply_distinctKeys environment hasDistinctKeys_nil

end Environment

/-! ## The record of the config file -/

/-- The record that a search finds; nothing else than a record counts. -/
def SearchResult.record : SearchResult → Fields
  | found _ content => content.fields?.getD []
  | _ => []

theorem contribution_fst (result : SearchResult) :
    (Store.contribution result).1 = result.record := by
  cases result with
  | found path content =>
    cases content with
    | _ => rfl
  | _ => rfl

namespace SearchResult

/-- What was found repeats no key, as is so for every value that is read from a file. -/
def HasDistinctKeys : SearchResult → Prop
  | found _ content => content.HasDistinctKeys
  | _ => True

theorem HasDistinctKeys.record {result : SearchResult} (h : result.HasDistinctKeys) :
    Json.HasDistinctKeys (.obj result.record) := by
  cases result with
  | found path content => exact Json.HasDistinctKeys.getD_fields? h
  | _ => exact hasDistinctKeys_nil

end SearchResult

/-! ## Loading -/

namespace Store

theorem resolve_eq {file environment : Fields} (hfile : HasDistinctKeys (.obj file))
    (henvironment : HasDistinctKeys (.obj environment)) :
    resolve file environment = Settings.defaults.over [environment, file] := by
  have hkeys : ∀ record ∈ [environment, file], HasDistinctKeys (.obj record) :=
    List.forall_mem_cons.mpr ⟨henvironment, List.forall_mem_singleton.mpr hfile⟩
  exact Settings.ofFields_stack hkeys .defaults

theorem load_settings (surroundings : Surroundings) :
    (load surroundings).1.settings
      = resolve surroundings.search.record surroundings.environment.toFields := by
  rw [← contribution_fst]
  rfl

/-- **The environment counts more than the file, setting by setting.**  A loaded setting is what the
environment says about it, or else what the file says about it, and its default if that is invalid
or blocked or if neither says anything; nothing else in the two records has an effect. -/
theorem load_precedence :
    (∀ surroundings : Surroundings, surroundings.search.HasDistinctKeys →
      (load surroundings).1.settings = Settings.defaults.over
        [surroundings.environment.toFields, surroundings.search.record])
    ∧ (∀ file environment : Fields,
      HasDistinctKeys (.obj file) → HasDistinctKeys (.obj environment) →
        resolve file environment = Settings.defaults.over [environment, file])
    ∧ ∀ file file' environment environment' : Fields,
      HasDistinctKeys (.obj file) → HasDistinctKeys (.obj file') →
      HasDistinctKeys (.obj environment) → HasDistinctKeys (.obj environment') →
      AgreeOnSettings file file' → AgreeOnSettings environment environment' →
        resolve file environment = resolve file' environment' := by
  refine ⟨fun surroundings hsearch => ?_, fun _ _ => resolve_eq, ?_⟩
  · rw [load_settings]
    exact resolve_eq hsearch.record (Environment.toFields_distinctKeys _)
  · intro file file' environment environment' hfile hfile' henvironment henvironment' hsame hsame'
    rw [resolve_eq hfile henvironment, resolve_eq hfile' henvironment', Settings.over_cons,
      Settings.over_congr hsame, Settings.over_congr hsame', ← Settings.over_cons]

/-- The file asks for a keyword and has a number where its output settings belong.  A variable of
another name in the group of the keyword leaves the file's word in force. -/
theorem load_precedence_keyword :
    let file : Fields := [("duration", .obj [("keyword", .str "required")]), ("output", .int 5)]
    let environment : Fields := [("debug", .bool true), ("duration", .obj [("unit", .str "h")])]
    let surroundings : Surroundings :=
      ⟨.found "/rc.json" (.obj file), [("ODATA_LITERAL_DURATION_UNIT", "h")]⟩
    (load surroundings).1.settings = ⟨false, .required, .text⟩
      ∧ HasDistinctKeys (.obj file) ∧ HasDistinctKeys (.obj environment)
      ∧ resolve file environment = ⟨true, .required, .text⟩
      ∧ resolve file [("debug", .bool true)] = ⟨true, .required, .text⟩ := by
  intro file environment surroundings
  have hfile : HasDistinctKeys (.obj file) := by
    refine .obj (by decide) (List.forall_mem_cons.mpr ⟨?_, List.forall_mem_singleton.mpr (.int 5)⟩)
    exact .obj (by decide) (List.forall_mem_singleton.mpr (.str _))
  have henvironment : HasDistinctKeys (.obj environment) := by
    refine .obj (by decide)
      (List.forall_mem_cons.mpr ⟨.bool true, List.forall_mem_singleton.mpr ?_⟩)
    exact .obj (by decide) (List.forall_mem_singleton.mpr (.str _))
  have hdebug : HasDistinctKeys (.obj [("debug", .bool true)]) :=
    .obj (by decide) (List.forall_mem_singleton.mpr (.bool true))
  obtain ⟨hload, hresolve, hagree⟩ := load_precedence
  refine ⟨(hload surroundings hfile).trans (by decide +kernel), hfile, henvironment,
    (hresolve _ _ hfile henvironment).trans (by decide), ?_⟩
  rw [hagree _ _ _ _ hfile hfile hdebug henvironment ⟨rfl, rfl, rfl⟩ ⟨rfl, rfl, rfl⟩]
  exact (hresolve _ _ hfile henvironment).trans (by decide)

end Store

/-! ## The search among files with JSON texts -/

namespace Search

theorem select?_distinctKeys {place : Place} {content selected : Json} (h : HasDistinctKeys content)
    (hselect : select? place content = some selected) : HasDistinctKeys selected := by
  rw [select?] at hselect
  split at hselect
  · obtain rfl := Option.some.inj hselect
    exact h
  · obtain ⟨fields, hfields, hvalue⟩ := Option.bind_eq_some_iff.mp hselect
    exact (h.of_fields? hfields).of_lookup? hvalue

theorem examine?_distinctKeys {directory : Directory} {place : Place} {result : SearchResult}
    (h : examine? directory place = some result) : result.HasDistinctKeys := by
  simp only [examine?] at h
  split at h
  · cases h
  · split at h
    · cases h
    · split at h
      · obtain rfl := Option.some.inj h
        trivial
      · rename_i read hread
        split at h
        · cases h
        · cases h
        · rename_i selected _ hselect
          obtain rfl := Option.some.inj h
          exact select?_distinctKeys (FileFormat.read?_distinctKeys hread) hselect

/-- **What the search finds repeats no key**, so a load from it is as `Store.load_precedence`
says. -/
theorem run_distinctKeys (directory : Directory) : (run directory).HasDistinctKeys := by
  rw [run]
  cases hfirst : places.findSome? (examine? directory) with
  | none => trivial
  | some result =>
    obtain ⟨place, -, hplace⟩ := List.exists_of_findSome?_eq_some hfirst
    exact examine?_distinctKeys hplace

end Search
end ODataToken
