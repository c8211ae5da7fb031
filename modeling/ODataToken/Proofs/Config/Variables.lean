import Mathlib.Data.List.Pairwise
import ODataToken.Proofs.Config.Precedence
import ODataToken.Proofs.Json.Outline

/-!
# The order of environment variables

The variables are read one after another, and each writes into the record that those before it made.
So their order shows in the record, if only in the order of its fields.  Up to that it does not
matter where the paths are separate, that is where none of them begins another: a variable assigns
its value at the end of its path (`outline_toFields`), and assignments at the ends of separate paths
commute.

What a record says about the settings can be told from its outline (`Settings.over_congr_outline`),
so a load does not depend on the order either (`Store.load_variables`).

Which variables set what is said without the function that computes it.  `Environment.Splits` is the
relation between the rest of a name, in lower case, and a path: segments with separators between
them, which are a dot, two underscores, or one that no other follows.  A name has at most one path
(`Environment.path?_eq_some_iff`).  Lower-casing is that of the whole of Unicode, so names that
differ in the case of any letters set one field.
-/

set_option autoImplicit false

namespace ODataToken

open Json (HasDistinctKeys outline assign at?)

namespace Environment

/-! ## The path of a variable -/

/-- A segment of a path: a text without a dot and without `_`. -/
def IsSegment (t : Text) : Prop := CodeUnit.ofChar '.' ∉ t ∧ CodeUnit.ofChar '_' ∉ t

/-- The text separates two segments where `rest` follows: a dot, or two `_`, or one `_` that no
other follows. -/
def IsSeparator (separator rest : Text) : Prop :=
  separator = "." ∨ separator = "__"
    ∨ (separator = "_" ∧ rest.head? ≠ some (CodeUnit.ofChar '_'))

/-- A text is taken apart into segments.  Every `_` belongs to a separator, and of a row of them the
pairs are formed from the left. -/
inductive Splits : Text → List Text → Prop
  | last {segment : Text} (hsegment : IsSegment segment) : Splits segment [segment]
  | more {segment separator rest : Text} {path : List Text} (hsegment : IsSegment segment)
      (hseparator : IsSeparator separator rest) (hrest : Splits rest path) :
      Splits (segment ++ (separator ++ rest)) (segment :: path)

section Splits

variable {u : CodeUnit} {s t separator rest : Text} {path : List Text}

theorem isSegment_nil : IsSegment [] := ⟨List.not_mem_nil, List.not_mem_nil⟩

theorem dotted_cons_of_ne (h : u ≠ CodeUnit.ofChar '_') (t : Text) :
    dotted (u :: t) = u :: dotted t := by
  cases t with
  | nil => simp [dotted, h]
  | cons v t => simp [dotted, h]

theorem dotted_append (h : CodeUnit.ofChar '_' ∉ s) (t : Text) :
    dotted (s ++ t) = s ++ dotted t := by
  induction s with
  | nil => rfl
  | cons u s ih =>
    rw [List.mem_cons, not_or] at h
    rw [List.cons_append, dotted_cons_of_ne (Ne.symm h.1), ih h.2, List.cons_append]

theorem dotted_separator (h : IsSeparator separator rest) :
    dotted (separator ++ rest) = CodeUnit.ofChar '.' :: dotted rest := by
  obtain rfl | rfl | ⟨rfl, hrest⟩ := h
  · exact dotted_cons_of_ne (by decide) rest
  · rfl
  · cases rest with
    | nil => rfl
    | cons v rest =>
      rw [List.head?_cons, ne_eq, Option.some_inj] at hrest
      show dotted (CodeUnit.ofChar '_' :: v :: rest) = _
      rw [dotted, if_pos rfl, if_neg hrest]

/-- The segments are the parts between the dots once the dots are put. -/
theorem Splits.splitOn_dotted (h : Splits t path) :
    (dotted t).splitOn (CodeUnit.ofChar '.') = path := by
  induction h with
  | last hsegment =>
    have hdotted := dotted_append hsegment.2 []
    rw [List.append_nil, dotted, List.append_nil] at hdotted
    rw [hdotted, List.splitOn_eq_singleton hsegment.1]
  | more hsegment hseparator _ ih =>
    rw [dotted_append hsegment.2, dotted_separator hseparator,
      List.splitOn_append_cons_self_of_not_mem hsegment.1, ih]

/-- One more unit in front belongs to the first segment, or it is a dot and separates. -/
theorem Splits.exists_cons (h : Splits t path) (hu : u ≠ CodeUnit.ofChar '_') :
    ∃ path', Splits (u :: t) path' := by
  by_cases hdot : u = CodeUnit.ofChar '.'
  · subst hdot
    exact ⟨_, .more isSegment_nil (.inl rfl) h⟩
  · have hsegment {segment : Text} (hs : IsSegment segment) : IsSegment (u :: segment) :=
      ⟨List.not_mem_cons_of_ne_of_not_mem (Ne.symm hdot) hs.1,
        List.not_mem_cons_of_ne_of_not_mem (Ne.symm hu) hs.2⟩
    cases h with
    | last hs => exact ⟨_, .last (hsegment hs)⟩
    | more hs hseparator hrest => exact ⟨_, .more (hsegment hs) hseparator hrest⟩

theorem exists_splits (t : Text) : ∃ path, Splits t path := by
  fun_induction dotted t with
  | case1 => exact ⟨_, .last isSegment_nil⟩
  | case2 =>
    have hseparator : IsSeparator "_" [] := .inr (.inr ⟨rfl, nofun⟩)
    exact ⟨_, @Splits.more [] "_" [] _ isSegment_nil hseparator (.last isSegment_nil)⟩
  | case3 u hu => exact (Splits.last isSegment_nil).exists_cons hu
  | case4 rest ih =>
    obtain ⟨path, hpath⟩ := ih
    exact ⟨_, @Splits.more [] "__" rest _ isSegment_nil (.inr (.inl rfl)) hpath⟩
  | case5 v rest hv ih =>
    obtain ⟨path, hpath⟩ := ih
    have hseparator : IsSeparator "_" (v :: rest) :=
      .inr (.inr ⟨rfl, fun h => hv (Option.some.inj h)⟩)
    exact ⟨_, @Splits.more [] "_" (v :: rest) _ isSegment_nil hseparator hpath⟩
  | case6 u v rest hu ih =>
    obtain ⟨path, hpath⟩ := ih
    exact hpath.exists_cons hu

/-- **Putting dots and splitting there takes a text apart** as its separators do. -/
theorem splitOn_dotted_eq_iff :
    (dotted t).splitOn (CodeUnit.ofChar '.') = path ↔ Splits t path := by
  refine ⟨?_, Splits.splitOn_dotted⟩
  rintro rfl
  obtain ⟨path, hpath⟩ := exists_splits t
  rwa [hpath.splitOn_dotted]

/-- **The path of a variable** is what its name, behind the lead and in lower case, is taken apart
into. -/
theorem path?_eq_some_iff {name : Text} :
    path? name = some path ↔ ∃ rest, name = lead ++ rest ∧ Splits rest.toLowercase path := by
  rw [path?, Option.ite_none_right_eq_some, List.isPrefixOf_iff_prefix, Option.some_inj,
    splitOn_dotted_eq_iff]
  constructor
  · rintro ⟨⟨rest, rfl⟩, h⟩
    rw [List.drop_left] at h
    exact ⟨rest, rfl, h⟩
  · rintro ⟨rest, rfl, h⟩
    rw [List.drop_left]
    exact ⟨List.prefix_append _ _, h⟩

end Splits

theorem path?_ne_nil {name : Text} {path : List Text} (h : path? name = some path) :
    path ≠ [] := by
  rw [path?] at h
  split at h
  · obtain rfl := Option.some.inj h
    exact List.splitOn_ne_nil _ _
  · cases h

/-! ## The outline of the record that the variables set -/

theorem value_fields? (text : Text) : (value text).fields? = none := by
  rw [value]
  split
  · rfl
  · split
    · rfl
    · rfl

/-- **Setting a value is an assignment at the end of the path.** -/
theorem outline_setPath {v : Json} (hv : v.fields? = none) {path : List Text} (hpath : path ≠ [])
    (fields : Fields) : outline (setPath v path fields) = assign v path (outline fields) := by
  induction path generalizing fields with
  | nil => exact absurd rfl hpath
  | cons key more ih =>
    cases more with
    | nil => exact Json.outline_insert_of_fields? hv
    | cons next rest =>
      have hmore : next :: rest ≠ [] := List.cons_ne_nil _ _
      exact Json.outline_insert_obj hmore (ih hmore _)

/-- An outline after one more variable. -/
def assignVariable (view : List Text → Option Json) (assignment : Text × Text) :
    List Text → Option Json :=
  match path? assignment.1 with
  | some path => assign (value assignment.2) path view
  | none => view

theorem outline_apply (fields : Fields) (assignment : Text × Text) :
    outline (apply fields assignment) = assignVariable (outline fields) assignment := by
  simp only [apply, assignVariable]
  cases hpath : path? assignment.1 with
  | none => rfl
  | some path => exact outline_setPath (value_fields? _) (path?_ne_nil hpath) fields

theorem outline_foldl_apply (environment : Environment) (fields : Fields) :
    outline (environment.foldl apply fields)
      = environment.foldl assignVariable (outline fields) := by
  induction environment generalizing fields with
  | nil => rfl
  | cons assignment rest ih => rw [List.foldl_cons, List.foldl_cons, ih, outline_apply]

/-- **The variables assign one after another**, beginning with an empty record. -/
theorem outline_toFields (environment : Environment) :
    outline environment.toFields = environment.foldl assignVariable (outline []) :=
  outline_foldl_apply environment []

/-! ## Separate paths -/

/-- Neither of two variables has a path that begins the other's. -/
def Apart (name other : Text) : Prop :=
  ∀ p ∈ path? name, ∀ q ∈ path? other, ¬ p <+: q ∧ ¬ q <+: p

instance (name other : Text) : Decidable (Apart name other) :=
  inferInstanceAs (Decidable (∀ p ∈ path? name, ∀ q ∈ path? other, ¬ p <+: q ∧ ¬ q <+: p))

/-- No two variables have paths of which one begins the other. -/
def Separate (environment : Environment) : Prop :=
  environment.Pairwise fun a b => Apart a.1 b.1

instance (environment : Environment) : Decidable (Separate environment) :=
  inferInstanceAs (Decidable (environment.Pairwise fun a b => Apart a.1 b.1))

instance : Std.Symm fun a b : Text × Text => Apart a.1 b.1 where
  symm _ _ h p hp q hq := (h q hq p hp).symm

variable {environment environment' : Environment} {a b : Text × Text}

theorem assignVariable_comm (h : Apart a.1 b.1) (view : List Text → Option Json) :
    assignVariable (assignVariable view a) b = assignVariable (assignVariable view b) a := by
  simp only [assignVariable]
  cases ha : path? a.1 with
  | none => rfl
  | some p =>
    cases hb : path? b.1 with
    | none => rfl
    | some q =>
      obtain ⟨hpq, hqp⟩ := h p ha q hb
      exact Json.assign_comm hqp hpq

/-- **The outline does not depend on the order of the variables.** -/
theorem outline_perm (hseparate : environment.Separate) (hperm : environment.Perm environment') :
    outline environment.toFields = outline environment'.toFields := by
  rw [outline_toFields, outline_toFields]
  refine hperm.foldl_eq' (fun a ha b hb view => ?_) _
  by_cases hab : a = b
  · rw [hab]
  · exact assignVariable_comm (List.Pairwise.forall hseparate ha hb hab) view

/-- What a variable has set is left in place by variables whose paths are separate from its own. -/
theorem foldl_assignVariable_of_apart {path : List Text} (hpath : path? a.1 = some path)
    (h : ∀ b ∈ environment, Apart a.1 b.1) (view : List Text → Option Json) :
    environment.foldl assignVariable view path = view path := by
  induction environment generalizing view with
  | nil => rfl
  | cons b rest ih =>
    obtain ⟨hb, hrest⟩ := List.forall_mem_cons.mp h
    rw [List.foldl_cons, ih hrest, assignVariable]
    cases hother : path? b.1 with
    | none => rfl
    | some q =>
      obtain ⟨hpq, hqp⟩ := hb path hpath q hother
      exact Json.assign_of_not_prefix hqp hpq

/-- **A variable's value stands at the end of its path.** -/
theorem at?_toFields {name text : Text} {path : List Text} (hseparate : environment.Separate)
    (hmem : (name, text) ∈ environment) (hpath : path? name = some path) :
    at? path (.obj environment.toFields) = some (value text) := by
  obtain ⟨before, after, rfl⟩ := List.append_of_mem hmem
  have hafter : ∀ b ∈ after, Apart name b.1 :=
    (List.pairwise_cons.mp (List.pairwise_append.mp hseparate).2.1).1
  have houtline :
      outline (toFields (before ++ (name, text) :: after)) path = some (value text) := by
    rw [outline_toFields, List.foldl_append, List.foldl_cons,
      foldl_assignVariable_of_apart (a := (name, text)) hpath hafter, assignVariable, hpath]
    exact Json.assign_self
  obtain ⟨j, hj, hhollow⟩ := Option.map_eq_some_iff.mp houtline
  rw [hj, Json.eq_of_hollow_eq hhollow (value_fields? text)]

end Environment

/-! ## What settings depend on -/

section Outline

variable {α : Type} {valid? : Json → Option α} {fallback missing : α} {fields fields' : Fields}

theorem value_ofKey_congr (hrecord : ∀ fields, valid? (.obj fields) = none)
    (h : outline fields = outline fields') (key : Text) :
    (Entry.ofKey key fields).value valid? fallback missing
      = (Entry.ofKey key fields').value valid? fallback missing := by
  rcases Json.lookup?_of_outline_eq h key with hsame | ⟨inner, inner', hvalue, hvalue', -⟩
  · rw [Entry.ofKey, Entry.ofKey, hsame]
  · simp only [Entry.ofKey, hvalue, hvalue', Entry.value, hrecord]

theorem value_ofGroup_congr (hrecord : ∀ fields, valid? (.obj fields) = none)
    (h : outline fields = outline fields') (group key : Text) :
    (Entry.ofGroup group key fields).value valid? fallback missing
      = (Entry.ofGroup group key fields').value valid? fallback missing := by
  rcases Json.lookup?_of_outline_eq h group with hsame | ⟨inner, inner', hvalue, hvalue', hinner⟩
  · rw [Entry.ofGroup, Entry.ofGroup, hsame]
  · rw [ofGroup_of_record hvalue, ofGroup_of_record hvalue']
    exact value_ofKey_congr hrecord hinner key

/-- **Settings over which a record is laid** depend on the outline of the record only. -/
theorem Settings.over_congr_outline (h : outline fields = outline fields') (base : Settings) :
    base.over [fields] = base.over [fields'] := by
  simp only [Settings.over, Field.value, List.map_cons, List.map_nil, Entry.first_singleton,
    Settings.mk.injEq]
  exact ⟨value_ofKey_congr (fun _ => rfl) h _, value_ofGroup_congr (fun _ => rfl) h _ _,
    value_ofGroup_congr (fun _ => rfl) h _ _⟩

end Outline

/-! ## Loading -/

namespace Store

variable {environment environment' : Environment}

theorem resolve_perm {file : Fields} (hfile : HasDistinctKeys (.obj file))
    (hseparate : environment.Separate) (hperm : environment.Perm environment') :
    resolve file environment.toFields = resolve file environment'.toFields := by
  rw [resolve_eq hfile (Environment.toFields_distinctKeys _),
    resolve_eq hfile (Environment.toFields_distinctKeys _), Settings.over_cons,
    Settings.over_congr_outline (Environment.outline_perm hseparate hperm), ← Settings.over_cons]

/-- **The order of the variables does not matter** where no two of the program's variables have
paths of which one begins the other.  A load from the same variables in another order makes the same
store and logs the same, and in the record of the variables each has its value at the end of its
path.  The path is what follows `ODATA_LITERAL_`, in lower case, taken apart at every dot, every
`__` and every `_` that remains. -/
theorem load_variables (environment : Environment) (hseparate : environment.Separate) :
    (∀ environment', environment.Perm environment' → ∀ search : SearchResult,
      search.HasDistinctKeys → load ⟨search, environment⟩ = load ⟨search, environment'⟩)
    ∧ (∀ name text path, (name, text) ∈ environment → Environment.path? name = some path →
      at? path (.obj environment.toFields)
        = some (if text = "1" ∨ text = "true" then .bool true
            else if text = "0" ∨ text = "false" ∨ text = [] then .bool false
            else .str text))
    ∧ ∀ name path, Environment.path? name = some path
      ↔ ∃ rest, name = Environment.lead ++ rest ∧ Environment.Splits rest.toLowercase path := by
  refine ⟨fun environment' hperm search hsearch => ?_, fun name text path hmem hpath => ?_,
    fun name path => Environment.path?_eq_some_iff⟩
  · have hresolve := resolve_perm hsearch.record hseparate hperm
    rw [← contribution_fst] at hresolve
    simp only [load, hresolve]
  · exact Environment.at?_toFields hseparate hmem hpath

/-- Four of the program's variables and one of another program.  The third path ends in two empty
segments, and the name of the fourth has letters of two alphabets. -/
theorem load_variables_instances :
    let environment : Environment := [
      ("HOME", "/root"), ("ODATA_LITERAL_DEBUG", "true"), ("ODATA_LITERAL_OUTPUT___", ""),
      ("ODATA_LITERAL_OUTPUT__Ж", "json"), ("ODATA_LITERAL_Duration_Keyword", "required")]
    environment.Separate
      ∧ (∀ search : SearchResult, search.HasDistinctKeys →
        load ⟨search, environment⟩ = load ⟨search, environment.reverse⟩)
      ∧ at? ["output", "", ""] (.obj environment.toFields) = some (.bool false)
      ∧ at? ["output", "ж"] (.obj environment.toFields) = some (.str "json")
      ∧ Environment.Splits (Text.toLowercase "OUTPUT___") [("output" : Text), "", ""] := by
  intro environment
  have hseparate : environment.Separate := by decide +kernel
  obtain ⟨hperm, hat, hpath⟩ := load_variables environment hseparate
  refine ⟨hseparate, hperm _ environment.reverse_perm.symm, ?_, ?_, ?_⟩
  · exact hat "ODATA_LITERAL_OUTPUT___" "" _ (by decide +kernel) (by decide +kernel)
  · exact hat "ODATA_LITERAL_OUTPUT__Ж" "json" _ (by decide +kernel) (by decide +kernel)
  · obtain ⟨rest, hname, hsplits⟩ :=
      (hpath "ODATA_LITERAL_OUTPUT___" ["output", "", ""]).mp (by decide +kernel)
    obtain rfl : Text.ofString "OUTPUT___" = rest :=
      List.append_cancel_left (show Environment.lead ++ _ = Environment.lead ++ rest from hname)
    exact hsplits

/-- Where one path begins the other, the later variable takes the place of the earlier one. -/
example :
    resolve [] (Environment.toFields
        [("ODATA_LITERAL_OUTPUT", "1"), ("ODATA_LITERAL_OUTPUT_FORMAT", "json")])
        = ⟨false, .optional, .json⟩
      ∧ resolve [] (Environment.toFields
        [("ODATA_LITERAL_OUTPUT_FORMAT", "json"), ("ODATA_LITERAL_OUTPUT", "1")])
        = ⟨false, .optional, .text⟩ := by
  decide +kernel

end Store
end ODataToken
