import ODataToken.Config.Settings
import ODataToken.Proofs.Json.Keys

/-!
# What records say about the settings

A record is asked about each of the three settings on its own (`Entry`): it may not mention the
setting, it may supply a value for it, valid or not, or it may have something else where the group
of the setting belongs.  Given several records, the first one that mentions a setting decides
(`Settings.over`).

Merging puts one record in place of several, and what the merged record says need not be what any
of them says: a record laid over a record is a third one, and a group laid over a scalar hides the
scalar.  What it comes to is the same all the same, as `Field.Reads` states for one setting and one
merge.
-/

set_option autoImplicit false

namespace ODataToken

/-- What a record says about a setting. -/
inductive Entry where
  | absent
  /-- There is something else than a record where the group of the setting belongs. -/
  | blocked
  | supplied (value : Json)

namespace Entry

/-- What a record says about a key. -/
def ofKey (key : Text) (fields : Fields) : Entry :=
  match Json.lookup? key fields with
  | none => absent
  | some value => supplied value

/-- What a record says about a key of a group. -/
def ofGroup (group key : Text) (fields : Fields) : Entry :=
  match Json.lookup? group fields with
  | none => absent
  | some value =>
    match value.fields? with
    | none => blocked
    | some inner => ofKey key inner

/-- The first entry that is not absent. -/
def first : List Entry → Entry
  | [] => absent
  | absent :: rest => first rest
  | blocked :: _ => blocked
  | supplied value :: _ => supplied value

/-- The value that an entry comes to: `missing` if there is none, and `fallback` if it is invalid or
blocked. -/
def value {α : Type} (valid? : Json → Option α) (fallback missing : α) : Entry → α
  | absent => missing
  | blocked => fallback
  | supplied v => (valid? v).getD fallback

end Entry

/-- A setting: where a record has it, which values of it are valid, and its default. -/
structure Field (α : Type) where
  entry : Fields → Entry
  valid? : Json → Option α
  fallback : α

/-- A truth value. -/
def truth? : Json → Option Bool
  | .bool b => some b
  | _ => none

/-- One of some words. -/
def word? {α : Type} (words : List (Text × α)) : Json → Option α
  | .str t => words.lookup t
  | _ => none

namespace Field

/-- Whether to log. -/
def debug : Field Bool := ⟨Entry.ofKey "debug", truth?, false⟩

/-- Whether a duration needs its keyword. -/
def durationKeyword : Field DurationKeyword where
  entry := Entry.ofGroup "duration" "keyword"
  valid? := word? [("optional", .optional), ("required", .required)]
  fallback := .optional

/-- How results are shown. -/
def outputFormat : Field OutputFormat where
  entry := Entry.ofGroup "output" "format"
  valid? := word? [("text", .text), ("json", .json)]
  fallback := .text

/-- The value of a setting by some records, of which the first that mentions it decides. -/
def value {α : Type} (field : Field α) (records : List Fields) (missing : α) : α :=
  (Entry.first (records.map field.entry)).value field.valid? field.fallback missing

end Field

/-- Some settings with records over them, of which the first that mentions a setting decides. -/
def Settings.over (base : Settings) (records : List Fields) : Settings where
  debug := Field.debug.value records base.debug
  durationKeyword := Field.durationKeyword.value records base.durationKeyword
  outputFormat := Field.outputFormat.value records base.outputFormat

/-- The records say the same about every setting; they may differ in anything else. -/
def AgreeOnSettings (fields fields' : Fields) : Prop :=
  Field.debug.entry fields = Field.debug.entry fields'
    ∧ Field.durationKeyword.entry fields = Field.durationKeyword.entry fields'
    ∧ Field.outputFormat.entry fields = Field.outputFormat.entry fields'

section Over

variable {α : Type} {fields fields' : Fields}

theorem Field.value_cons (field : Field α) (record : Fields) (records : List Fields) (missing : α) :
    field.value (record :: records) missing
      = field.value [record] (field.value records missing) := by
  simp only [Field.value, List.map_cons, List.map_nil]
  cases field.entry record with
  | _ => rfl

namespace Settings

/-- The first record goes over the settings that the others make. -/
theorem over_cons (base : Settings) (record : Fields) (records : List Fields) :
    base.over (record :: records) = (base.over records).over [record] := by
  rw [Settings.mk.injEq]
  exact ⟨Field.value_cons _ _ _ _, Field.value_cons _ _ _ _, Field.value_cons _ _ _ _⟩

theorem over_congr (h : AgreeOnSettings fields fields') (base : Settings) :
    base.over [fields] = base.over [fields'] := by
  obtain ⟨hdebug, hduration, houtput⟩ := h
  simp only [Settings.over, Field.value, List.map_cons, List.map_nil, hdebug, hduration, houtput]

end Settings
end Over

/-! ## The first entry that counts -/

section Entry

variable {α : Type} {valid? : Json → Option α} {fallback missing default : α} {v : Json}

namespace Entry

theorem first_singleton (entry : Entry) : first [entry] = entry := by
  cases entry with
  | _ => rfl

theorem value_first_congr {rest rest' : List Entry} (entry : Entry)
    (h : (first rest).value valid? fallback missing = (first rest').value valid? fallback missing) :
    (first (entry :: rest)).value valid? fallback missing
      = (first (entry :: rest')).value valid? fallback missing := by
  cases entry with
  | absent => exact h
  | _ => rfl

/-- A valid entry at the end is what is missing otherwise. -/
theorem value_first_concat (hvalid : valid? v = some default) (entries : List Entry) :
    (first (entries ++ [supplied v])).value valid? fallback missing
      = (first entries).value valid? fallback default := by
  induction entries with
  | nil => simp [first, value, hvalid]
  | cons entry rest ih =>
    cases entry with
    | absent => exact ih
    | _ => rfl

end Entry

/-! ## Merged records -/

variable {fields above : Fields}

/-- Merging does not make a value valid or invalid, as no record is valid. -/
theorem valid?_mergeOver (hrecord : ∀ fields, valid? (.obj fields) = none) (under : Option Json)
    (v : Json) : valid? (Json.mergeOver under v) = valid? v := by
  cases hv : v.fields? with
  | none => rw [Json.mergeOver_of_fields? hv]
  | some fields =>
    obtain rfl := Json.fields?_eq_some_iff.mp hv
    cases hunder : under.bind Json.fields? with
    | none => rw [Json.mergeOver_obj_of_fields? hunder]
    | some below =>
      obtain rfl := Json.bind_fields?_eq_some_iff.mp hunder
      rw [Json.mergeOver_obj_obj, hrecord, hrecord]

theorem value_ofKey_mergeFields (hrecord : ∀ fields, valid? (.obj fields) = none)
    (hkeys : (above.map Prod.fst).Nodup) (key : Text) (below : Fields) :
    (Entry.ofKey key (Json.mergeFields below above)).value valid? fallback fallback
      = (Entry.first [.ofKey key above, .ofKey key below]).value valid? fallback fallback := by
  simp only [Entry.ofKey, Json.lookup?_mergeFields hkeys]
  cases Json.lookup? key above with
  | none => exact congrArg _ (Entry.first_singleton (.ofKey key below)).symm
  | some v => exact congrArg (Option.getD · fallback) (valid?_mergeOver hrecord _ v)

theorem ofGroup_of_record {group : Text} {inner : Fields}
    (h : Json.lookup? group fields = some (.obj inner)) (key : Text) :
    Entry.ofGroup group key fields = .ofKey key inner := by
  simp only [Entry.ofGroup, h, Json.fields?]

/-- Without a record for its group a setting has no value. -/
theorem value_ofGroup_of_fields? {group : Text}
    (h : (Json.lookup? group fields).bind Json.fields? = none) (key : Text) :
    (Entry.ofGroup group key fields).value valid? fallback fallback = fallback := by
  rw [Entry.ofGroup]
  cases hvalue : Json.lookup? group fields with
  | none => rfl
  | some v =>
    rw [hvalue, Option.bind_some] at h
    simp only [h, Entry.value]

/-- **Merging groups.**  A group over something else than a record leaves nothing of it, so the
setting is missing where it was blocked; that is why `fallback` stands for both. -/
theorem value_ofGroup_mergeFields (hrecord : ∀ fields, valid? (.obj fields) = none)
    (hkeys : Json.HasDistinctKeys (.obj above)) (group key : Text) (below : Fields) :
    (Entry.ofGroup group key (Json.mergeFields below above)).value valid? fallback fallback
      = (Entry.first [.ofGroup group key above, .ofGroup group key below]).value
          valid? fallback fallback := by
  have hmerged := Json.lookup?_mergeFields hkeys.keys_nodup group below
  cases habove : Json.lookup? group above with
  | none =>
    simp only [habove] at hmerged
    simp only [Entry.ofGroup, habove, hmerged]
    exact congrArg _ (Entry.first_singleton (.ofGroup group key below)).symm
  | some v =>
    simp only [habove] at hmerged
    cases hv : v.fields? with
    | none =>
      rw [Json.mergeOver_of_fields? hv] at hmerged
      simp only [Entry.ofGroup, habove, hmerged, hv, Entry.first]
    | some inner =>
      obtain rfl := Json.fields?_eq_some_iff.mp hv
      rw [ofGroup_of_record habove]
      cases hbelow : (Json.lookup? group below).bind Json.fields? with
      | none =>
        rw [Json.mergeOver_obj_of_fields? hbelow] at hmerged
        have hrest : (Entry.first [.ofGroup group key below]).value valid? fallback fallback
            = (Entry.first []).value valid? fallback fallback := by
          rw [Entry.first_singleton, value_ofGroup_of_fields? hbelow]
          rfl
        rw [ofGroup_of_record hmerged, Entry.value_first_congr _ hrest, Entry.first_singleton]
      | some fields =>
        have hfields := Json.bind_fields?_eq_some_iff.mp hbelow
        rw [hfields, Json.mergeOver_obj_obj] at hmerged
        rw [ofGroup_of_record hmerged, ofGroup_of_record hfields,
          value_ofKey_mergeFields hrecord (hkeys.of_lookup? habove).keys_nodup]

end Entry

/-! ## Reading settings off merged records -/

section Reads

variable {α : Type} {word : α → Text} {allowed : List α} {fallback : α}

theorem find?_eq_lookup (t : Text) (allowed : List α) :
    (allowed.find? fun a => word a == t) = (allowed.map fun a => (word a, a)).lookup t := by
  induction allowed with
  | nil => rfl
  | cons a rest ih =>
    rw [List.map_cons, List.lookup_cons, List.find?_cons, ih, BEq.comm]

theorem pick_some (v : Json) :
    Settings.pick word allowed fallback (some v)
      = (word? (allowed.map fun a => (word a, a)) v).getD fallback := by
  cases v with
  | str t => exact congrArg (Option.getD · fallback) (find?_eq_lookup t allowed)
  | _ => rfl

theorem pick_group (group key : Text) (fields : Fields) :
    Settings.pick word allowed fallback (Json.lookup? key (Settings.group group fields))
      = (Entry.ofGroup group key fields).value (word? (allowed.map fun a => (word a, a)))
          fallback fallback := by
  cases hgroup : (Json.lookup? group fields).bind Json.fields? with
  | none =>
    rw [value_ofGroup_of_fields? hgroup, Settings.group, hgroup]
    rfl
  | some inner =>
    rw [ofGroup_of_record (Json.bind_fields?_eq_some_iff.mp hgroup), Settings.group, hgroup,
      Option.getD_some, Entry.ofKey]
    cases Json.lookup? key inner with
    | none => rfl
    | some v => exact pick_some v

theorem pickBool_lookup? {fallback : Bool} (key : Text) (fields : Fields) :
    Settings.pickBool fallback (Json.lookup? key fields)
      = (Entry.ofKey key fields).value truth? fallback fallback := by
  rw [Entry.ofKey]
  cases Json.lookup? key fields with
  | none => rfl
  | some v =>
    cases v with
    | _ => rfl

/-- A setting of which `get` is the value: how it is read off a record, what merging does to it, and
that the record of some settings supplies it. -/
structure Field.Reads (field : Field α) (get : Settings → α) : Prop where
  ofFields : ∀ fields, get (.ofFields fields)
    = (field.entry fields).value field.valid? field.fallback field.fallback
  merge : ∀ {above : Fields}, Json.HasDistinctKeys (.obj above) → ∀ below,
    (field.entry (Json.mergeFields below above)).value field.valid? field.fallback field.fallback
      = (Entry.first [field.entry above, field.entry below]).value
          field.valid? field.fallback field.fallback
  toFields : ∀ s : Settings, ∃ v, field.entry s.toFields = .supplied v
    ∧ field.valid? v = some (get s)

theorem debug_reads : Field.debug.Reads Settings.debug where
  ofFields := pickBool_lookup? "debug"
  merge hkeys := value_ofKey_mergeFields (fun _ => rfl) hkeys.keys_nodup "debug"
  toFields s := ⟨.bool s.debug, rfl, rfl⟩

theorem durationKeyword_reads : Field.durationKeyword.Reads Settings.durationKeyword where
  ofFields := pick_group "duration" "keyword"
  merge hkeys := value_ofGroup_mergeFields (fun _ => rfl) hkeys "duration" "keyword"
  toFields s := by
    refine ⟨.str s.durationKeyword.word, rfl, ?_⟩
    cases s.durationKeyword with
    | _ => rfl

theorem outputFormat_reads : Field.outputFormat.Reads Settings.outputFormat where
  ofFields := pick_group "output" "format"
  merge hkeys := value_ofGroup_mergeFields (fun _ => rfl) hkeys "output" "format"
  toFields s := by
    refine ⟨.str s.outputFormat.word, rfl, ?_⟩
    cases s.outputFormat with
    | _ => rfl

/-- Records over a base, the first one on top. -/
def stack (records : List Fields) (base : Fields) : Fields :=
  records.foldr (fun above below => Json.mergeFields below above) base

namespace Field.Reads

variable {field : Field α} {get : Settings → α} (h : field.Reads get)

include h

theorem value_stack {records : List Fields}
    (hkeys : ∀ record ∈ records, Json.HasDistinctKeys (.obj record)) (base : Fields) :
    (field.entry (stack records base)).value field.valid? field.fallback field.fallback
      = (Entry.first (records.map field.entry ++ [field.entry base])).value
          field.valid? field.fallback field.fallback := by
  induction records with
  | nil => rw [List.map_nil, List.nil_append, Entry.first_singleton]; rfl
  | cons record rest ih =>
    obtain ⟨hrecord, hrest⟩ := List.forall_mem_cons.mp hkeys
    refine (h.merge hrecord _).trans (Entry.value_first_congr _ ?_)
    rw [Entry.first_singleton]
    exact ih hrest

/-- **The first record that mentions the setting decides**, and without one the settings below the
records do. -/
theorem get_stack {records : List Fields}
    (hkeys : ∀ record ∈ records, Json.HasDistinctKeys (.obj record)) (base : Settings) :
    get (.ofFields (stack records base.toFields)) = field.value records (get base) := by
  obtain ⟨v, hentry, hvalid⟩ := h.toFields base
  rw [h.ofFields, h.value_stack hkeys, hentry, Entry.value_first_concat hvalid, Field.value]

end Field.Reads

/-- **Settings with records over them** are read off the records merged in that order. -/
theorem Settings.ofFields_stack {records : List Fields}
    (hkeys : ∀ record ∈ records, Json.HasDistinctKeys (.obj record)) (base : Settings) :
    Settings.ofFields (stack records base.toFields) = base.over records := by
  rw [Settings.mk.injEq]
  exact ⟨debug_reads.get_stack hkeys base, durationKeyword_reads.get_stack hkeys base,
    outputFormat_reads.get_stack hkeys base⟩

end Reads
end ODataToken
