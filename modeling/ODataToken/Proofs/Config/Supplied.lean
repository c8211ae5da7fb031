import ODataToken.Config.Settings
import ODataToken.Proofs.Config.Fields

/-!
# What a program supplies

A record of a program may leave a field undefined or not mention it, which comes to the same.  Its
known part, of which the groups are always records, says the same about every setting as the whole
record does, as long as the groups that it has are records (`Supplied.known_agreeOnSettings`).
-/

set_option autoImplicit false

namespace ODataToken

/-! ## Undefined fields -/

namespace Supplied

variable {key : Text} {v : Supplied} {fields : List (Text × Supplied)}

theorem get_of_not_mem (h : key ∉ fields.map Prod.fst) : get key fields = undefined := by
  induction fields with
  | nil => rfl
  | cons field rest ih =>
    rw [List.map_cons, List.mem_cons, not_or] at h
    rw [get, if_neg (Ne.symm h.1), ih h.2]

theorem get_eq_undefined_or_mem (key : Text) (fields : List (Text × Supplied)) :
    get key fields = undefined ∨ (key, get key fields) ∈ fields := by
  induction fields with
  | nil => exact .inl rfl
  | cons field rest ih =>
    rw [get]
    split
    · rename_i hfield
      exact .inr (hfield ▸ List.mem_cons_self)
    · exact ih.imp_right (List.mem_cons_of_mem _)

/-- What is defined under a key, as an undefined field is the same as none. -/
theorem lookup?_definedFields (h : (fields.map Prod.fst).Nodup) (key : Text) :
    Json.lookup? key (definedFields fields) = (get key fields).defined? := by
  induction fields with
  | nil => rfl
  | cons field rest ih =>
    obtain ⟨k, v⟩ := field
    obtain ⟨hk, hrest⟩ := List.nodup_cons.mp h
    rw [definedFields, get]
    by_cases hkey : k = key
    · subst hkey
      rw [if_pos rfl]
      cases hv : v.defined? with
      | none => rw [ih hrest, get_of_not_mem hk, defined?]
      | some j => rw [Json.lookup?, if_pos rfl]
    · rw [if_neg hkey, ← ih hrest]
      cases v.defined? with
      | none => rfl
      | some j => rw [Json.lookup?, if_neg hkey]

theorem definedFields_json (fields : Fields) :
    definedFields (fields.map fun field => (field.1, json field.2)) = fields := by
  induction fields with
  | nil => rfl
  | cons field rest ih => simp only [List.map_cons, definedFields, defined?, ih]

/-- A record is defined, and it is what its fields are. -/
theorem defined?_of_fields? (h : v.fields? = some fields) :
    v.defined? = some (.obj (definedFields fields)) := by
  cases v with
  | undefined => cases h
  | json value =>
    obtain ⟨inner, hinner, rfl⟩ := Option.map_eq_some_iff.mp h
    rw [defined?, Json.fields?_eq_some_iff.mp hinner, definedFields_json]
  | record inner =>
    obtain rfl := Option.some.inj h
    rfl

/-! ## Distinct keys -/

theorem keys_definedFields (fields : List (Text × Supplied)) :
    ((definedFields fields).map Prod.fst).Sublist (fields.map Prod.fst) := by
  induction fields with
  | nil => exact List.Sublist.slnil
  | cons field rest ih =>
    rw [definedFields]
    split
    · exact ih.cons _
    · exact ih.cons_cons _

theorem mem_definedFields {field : Text × Json} (h : field ∈ definedFields fields) :
    ∃ v, (field.1, v) ∈ fields ∧ v.defined? = some field.2 := by
  induction fields with
  | nil => cases h
  | cons head rest ih =>
    rw [definedFields] at h
    split at h
    · obtain ⟨v, hmem, hv⟩ := ih h
      exact ⟨v, List.mem_cons_of_mem _ hmem, hv⟩
    · rcases List.mem_cons.mp h with rfl | h
      · exact ⟨_, List.mem_cons_self, ‹_›⟩
      · obtain ⟨v, hmem, hv⟩ := ih h
        exact ⟨v, List.mem_cons_of_mem _ hmem, hv⟩

theorem nodup_known (fields : List (Text × Supplied)) :
    ((known fields).map Prod.fst).Nodup := by
  change (["debug", "duration", "output"] : List Text).Nodup
  decide

namespace HasDistinctKeys

theorem keys_nodup (h : (Supplied.record fields).HasDistinctKeys) :
    (fields.map Prod.fst).Nodup := by
  cases h with
  | record hkeys hvalues => exact hkeys

theorem defined? (h : v.HasDistinctKeys) {j : Json} (hj : v.defined? = some j) :
    j.HasDistinctKeys := by
  induction h generalizing j with
  | undefined => cases hj
  | json hvalue =>
    obtain rfl := Option.some.inj hj
    exact hvalue
  | record hkeys hvalues ih =>
    obtain rfl := Option.some.inj hj
    refine .obj (hkeys.sublist (keys_definedFields _)) fun field hfield => ?_
    obtain ⟨v, hmem, hv⟩ := mem_definedFields hfield
    exact ih _ hmem hv

theorem get (h : (Supplied.record fields).HasDistinctKeys) (key : Text) :
    (get key fields).HasDistinctKeys := by
  rcases get_eq_undefined_or_mem key fields with heq | hmem
  · rw [heq]
    exact .undefined
  · cases h with
    | record hkeys hvalues => exact hvalues _ hmem

theorem fields? (h : v.HasDistinctKeys) (hfields : v.fields? = some fields) :
    (Supplied.record fields).HasDistinctKeys := by
  cases v with
  | undefined => cases hfields
  | record inner =>
    obtain rfl := Option.some.inj hfields
    exact h
  | json value =>
    obtain ⟨inner, hinner, rfl⟩ := Option.map_eq_some_iff.mp hfields
    cases h with
    | json hvalue =>
      have hdistinct := hvalue.of_fields? hinner
      refine .record ?_ fun field hfield => ?_
      · rw [List.map_map]
        exact hdistinct.keys_nodup
      · obtain ⟨origin, horigin, rfl⟩ := List.mem_map.mp hfield
        exact .json (hdistinct.of_mem horigin)

theorem group (h : (Supplied.record fields).HasDistinctKeys) (key : Text) :
    (group key fields).HasDistinctKeys := by
  rw [Supplied.group]
  cases hfields : (Supplied.get key fields).fields? with
  | none => exact .record List.nodup_nil (by simp)
  | some inner => exact (h.get key).fields? hfields

/-- The known part of a record repeats no key either. -/
theorem known (h : (Supplied.record fields).HasDistinctKeys) :
    (Supplied.record (known fields)).HasDistinctKeys := by
  refine .record (nodup_known fields) ?_
  simp only [Supplied.known, List.forall_mem_cons]
  exact ⟨h.get "debug", h.group "duration", h.group "output", by simp⟩

end HasDistinctKeys
end Supplied

/-! ## What counts of it -/

/-- The record that a program supplies, without what is undefined in it. -/
def UserConfig.record (values : UserConfig) : Fields := Supplied.definedFields values.fields

namespace Supplied

variable {key : Text} {fields : List (Text × Supplied)}

/-- A group counts as it is, and an undefined one as an empty record. -/
theorem ofGroup_known (hkeys : (fields.map Prod.fst).Nodup) (hgroup : (get key fields).IsGroup)
    (hknown : get key (known fields) = group key fields) (k : Text) :
    Entry.ofGroup key k (definedFields (known fields))
      = Entry.ofGroup key k (definedFields fields) := by
  have habove := lookup?_definedFields (nodup_known fields) key
  have hlookup := lookup?_definedFields hkeys key
  rw [hknown, group] at habove
  rcases hgroup with hundefined | hfields
  · rw [hundefined] at habove hlookup
    rw [ofGroup_of_record habove]
    simp only [Entry.ofGroup, hlookup]
    rfl
  · obtain ⟨inner, hinner⟩ := Option.isSome_iff_exists.mp hfields
    rw [hinner] at habove
    rw [defined?_of_fields? hinner] at hlookup
    rw [ofGroup_of_record habove, ofGroup_of_record hlookup]
    rfl

/-- **Nothing is lost with the unknown keys.**  The known part of a record says the same about every
setting as the whole record. -/
theorem known_agreeOnSettings (values : UserConfig) :
    AgreeOnSettings (definedFields (known values.fields)) values.record := by
  have hkeys := values.distinct.keys_nodup
  refine ⟨?_, ofGroup_known hkeys values.duration rfl "keyword",
    ofGroup_known hkeys values.output rfl "format"⟩
  change Entry.ofKey _ _ = Entry.ofKey _ _
  rw [Entry.ofKey, Entry.ofKey, lookup?_definedFields (nodup_known values.fields),
    UserConfig.record, lookup?_definedFields hkeys]
  rfl

end Supplied
end ODataToken
