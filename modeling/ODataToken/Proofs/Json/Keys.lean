import Mathlib.Data.List.Nodup
import ODataToken.Json.Basic

/-!
# Records whose keys are distinct

A record is a list of fields, and only one without repeated keys stands for a record.  Writing a
field keeps the keys distinct (`HasDistinctKeys.insert`), and one record laid over another can then
be told key by key (`lookup?_mergeFields`).
-/

set_option autoImplicit false

namespace ODataToken
namespace Json

variable {key k : Text} {value v j : Json} {fields below above : Fields}

/-- The value of a key, if the value with the key is a record. -/
def get? (key : Text) (j : Json) : Option Json := j.fields?.bind (lookup? key)

/-! ## Distinct keys -/

theorem fields?_eq_some_iff : j.fields? = some fields ↔ j = .obj fields := by
  cases j with
  | obj inner => simp [fields?]
  | _ => simp [fields?]

theorem bind_fields?_eq_some_iff {o : Option Json} :
    o.bind fields? = some fields ↔ o = some (.obj fields) := by
  simp [Option.bind_eq_some_iff, fields?_eq_some_iff]

theorem hasDistinctKeys_nil : HasDistinctKeys (.obj []) := .obj List.nodup_nil (by simp)

theorem mem_of_lookup? (h : lookup? key fields = some value) : (key, value) ∈ fields := by
  induction fields with
  | nil => cases h
  | cons f rest ih =>
    rw [lookup?] at h
    split at h
    · rename_i hf
      obtain rfl := Option.some.inj h
      rw [← hf]
      exact List.mem_cons_self
    · exact List.mem_cons_of_mem _ (ih h)

theorem lookup?_eq_none_iff : lookup? key fields = none ↔ key ∉ fields.map Prod.fst := by
  induction fields with
  | nil => simp [lookup?]
  | cons f rest ih =>
    by_cases hf : f.1 = key
    · simp [lookup?, hf]
    · simp [lookup?, hf, ih, Ne.symm hf]

namespace HasDistinctKeys

theorem keys_nodup (h : HasDistinctKeys (.obj fields)) : (fields.map Prod.fst).Nodup := by
  cases h with
  | obj hkeys hvalues => exact hkeys

theorem of_mem (h : HasDistinctKeys (.obj fields)) {field : Text × Json} (hfield : field ∈ fields) :
    HasDistinctKeys field.2 := by
  cases h with
  | obj hkeys hvalues => exact hvalues _ hfield

/-- The value of a key has distinct keys as well. -/
theorem of_lookup? (h : HasDistinctKeys (.obj fields)) (hvalue : lookup? key fields = some value) :
    HasDistinctKeys value :=
  h.of_mem (mem_of_lookup? hvalue)

theorem of_fields? (h : HasDistinctKeys j) (hfields : j.fields? = some fields) :
    HasDistinctKeys (.obj fields) := by
  obtain rfl := fields?_eq_some_iff.mp hfields
  exact h

theorem getD_fields? (h : HasDistinctKeys j) : HasDistinctKeys (.obj (j.fields?.getD [])) := by
  cases hfields : j.fields? with
  | none => exact hasDistinctKeys_nil
  | some fields => exact h.of_fields? hfields

end HasDistinctKeys

/-! ## Writing a field -/

/-- A new key comes last. -/
theorem keys_insert (key : Text) (value : Json) (fields : Fields) :
    (insert key value fields).map Prod.fst
      = if key ∈ fields.map Prod.fst then fields.map Prod.fst
        else fields.map Prod.fst ++ [key] := by
  induction fields with
  | nil => rfl
  | cons f rest ih =>
    by_cases hf : f.1 = key
    · simp [insert, hf]
    · by_cases hrest : key ∈ rest.map Prod.fst
      · rw [if_pos hrest] at ih
        simp only [insert, hf, if_false, List.map_cons, ih]
        rw [if_pos (List.mem_cons_of_mem _ hrest)]
      · rw [if_neg hrest] at ih
        simp only [insert, hf, if_false, List.map_cons, ih]
        rw [if_neg (by simpa [Ne.symm hf] using hrest), List.cons_append]

theorem mem_insert {field : Text × Json} (h : field ∈ insert key value fields) :
    field.2 = value ∨ field ∈ fields := by
  induction fields with
  | nil =>
    obtain rfl := List.mem_singleton.mp h
    exact .inl rfl
  | cons f rest ih =>
    rw [insert] at h
    split at h
    · rcases List.mem_cons.mp h with rfl | h
      · exact .inl rfl
      · exact .inr (List.mem_cons_of_mem _ h)
    · rcases List.mem_cons.mp h with rfl | h
      · exact .inr List.mem_cons_self
      · exact (ih h).imp_right (List.mem_cons_of_mem _)

/-- **Writing a field keeps the keys distinct.** -/
theorem HasDistinctKeys.insert (h : HasDistinctKeys (.obj fields)) (hvalue : HasDistinctKeys value)
    (key : Text) : HasDistinctKeys (.obj (insert key value fields)) := by
  cases h with
  | obj hkeys hvalues =>
    refine .obj ?_ fun field hfield => ?_
    · rw [keys_insert]
      split
      · exact hkeys
      · rename_i hkey
        refine List.nodup_append.mpr ⟨hkeys, List.nodup_singleton _, ?_⟩
        intro other hmem last hlast
        obtain rfl := List.mem_singleton.mp hlast
        exact fun heq => hkey (heq ▸ hmem)
    · rcases mem_insert hfield with heq | hmem
      · rw [heq]
        exact hvalue
      · exact hvalues field hmem

/-! ## One record laid over another -/

/-- **In one record laid over another a key has the upper value, laid over the lower one**, or the
lower value if the upper record does not have it. -/
theorem lookup?_mergeFields (hkeys : (above.map Prod.fst).Nodup) (key : Text) (below : Fields) :
    lookup? key (mergeFields below above)
      = match lookup? key above with
        | none => lookup? key below
        | some value => some (mergeOver (lookup? key below) value) := by
  induction above generalizing below with
  | nil => rfl
  | cons f rest ih =>
    obtain ⟨k, v⟩ := f
    obtain ⟨hk, hrest⟩ := List.nodup_cons.mp hkeys
    rw [mergeFields, ih hrest, lookup?]
    by_cases heq : k = key
    · subst heq
      rw [if_pos rfl, lookup?_eq_none_iff.mpr hk, lookup?_insert_self]
    · rw [if_neg heq, lookup?_insert_of_ne (Ne.symm heq)]

section Over

variable {under : Option Json}

/-- Anything but a record takes the place of what it is laid over. -/
theorem mergeOver_of_fields? (h : value.fields? = none) : mergeOver under value = value := by
  cases value with
  | obj fields => cases h
  | _ => rfl

/-- A record takes the place of anything but a record. -/
theorem mergeOver_obj_of_fields? (h : under.bind fields? = none) (above : Fields) :
    mergeOver under (.obj above) = .obj above := by
  rcases under with _ | v
  · rfl
  · cases v with
    | obj fields => cases h
    | _ => rfl

theorem mergeOver_obj_obj (below above : Fields) :
    mergeOver (some (.obj below)) (.obj above) = .obj (mergeFields below above) := rfl

end Over

end Json
end ODataToken
