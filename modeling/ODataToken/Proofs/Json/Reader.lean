import Mathlib.Data.Option.Basic
import ODataToken.Config.Search
import ODataToken.Proofs.Json.Keys

/-!
# The records that the readers return

Whatever rules a reader follows, it writes the fields of a record one by one, so a repeated key
takes the place of the first one and no record that is read repeats a key.  The three readers call
each other, and one induction on the fuel serves them all (`readers_distinctKeys`).
-/

set_option autoImplicit false

namespace ODataToken
namespace Json

variable {rules : Rules} {fuel : Nat} {t rest : Text} {value : Json}

theorem readWord_distinctKeys (h : readWord t = some (value, rest)) : value.HasDistinctKeys := by
  rw [readWord] at h
  split at h
  · obtain ⟨rfl, -⟩ := Prod.mk.inj (Option.some.inj h)
    exact .null
  · split at h
    · obtain ⟨rfl, -⟩ := Prod.mk.inj (Option.some.inj h)
      exact .bool true
    · obtain ⟨-, hvalue⟩ := Option.ite_none_right_eq_some.mp h
      obtain ⟨rfl, -⟩ := Prod.mk.inj (Option.some.inj hvalue)
      exact .bool false

theorem readNumber_distinctKeys (h : readNumber t = some (value, rest)) :
    value.HasDistinctKeys := by
  obtain ⟨stop, -, hvalue⟩ := Option.map_eq_some_iff.mp h
  obtain ⟨rfl, -⟩ := Prod.mk.inj hvalue
  rw [numberValue]
  split
  · exact .int _
  · exact .float _

/-- What the three readers return within some fuel repeats no key. -/
structure ReadersKeepKeys (rules : Rules) (fuel : Nat) : Prop where
  value : ∀ {t rest value}, readValue rules fuel t = some (value, rest) → value.HasDistinctKeys
  items : ∀ {t rest items}, readItems rules fuel t = some (items, rest) →
    ∀ item ∈ items, HasDistinctKeys item
  fields : ∀ {sofar t rest fields}, HasDistinctKeys (.obj sofar) →
    readFields rules fuel sofar t = some (fields, rest) → HasDistinctKeys (.obj fields)

namespace ReadersKeepKeys

variable (ih : ReadersKeepKeys rules fuel)

include ih

theorem value_succ (h : readValue rules (fuel + 1) t = some (value, rest)) :
    value.HasDistinctKeys := by
  rw [readValue] at h
  split at h
  · cases h
  · split at h
    · obtain ⟨⟨content, after⟩, -, hvalue⟩ := Option.map_eq_some_iff.mp h
      obtain ⟨rfl, -⟩ := Prod.mk.inj hvalue
      exact .str content
    · split at h
      · split at h
        · cases h
        · split at h
          · obtain ⟨rfl, -⟩ := Prod.mk.inj (Option.some.inj h)
            exact .arr (by simp)
          · obtain ⟨⟨items, after⟩, hitems, hvalue⟩ := Option.map_eq_some_iff.mp h
            obtain ⟨rfl, -⟩ := Prod.mk.inj hvalue
            exact .arr (ih.items hitems)
      · split at h
        · split at h
          · cases h
          · split at h
            · obtain ⟨rfl, -⟩ := Prod.mk.inj (Option.some.inj h)
              exact hasDistinctKeys_nil
            · obtain ⟨⟨fields, after⟩, hfields, hvalue⟩ := Option.map_eq_some_iff.mp h
              obtain ⟨rfl, -⟩ := Prod.mk.inj hvalue
              exact ih.fields hasDistinctKeys_nil hfields
        · rw [Option.orElse_eq_or] at h
          rcases Option.or_eq_some_iff.mp h with hword | ⟨-, hnumber⟩
          · exact readWord_distinctKeys hword
          · exact readNumber_distinctKeys hnumber

theorem items_succ {items : List Json} (h : readItems rules (fuel + 1) t = some (items, rest)) :
    ∀ item ∈ items, HasDistinctKeys item := by
  simp only [readItems, Option.bind_eq_bind, Option.bind_eq_some_iff] at h
  obtain ⟨⟨first, after⟩, hfirst, ⟨more, after'⟩, -, h⟩ := h
  split at h
  · obtain ⟨⟨others, after''⟩, hothers, h⟩ := Option.bind_eq_some_iff.mp h
    obtain ⟨rfl, -⟩ := Prod.mk.inj (Option.some.inj h)
    exact List.forall_mem_cons.mpr ⟨ih.value hfirst, ih.items hothers⟩
  · obtain ⟨rfl, -⟩ := Prod.mk.inj (Option.some.inj h)
    exact List.forall_mem_singleton.mpr (ih.value hfirst)

theorem fields_succ {sofar fields : Fields} (hsofar : HasDistinctKeys (.obj sofar))
    (h : readFields rules (fuel + 1) sofar t = some (fields, rest)) :
    HasDistinctKeys (.obj fields) := by
  rw [readFields] at h
  obtain ⟨⟨key, after⟩, -, h⟩ := Option.bind_eq_some_iff.mp h
  obtain ⟨-, -, h⟩ := Option.bind_eq_some_iff.mp h
  obtain ⟨⟨first, after'⟩, hfirst, h⟩ := Option.bind_eq_some_iff.mp h
  obtain ⟨⟨more, after''⟩, -, h⟩ := Option.bind_eq_some_iff.mp h
  have hnext := hsofar.insert (ih.value hfirst) key
  dsimp only at h
  split at h
  · exact ih.fields hnext h
  · obtain ⟨rfl, -⟩ := Prod.mk.inj (Option.some.inj h)
    exact hnext

end ReadersKeepKeys

theorem readers_distinctKeys (rules : Rules) (fuel : Nat) : ReadersKeepKeys rules fuel := by
  induction fuel with
  | zero => exact ⟨nofun, nofun, nofun⟩
  | succ fuel ih => exact ⟨ih.value_succ, ih.items_succ, ih.fields_succ⟩

theorem readWhole?_distinctKeys (h : readWhole? rules t = some value) : value.HasDistinctKeys := by
  obtain ⟨⟨read, rest⟩, hread, h⟩ := Option.bind_eq_some_iff.mp h
  obtain ⟨-, -, h⟩ := Option.bind_eq_some_iff.mp h
  obtain rfl := Option.some.inj h
  exact (readers_distinctKeys rules _).value hread

end Json

/-- **No record in a config file repeats a key**, whatever the format of the file. -/
theorem FileFormat.read?_distinctKeys {format : FileFormat} {t : Text} {value : Json}
    (h : format.read? t = some value) : value.HasDistinctKeys := by
  cases format with
  | json => exact Json.readWhole?_distinctKeys h
  | yaml =>
    obtain ⟨read, hread, h⟩ := Option.bind_eq_some_iff.mp h
    obtain ⟨-, -, h⟩ := Option.bind_eq_some_iff.mp h
    obtain rfl := Option.some.inj h
    exact Json.readWhole?_distinctKeys hread

end ODataToken
