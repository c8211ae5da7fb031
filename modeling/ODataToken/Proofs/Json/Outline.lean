import Mathlib.Data.List.Infix
import ODataToken.Proofs.Json.Keys

/-!
# What stands at the end of a path

A record is a list of fields, so two records can hold the same at every path and still differ in the
order of their fields.  The outline of a record forgets the order: it says of every path what stands
at its end, and of a record there only that it is one.

A value that is put at the end of a path shows in the outline on that path and below it, and nowhere
else (`assign`).  Two such changes commute unless one path is the beginning of the other
(`assign_comm`).
-/

set_option autoImplicit false

namespace ODataToken
namespace Json

/-! ## Outlines -/

/-- The value at the end of a path. -/
def at? : List Text → Json → Option Json
  | [], j => some j
  | key :: more, j => (j.get? key).bind (at? more)

/-- The value, or an empty record for a record. -/
def hollow : Json → Json
  | obj _ => obj []
  | j => j

/-- What stands at the end of a path; of a record there, only that it is one. -/
def outline (fields : Fields) (path : List Text) : Option Json := (at? path (obj fields)).map hollow

variable {key k : Text} {value v w j : Json} {fields fields' : Fields}
  {view : List Text → Option Json} {more path other p q : List Text}

theorem hollow_of_fields? (h : j.fields? = none) : hollow j = j := by
  cases j with
  | obj fields => cases h
  | _ => rfl

theorem eq_of_hollow_eq (h : hollow j = value) (hvalue : value.fields? = none) : j = value := by
  cases j with
  | obj fields => subst h; cases hvalue
  | _ => exact h

theorem eq_obj_of_hollow_eq (h : hollow j = hollow (obj fields)) : ∃ inner, j = obj inner := by
  cases j with
  | obj inner => exact ⟨inner, rfl⟩
  | _ => cases h

/-- Nothing stands below a value that is no record. -/
theorem at?_of_fields? (h : value.fields? = none) (hmore : more ≠ []) : at? more value = none := by
  cases more with
  | nil => exact absurd rfl hmore
  | cons key more => rw [at?, get?, h]; rfl

theorem outline_singleton (key : Text) (fields : Fields) :
    outline fields [key] = (lookup? key fields).map hollow := by
  simp only [outline, at?, get?, fields?, Option.bind_some, Option.bind_fun_some]

/-- A path that goes on below a key is a path in the record of the key. -/
theorem outline_cons (hmore : more ≠ []) :
    outline fields (key :: more) = outline (((lookup? key fields).bind fields?).getD []) more := by
  have hempty : at? more (obj []) = none := by
    cases more with
    | nil => exact absurd rfl hmore
    | cons k more => rfl
  rw [outline, outline, at?, get?, fields?, Option.bind_some]
  cases lookup? key fields with
  | none => exact (congrArg (Option.map hollow) hempty).symm
  | some v =>
    cases hv : v.fields? with
    | none => simp [hv, hempty, at?_of_fields? hv hmore]
    | some inner =>
      obtain rfl := fields?_eq_some_iff.mp hv
      rfl

/-- Records of one outline have the same value under a key, or records of one outline. -/
theorem lookup?_of_outline_eq (h : outline fields = outline fields') (key : Text) :
    lookup? key fields = lookup? key fields'
    ∨ ∃ inner inner', lookup? key fields = some (obj inner)
      ∧ lookup? key fields' = some (obj inner') ∧ outline inner = outline inner' := by
  have hkey := congrFun h [key]
  rw [outline_singleton, outline_singleton] at hkey
  cases hvalue : lookup? key fields with
  | none =>
    rw [hvalue, Option.map_none, eq_comm, Option.map_eq_none_iff] at hkey
    exact .inl hkey.symm
  | some v =>
    rw [hvalue, Option.map_some, eq_comm, Option.map_eq_some_iff] at hkey
    obtain ⟨v', hvalue', hhollow⟩ := hkey
    cases hv : v.fields? with
    | none =>
      rw [hollow_of_fields? hv] at hhollow
      exact .inl (by rw [hvalue', eq_of_hollow_eq hhollow hv])
    | some inner =>
      obtain rfl := fields?_eq_some_iff.mp hv
      obtain ⟨inner', rfl⟩ := eq_obj_of_hollow_eq hhollow
      refine .inr ⟨inner, inner', rfl, hvalue', funext fun path => ?_⟩
      cases path with
      | nil => rfl
      | cons next rest =>
        have hbelow := congrFun h (key :: next :: rest)
        have hpath : next :: rest ≠ [] := List.cons_ne_nil _ _
        rwa [outline_cons hpath, outline_cons hpath, hvalue, hvalue'] at hbelow

theorem outline_insert :
    outline (insert key value fields) (k :: more)
      = if k = key then (at? more value).map hollow else outline fields (k :: more) := by
  simp only [outline, at?, get?, fields?, Option.bind_some]
  split
  · rename_i hk
    rw [hk, lookup?_insert_self, Option.bind_some]
  · rename_i hk
    rw [lookup?_insert_of_ne hk]

/-! ## Changing an outline -/

/-- An outline after a value is put at the end of a path.  Whatever the path leads through becomes a
record, and nothing stands below the value. -/
def assign (value : Json) (path : List Text) (view : List Text → Option Json) (other : List Text) :
    Option Json :=
  if other = path then some value
  else if other <+: path then some (obj [])
  else if path <+: other then none
  else view other

theorem assign_self : assign value path view path = some value := if_pos rfl

/-- The empty path leads to the record that the value is put into. -/
theorem assign_nil (h : path ≠ []) : assign value path view [] = some (obj []) := by
  rw [assign, if_neg h.symm, if_pos (List.nil_prefix)]

theorem assign_cons_of_ne (h : k ≠ key) :
    assign value (key :: path) view (k :: other) = view (k :: other) := by
  simp [assign, List.cons_prefix_cons, h, h.symm]

theorem assign_cons_self :
    assign value (key :: path) view (key :: other)
      = assign value path (fun more => view (key :: more)) other := by
  simp [assign, List.cons_prefix_cons]

/-- Writing a field. -/
theorem outline_insert_of_fields? (hvalue : value.fields? = none) :
    outline (insert key value fields) = assign value [key] (outline fields) := by
  funext other
  cases other with
  | nil => exact (assign_nil (List.cons_ne_nil _ _)).symm
  | cons k more =>
    rw [outline_insert]
    split
    · rename_i hk
      subst hk
      cases more with
      | nil => exact (congrArg some (hollow_of_fields? hvalue)).trans assign_self.symm
      | cons next rest =>
        rw [assign_cons_self, at?_of_fields? hvalue (List.cons_ne_nil _ _)]
        simp [assign]
    · rename_i hk
      rw [assign_cons_of_ne hk]

/-- Writing a record into which a value has been put. -/
theorem outline_insert_obj {inner : Fields} (hpath : path ≠ [])
    (h : outline inner
      = assign value path (outline (((lookup? key fields).bind fields?).getD []))) :
    outline (insert key (obj inner) fields) = assign value (key :: path) (outline fields) := by
  funext other
  cases other with
  | nil => exact (assign_nil (List.cons_ne_nil _ _)).symm
  | cons k more =>
    rw [outline_insert]
    split
    · rename_i hk
      subst hk
      rw [assign_cons_self]
      cases more with
      | nil => exact (assign_nil hpath).symm
      | cons next rest =>
        refine (congrFun h _).trans ?_
        simp only [assign, outline_cons (List.cons_ne_nil next rest)]
    · rename_i hk
      rw [assign_cons_of_ne hk]

/-- A change does not show on a separate path. -/
theorem assign_of_not_prefix (hpq : ¬ path <+: other) (hqp : ¬ other <+: path) :
    assign value path view other = view other := by
  have hne : other ≠ path := fun h => hqp (h ▸ List.prefix_rfl)
  rw [assign, if_neg hne, if_neg hqp, if_neg hpq]

/-- **Changes on separate paths commute.** -/
theorem assign_comm (hpq : ¬ p <+: q) (hqp : ¬ q <+: p) :
    assign v p (assign w q view) = assign w q (assign v p view) := by
  funext other
  have hthrough : other <+: p → ¬ q <+: other := fun h h' => hqp (h'.trans h)
  have hthrough' : other <+: q → ¬ p <+: other := fun h h' => hpq (h'.trans h)
  have hend : other = p → ¬ other <+: q := fun h => h ▸ hpq
  have hend' : other = q → ¬ other <+: p := fun h => h ▸ hqp
  have hp : other = p → other <+: p := fun h => h ▸ List.prefix_rfl
  have hq : other = q → other <+: q := fun h => h ▸ List.prefix_rfl
  unfold assign
  split_ifs <;> simp_all

end Json
end ODataToken
