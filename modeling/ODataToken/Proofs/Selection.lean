import Mathlib.Data.List.Basic
import Mathlib.Order.Lattice

/-!
# The first of the greatest, and the distinct members of a list

Two choices from a list in which ties and repetitions are settled by the order of the list.

* `IsFirstGreatest key l b` — no member of the list has a greater key than `b`, and those before `b`
  have a smaller one.  There is at most one such place (`IsFirstGreatest.unique`), and a fold that
  replaces its best so far by strictly greater members only ends there
  (`foldl_eq_some_iff_isFirstGreatest`).
* `FirstOccurrences l l'` — the members of `l`, each once, in the order in which they come first.
  This determines `l'` (`FirstOccurrences.unique`).
-/

set_option autoImplicit false

namespace ODataToken

/-! ## The first of the greatest -/

section FirstGreatest

variable {β κ : Type} [LinearOrder κ] {key : β → κ} {l m : List β} {a b c : β}

/-- `b` stands in the list, behind members with smaller keys and in front of members with no
greater ones. -/
def IsFirstGreatest (key : β → κ) (l : List β) (b : β) : Prop :=
  ∃ before after, l = before ++ b :: after ∧ (∀ x ∈ before, key x < key b)
    ∧ ∀ x ∈ after, key x ≤ key b

theorem isFirstGreatest_cons_iff :
    IsFirstGreatest key (a :: l) b
      ↔ (b = a ∧ ∀ x ∈ l, key x ≤ key a) ∨ key a < key b ∧ IsFirstGreatest key l b := by
  constructor
  · rintro ⟨_ | ⟨x, before⟩, after, heq, hbefore, hafter⟩
    · obtain ⟨rfl, rfl⟩ := List.cons.inj heq
      exact .inl ⟨rfl, hafter⟩
    · obtain ⟨rfl, rfl⟩ := List.cons.inj heq
      rw [List.forall_mem_cons] at hbefore
      exact .inr ⟨hbefore.1, before, after, rfl, hbefore.2, hafter⟩
  · rintro (⟨rfl, h⟩ | ⟨hlt, before, after, rfl, hbefore, hafter⟩)
    · exact ⟨[], l, rfl, by simp, h⟩
    · exact ⟨a :: before, after, rfl, List.forall_mem_cons.mpr ⟨hlt, hbefore⟩, hafter⟩

theorem not_isFirstGreatest_nil : ¬ IsFirstGreatest key [] b := by
  rintro ⟨before, after, heq, -⟩
  exact absurd heq.symm (by simp)

theorem isFirstGreatest_singleton (key : β → κ) (b : β) : IsFirstGreatest key [b] b :=
  ⟨[], [], rfl, by simp, by simp⟩

namespace IsFirstGreatest

theorem mem (h : IsFirstGreatest key l b) : b ∈ l := by
  obtain ⟨before, after, rfl, -⟩ := h
  simp

theorem le (h : IsFirstGreatest key l b) {x : β} (hx : x ∈ l) : key x ≤ key b := by
  obtain ⟨before, after, rfl, hbefore, hafter⟩ := h
  rcases List.mem_append.mp hx with hx | hx
  · exact le_of_lt (hbefore x hx)
  · rcases List.mem_cons.mp hx with rfl | hx
    · exact le_refl _
    · exact hafter x hx

theorem unique (h : IsFirstGreatest key l b) (h' : IsFirstGreatest key l c) : b = c := by
  induction l with
  | nil => exact absurd h not_isFirstGreatest_nil
  | cons a l ih =>
    rw [isFirstGreatest_cons_iff] at h h'
    rcases h with ⟨rfl, hle⟩ | ⟨hlt, h⟩
    · rcases h' with ⟨rfl, -⟩ | ⟨hlt, h'⟩
      · rfl
      · exact absurd (hle c h'.mem) (not_le_of_gt hlt)
    · rcases h' with ⟨rfl, hle⟩ | ⟨-, h'⟩
      · exact absurd (hle b h.mem) (not_le_of_gt hlt)
      · exact ih h h'

/-- Of two lists one after the other, the second decides only with a greater key. -/
theorem append (hb : IsFirstGreatest key l b) (hc : IsFirstGreatest key m c) :
    IsFirstGreatest key (l ++ m) (if key b < key c then c else b) := by
  have hle {x : β} (hx : x ∈ l) := hb.le hx
  split
  · rename_i hlt
    obtain ⟨before, after, rfl, hbefore, hafter⟩ := hc
    refine ⟨l ++ before, after, by simp, fun x hx => ?_, hafter⟩
    rcases List.mem_append.mp hx with hx | hx
    · exact lt_of_le_of_lt (hle hx) hlt
    · exact hbefore x hx
  · rename_i hnot
    obtain ⟨before, after, rfl, hbefore, hafter⟩ := hb
    refine ⟨before, after ++ m, by simp, hbefore, fun x hx => ?_⟩
    rcases List.mem_append.mp hx with hx | hx
    · exact hafter x hx
    · exact le_trans (hc.le hx) (not_lt.mp hnot)

/-- Another key finds the same place if it compares the others with it alike. -/
theorem of_key {κ' : Type} [LinearOrder κ'] {key' : β → κ'} (h : IsFirstGreatest key l b)
    (hlt : ∀ x ∈ l, key x < key b → key' x < key' b)
    (hle : ∀ x ∈ l, key x ≤ key b → key' x ≤ key' b) : IsFirstGreatest key' l b := by
  obtain ⟨before, after, rfl, hbefore, hafter⟩ := h
  exact ⟨before, after, rfl, fun x hx => hlt x (by simp [hx]) (hbefore x hx),
    fun x hx => hle x (by simp [hx]) (hafter x hx)⟩

theorem map {γ : Type} {f : γ → β} {l : List γ} {b : γ}
    (h : IsFirstGreatest (fun x => key (f x)) l b) : IsFirstGreatest key (l.map f) (f b) := by
  obtain ⟨before, after, rfl, hbefore, hafter⟩ := h
  exact ⟨before.map f, after.map f, by simp, List.forall_mem_map.mpr hbefore,
    List.forall_mem_map.mpr hafter⟩

/-- What was filtered out may come back if its key is smaller. -/
theorem of_filter {P : β → Bool} (h : IsFirstGreatest key (l.filter P) b)
    (hout : ∀ x ∈ l, P x = false → key x < key b) : IsFirstGreatest key l b := by
  induction l with
  | nil => exact h
  | cons a l ih =>
    have hrest := (List.forall_mem_cons.mp hout).2
    rw [isFirstGreatest_cons_iff]
    cases hP : P a with
    | true =>
      rw [List.filter_cons_of_pos hP, isFirstGreatest_cons_iff] at h
      refine h.imp (fun ⟨hb, hle⟩ => ⟨hb, fun x hx => ?_⟩) fun ⟨hlt, h⟩ => ⟨hlt, ih h hrest⟩
      subst hb
      cases hx' : P x with
      | true => exact hle x (List.mem_filter.mpr ⟨hx, hx'⟩)
      | false => exact le_of_lt (hrest x hx hx')
    | false =>
      rw [List.filter_cons_of_neg (by simp [hP])] at h
      exact .inr ⟨hout a List.mem_cons_self hP, ih h hrest⟩

end IsFirstGreatest

/-- One step of the search: of the first two members the first stays unless the second is
greater. -/
theorem isFirstGreatest_cons_cons :
    IsFirstGreatest key (a :: c :: l) b
      ↔ IsFirstGreatest key ((if key a < key c then c else a) :: l) b := by
  simp only [isFirstGreatest_cons_iff, List.forall_mem_cons]
  split
  · rename_i hlt
    constructor
    · rintro (⟨rfl, hle, -⟩ | ⟨-, h⟩)
      · exact absurd hle (not_le_of_gt hlt)
      · exact h
    · rintro (⟨rfl, h⟩ | ⟨hlt', h⟩)
      · exact .inr ⟨hlt, .inl ⟨rfl, h⟩⟩
      · exact .inr ⟨lt_trans hlt hlt', .inr ⟨hlt', h⟩⟩
  · rename_i hnot
    have hle := not_lt.mp hnot
    constructor
    · rintro (⟨rfl, -, h⟩ | ⟨hlt, ⟨rfl, -⟩ | ⟨-, h⟩⟩)
      · exact .inl ⟨rfl, h⟩
      · exact absurd hlt hnot
      · exact .inr ⟨hlt, h⟩
    · rintro (⟨rfl, h⟩ | ⟨hlt, h⟩)
      · exact .inl ⟨rfl, hle, h⟩
      · exact .inr ⟨hlt, .inr ⟨lt_of_le_of_lt hle hlt, h⟩⟩

/-- **A search that keeps the best so far unless it meets a greater one finds the first of the
greatest.** -/
theorem foldl_eq_some_iff_isFirstGreatest {step : Option β → β → Option β}
    (hstep : ∀ y x, step (some y) x = if key y < key x then some x else some y) :
    l.foldl step (some a) = some b ↔ IsFirstGreatest key (a :: l) b := by
  induction l generalizing a with
  | nil => simp [isFirstGreatest_cons_iff, not_isFirstGreatest_nil, eq_comm]
  | cons c l ih =>
    rw [List.foldl_cons, hstep, isFirstGreatest_cons_cons, ← ih]
    split <;> rfl

end FirstGreatest

/-! ## First occurrences -/

section FirstOccurrences

variable {β : Type} [BEq β] {l l₁ l₂ : List β}

/-- The list `distinct` holds the members of `l`, each of them once, in the order of their first
occurrences. -/
structure FirstOccurrences (l distinct : List β) : Prop where
  mem_iff : ∀ x, x ∈ distinct ↔ x ∈ l
  pairwise : distinct.Pairwise fun x y => l.idxOf x < l.idxOf y

namespace FirstOccurrences

theorem nodup (h : FirstOccurrences l l₁) : l₁.Nodup := by
  refine h.pairwise.imp fun {x y} hlt heq => ?_
  rw [heq] at hlt
  exact Nat.lt_irrefl _ hlt

theorem unique [LawfulBEq β] (h₁ : FirstOccurrences l l₁) (h₂ : FirstOccurrences l l₂) :
    l₁ = l₂ := by
  have hperm : l₁.Perm l₂ := (List.perm_ext_iff_of_nodup h₁.nodup h₂.nodup).mpr fun x =>
    (h₁.mem_iff x).trans (h₂.mem_iff x).symm
  refine hperm.eq_of_pairwise (fun x y _ _ hlt hlt' => ?_) h₁.pairwise h₂.pairwise
  exact absurd hlt' (Nat.lt_asymm hlt)

end FirstOccurrences

/-- Removing one member from a list leaves the others in the order of their first occurrences. -/
theorem idxOf_lt_idxOf_of_filter [LawfulBEq β] {a x y : β} (hx : x ≠ a) (hy : y ≠ a)
    (h : (l.filter fun z => !z == a).idxOf x < (l.filter fun z => !z == a).idxOf y) :
    l.idxOf x < l.idxOf y := by
  induction l with
  | nil => simp at h
  | cons z l ih =>
    by_cases hz : z = a
    · subst hz
      simp only [BEq.rfl, Bool.not_true, Bool.false_eq_true, not_false_eq_true,
        List.filter_cons_of_neg] at h
      rw [List.idxOf_cons_ne _ hx.symm, List.idxOf_cons_ne _ hy.symm]
      exact Nat.succ_lt_succ (ih h)
    · have hkeep : (!z == a) = true := by simpa using hz
      rw [List.filter_cons_of_pos (p := fun z => !z == a) hkeep] at h
      by_cases hzx : z = x
      · subst hzx
        have hzy : z ≠ y := by
          rintro rfl
          exact absurd h (Nat.lt_irrefl _)
        rw [List.idxOf_cons_self, List.idxOf_cons_ne _ hzy]
        exact Nat.succ_pos _
      · by_cases hzy : z = y
        · subst hzy
          rw [List.idxOf_cons_self] at h
          exact absurd h (Nat.not_lt_zero _)
        · rw [List.idxOf_cons_ne _ hzx, List.idxOf_cons_ne _ hzy] at h ⊢
          exact Nat.succ_lt_succ (ih (Nat.lt_of_succ_lt_succ h))

/-- **To erase what occurred before is to keep the first occurrences.** -/
theorem firstOccurrences_eraseDups [LawfulBEq β] (l : List β) : FirstOccurrences l l.eraseDups := by
  refine ⟨fun x => List.mem_eraseDups, ?_⟩
  match l with
  | [] => exact .nil
  | a :: l =>
    rw [List.eraseDups_cons, List.pairwise_cons]
    have hne : ∀ x ∈ (l.filter fun z => !z == a).eraseDups, x ≠ a := by
      intro x hx
      simpa using (List.mem_filter.mp (List.mem_eraseDups.mp hx)).2
    refine ⟨fun x hx => ?_, ?_⟩
    · rw [List.idxOf_cons_self, List.idxOf_cons_ne _ (hne x hx).symm]
      exact Nat.succ_pos _
    · refine ((firstOccurrences_eraseDups (l.filter fun z => !z == a)).pairwise.imp_of_mem
        fun {x y} hx hy hlt => ?_)
      have hx' := hne x hx
      have hy' := hne y hy
      rw [List.idxOf_cons_ne _ hx'.symm, List.idxOf_cons_ne _ hy'.symm]
      exact Nat.succ_lt_succ (idxOf_lt_idxOf_of_filter hx' hy' hlt)
  termination_by l.length
  decreasing_by exact Nat.lt_succ_of_le (List.length_filter_le _ _)

end FirstOccurrences
end ODataToken
