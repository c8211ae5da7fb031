import ODataToken.Proofs.CharClass

/-!
# Texts cut between code points

A text can be cut in two without changing its code points, unless the cut goes through a surrogate
pair (`codePoints_append`).  The other way round, any number of its leading code points make a text
with just these code points, and so do the remaining ones (`codePoints_flatten_of_eq_append`).
-/

set_option autoImplicit false

namespace ODataToken
namespace Text

variable {s t w c : Text} {u : CodeUnit}

/-- The text does not end in the first half of a surrogate pair. -/
def EndsWhole (t : Text) : Prop := ∀ u ∈ t.getLast?, u.isHighSurrogate = false

theorem EndsWhole.of_cons {u v : CodeUnit} (h : EndsWhole (u :: v :: t)) : EndsWhole (v :: t) := by
  intro x hx
  exact h x (by rwa [List.getLast?_cons_cons])

/-- The second half of a surrogate pair is not the first half of another. -/
theorem isHighSurrogate_of_isLowSurrogate (h : u.isLowSurrogate = true) :
    u.isHighSurrogate = false := by
  simp only [CodeUnit.isLowSurrogate, CodeUnit.isHighSurrogate, Bool.and_eq_true,
    decide_eq_true_eq, Bool.and_eq_false_iff, decide_eq_false_iff_not,
    UInt16.le_iff_toNat_le] at h ⊢
  simp only [UInt16.reduceToNat] at h ⊢
  omega

/-- **A cut that goes through no surrogate pair keeps the code points.** -/
theorem codePoints_append (h : EndsWhole s) :
    (s ++ t).codePoints = s.codePoints ++ t.codePoints := by
  fun_induction codePoints s with
  | case1 => rfl
  | case2 u =>
    have hu : u.isHighSurrogate = false := h u rfl
    cases t with
    | nil => rfl
    | cons v t => simp [codePoints, hu]
  | case3 u v rest huv ih =>
    have hrest : EndsWhole rest := by
      cases rest with
      | nil => simp [EndsWhole]
      | cons x rest => exact h.of_cons.of_cons
    simp [codePoints, huv, ih hrest]
  | case4 u v rest huv ih =>
    have hrest := ih h.of_cons
    simp only [List.cons_append] at hrest ⊢
    rw [codePoints, if_neg huv, hrest]

/-- A text whose code points are no halves of surrogate pairs does not end in one. -/
theorem endsWhole_of_codePoints (h : ∀ u, [u] ∈ w.codePoints → u.isHighSurrogate = false) :
    EndsWhole w := by
  fun_induction codePoints w with
  | case1 => simp [EndsWhole]
  | case2 u => simpa [EndsWhole] using h u
  | case3 u v rest huv ih =>
    rw [Bool.and_eq_true] at huv
    cases rest with
    | nil => simpa [EndsWhole] using isHighSurrogate_of_isLowSurrogate huv.2
    | cons x rest =>
      intro y hy
      rw [List.getLast?_cons_cons, List.getLast?_cons_cons] at hy
      exact ih (fun u hu => h u (List.mem_cons_of_mem _ hu)) y hy
  | case4 u v rest huv ih =>
    intro y hy
    rw [List.getLast?_cons_cons] at hy
    exact ih (fun u hu => h u (List.mem_cons_of_mem _ hu)) y hy

/-- The first code point is the first of the code points, and the others are those of the rest. -/
theorem codePoints_of_firstCodePoint? (h : (c ++ w).firstCodePoint? = some c) :
    (c ++ w).codePoints = c :: w.codePoints := by
  unfold firstCodePoint? at h
  split at h
  · cases h
  · rename_i u heq
    obtain rfl := Option.some.inj h
    obtain rfl : w = [] := by simpa using heq
    rfl
  · rename_i u v rest heq
    split at h
    · rename_i huv
      obtain rfl := Option.some.inj h
      obtain rfl : w = rest := by simpa using heq
      simp [codePoints, huv]
    · rename_i huv
      obtain rfl := Option.some.inj h
      obtain rfl : w = v :: rest := by simpa using heq
      rw [List.singleton_append, codePoints, if_neg huv]

/-- The first code point stays the first where the text is cut off somewhere behind it. -/
theorem firstCodePoint?_of_isPrefix (h : (c ++ w).firstCodePoint? = some c) (hs : s <+: w) :
    (c ++ s).firstCodePoint? = some c := by
  obtain ⟨t, rfl⟩ := hs
  rw [← List.append_assoc] at h
  unfold firstCodePoint? at h
  split at h
  · cases h
  · rename_i u heq
    obtain rfl := Option.some.inj h
    obtain ⟨rfl, -⟩ : s = [] ∧ t = [] := by simpa using heq
    rfl
  · rename_i u v rest heq
    split at h
    · rename_i huv
      obtain rfl := Option.some.inj h
      simp [firstCodePoint?, huv]
    · rename_i huv
      obtain rfl := Option.some.inj h
      cases s with
      | nil => rfl
      | cons x s =>
        obtain ⟨rfl, -⟩ : x = v ∧ s ++ t = rest := by simpa using heq
        simp [firstCodePoint?, huv]

/-- **Leading code points make a text with just these code points, and the others do as well.** -/
theorem codePoints_flatten_of_eq_append {before after : List Text}
    (h : w.codePoints = before ++ after) :
    codePoints before.flatten = before ∧ codePoints after.flatten = after := by
  induction before generalizing w with
  | nil =>
    refine ⟨rfl, ?_⟩
    rw [List.nil_append] at h
    rw [← h, flatten_codePoints]
  | cons c before ih =>
    have hw : w = c ++ (before ++ after).flatten := by
      rw [← flatten_codePoints w, h]
      rfl
    have hfirst : w.firstCodePoint? = some c := by
      rw [← head?_codePoints, h]
      rfl
    rw [hw] at hfirst h
    rw [codePoints_of_firstCodePoint? hfirst] at h
    obtain ⟨hbefore, hafter⟩ := ih (List.cons.inj h).2
    have hcut : (c ++ before.flatten).firstCodePoint? = some c := by
      refine firstCodePoint?_of_isPrefix hfirst ?_
      rw [List.flatten_append]
      exact List.prefix_append _ _
    exact ⟨by rw [List.flatten_cons, codePoints_of_firstCodePoint? hcut, hbefore], hafter⟩

/-- A unit that is no half of a surrogate pair is a code point of its own. -/
theorem singleton_mem_codePoints (hu : u ∈ w) (hhigh : u.isHighSurrogate = false)
    (hlow : u.isLowSurrogate = false) : [u] ∈ w.codePoints := by
  fun_induction codePoints w with
  | case1 => cases hu
  | case2 v => simpa using hu
  | case3 v x rest hpair ih =>
    rw [Bool.and_eq_true] at hpair
    rcases List.mem_cons.mp hu with rfl | hu
    · rw [hpair.1] at hhigh
      cases hhigh
    · rcases List.mem_cons.mp hu with rfl | hu
      · rw [hpair.2] at hlow
        cases hlow
      · exact List.mem_cons_of_mem _ (ih hu)
  | case4 v x rest hpair ih =>
    rcases List.mem_cons.mp hu with rfl | hu
    · exact List.mem_cons_self
    · exact List.mem_cons_of_mem _ (ih hu)

end Text
end ODataToken
