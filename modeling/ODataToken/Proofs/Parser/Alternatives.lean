import ODataToken.Proofs.Parser.Reads

/-!
# Reading a whole text with ranked alternatives

The first alternative that succeeds decides.  A whole text is read exactly when that alternative
consumes all of it; when it stops before the end and the failures before it are of shape only, the
rest of the input is the error.
-/

set_option autoImplicit false

namespace ODataToken
namespace Alternatives

open ODataToken.Parser

variable {α : Type} {alternatives : Alternatives α} {input : Text}

/-- The winner is the first alternative that succeeds. -/
theorem attempt_winner_eq_some_iff {w : Winner α} :
    (attempt input alternatives).winner = some w
      ↔ ∃ before a after, alternatives = before ++ a :: after
          ∧ (∀ b ∈ before, b.parser.Refuses input)
          ∧ a.parser.run input 0 = .ok w.value w.pos ∧ a.name = w.alternative := by
  induction alternatives with
  | nil => simp [attempt]
  | cons a rest ih =>
    rw [exists_split_cons_iff]
    simp only [List.forall_mem_cons]
    cases hrun : a.parser.run input 0 with
    | ok value pos =>
      have hsuccess : ¬ a.parser.Refuses input := by
        rintro ⟨f, hf⟩
        rw [hrun] at hf
        cases hf
      obtain ⟨name, value', pos'⟩ := w
      simp only [attempt, hrun, hsuccess, false_and, and_false, exists_false, or_false]
      simp [and_comm, and_assoc]
    | fail f =>
      have hrefuses : a.parser.Refuses input := ⟨f, hrun⟩
      simp [attempt, hrun, hrefuses, ih]

/-- **A whole text is read when the first alternative that succeeds consumes all of it.** -/
theorem parseComplete_eq_ok_iff {found : Attributed α} :
    alternatives.parseComplete input = .ok found
      ↔ ∃ before a after, alternatives = before ++ a :: after
          ∧ (∀ b ∈ before, b.parser.Refuses input)
          ∧ a.parser.Reads found.value input [] ∧ a.name = found.alternative := by
  simp only [reads_nil_iff]
  constructor
  · intro h
    simp only [parseComplete] at h
    split at h
    · rename_i w hw
      split at h
      · rename_i hpos
        obtain rfl := Except.ok.inj h
        rw [← hpos]
        exact attempt_winner_eq_some_iff.mp hw
      · cases h
    · cases h
  · rintro ⟨before, a, after, heq, hbefore, hrun, hname⟩
    have hw : (attempt input alternatives).winner
        = some ⟨found.alternative, found.value, input.length⟩ :=
      attempt_winner_eq_some_iff.mpr ⟨before, a, after, heq, hbefore, hrun, hname⟩
    simp [parseComplete, hw]

/-- The parser of the alternatives, which need not consume the whole input, takes the first that
succeeds as well. -/
theorem parser_reads_iff {v : α} {c r : Text} :
    alternatives.parser.Reads v c r
      ↔ ∃ before a after, alternatives = before ++ a :: after
          ∧ (∀ b ∈ before, b.parser.Refuses (c ++ r)) ∧ a.parser.Reads v c r := by
  rw [parser, choice_reads_iff]
  constructor
  · rintro ⟨_, _, _, heq, hbefore, hreads⟩
    obtain ⟨before, _, rfl, rfl, hrest⟩ := List.map_eq_append_iff.mp heq
    obtain ⟨a, after, rfl, rfl, rfl⟩ := List.map_eq_cons_iff.mp hrest
    exact ⟨before, a, after, rfl, fun b hb => hbefore _ (List.mem_map_of_mem hb), hreads⟩
  · rintro ⟨before, a, after, rfl, hbefore, hreads⟩
    refine ⟨before.map Alternative.parser, a.parser, after.map Alternative.parser, by simp, ?_,
      hreads⟩
    exact List.forall_mem_map.mpr hbefore

/-- Where a list is split at an item, the length of the part before it is its index. -/
theorem getElem?_of_split {β : Type} {l before after : List β} {x : β}
    (h : l = before ++ x :: after) : l[before.length]? = some x := by
  rw [h, List.getElem?_append_right (Nat.le_refl _), Nat.sub_self]
  rfl

theorem exists_getElem?_of_mem_before {β : Type} {l before after : List β} {x b : β}
    (h : l = before ++ x :: after) (hb : b ∈ before) :
    ∃ j < before.length, l[j]? = some b := by
  obtain ⟨j, hj, rfl⟩ := List.mem_iff_getElem.mp hb
  refine ⟨j, hj, ?_⟩
  rw [h, List.getElem?_append_left hj, List.getElem?_eq_getElem hj]

/-! ## Left-over input -/

/-- Failures of shape before the winner leave shape failures only. -/
theorem shape_of_mem_attempt_failures {before after : Alternatives α} {a : Alternative α} {v : α}
    {stop : Nat} (hbefore : ∀ b ∈ before, ShapeOnly b.parser)
    (hrun : a.parser.run input 0 = .ok v stop) :
    ∀ f ∈ (attempt input (before ++ a :: after)).failures, f.failure.kind = .shape := by
  induction before with
  | nil => simp [attempt, hrun]
  | cons b before ih =>
    rw [List.cons_append, attempt]
    cases hb : b.parser.run input 0 with
    | ok value pos => simp
    | fail f =>
      have := hbefore b List.mem_cons_self
      rintro g (_ | ⟨_, hg⟩)
      · exact ShapeOnly.kind_eq hb
      · exact ih (fun c hc => hbefore c (List.mem_cons_of_mem _ hc)) g hg

/-- **What the winner leaves over is the error, if nothing failed on its domain before it.** -/
theorem parseComplete_eq_trailingInput {before after : Alternatives α} {a : Alternative α} {v : α}
    {stop : Nat} (hbefore : ∀ b ∈ before, ShapeOnly b.parser ∧ b.parser.Refuses input)
    (hrun : a.parser.run input 0 = .ok v stop) (hstop : stop ≠ input.length) :
    parseComplete (before ++ a :: after) input
      = .error ⟨.trailingInput, input, stop, "end of input", some a.name⟩ := by
  have hwinner : (attempt input (before ++ a :: after)).winner = some ⟨a.name, v, stop⟩ :=
    attempt_winner_eq_some_iff.mpr
      ⟨before, a, after, rfl, fun b hb => (hbefore b hb).2, hrun, rfl⟩
  have hshape : ∀ f ∈ (attempt input (before ++ a :: after)).failures, f.failure.kind = .shape :=
    shape_of_mem_attempt_failures (fun b hb => (hbefore b hb).1) hrun
  have hdomain : (attempt input (before ++ a :: after)).failures.filter
      (fun f => f.failure.kind == .domain) = [] := by
    refine List.filter_eq_nil_iff.mpr fun f hf => ?_
    rw [hshape f hf]
    decide
  rw [parseComplete, hwinner]
  dsimp only
  rw [if_neg hstop, errorOf, hdomain, hwinner]
  rfl

/-- The first to succeed decides, if nothing failed on its domain before it. -/
theorem parseComplete_of_shapeOnly {before after : Alternatives α} {a : Alternative α} {v : α}
    {stop : Nat} (hbefore : ∀ b ∈ before, ShapeOnly b.parser ∧ b.parser.Refuses input)
    (hrun : a.parser.run input 0 = .ok v stop) :
    parseComplete (before ++ a :: after) input
      = if stop = input.length then .ok ⟨v, a.name⟩
        else .error ⟨.trailingInput, input, stop, "end of input", some a.name⟩ := by
  split
  · rename_i hstop
    subst hstop
    exact parseComplete_eq_ok_iff.mpr
      ⟨_, _, _, rfl, fun b hb => (hbefore b hb).2, reads_nil_iff.mpr hrun, rfl⟩
  · rename_i hstop
    exact parseComplete_eq_trailingInput hbefore hrun hstop

end Alternatives
end ODataToken
