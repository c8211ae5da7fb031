import ODataToken.Proofs.Parser.Plain

/-!
# Mapping through the combinators

Changing the value of a composite parser is changing the values of its parts.  With these laws a
function that forgets where the fields of a shape stand moves inwards until it meets the parsers
that keep the places, and what is left is a plain parser.
-/

set_option autoImplicit false

namespace ODataToken
namespace Parser

variable {α β γ α' β' γ' : Type}

/-- Parsers that do the same everywhere are the same. -/
theorem ext_run {p q : Parser α} (h : ∀ input pos, p.run input pos = q.run input pos) : p = q := by
  obtain ⟨run⟩ := p
  obtain ⟨run'⟩ := q
  congr
  funext input pos
  exact h input pos

/-! ## Staying inside the input -/

theorem Inside.of_map {p : Parser α} (f : α → β) (h : Inside (p.map f)) : Inside p where
  stop_le hrun := h.stop_le (Result.map_eq_ok_iff.mpr ⟨_, hrun, rfl⟩)

theorem Inside.tryMap {p : Parser α} (check : α → Except Rejection β) (h : Inside p) :
    Inside (p.tryMap check) where
  stop_le hrun := by
    obtain ⟨a, mid, hp, hq⟩ := Result.andThen_eq_ok_iff.mp hrun
    split at hq
    · cases hq; exact h.stop_le hp
    · cases hq

/-! ## Laws -/

theorem map_map (p : Parser α) (f : α → β) (g : β → γ) :
    (p.map f).map g = p.map fun a => g (f a) := by
  refine ext_run fun input pos => ?_
  simp only [map]
  cases p.run input pos <;> rfl

theorem map_id (p : Parser α) : (p.map fun a => a) = p := by
  refine ext_run fun input pos => ?_
  simp only [map]
  cases p.run input pos <;> rfl

/-- Forgetting where a value stands gives the parser of the value back. -/
theorem spanned_map_value (p : Parser α) : (spanned p).map Spanned.value = p := by
  refine ext_run fun input pos => ?_
  simp only [map, spanned]
  cases p.run input pos <;> rfl

theorem seq_map (p : Parser α) (q : Parser β) (f : α → α') (g : β → β') :
    ((p.seq q).map fun x => (f x.1, g x.2)) = (p.map f).seq (q.map g) := by
  refine ext_run fun input pos => ?_
  simp only [map, seq]
  cases p.run input pos with
  | fail e => rfl
  | ok a mid =>
    simp only [Result.andThen_ok, Result.map_ok]
    cases q.run input mid <;> rfl

theorem seq3_map (p : Parser α) (q : Parser β) (r : Parser γ) (f : α → α') (g : β → β')
    (h : γ → γ') :
    ((p.seq3 q r).map fun x => (f x.1, g x.2.1, h x.2.2))
      = (p.map f).seq3 (q.map g) (r.map h) := by
  rw [seq3_eq, seq3_eq, ← seq_map, ← seq_map]

theorem preceded_map (lead : Parser γ) (p : Parser α) (f : α → β) :
    (preceded lead p).map f = preceded lead (p.map f) := by
  rw [preceded, preceded, map_map, ← map_id lead, ← seq_map, map_map, map_id]

theorem optional_map (p : Parser α) (f : α → β) :
    (optional p).map (Option.map f) = optional (p.map f) := by
  refine ext_run fun input pos => ?_
  simp only [map, optional]
  cases p.run input pos with
  | ok a stop => rfl
  | fail e => simp only [Result.map_fail]; split <;> rfl

theorem alt_map (p q : Parser α) (f : α → β) : (alt p q).map f = alt (p.map f) (q.map f) := by
  refine ext_run fun input pos => ?_
  simp only [map, alt]
  cases p.run input pos with
  | ok a stop => rfl
  | fail e => simp only [Result.map_fail]; cases q.run input pos <;> rfl

end Parser
end ODataToken
