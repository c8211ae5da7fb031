import ODataToken.Proofs.Parser.Map
import ODataToken.Proofs.Parser.Reads

/-!
# Parsers that can be moved

A parser whose value keeps the places of its parts is not plain: further on in an input it reads the
same, but at other places.  `p.Moves move` says that this is all that changes: cutting off what
stands before the rest moves the positions of the result, and `move` moves those in its value.

The places are there for the sake of the errors.  A check may blame one of them, and if it blames
the moved place of what has moved (`Parser.Moves.tryMap`), then a position in the value never gets
further than into a failure, and the checked parser is plain again.
-/

set_option autoImplicit false

namespace ODataToken

/-- The rejection with the position that it blames `k` further on. -/
def Rejection.move (k : Nat) (r : Rejection) : Rejection := ⟨r.expected, r.pos.map (k + ·)⟩

namespace Parser

variable {α β γ : Type}

/-- The value with its place `k` further on. -/
def Spanned.move (k : Nat) (s : Spanned α) : Spanned α := ⟨s.value, k + s.start, k + s.stop⟩

@[simp] theorem Spanned.move_value (k : Nat) (s : Spanned α) : (s.move k).value = s.value := rfl

@[simp] theorem Spanned.move_start (k : Nat) (s : Spanned α) : (s.move k).start = k + s.start := rfl

/-- What the parser does depends on the rest of the input only, up to the positions in its value,
which `move k` takes `k` further on. -/
def Moves (p : Parser α) (move : Nat → α → α) : Prop :=
  ∀ input k pos, p.run input (k + pos) = ((p.run (input.drop k) pos).map (move k)).shift k

namespace Moves

variable {p : Parser α} {q : Parser β} {r : Parser γ} {move : Nat → α → α} {move' : Nat → β → β}
  {move'' : Nat → γ → γ}

/-- A plain parser has no positions in its value. -/
theorem of_plain (p : Parser α) [Plain p] : p.Moves fun _ a => a := by
  intro input k pos
  rw [Plain.run_add]
  cases p.run (input.drop k) pos <;> rfl

theorem spanned (p : Parser α) [Plain p] : (spanned p).Moves Spanned.move := by
  intro input k pos
  simp only [Parser.spanned, Plain.run_add (p := p) input k pos]
  cases p.run (input.drop k) pos <;> rfl

/-- Changing the value keeps the law if it can be done before or after the move. -/
theorem map (h : p.Moves move) {f : α → β} (hf : ∀ k a, f (move k a) = move' k (f a)) :
    (p.map f).Moves move' := by
  intro input k pos
  simp only [Parser.map, h input k pos]
  cases p.run (input.drop k) pos with
  | ok a stop => simp [hf]
  | fail e => rfl

theorem seq (hp : p.Moves move) (hq : q.Moves move') :
    (p.seq q).Moves fun k x => (move k x.1, move' k x.2) := by
  intro input k pos
  simp only [Parser.seq, hp input k pos]
  cases p.run (input.drop k) pos with
  | fail e => rfl
  | ok a mid =>
    simp only [Result.map_ok, Result.shift_ok, Result.andThen_ok, hq input k mid]
    cases q.run (input.drop k) mid <;> rfl

theorem seq3 (hp : p.Moves move) (hq : q.Moves move') (hr : r.Moves move'') :
    (p.seq3 q r).Moves fun k x => (move k x.1, move' k x.2.1, move'' k x.2.2) := by
  rw [seq3_eq]
  exact hp.seq (hq.seq hr)

theorem preceded (lead : Parser β) [Plain lead] (h : p.Moves move) :
    (preceded lead p).Moves move :=
  ((of_plain lead).seq h).map fun _ _ => rfl

theorem optional (h : p.Moves move) : (optional p).Moves fun k => Option.map (move k) := by
  intro input k pos
  simp only [Parser.optional, h input k pos]
  cases p.run (input.drop k) pos with
  | ok a stop => rfl
  | fail e =>
    simp only [Result.map_fail, Result.shift_fail]
    split <;> rfl

theorem alt {q : Parser α} (hp : p.Moves move) (hq : q.Moves move) : (alt p q).Moves move := by
  intro input k pos
  simp only [Parser.alt, hp input k pos, hq input k pos]
  cases p.run (input.drop k) pos with
  | ok a stop => rfl
  | fail e =>
    cases q.run (input.drop k) pos with
    | ok b stop => rfl
    | fail e' => simp [Failure.merge_shift]

/-- **A check that blames the moved place of what has moved makes the parser plain.** -/
theorem tryMap (hinside : Inside p) (h : p.Moves move) {check : α → Except Rejection β}
    (hcheck : ∀ k a, check (move k a) = (check a).mapError (Rejection.move k)) :
    Plain (p.tryMap check) where
  toInside := hinside.tryMap check
  run_add input k pos := by
    simp only [Parser.tryMap, h input k pos]
    cases p.run (input.drop k) pos with
    | fail e => rfl
    | ok a stop =>
      simp only [Result.map_ok, Result.shift_ok, Result.andThen_ok, hcheck]
      cases check a with
      | ok b => rfl
      | error rejection =>
        obtain ⟨expected, _ | place⟩ := rejection
        · rfl
        · rfl

end Moves

/-! ## Choice -/

theorem choiceFrom_add {ps : List (Parser α)} (h : ∀ p ∈ ps, Plain p) (input : Text) (k pos : Nat)
    (sofar : Option Failure) :
    choiceFrom input (k + pos) (sofar.map fun f => ⟨f.kind, k + f.pos, f.expected⟩) ps
      = (choiceFrom (input.drop k) pos sofar ps).shift k := by
  induction ps generalizing sofar with
  | nil => cases sofar <;> rfl
  | cons p ps ih =>
    have := h p List.mem_cons_self
    rw [choiceFrom, choiceFrom, Plain.run_add]
    cases p.run (input.drop k) pos with
    | ok a stop => rfl
    | fail f =>
      have hmerge :
          mergeInto (sofar.map fun f => ⟨f.kind, k + f.pos, f.expected⟩)
              ⟨f.kind, k + f.pos, f.expected⟩
            = ⟨(mergeInto sofar f).kind, k + (mergeInto sofar f).pos,
              (mergeInto sofar f).expected⟩ := by
        cases sofar with
        | none => rfl
        | some g => exact Failure.merge_shift k g f
      simp only [Result.shift_fail, hmerge]
      exact ih (fun q hq => h q (List.mem_cons_of_mem p hq)) (some (mergeInto sofar f))

/-- A choice of plain parsers is plain. -/
theorem Plain.choice {ps : List (Parser α)} (h : ∀ p ∈ ps, Plain p) : Plain (choice ps) where
  toInside := .choice fun p hp => (h p hp).toInside
  run_add input k pos := choiceFrom_add h input k pos none

end Parser
end ODataToken
