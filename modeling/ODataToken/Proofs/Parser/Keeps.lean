import ODataToken.Proofs.Parser.Bounded

/-!
# Checks that blame a position, and parsers that advance

A check may blame any position it likes for the value that it rejects.  `Parser.Keeps` says which
places a value holds, and that they lie in the range of the parser that read it; a check that blames
one of these is bounded (`Parser.Keeps.tryMap`).

`Parser.Advances` says that no success ends where it started.

`Parser.boundedPrimitives` and `Parser.boundedCombinators` put together what is bounded, one field
for each primitive and combinator.
-/

set_option autoImplicit false

namespace ODataToken
namespace Parser

variable {α β γ : Type}

/-! ## Checks -/

/-- A check keeps the range if the position that it blames, if any, lies in the range. -/
theorem Bounded.tryMap (p : Parser α) [Bounded p] {check : α → Except Rejection β}
    (hcheck : ∀ {input pos a stop r q}, pos ≤ input.length → p.run input pos = .ok a stop →
      check a = .error r → r.pos = some q → pos ≤ q ∧ q ≤ input.length) :
    Bounded (p.tryMap check) where
  within {input pos} hpos := by
    have hp := Bounded.within (p := p) hpos
    simp only [Parser.tryMap]
    cases hrun : p.run input pos with
    | fail f => rwa [hrun] at hp
    | ok a stop =>
      rw [hrun] at hp
      simp only [Result.andThen_ok]
      cases ha : check a with
      | ok b => exact hp
      | error r =>
        show pos ≤ r.pos.getD pos ∧ r.pos.getD pos ≤ input.length
        cases hq : r.pos with
        | none => exact ⟨Nat.le_refl _, hpos⟩
        | some q => exact hcheck hpos hrun ha hq

instance (p : Parser α) (accepts : α → Bool) (expected : Text) [Bounded p] :
    Bounded (p.verify accepts expected) := by
  refine Bounded.tryMap p fun {input pos a stop r q} _ _ hr hq => ?_
  split at hr
  · cases hr
  · cases hr; cases hq

/-- If the check rejects, it blames no position or one of the places. -/
def Blames (places : List Nat) (checked : Except Rejection α) : Prop :=
  ∀ r, checked = .error r → ∀ q ∈ r.pos, q ∈ places

namespace Blames

variable {places places' : List Nat} {x : Except Rejection α}

theorem ok (places : List Nat) (a : α) : Blames places (.ok a) := by
  rintro r ⟨⟩

theorem error {r : Rejection} (h : ∀ q ∈ r.pos, q ∈ places) :
    Blames places (.error r : Except Rejection α) := by
  rintro _ ⟨⟩
  exact h

theorem mono (h : Blames places x) (hsub : places ⊆ places') : Blames places' x :=
  fun r hr q hq => hsub (h r hr q hq)

theorem bind (h : Blames places x) {f : α → Except Rejection β} (hf : ∀ a, Blames places (f a)) :
    Blames places (x >>= f) := by
  cases x with
  | ok a => exact hf a
  | error r => exact error (h r rfl)

theorem map (h : Blames places x) (f : α → β) : Blames places (x.map f) := by
  cases x with
  | ok a => exact ok places (f a)
  | error r => exact error (h r rfl)

end Blames

/-- The parser is bounded, and the places that its values hold are as well. -/
structure Keeps (p : Parser α) (places : α → List Nat) : Prop extends Bounded p where
  place : ∀ {input pos a stop}, pos ≤ input.length → p.run input pos = .ok a stop →
    ∀ q ∈ places a, pos ≤ q ∧ q ≤ input.length

namespace Keeps

variable {p : Parser α} {q : Parser β} {r : Parser γ} {places : α → List Nat}
  {places' : β → List Nat} {places'' : γ → List Nat}

/-- Any bounded parser holds no places. -/
theorem of_bounded (p : Parser α) [Bounded p] : p.Keeps fun _ => [] where
  place _ _ := by simp

theorem spanned (p : Parser α) [Bounded p] : (spanned p).Keeps fun s => [s.start] where
  place {input pos a stop} hpos h := by
    obtain ⟨v, mid, -, hs⟩ := Result.andThen_eq_ok_iff.mp h
    cases hs
    simpa using hpos

theorem map (h : p.Keeps places) {f : α → β} (hf : ∀ a, places' (f a) ⊆ places a) :
    (p.map f).Keeps places' where
  toBounded := have := h.toBounded; inferInstance
  place {input pos b stop} hpos hrun := by
    obtain ⟨a, ha, rfl⟩ := Result.map_eq_ok_iff.mp hrun
    exact fun q hq => h.place hpos ha q (hf a hq)

theorem seq (hp : p.Keeps places) (hq : q.Keeps places') :
    (p.seq q).Keeps fun x => places x.1 ++ places' x.2 where
  toBounded := have := hp.toBounded; have := hq.toBounded; inferInstance
  place {input pos x stop} hpos hrun := by
    obtain ⟨a, mid, ha, hrest⟩ := Result.andThen_eq_ok_iff.mp hrun
    obtain ⟨b, hb, rfl⟩ := Result.map_eq_ok_iff.mp hrest
    have := hp.toBounded
    have hmid := Bounded.stop_within hpos ha
    intro place hplace
    rcases List.mem_append.mp hplace with hplace | hplace
    · exact hp.place hpos ha place hplace
    · have hwithin := hq.place hmid.2 hb place hplace
      exact ⟨Nat.le_trans hmid.1 hwithin.1, hwithin.2⟩

theorem seq3 (hp : p.Keeps places) (hq : q.Keeps places') (hr : r.Keeps places'') :
    (p.seq3 q r).Keeps fun x => places x.1 ++ (places' x.2.1 ++ places'' x.2.2) := by
  rw [seq3_eq]
  exact hp.seq (hq.seq hr)

theorem preceded (lead : Parser β) [Bounded lead] (h : p.Keeps places) :
    (preceded lead p).Keeps places :=
  ((of_bounded lead).seq h).map fun _ => by simp

theorem optional (h : p.Keeps places) : (optional p).Keeps fun o => o.toList.flatMap places where
  toBounded := have := h.toBounded; inferInstance
  place {input pos o stop} hpos hrun := by
    simp only [Parser.optional] at hrun
    split at hrun
    · rename_i a stop' ha
      cases hrun
      simpa using h.place hpos ha
    · split at hrun
      · cases hrun
      · cases hrun
        simp

theorem alt {q : Parser α} (hp : p.Keeps places) (hq : q.Keeps places) :
    (alt p q).Keeps places where
  toBounded := have := hp.toBounded; have := hq.toBounded; inferInstance
  place {input pos a stop} hpos hrun := by
    simp only [Parser.alt] at hrun
    split at hrun
    · rename_i ha
      cases hrun
      exact hp.place hpos ha
    · split at hrun
      · rename_i ha
        cases hrun
        exact hq.place hpos ha
      · cases hrun

/-- **A check that blames a place that its value holds keeps the range.** -/
theorem tryMap (h : p.Keeps places) {check : α → Except Rejection β}
    (hcheck : ∀ a, Blames (places a) (check a)) : Bounded (p.tryMap check) := by
  have := h.toBounded
  exact Bounded.tryMap p fun hpos hrun hr hq => h.place hpos hrun _ (hcheck _ _ hr _ hq)

end Keeps

/-! ## Progress -/

/-- A success ends strictly after its start. -/
class Advances (p : Parser α) : Prop where
  lt : ∀ {input pos a stop}, p.run input pos = .ok a stop → pos < stop

instance (accepts : CharClass) (expected : Text) : Advances (satisfy accepts expected) where
  lt {input pos a stop} h := by
    simp only [satisfy] at h
    split at h
    · rename_i c hc
      split at h
      · cases h
        rw [← Text.head?_codePoints] at hc
        have hne := Text.ne_nil_of_mem_codePoints (List.mem_of_head? hc)
        exact Nat.lt_add_of_pos_right (List.length_pos_iff.mpr hne)
      · cases h
    · cases h

instance (f : α → β) (p : Parser α) [Advances p] : Advances (p.map f) where
  lt h := by
    obtain ⟨a, ha, -⟩ := Result.map_eq_ok_iff.mp h
    exact Advances.lt ha

/-- It is enough that the first of two parsers advances. -/
instance (p : Parser α) (q : Parser β) [Advances p] [Plain q] : Advances (p.seq q) where
  lt h := by
    obtain ⟨a, mid, ha, hrest⟩ := Result.andThen_eq_ok_iff.mp h
    obtain ⟨b, hb, -⟩ := Result.map_eq_ok_iff.mp hrest
    obtain ⟨n, rfl, -⟩ := Plain.exists_of_run_eq_ok hb
    exact Nat.lt_add_right n (Advances.lt ha)

instance (p : Parser α) [Advances p] : Advances (recognize p) where
  lt h := by
    obtain ⟨a, mid, ha, hmid⟩ := Result.andThen_eq_ok_iff.mp h
    cases hmid
    exact Advances.lt ha

instance (p : Parser α) (expected : Text) [Advances p] : Advances (label p expected) where
  lt h := by
    simp only [label] at h
    split at h
    · rename_i hrun
      cases h
      exact Advances.lt hrun
    · split at h <;> cases h

/-- A plain parser advances if it reads nothing from no text. -/
theorem Advances.of_plain (p : Parser α) [Plain p] (h : ∀ a r, ¬ p.Reads a [] r) : Advances p where
  lt {input pos a stop} hrun := by
    obtain ⟨n, rfl, hle, hreads⟩ := Plain.exists_of_run_eq_ok hrun
    refine Nat.lt_add_of_pos_right (Nat.pos_of_ne_zero ?_)
    rintro rfl
    exact h a _ (reads_of_run hreads hle)

end Parser

/-! ## Ranked alternatives -/

theorem Alternatives.bounded {α : Type} {alternatives : Alternatives α}
    (h : ∀ x ∈ alternatives, Parser.Bounded x.parser) : Parser.Bounded alternatives.parser :=
  .choice (List.forall_mem_map.mpr h)

/-! ## All primitives and combinators -/

namespace Parser

/-- Every primitive is bounded, but for regular expressions over code points. -/
structure BoundedPrimitives : Prop where
  literal : ∀ s, Bounded (literal s)
  keyword : ∀ s, Bounded (keyword s)
  char : ∀ c, Bounded (char c)
  oneOf : ∀ units, Bounded (oneOf units)
  satisfy : ∀ accepts expected, Bounded (satisfy accepts expected)
  takeBetween : ∀ accepts least most expected, Bounded (takeBetween accepts least most expected)
  takeWhile : ∀ accepts, Bounded (takeWhile accepts)
  takeWhile1 : ∀ accepts expected, Bounded (takeWhile1 accepts expected)
  /-- A regular expression leaves the input in one case: it is over code points, starts inside a
  surrogate pair and matches up to the end of the input. -/
  regex : ∀ (r : Regex) (expected : Text) {input pos}, pos ≤ input.length →
    (((regex r expected).run input pos).Within pos input.length
      ↔ ¬ (r.unicode = true ∧ input.SplitsPair pos
          ∧ r.matchEnd? input (pos - 1) = some input.length))
  /-- Inside a surrogate pair it ends one unit behind its match. -/
  regexInsidePair : ∀ (r : Regex) (expected : Text) {input pos stop}, r.unicode = true →
    input.SplitsPair pos → r.matchEnd? input (pos - 1) = some stop →
    (Parser.regex r expected).run input pos = .ok (input.extract (pos - 1) stop) (stop + 1)

theorem boundedPrimitives : BoundedPrimitives where
  literal _ := inferInstance
  keyword _ := inferInstance
  char _ := inferInstance
  oneOf _ := inferInstance
  satisfy _ _ := inferInstance
  takeBetween _ _ _ _ := inferInstance
  takeWhile _ := inferInstance
  takeWhile1 _ _ := inferInstance
  regex r expected _ _ := regex_within_iff r expected
  regexInsidePair r expected _ _ _ := regex_run_of_splitsPair r expected

/-- Every combinator makes bounded parsers of bounded parsers.  For a check this depends on the
positions that it blames for the values which it is given. -/
structure BoundedCombinators (α β γ : Type) : Prop where
  seq : ∀ (p : Parser α) (q : Parser β), Bounded p → Bounded q → Bounded (p.seq q)
  seq3 : ∀ (p : Parser α) (q : Parser β) (r : Parser γ),
    Bounded p → Bounded q → Bounded r → Bounded (p.seq3 q r)
  preceded : ∀ (lead : Parser α) (p : Parser β), Bounded lead → Bounded p →
    Bounded (preceded lead p)
  terminated : ∀ (p : Parser α) (trail : Parser β), Bounded p → Bounded trail →
    Bounded (terminated p trail)
  between : ∀ (opening : Parser α) (p : Parser β) (closing : Parser γ),
    Bounded opening → Bounded p → Bounded closing → Bounded (between opening p closing)
  alt : ∀ p q : Parser α, Bounded p → Bounded q → Bounded (alt p q)
  choice : ∀ ps : List (Parser α), (∀ p ∈ ps, Bounded p) → Bounded (choice ps)
  many : ∀ p : Parser α, Bounded p → Bounded (many p)
  count : ∀ (p : Parser α) (n : Nat), Bounded p → Bounded (count p n)
  optional : ∀ p : Parser α, Bounded p → Bounded (optional p)
  sepBy1 : ∀ (item : Parser α) (sep : Parser β), Bounded item → Bounded sep →
    Bounded (sepBy1 item sep)
  manyLoop : ∀ p : Parser α, Bounded p → ∀ {input pos r}, pos ≤ input.length →
    ManyReturns p input pos r → r.Within pos input.length
  listLoop : ∀ (item : Parser α) (sep : Parser β), Bounded item → Bounded sep →
    ∀ {input pos r}, pos ≤ input.length → ListReturns item sep input pos r →
      r.Within pos input.length
  map : ∀ (f : α → β) (p : Parser α), Bounded p → Bounded (p.map f)
  replace : ∀ (p : Parser α) (value : β), Bounded p → Bounded (p.replace value)
  recognize : ∀ p : Parser α, Bounded p → Bounded (recognize p)
  spanned : ∀ p : Parser α, Bounded p → Bounded (spanned p)
  label : ∀ (p : Parser α) (expected : Text), Bounded p → Bounded (label p expected)
  tryMap : ∀ (p : Parser α) (check : α → Except Rejection β), Bounded p →
    (∀ {input pos a stop r q}, pos ≤ input.length → p.run input pos = .ok a stop →
      check a = .error r → r.pos = some q → pos ≤ q ∧ q ≤ input.length) →
    Bounded (p.tryMap check)
  verify : ∀ (p : Parser α) (accepts : α → Bool) (expected : Text), Bounded p →
    Bounded (p.verify accepts expected)
  commit : ∀ p : Parser α, Bounded p → Bounded (commit p)
  ranked : ∀ alternatives : Alternatives α, (∀ x ∈ alternatives, Bounded x.parser) →
    Bounded alternatives.parser

theorem boundedCombinators (α β γ : Type) : BoundedCombinators α β γ where
  seq _ _ _ _ := inferInstance
  seq3 _ _ _ _ _ _ := inferInstance
  preceded _ _ _ _ := inferInstance
  terminated _ _ _ _ := inferInstance
  between _ _ _ _ _ _ := inferInstance
  alt _ _ _ _ := inferInstance
  choice _ := .choice
  many _ _ := inferInstance
  count _ _ _ := inferInstance
  optional _ _ := inferInstance
  sepBy1 _ _ _ _ := inferInstance
  manyLoop _ _ _ _ _ hpos h := h.within hpos
  listLoop _ _ _ _ _ _ _ hpos h := h.within hpos
  map _ _ _ := inferInstance
  replace _ _ _ := inferInstance
  recognize _ _ := inferInstance
  spanned _ _ := inferInstance
  label _ _ _ := inferInstance
  tryMap p _ _ := Bounded.tryMap p
  verify _ _ _ _ := inferInstance
  commit _ _ := inferInstance
  ranked _ := Alternatives.bounded

end Parser
end ODataToken
