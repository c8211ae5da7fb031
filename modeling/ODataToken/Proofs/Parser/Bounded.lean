import ODataToken.Proofs.CharClass
import ODataToken.Proofs.Parser.Alternatives
import ODataToken.Proofs.Parser.Loops
import ODataToken.Proofs.Pattern

/-!
# Parsers that stay between their start and the end of the input

`Parser.Bounded` says of a parser that, from a position inside the input, it neither ends nor fails
before that position or beyond the input.  Everything that reports a position or goes on from one
relies on it.

* A primitive fails where it started (`Parser.FailsAtStart`), and where its success ends is what it
  has matched.  The one exception is a regular expression over code points that starts inside a
  surrogate pair: what it matches begins one unit before, and it ends one unit behind the match
  (`Parser.regex_run_of_splitsPair`), which can be beyond the input
  (`Parser.regex_beyond_input`).
* A combinator ends or fails where one of its parts did, which started no earlier.  For repetitions
  and lists this goes for the functions that run, and for the loops without a guard if they end
  (`Parser.ManyReturns.within`, `Parser.ListReturns.within`).

Checks, which may blame any position they like, are the matter of `ODataToken.Proofs.Parser.Keeps`.
-/

set_option autoImplicit false

namespace ODataToken

/-! ## Results in a range -/

namespace Result

variable {α β : Type} {first mid last : Nat} {r : Result α}

/-- Where the result was found, the end of a success or the position of a failure, is neither before
`first` nor after `last`. -/
def Within (first last : Nat) : Result α → Prop
  | ok _ stop => first ≤ stop ∧ stop ≤ last
  | fail f => first ≤ f.pos ∧ f.pos ≤ last

theorem Within.mono (hle : first ≤ mid) (h : r.Within mid last) : r.Within first last := by
  cases r with
  | ok a stop => exact ⟨Nat.le_trans hle h.1, h.2⟩
  | fail f => exact ⟨Nat.le_trans hle h.1, h.2⟩

/-- To go on from a success is to start no earlier than that ended. -/
theorem Within.andThen {next : α → Nat → Result β} (h : r.Within first last)
    (hnext : ∀ a mid, r = .ok a mid → mid ≤ last → (next a mid).Within mid last) :
    (r.andThen next).Within first last := by
  cases r with
  | ok a stop => exact (hnext a stop rfl h.2).mono h.1
  | fail f => exact h

theorem Within.map (h : r.Within first last) (f : α → β) : (r.map f).Within first last := by
  cases r <;> exact h

end Result

/-- Of two failures the merge is reported where one of them was. -/
theorem Failure.merge_pos (f g : Failure) : (f.merge g).pos = f.pos ∨ (f.merge g).pos = g.pos := by
  simp only [merge]
  split
  · split <;> simp
  · split
    · split <;> simp
    · split <;> simp

namespace Parser

variable {α β γ : Type}

/-! ## Failing at the start -/

/-- Every failure is reported where the parser started. -/
class FailsAtStart (p : Parser α) : Prop where
  pos_eq : ∀ {input pos f}, p.run input pos = .fail f → f.pos = pos

theorem pos_eq_of_ite {c : Prop} [Decidable c] {a : α} {pos stop : Nat} {expected : Text}
    {f : Failure} (h : (if c then Result.ok a stop else .fail (.shape pos expected)) = .fail f) :
    f.pos = pos := by
  split at h <;> cases h
  rfl

instance (s : Text) : FailsAtStart (literal s) := ⟨pos_eq_of_ite⟩

instance (s : Text) : FailsAtStart (keyword s) := ⟨pos_eq_of_ite⟩

instance (c : Text) : FailsAtStart (char c) where
  pos_eq {input pos f} h := by
    simp only [char] at h
    split at h
    · exact pos_eq_of_ite h
    · cases h; rfl

instance (units : Text) : FailsAtStart (oneOf units) where
  pos_eq {input pos f} h := by
    simp only [oneOf] at h
    split at h
    · exact pos_eq_of_ite h
    · cases h; rfl

instance (accepts : CharClass) (expected : Text) : FailsAtStart (satisfy accepts expected) where
  pos_eq {input pos f} h := by
    simp only [satisfy] at h
    split at h
    · exact pos_eq_of_ite h
    · cases h; rfl

instance (accepts : CharClass) (least : Nat) (most : Option Nat) (expected : Text) :
    FailsAtStart (takeBetween accepts least most expected) where
  pos_eq {input pos f} h := by
    simp only [takeBetween] at h
    split at h <;> cases h
    rfl

instance (r : Regex) (expected : Text) : FailsAtStart (regex r expected) where
  pos_eq {input pos f} h := by
    simp only [regex] at h
    split at h <;> cases h
    rfl

instance (p : Pattern) (expected : Text) : FailsAtStart (pattern p expected) :=
  inferInstanceAs (FailsAtStart (regex _ _))

instance (f : α → β) (p : Parser α) [FailsAtStart p] : FailsAtStart (p.map f) :=
  ⟨fun h => FailsAtStart.pos_eq (Result.map_eq_fail_iff.mp h)⟩

instance (p : Parser α) (value : β) [FailsAtStart p] : FailsAtStart (p.replace value) :=
  inferInstanceAs (FailsAtStart (p.map _))

instance (p q : Parser α) [FailsAtStart p] [FailsAtStart q] : FailsAtStart (alt p q) where
  pos_eq {input pos f} h := by
    simp only [alt] at h
    split at h
    · cases h
    · rename_i e hp
      split at h
      · cases h
      · rename_i e' hq
        cases h
        rcases e.merge_pos e' with hpos | hpos
        · exact hpos.trans (FailsAtStart.pos_eq hp)
        · exact hpos.trans (FailsAtStart.pos_eq hq)

theorem FailsAtStart.choice {ps : List (Parser α)} (h : ∀ p ∈ ps, FailsAtStart p) :
    FailsAtStart (choice ps) where
  pos_eq {input pos f} hrun := by
    refine of_choiceFrom_eq_fail (P := fun f => f.pos = pos) (fun f g hf hg => ?_) rfl
      (fun p hp _ hg => (h p hp).pos_eq hg) (by simp) hrun
    rcases f.merge_pos g with hpos | hpos
    · exact hpos.trans hf
    · exact hpos.trans hg

instance (p : Parser α) (expected : Text) [FailsAtStart p] : FailsAtStart (label p expected) where
  pos_eq {input pos f} h := by
    simp only [label] at h
    split at h
    · cases h
    · rename_i e hp
      split at h
      · cases h; exact FailsAtStart.pos_eq hp
      · cases h; rfl

/-! ## Bounded parsers -/

/-- From a position inside the input, a success ends and a failure is reported no earlier than there
and no later than at the end of the input. -/
class Bounded (p : Parser α) : Prop where
  within : ∀ {input pos}, pos ≤ input.length → (p.run input pos).Within pos input.length

/-- A plain parser that fails where it started is bounded. -/
theorem Bounded.of_failsAtStart (p : Parser α) [Plain p] [FailsAtStart p] : Bounded p where
  within {input pos} hpos := by
    cases h : p.run input pos with
    | ok a stop =>
      obtain ⟨s, rfl, hs, -⟩ := Plain.exists_of_run_eq_ok h
      rw [List.length_drop] at hs
      exact ⟨by omega, by omega⟩
    | fail f =>
      obtain rfl := FailsAtStart.pos_eq h
      exact ⟨Nat.le_refl _, hpos⟩

theorem Bounded.stop_within {p : Parser α} [Bounded p] {input : Text} {pos stop : Nat} {a : α}
    (hpos : pos ≤ input.length) (h : p.run input pos = .ok a stop) :
    pos ≤ stop ∧ stop ≤ input.length := by
  have := Bounded.within (p := p) hpos
  rwa [h] at this

/-! ### Primitives -/

instance (s : Text) : Bounded (literal s) := .of_failsAtStart _

instance (s : Text) : Bounded (keyword s) := .of_failsAtStart _

instance (c : Text) : Bounded (char c) := .of_failsAtStart _

instance (units : Text) : Bounded (oneOf units) := .of_failsAtStart _

instance (accepts : CharClass) (expected : Text) : Bounded (satisfy accepts expected) :=
  .of_failsAtStart _

instance (accepts : CharClass) (least : Nat) (most : Option Nat) (expected : Text) :
    Bounded (takeBetween accepts least most expected) := .of_failsAtStart _

instance (accepts : CharClass) (n : Nat) (expected : Text) :
    Bounded (takeExactly accepts n expected) :=
  inferInstanceAs (Bounded (takeBetween accepts n (some n) expected))

instance (accepts : CharClass) : Bounded (takeWhile accepts) :=
  inferInstanceAs (Bounded (takeBetween accepts 0 none []))

instance (accepts : CharClass) (expected : Text) : Bounded (takeWhile1 accepts expected) :=
  inferInstanceAs (Bounded (takeBetween accepts 1 none expected))

/-- A match that starts at the position lies ahead and inside the input. -/
theorem regex_within (r : Regex) (expected : Text) {input : Text} {pos : Nat}
    (hpos : pos ≤ input.length) (hsplit : r.unicode = true → ¬ input.SplitsPair pos) :
    ((regex r expected).run input pos).Within pos input.length := by
  have hstart : r.startOf input pos = pos := if_neg fun h => hsplit h.1 h.2
  simp only [regex, Regex.exec?, if_pos hpos, hstart]
  cases hstop : r.matchEnd? input pos with
  | none => exact ⟨Nat.le_refl _, hpos⟩
  | some stop =>
    have hwithin := r.within hpos hstop
    simp only [Option.map_some, Result.Within, List.extract_eq_take_drop, List.length_take,
      List.length_drop]
    omega

/-- A match that starts one unit early ends one unit further on than it reaches. -/
theorem regex_run_of_splitsPair (r : Regex) (expected : Text) {input : Text} {pos stop : Nat}
    (hunicode : r.unicode = true) (hsplit : input.SplitsPair pos)
    (hstop : r.matchEnd? input (pos - 1) = some stop) :
    (regex r expected).run input pos = .ok (input.extract (pos - 1) stop) (stop + 1) := by
  have hstart : r.startOf input pos = pos - 1 := if_pos ⟨hunicode, hsplit⟩
  obtain ⟨hpositive, -, u, hu, -⟩ := hsplit
  obtain ⟨hlt, -⟩ := List.getElem?_eq_some_iff.mp hu
  have hwithin := r.within (by omega) hstop
  have hlength : pos + min (stop - (pos - 1)) (input.length - (pos - 1)) = stop + 1 := by omega
  simp [regex, Regex.exec?, Nat.le_of_lt hlt, hstart, hstop, hlength]

/-- The one way out of the input is a match that starts inside a surrogate pair, and so before the
position, and reaches the end of the input. -/
theorem regex_within_iff (r : Regex) (expected : Text) {input : Text} {pos : Nat}
    (hpos : pos ≤ input.length) :
    ((regex r expected).run input pos).Within pos input.length
      ↔ ¬ (r.unicode = true ∧ input.SplitsPair pos
          ∧ r.matchEnd? input (pos - 1) = some input.length) := by
  by_cases hinside : r.unicode = true ∧ input.SplitsPair pos
  · cases hstop : r.matchEnd? input (pos - 1) with
    | none =>
      have hrun : (regex r expected).run input pos = .fail (.shape pos expected) := by
        simp only [regex, Regex.exec?, if_pos hpos, Regex.startOf, if_pos hinside, hstop,
          Option.map_none]
      simp [hrun, Result.Within, hpos]
    | some stop =>
      have hwithin := r.within (Nat.le_trans (Nat.sub_le pos 1) hpos) hstop
      rw [regex_run_of_splitsPair r expected hinside.1 hinside.2 hstop, Option.some_inj]
      simp only [Result.Within, hinside.1, hinside.2, true_and]
      omega
  · exact iff_of_true (regex_within r expected hpos fun hunicode hsplit =>
      hinside ⟨hunicode, hsplit⟩) fun h => hinside ⟨h.1, h.2.1⟩

instance (p : Pattern) (expected : Text) : Bounded (pattern p expected) :=
  ⟨fun hpos => regex_within p.regex expected hpos nofun⟩

/-! ### Sequences -/

instance (f : α → β) (p : Parser α) [Bounded p] : Bounded (p.map f) where
  within hpos := (Bounded.within hpos).map f

instance (p : Parser α) (value : β) [Bounded p] : Bounded (p.replace value) :=
  inferInstanceAs (Bounded (p.map _))

instance (p : Parser α) (q : Parser β) [Bounded p] [Bounded q] : Bounded (p.seq q) where
  within hpos := (Bounded.within hpos).andThen fun _ _ _ hmid => (Bounded.within hmid).map _

instance (p : Parser α) (q : Parser β) (r : Parser γ) [Bounded p] [Bounded q] [Bounded r] :
    Bounded (p.seq3 q r) := by
  rw [seq3_eq]; infer_instance

instance (lead : Parser α) (p : Parser β) [Bounded lead] [Bounded p] :
    Bounded (preceded lead p) :=
  inferInstanceAs (Bounded ((lead.seq p).map Prod.snd))

instance (p : Parser α) (trail : Parser β) [Bounded p] [Bounded trail] :
    Bounded (terminated p trail) :=
  inferInstanceAs (Bounded ((p.seq trail).map Prod.fst))

instance (opening : Parser α) (p : Parser β) (closing : Parser γ) [Bounded opening] [Bounded p]
    [Bounded closing] : Bounded (between opening p closing) := by
  rw [between_eq]; infer_instance

instance (p : Parser α) [Bounded p] : Bounded (recognize p) where
  within hpos := (Bounded.within hpos).andThen fun _ _ _ hmid => ⟨Nat.le_refl _, hmid⟩

instance (p : Parser α) [Bounded p] : Bounded (spanned p) where
  within hpos := (Bounded.within hpos).andThen fun _ _ _ hmid => ⟨Nat.le_refl _, hmid⟩

/-! ### Choice -/

theorem within_merge {f g : Failure} {first last : Nat}
    (hf : (Result.fail f : Result α).Within first last)
    (hg : (Result.fail g : Result α).Within first last) :
    (Result.fail (f.merge g) : Result α).Within first last := by
  show first ≤ (f.merge g).pos ∧ (f.merge g).pos ≤ last
  rcases f.merge_pos g with h | h
  · rw [h]; exact hf
  · rw [h]; exact hg

instance (p q : Parser α) [Bounded p] [Bounded q] : Bounded (alt p q) where
  within {input pos} hpos := by
    have hp := Bounded.within (p := p) hpos
    have hq := Bounded.within (p := q) hpos
    simp only [alt]
    cases hrun : p.run input pos with
    | ok a stop => rwa [hrun] at hp
    | fail f =>
      rw [hrun] at hp
      cases hrun' : q.run input pos with
      | ok a stop => rwa [hrun'] at hq
      | fail g =>
        rw [hrun'] at hq
        exact within_merge hp hq

/-- A choice of one is no choice. -/
theorem choice_singleton (p : Parser α) : choice [p] = p := by
  have hrun (input : Text) (pos : Nat) : choiceFrom input pos none [p] = p.run input pos := by
    rw [choiceFrom]
    cases p.run input pos <;> rfl
  exact congrArg Parser.mk (funext fun input => funext (hrun input))

/-- A choice of bounded parsers is bounded. -/
theorem Bounded.choice {ps : List (Parser α)} (h : ∀ p ∈ ps, Bounded p) : Bounded (choice ps) where
  within {input pos} hpos := by
    have hwithin {p : Parser α} (hp : p ∈ ps) := (h p hp).within hpos
    cases hrun : (Parser.choice ps).run input pos with
    | ok a stop =>
      obtain ⟨p, hp, hok⟩ := exists_mem_of_choiceFrom hrun
      exact hok ▸ hwithin hp
    | fail f =>
      refine of_choiceFrom_eq_fail
        (P := fun f => (Result.fail f : Result α).Within pos input.length)
        (fun _ _ => within_merge) ⟨Nat.le_refl _, hpos⟩ (fun p hp g hg => ?_) (by simp) hrun
      exact hg ▸ hwithin hp

instance (p : Parser α) [Bounded p] : Bounded (optional p) where
  within {input pos} hpos := by
    have hp := Bounded.within (p := p) hpos
    simp only [optional]
    cases hrun : p.run input pos with
    | ok a stop => rwa [hrun] at hp
    | fail f =>
      rw [hrun] at hp
      dsimp only
      split
      · exact hp
      · exact ⟨Nat.le_refl _, hpos⟩

instance (p : Parser α) (expected : Text) [Bounded p] : Bounded (label p expected) where
  within {input pos} hpos := by
    have hp := Bounded.within (p := p) hpos
    simp only [label]
    cases hrun : p.run input pos with
    | ok a stop => rwa [hrun] at hp
    | fail f =>
      rw [hrun] at hp
      dsimp only
      split
      · exact hp
      · exact ⟨Nat.le_refl _, hpos⟩

instance (p : Parser α) [Bounded p] : Bounded (commit p) where
  within {input pos} hpos := by
    have hp := Bounded.within (p := p) hpos
    simp only [commit]
    cases hrun : p.run input pos with
    | ok a stop => rwa [hrun] at hp
    | fail f => rwa [hrun] at hp

/-! ### Repetition -/

/-- One round keeps the range, and so does every number of rounds. -/
theorem countFrom_within (p : Parser α) [Bounded p] {input : Text} :
    ∀ n {cur : Nat}, cur ≤ input.length → (countFrom p input n cur).Within cur input.length
  | 0, _, hcur => ⟨Nat.le_refl _, hcur⟩
  | n + 1, _, hcur =>
    (Bounded.within hcur).andThen fun _ _ _ hmid => (countFrom_within p n hmid).map _

instance (p : Parser α) (n : Nat) [Bounded p] : Bounded (count p n) where
  within := countFrom_within p n

theorem manyFrom_within (p : Parser α) [Bounded p] {input : Text} {cur : Nat}
    (hcur : cur ≤ input.length) : (manyFrom p input cur).Within cur input.length := by
  have hp := Bounded.within (p := p) hcur
  fun_induction manyFrom p input cur with
  | case1 cur f hrun _ => rwa [hrun] at hp
  | case2 cur f hrun _ => exact ⟨Nat.le_refl _, hcur⟩
  | case3 cur a next hrun hlt ih =>
    rw [hrun] at hp
    exact ((ih hp.2 (Bounded.within hp.2)).mono hp.1).map _
  | case4 cur a next hrun _ => exact ⟨Nat.le_refl _, hcur⟩

instance (p : Parser α) [Bounded p] : Bounded (many p) where
  within := manyFrom_within p

theorem sepByFrom_within (item : Parser α) (sep : Parser β) [Bounded item] [Bounded sep]
    {input : Text} {cur : Nat} (hcur : cur ≤ input.length) :
    (sepByFrom item sep input cur).Within cur input.length := by
  fun_induction sepByFrom item sep input cur with
  | case1 cur f hsep => exact ⟨Nat.le_refl _, hcur⟩
  | case2 cur b mid hsep f hitem hf =>
    have hmid := Bounded.stop_within hcur hsep
    have hfail := Bounded.within (p := item) hmid.2
    rw [hitem] at hfail
    exact hfail.mono hmid.1
  | case3 cur b mid hsep f hitem hf => exact ⟨Nat.le_refl _, hcur⟩
  | case4 cur b mid hsep a next hitem hlt ih =>
    have hmid := Bounded.stop_within hcur hsep
    have hnext := Bounded.stop_within hmid.2 hitem
    exact ((ih hnext.2).mono (Nat.le_of_lt hlt.1)).map _
  | case5 cur b mid hsep a next hitem hlt => exact ⟨Nat.le_refl _, hcur⟩

instance (item : Parser α) (sep : Parser β) [Bounded item] [Bounded sep] :
    Bounded (sepBy1 item sep) where
  within hpos :=
    (Bounded.within hpos).andThen fun _ _ _ hmid => (sepByFrom_within item sep hmid).map _

/-! ### Loops without a guard -/

theorem onFailure_within {values : List α} {f : Failure} {first cur last : Nat}
    (hcur : first ≤ cur ∧ cur ≤ last) (hf : first ≤ f.pos ∧ f.pos ≤ last) :
    (onFailure values cur f).Within first last := by
  unfold onFailure
  split
  · exact hf
  · exact hcur

/-- **If the loop of a repetition ends, then in the range**: every pass keeps the position in it. -/
theorem ManyReturns.within {p : Parser α} [Bounded p] {input : Text} {pos : Nat}
    {r : Result (List α)} (h : ManyReturns p input pos r) (hpos : pos ≤ input.length) :
    r.Within pos input.length := by
  obtain ⟨n, hends⟩ := h.exists_ends
  refine hends.of_invariant (fun s => pos ≤ s.2 ∧ s.2 ≤ input.length) ?_ ?_
    ⟨Nat.le_refl pos, hpos⟩
  · rintro ⟨values, cur⟩ t ⟨hle, hcur⟩ hagain
    cases hrun : p.run input cur with
    | fail f => cases (manyBody_of_fail hrun).symm.trans hagain
    | ok value next =>
      have hnext := Bounded.stop_within hcur hrun
      by_cases hstill : next = cur
      · cases (manyBody_of_still (hstill ▸ hrun)).symm.trans hagain
      · cases (manyBody_of_moves hrun hstill).symm.trans hagain
        exact ⟨Nat.le_trans hle hnext.1, hnext.2⟩
  · rintro ⟨values, cur⟩ r ⟨hle, hcur⟩ hleave
    cases hrun : p.run input cur with
    | fail f =>
      obtain rfl := Pass.leave.inj ((manyBody_of_fail hrun).symm.trans hleave)
      have hfail := Bounded.within (p := p) hcur
      rw [hrun] at hfail
      exact onFailure_within ⟨hle, hcur⟩ ⟨Nat.le_trans hle hfail.1, hfail.2⟩
    | ok value next =>
      by_cases hstill : next = cur
      · obtain rfl := Pass.leave.inj ((manyBody_of_still (hstill ▸ hrun)).symm.trans hleave)
        exact ⟨hle, hcur⟩
      · cases (manyBody_of_moves hrun hstill).symm.trans hleave

/-- **If the loop of a list ends, then in the range.** -/
theorem ListReturns.within {item : Parser α} {sep : Parser β} [Bounded item] [Bounded sep]
    {input : Text} {pos : Nat} {r : Result (List α)} (h : ListReturns item sep input pos r)
    (hpos : pos ≤ input.length) : r.Within pos input.length := by
  cases hfirst : item.run input pos with
  | fail f =>
    obtain rfl := (listReturns_of_fail hfirst).mp h
    have hfail := Bounded.within (p := item) hpos
    rwa [hfirst] at hfail
  | ok value first =>
    have hstart := Bounded.stop_within hpos hfirst
    obtain ⟨n, hends⟩ := ((listReturns_of_ok hfirst).mp h).exists_ends
    refine hends.of_invariant (fun s => pos ≤ s.2 ∧ s.2 ≤ input.length) ?_ ?_ hstart
    · rintro ⟨values, cur⟩ t ⟨hle, hcur⟩ hagain
      cases hsep : sep.run input cur with
      | fail f => cases (listBody_of_separator hsep).symm.trans hagain
      | ok mark mid =>
        have hmid := Bounded.stop_within hcur hsep
        cases hitem : item.run input mid with
        | fail f => cases (listBody_of_item hsep hitem).symm.trans hagain
        | ok value next =>
          have hnext := Bounded.stop_within hmid.2 hitem
          cases (listBody_of_both hsep hitem).symm.trans hagain
          exact ⟨Nat.le_trans hle (Nat.le_trans hmid.1 hnext.1), hnext.2⟩
    · rintro ⟨values, cur⟩ r ⟨hle, hcur⟩ hleave
      cases hsep : sep.run input cur with
      | fail f =>
        obtain rfl := Pass.leave.inj ((listBody_of_separator hsep).symm.trans hleave)
        exact ⟨hle, hcur⟩
      | ok mark mid =>
        have hmid := Bounded.stop_within hcur hsep
        cases hitem : item.run input mid with
        | fail f =>
          obtain rfl := Pass.leave.inj ((listBody_of_item hsep hitem).symm.trans hleave)
          have hfail := Bounded.within (p := item) hmid.2
          rw [hitem] at hfail
          exact onFailure_within ⟨hle, hcur⟩
            ⟨Nat.le_trans hle (Nat.le_trans hmid.1 hfail.1), hfail.2⟩
        | ok value next => cases (listBody_of_both hsep hitem).symm.trans hleave

/-! ### A match that starts too early -/

/-- Where the code point at a position ends, if it does not end a line. -/
def codePointEnd? (input : Text) (start : Nat) : Option Nat :=
  ((Text.firstCodePoint? (input.drop start)).filter fun c => !c.any Pattern.isLineEnd).map
    fun c => start + c.length

theorem within_of_codePointEnd? {input : Text} {start stop : Nat} (hstart : start ≤ input.length)
    (h : codePointEnd? input start = some stop) : start ≤ stop ∧ stop ≤ input.length := by
  obtain ⟨c, hc, rfl⟩ := Option.map_eq_some_iff.mp h
  have hle := (isPrefix_of_firstCodePoint? (Option.filter_eq_some_iff.mp hc).1).length_le
  rw [List.length_drop] at hle
  omega

/-- Any code point that does not end a line. -/
def anyCodePoint : Regex where
  source := "."
  unicode := true
  matchEnd? := codePointEnd?
  within := within_of_codePointEnd?

end Parser
end ODataToken
