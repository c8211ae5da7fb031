import Mathlib.Data.Prod.Lex
import ODataToken.Proofs.Parser.ErrorSelection

/-!
# Merging failures

There are two ways from the failures of several alternatives to one report.  A choice merges them
pairwise, in whatever bracketing it is written; the entry point records all of them and selects.

Of a failure the kind and the position are ranked, lexicographically.  A merge keeps the first of
the greatest (`Failure.Merges`), whatever the bracketing, and so does the selection: the two reports
agree on the kind, the position and, for a domain failure, on what was expected
(`Alternatives.exists_error_of_refuses`).

Shape failures at one position join what they expected.  The merge only drops an expectation that is
all that has been joined so far, while the selection drops every repetition.  So these texts agree
for some lists of expectations and not for others: `JoinsAlike`.
-/

set_option autoImplicit false

namespace ODataToken

/-! ## The rank of a failure -/

/-- A domain failure outranks a shape failure. -/
def FailureKind.rank : FailureKind → Nat
  | .shape => 0
  | .domain => 1

theorem FailureKind.eq_shape_of_ne {k : FailureKind} (h : k ≠ .domain) : k = .shape := by
  cases k with
  | shape => rfl
  | domain => exact absurd rfl h

namespace Failure

variable {f f' g g' : Failure} {fs gs : List Failure}

/-- Failures are ranked by kind and then by position. -/
def rank (f : Failure) : Nat ×ₗ Nat := toLex (f.kind.rank, f.pos)

theorem rank_lt_iff :
    f.rank < g.rank ↔ f.kind.rank < g.kind.rank ∨ f.kind.rank = g.kind.rank ∧ f.pos < g.pos :=
  Prod.Lex.toLex_lt_toLex

theorem rank_le_iff :
    f.rank ≤ g.rank ↔ f.kind.rank < g.kind.rank ∨ f.kind.rank = g.kind.rank ∧ f.pos ≤ g.pos :=
  Prod.Lex.toLex_le_toLex

/-- Failures alike up to what shape failures expected. -/
structure Like (f g : Failure) : Prop where
  kind : f.kind = g.kind
  pos : f.pos = g.pos
  expected : f.kind = .domain → f.expected = g.expected

theorem Like.refl (f : Failure) : f.Like f := ⟨rfl, rfl, fun _ => rfl⟩

theorem Like.trans {h : Failure} (hfg : f.Like g) (hgh : g.Like h) : f.Like h where
  kind := hfg.kind.trans hgh.kind
  pos := hfg.pos.trans hgh.pos
  expected hf := (hfg.expected hf).trans (hgh.expected (hfg.kind ▸ hf))

theorem Like.rank_eq (h : f.Like g) : f.rank = g.rank := by
  rw [rank, rank, h.kind, h.pos]

/-- A merge keeps the first failure unless the second outranks it. -/
theorem merge_like (f g : Failure) : (f.merge g).Like (if f.rank < g.rank then g else f) := by
  by_cases hkind : f.kind = g.kind
  · -- of one kind, the position decides
    have hrank : f.rank < g.rank ↔ f.pos < g.pos := by simp [rank_lt_iff, hkind]
    rw [merge, if_neg (not_not.mpr hkind)]
    simp only [hrank]
    rcases Nat.lt_trichotomy f.pos g.pos with hlt | heq | hlt
    · rw [if_pos (Nat.ne_of_lt hlt), if_neg (Nat.not_lt_of_lt hlt), if_pos hlt]
      exact .refl g
    · rw [if_neg (not_not.mpr heq), if_neg (Nat.not_lt_of_le (Nat.le_of_eq heq.symm))]
      split
      · exact .refl f
      · rename_i hnot
        obtain ⟨hshape, -⟩ := not_or.mp hnot
        exact ⟨(FailureKind.eq_shape_of_ne hshape).symm, rfl, fun h => FailureKind.noConfusion h⟩
    · rw [if_pos (Nat.ne_of_gt hlt), if_pos hlt, if_neg (Nat.not_lt_of_lt hlt)]
      exact .refl f
  · have hrank : f.rank < g.rank ↔ f.kind ≠ .domain := by
      rw [rank_lt_iff]
      cases hf : f.kind <;> cases hg : g.kind <;> simp_all [FailureKind.rank]
    rw [merge, if_pos hkind]
    simp only [hrank, ite_not]
    exact .refl _

/-! ## Merging many -/

/-- `f` is a merge of the failures `fs`: it is like the first of those with the greatest rank. -/
def Merges (fs : List Failure) (f : Failure) : Prop :=
  ∃ g, IsFirstGreatest rank fs g ∧ f.Like g

theorem merges_singleton (f : Failure) : Merges [f] f :=
  ⟨f, isFirstGreatest_singleton rank f, .refl f⟩

theorem Merges.merge (hf : Merges fs f) (hg : Merges gs g) : Merges (fs ++ gs) (f.merge g) := by
  obtain ⟨f', hfirst, hlike⟩ := hf
  obtain ⟨g', hfirst', hlike'⟩ := hg
  refine ⟨_, hfirst.append hfirst', (merge_like f g).trans ?_⟩
  rw [hlike.rank_eq, hlike'.rank_eq]
  split
  · exact hlike'
  · exact hlike

theorem Merges.foldl (hf : Merges fs f) (gs : List Failure) :
    Merges (fs ++ gs) (gs.foldl Failure.merge f) := by
  induction gs generalizing fs f with
  | nil => rwa [List.append_nil]
  | cons g gs ih =>
    rw [← List.singleton_append, ← List.append_assoc]
    exact ih (hf.merge (merges_singleton g))

/-- If a merge is of shape, so are all the failures, and none got farther. -/
theorem Merges.of_shape (h : Merges fs f) (hf : f.kind = .shape) (hg : g ∈ fs) :
    g.kind = .shape ∧ g.pos ≤ f.pos := by
  obtain ⟨h, hgreatest, hlike⟩ := h
  have hle := rank_le_iff.mp (hgreatest.le hg)
  rw [← hlike.kind, ← hlike.pos, hf] at hle
  cases hkind : g.kind with
  | shape =>
    rw [hkind] at hle
    exact ⟨rfl, (hle.resolve_left (Nat.lt_irrefl _)).2⟩
  | domain =>
    rw [hkind] at hle
    rcases hle with hlt | ⟨heq, -⟩
    · exact absurd hlt (Nat.not_lt_zero _)
    · cases heq

/-- A merge of shape failures is one. -/
theorem Merges.kind_eq (h : Merges fs f) (hshape : ∀ g ∈ fs, g.kind = .shape) :
    f.kind = .shape := by
  obtain ⟨g, hgreatest, hlike⟩ := h
  exact hlike.kind.trans (hshape g hgreatest.mem)

end Failure

/-! ## Joining expectations -/

/-- How a merge joins two expectations. -/
def joinExpected (a b : Text) : Text := if a = b then a else a ++ " or " ++ b

/-- How a merge joins many expectations. -/
def joinFrom : List Text → Text
  | [] => []
  | e :: es => es.foldl joinExpected e

/-- To join these expectations pairwise is to join the distinct ones among them.  It need not be:
a merge does not notice that an expectation is a part of what has been joined so far. -/
def JoinsAlike (es : List Text) : Prop := joinFrom es = Text.join " or " es.eraseDups

/-- Two expectations are joined alike. -/
theorem joinsAlike_of_length_le {es : List Text} (h : es.length ≤ 2) : JoinsAlike es := by
  match es, h with
  | [], _ => rfl
  | [a], _ => simp [JoinsAlike, joinFrom, Text.join, List.eraseDups_cons]
  | [a, b], _ =>
    by_cases hab : a = b
    · simp [JoinsAlike, joinFrom, joinExpected, Text.join, hab, List.eraseDups_cons]
    · have hba : (b == a) = false := by simpa using Ne.symm hab
      simp [JoinsAlike, joinFrom, joinExpected, Text.join, hab, hba, List.eraseDups_cons]

namespace Failure

variable {f g : Failure} {fs : List Failure} {pos : Nat}

/-- What the failures at a position expected, with repetitions. -/
def expectedAt (fs : List Failure) (pos : Nat) : List Text :=
  (fs.filter fun f => f.pos == pos).map Failure.expected

theorem expectedAt_cons_of_eq (h : f.pos = pos) :
    expectedAt (f :: fs) pos = f.expected :: expectedAt fs pos := by
  simp [expectedAt, h]

theorem expectedAt_cons_of_ne (h : f.pos ≠ pos) : expectedAt (f :: fs) pos = expectedAt fs pos := by
  simp [expectedAt, h]

/-- Two shape failures: the farther one, or both if they are at one position. -/
theorem merge_of_shape (hf : f.kind = .shape) (hg : g.kind = .shape) :
    f.merge g = if f.pos < g.pos then g else if g.pos < f.pos then f
      else .shape f.pos (joinExpected f.expected g.expected) := by
  obtain ⟨_, pf, ef⟩ := f
  obtain ⟨_, pg, eg⟩ := g
  obtain rfl : _ = FailureKind.shape := hf
  obtain rfl : _ = FailureKind.shape := hg
  rcases Nat.lt_trichotomy pf pg with hlt | rfl | hlt
  · simp [merge, hlt, Nat.ne_of_lt hlt, Nat.not_lt_of_lt hlt]
  · by_cases he : ef = eg <;> simp [merge, joinExpected, he]
  · simp [merge, hlt, Nat.ne_of_gt hlt, Nat.not_lt_of_lt hlt]

/-- One round of a merge of shape failures changes neither the farthest position nor what is joined
there. -/
theorem joinFrom_expectedAt_merge (hf : f.kind = .shape) (hg : g.kind = .shape)
    (hfpos : f.pos ≤ pos) (hgpos : g.pos ≤ pos) :
    joinFrom (expectedAt (f :: g :: fs) pos) = joinFrom (expectedAt (f.merge g :: fs) pos) := by
  rw [merge_of_shape hf hg]
  rcases Nat.lt_trichotomy f.pos g.pos with hlt | heq | hlt
  · rw [if_pos hlt, expectedAt_cons_of_ne (by omega)]
  · rw [if_neg (by omega), if_neg (by omega)]
    by_cases hpos : f.pos = pos
    · rw [expectedAt_cons_of_eq hpos, expectedAt_cons_of_eq (heq ▸ hpos),
        expectedAt_cons_of_eq (show (Failure.shape f.pos _).pos = pos from hpos)]
      rfl
    · rw [expectedAt_cons_of_ne hpos, expectedAt_cons_of_ne (heq ▸ hpos),
        expectedAt_cons_of_ne (show (Failure.shape f.pos _).pos ≠ pos from hpos)]
  · have hne : g.pos ≠ pos := by omega
    rw [if_neg (by omega), if_pos hlt]
    by_cases hpos : f.pos = pos
    · rw [expectedAt_cons_of_eq hpos, expectedAt_cons_of_ne hne, expectedAt_cons_of_eq hpos]
    · rw [expectedAt_cons_of_ne hpos, expectedAt_cons_of_ne hne, expectedAt_cons_of_ne hpos]

/-- **A merge of shape failures joins what was expected at the farthest position.** -/
theorem expected_foldl_merge (hshape : ∀ g ∈ f :: fs, g.kind = .shape) :
    (fs.foldl merge f).expected = joinFrom (expectedAt (f :: fs) (fs.foldl merge f).pos) := by
  -- what has been merged so far stands in front of the failures to come
  induction fs generalizing f with
  | nil => rw [List.foldl_nil, expectedAt_cons_of_eq rfl]; rfl
  | cons g fs ih =>
    have hmerges := (merges_singleton f).foldl (g :: fs)
    have hle {h : Failure} (hmem : h ∈ f :: g :: fs) : h.pos ≤ ((g :: fs).foldl merge f).pos :=
      (hmerges.of_shape (hmerges.kind_eq hshape) hmem).2
    obtain ⟨hf, hg, hfs⟩ : f.kind = .shape ∧ g.kind = .shape ∧ ∀ h ∈ fs, h.kind = .shape := by
      simpa using hshape
    rw [joinFrom_expectedAt_merge hf hg (hle (by simp)) (hle (by simp))]
    exact ih (List.forall_mem_cons.mpr ⟨merge_kind hf hg, hfs⟩)

end Failure

/-! ## Choices that fail -/

namespace Parser

variable {α : Type} {input : Text} {pos : Nat} {p : Parser α} {ps : List (Parser α)} {f : Failure}
  {fs : List Failure}

/-- All parsers fail, and these are their failures in order. -/
abbrev AllFailAt (input : Text) (pos : Nat) (ps : List (Parser α)) (fs : List Failure) : Prop :=
  List.Forall₂ (fun p f => p.run input pos = .fail f) ps fs

theorem AllFailAt.split {qs : List (Parser α)} (h : AllFailAt input pos (ps ++ qs) fs) :
    ∃ gs hs, fs = gs ++ hs ∧ AllFailAt input pos ps gs ∧ AllFailAt input pos qs hs := by
  have htake := List.forall₂_take ps.length h
  have hdrop := List.forall₂_drop ps.length h
  rw [List.take_left] at htake
  rw [List.drop_left] at hdrop
  exact ⟨_, _, (List.take_append_drop ps.length fs).symm, htake, hdrop⟩

theorem choiceFrom_of_allFailAt (h : AllFailAt input pos ps fs) (f : Failure) :
    choiceFrom input pos (some f) ps = .fail (fs.foldl Failure.merge f) := by
  induction h generalizing f with
  | nil => rfl
  | cons hp _ ih =>
    rw [choiceFrom, hp]
    exact ih _

/-- A choice among parsers that fail merges their failures from left to right. -/
theorem choice_of_allFailAt (h : AllFailAt input pos (p :: ps) (f :: fs)) :
    (choice (p :: ps)).run input pos = .fail (fs.foldl Failure.merge f) := by
  obtain ⟨hp, hps⟩ := List.forall₂_cons.mp h
  show choiceFrom input pos none (p :: ps) = _
  rw [choiceFrom, hp]
  exact choiceFrom_of_allFailAt hps f

/-- A choice among parsers, in any bracketing. -/
inductive Bracketing (α : Type) where
  | leaf (p : Parser α)
  | node (left right : Bracketing α)

namespace Bracketing

/-- The parsers between the brackets, from left to right. -/
def parsers : Bracketing α → List (Parser α)
  | leaf p => [p]
  | node left right => left.parsers ++ right.parsers

/-- The choice with these brackets. -/
def parser : Bracketing α → Parser α
  | leaf p => p
  | node left right => alt left.parser right.parser

/-- However it is bracketed, a choice among parsers that fail merges their failures. -/
theorem exists_merges (b : Bracketing α) {fs : List Failure}
    (h : AllFailAt input pos b.parsers fs) :
    ∃ f, b.parser.run input pos = .fail f ∧ Failure.Merges fs f := by
  induction b generalizing fs with
  | leaf p =>
    obtain ⟨f, fs, hp, hnil, rfl⟩ := List.forall₂_cons_left_iff.mp h
    obtain rfl := List.forall₂_nil_left_iff.mp hnil
    exact ⟨f, hp, Failure.merges_singleton f⟩
  | node left right ihleft ihright =>
    obtain ⟨gs, hs, rfl, hleft, hright⟩ := AllFailAt.split h
    obtain ⟨g, hg, hgs⟩ := ihleft hleft
    obtain ⟨g', hg', hhs⟩ := ihright hright
    refine ⟨g.merge g', ?_, hgs.merge hhs⟩
    simp only [parser, alt, hg, hg']

end Bracketing
end Parser

/-! ## The selection is a merge -/

namespace Alternatives

open ODataToken.Parser

variable {α : Type} {alternatives : Alternatives α} {input : Text} {failures : List FailedAttempt}
  {a : FailedAttempt} {e : ParseError} {f g : Failure}

/-- The error reports the failure, up to what is expected if that is a matter of shape. -/
structure Reports (e : ParseError) (f : Failure) : Prop where
  kind : e.kind = .failed f.kind
  pos : e.pos = f.pos
  expected : f.kind = .domain → e.expected = f.expected

/-- An error that reports the first of the failures of greatest rank reports every merge of them. -/
theorem Reports.of_merges {fs : List Failure} (h : Reports e g)
    (hg : IsFirstGreatest Failure.rank fs g) (hf : Failure.Merges fs f) : Reports e f := by
  obtain ⟨g', hg', hlike⟩ := hf
  obtain rfl := hg'.unique hg
  exact ⟨hlike.kind ▸ h.kind, hlike.pos ▸ h.pos, fun hkind =>
    (h.expected (hlike.kind ▸ hkind)).trans (hlike.expected hkind).symm⟩

/-- The parser fails at the start of the input, and this is what the error reports. -/
def FailsAs (p : Parser α) (input : Text) (e : ParseError) : Prop :=
  ∃ f, p.run input 0 = .fail f ∧ Reports e f

theorem expectedAt_map (failures : List FailedAttempt) (pos : Nat) :
    Failure.expectedAt (failures.map FailedAttempt.failure) pos = expectedAt failures pos := by
  rw [Failure.expectedAt, expectedAt, List.filter_map, List.map_map]
  rfl

theorem AllFail.allFailAt (h : AllFail input alternatives failures) :
    AllFailAt input 0 (alternatives.map Alternative.parser)
      (failures.map FailedAttempt.failure) := by
  rw [AllFailAt, List.forall₂_map_left_iff, List.forall₂_map_right_iff]
  exact h.imp fun _ _ h => h.2

/-- The parser of alternatives that all fail merges their failures and, if these are of shape, joins
what they expected where it fails. -/
theorem AllFail.exists_merged (h : AllFail input alternatives failures) (hne : alternatives ≠ []) :
    ∃ f, alternatives.parser.run input 0 = .fail f
      ∧ Failure.Merges (failures.map FailedAttempt.failure) f
      ∧ ((∀ a ∈ failures, a.failure.kind = .shape) →
          f.expected = joinFrom (expectedAt failures f.pos)) := by
  have hfail := h.allFailAt
  cases h with
  | nil => exact absurd rfl hne
  | @cons x a rest failures _ _ =>
    refine ⟨_, choice_of_allFailAt hfail, (Failure.merges_singleton _).foldl _, fun hshape => ?_⟩
    have hmap : ∀ g ∈ (a :: failures).map FailedAttempt.failure, g.kind = .shape :=
      List.forall_mem_map.mpr hshape
    rw [Failure.expected_foldl_merge hmap, ← List.map_cons, expectedAt_map]

theorem exists_allFail_of_refuses (h : ∀ x ∈ alternatives, x.parser.Refuses input) :
    ∃ failures, AllFail input alternatives failures := by
  rcases allFail_or_exists_split input alternatives with
    hall | ⟨before, a, after, _, v, stop, rfl, -, hrun⟩
  · exact hall
  · obtain ⟨f, hf⟩ := h a (by simp)
    rw [hrun] at hf
    cases hf

theorem exists_allFail_of_parser_run (h : alternatives.parser.run input 0 = .fail f) :
    ∃ failures, AllFail input alternatives failures := by
  rcases allFail_or_exists_split input alternatives with
    hall | ⟨before, a, after, _, v, stop, rfl, hbefore, hrun⟩
  · exact hall
  · rw [parser_run_of_split hbefore hrun] at h
    cases h

/-- Among failures on the shape the farthest has the greatest rank. -/
theorem isFirstGreatest_rank_of_shape (hshape : ∀ f ∈ failures, f.failure.kind = .shape)
    (h : IsFarthest failures a) :
    IsFirstGreatest Failure.rank (failures.map FailedAttempt.failure) a.failure := by
  have ha := hshape a h.mem
  refine (h.of_key (fun f hf hlt => ?_) fun f hf hle => ?_).map
  · exact Failure.rank_lt_iff.mpr (.inr ⟨by rw [ha, hshape f hf], hlt⟩)
  · exact Failure.rank_le_iff.mpr (.inr ⟨by rw [ha, hshape f hf], hle⟩)

/-- The farthest of the failures on the domain has the greatest rank among all failures. -/
theorem isFirstGreatest_rank_of_domain (h : IsFarthest (domainFailures failures) a) :
    a.failure.kind = .domain
      ∧ IsFirstGreatest Failure.rank (failures.map FailedAttempt.failure) a.failure := by
  have hdomain : ∀ f ∈ domainFailures failures, f.failure.kind = .domain := fun f hf =>
    eq_of_beq (List.mem_filter.mp hf).2
  have ha := hdomain a h.mem
  refine ⟨ha, IsFirstGreatest.map (IsFirstGreatest.of_filter (h.of_key ?_ ?_) ?_)⟩
  · exact fun f hf hlt => Failure.rank_lt_iff.mpr (.inr ⟨by rw [ha, hdomain f hf], hlt⟩)
  · exact fun f hf hle => Failure.rank_le_iff.mpr (.inr ⟨by rw [ha, hdomain f hf], hle⟩)
  · intro f _ hf
    have hkind : f.failure.kind = .shape :=
      FailureKind.eq_shape_of_ne (beq_eq_false_iff_ne.mp hf)
    exact Failure.rank_lt_iff.mpr (.inl (by rw [ha, hkind]; exact Nat.zero_lt_one))

/-- If all alternatives fail on their shape, the entry point reports the farthest. -/
theorem AllFail.exists_farthest (h : AllFail input alternatives failures)
    (hne : alternatives ≠ []) (hshape : ∀ f ∈ failures, f.failure.kind = .shape) :
    ∃ s, IsFarthest failures s ∧ alternatives.parseComplete input
      = .error ⟨.failed .shape, input, s.failure.pos,
          Text.join " or " (expectationsAt failures s.failure.pos), some s.alternative⟩ := by
  rw [parseComplete_of_allFail h, errorOf_of_shape hshape]
  cases hs : farthest? failures with
  | some s => exact ⟨s, farthest?_eq_some_iff.mp hs, rfl⟩
  | none =>
    obtain rfl := farthest?_eq_none_iff.mp hs
    exact absurd (List.forall₂_nil_right_iff.mp h) hne

/-- What the entry point selects is the first of the failures of greatest rank. -/
theorem AllFail.exists_error (h : AllFail input alternatives failures) (hne : alternatives ≠ []) :
    ∃ e g, alternatives.parseComplete input = .error e
      ∧ IsFirstGreatest Failure.rank (failures.map FailedAttempt.failure) g ∧ Reports e g := by
  cases hd : farthest? (domainFailures failures) with
  | some d =>
    have hfarthest := farthest?_eq_some_iff.mp hd
    obtain ⟨hkind, hgreatest⟩ := isFirstGreatest_rank_of_domain hfarthest
    rw [parseComplete_of_allFail h, errorOf_of_domain hfarthest]
    exact ⟨_, d.failure, rfl, hgreatest, by rw [hkind], rfl, fun _ => rfl⟩
  | none =>
    have hshape := domainFailures_eq_nil_iff.mp (farthest?_eq_none_iff.mp hd)
    obtain ⟨s, hfarthest, hcomplete⟩ := h.exists_farthest hne hshape
    have hkind := hshape s hfarthest.mem
    refine ⟨_, s.failure, hcomplete, isFirstGreatest_rank_of_shape hshape hfarthest, ?_⟩
    exact ⟨by rw [hkind], rfl, fun hdomain => by rw [hkind] at hdomain; cases hdomain⟩

/-- **A choice reports what the entry point does.**  If all alternatives fail, their parser, the
choice of their parsers and every other bracketing of it fail with the kind and at the position of
the error of the entry point and, if this is a matter of the domain, with what it expects. -/
theorem exists_error_of_refuses (hne : alternatives ≠ [])
    (h : ∀ x ∈ alternatives, x.parser.Refuses input) :
    ∃ e, alternatives.parseComplete input = .error e
      ∧ FailsAs alternatives.parser input e
      ∧ FailsAs (choice (alternatives.map Alternative.parser)) input e
      ∧ ∀ b : Bracketing α, b.parsers = alternatives.map Alternative.parser →
          FailsAs b.parser input e := by
  obtain ⟨failures, hall⟩ := exists_allFail_of_refuses h
  obtain ⟨e, g, hcomplete, hgreatest, hreports⟩ := hall.exists_error hne
  obtain ⟨f, hrun, hmerges, -⟩ := hall.exists_merged hne
  have hchoice : FailsAs alternatives.parser input e :=
    ⟨f, hrun, hreports.of_merges hgreatest hmerges⟩
  refine ⟨e, hcomplete, hchoice, hchoice, fun b hb => ?_⟩
  obtain ⟨f, hrun, hmerges⟩ := b.exists_merges (hb ▸ hall.allFailAt)
  exact ⟨f, hrun, hreports.of_merges hgreatest hmerges⟩

end Alternatives

/-! ## What a choice expects -/

namespace Parser

variable {α : Type} {p : Parser α} {input : Text} {pos : Nat} {f : Failure}

/-- What the parser expects at the start of the input, if it fails at the position. -/
def expects (p : Parser α) (input : Text) (pos : Nat) : List Text :=
  match p.run input 0 with
  | .ok _ _ => []
  | .fail f => if f.pos = pos then [f.expected] else []

theorem expects_of_pos_eq (h : p.run input 0 = .fail f) (hpos : f.pos = pos) :
    p.expects input pos = [f.expected] := by
  simp [expects, h, hpos]

theorem expects_of_pos_ne (h : p.run input 0 = .fail f) (hpos : f.pos ≠ pos) :
    p.expects input pos = [] := by
  simp [expects, h, hpos]

theorem length_expects_le (p : Parser α) (input : Text) (pos : Nat) :
    (p.expects input pos).length ≤ 1 := by
  simp only [expects]
  split
  · simp
  · split <;> simp

end Parser

namespace Alternatives

open ODataToken.Parser

variable {α : Type} {alternatives : Alternatives α} {input : Text} {failures : List FailedAttempt}
  {f : Failure}

theorem AllFail.flatMap_expects (h : AllFail input alternatives failures) (pos : Nat) :
    (alternatives.flatMap fun x => x.parser.expects input pos) = expectedAt failures pos := by
  induction h with
  | nil => rfl
  | @cons x a _ _ hx _ ih =>
    rw [List.flatMap_cons, ih]
    by_cases hpos : a.failure.pos = pos
    · rw [expects_of_pos_eq hx.2 hpos]
      simp [expectedAt, hpos]
    · rw [expects_of_pos_ne hx.2 hpos]
      simp [expectedAt, hpos]

theorem AllFail.exists_mem (h : AllFail input alternatives failures) {a : FailedAttempt}
    (ha : a ∈ failures) : ∃ x ∈ alternatives, x.parser.run input 0 = .fail a.failure := by
  induction h with
  | nil => cases ha
  | @cons x b _ _ hx _ ih =>
    rcases List.mem_cons.mp ha with rfl | ha
    · exact ⟨x, List.mem_cons_self, hx.2⟩
    · obtain ⟨y, hy, hrun⟩ := ih ha
      exact ⟨y, List.mem_cons_of_mem _ hy, hrun⟩

theorem AllFail.exists_mem_failures (h : AllFail input alternatives failures) {x : Alternative α}
    (hx : x ∈ alternatives) : ∃ a ∈ failures, x.parser.run input 0 = .fail a.failure := by
  induction h with
  | nil => cases hx
  | @cons y a _ _ hy _ ih =>
    rcases List.mem_cons.mp hx with rfl | hx
    · exact ⟨a, List.mem_cons_self, hy.2⟩
    · obtain ⟨b, hb, hrun⟩ := ih hx
      exact ⟨b, List.mem_cons_of_mem _ hb, hrun⟩

/-- If all alternatives fail on their shape, and none beyond a position where one of them does, then
the error is there. -/
theorem exists_error_of_shape {pos : Nat} {x : Alternative α}
    (h : ∀ x ∈ alternatives, ∃ g, x.parser.run input 0 = .fail g ∧ g.kind = .shape ∧ g.pos ≤ pos)
    (hx : x ∈ alternatives) (hrun : x.parser.run input 0 = .fail f) (hpos : f.pos = pos) :
    ∃ e, alternatives.parseComplete input = .error e ∧ e.kind = .failed .shape ∧ e.pos = pos := by
  obtain ⟨failures, hall⟩ := exists_allFail_of_refuses fun x hx => (h x hx).imp fun _ hx => hx.1
  have hfailure {a : FailedAttempt} (ha : a ∈ failures) :
      a.failure.kind = .shape ∧ a.failure.pos ≤ pos := by
    obtain ⟨y, hy, hyrun⟩ := hall.exists_mem ha
    obtain ⟨g, hg, hshape⟩ := h y hy
    rw [hyrun] at hg
    cases hg
    exact hshape
  obtain ⟨s, hfarthest, hcomplete⟩ :=
    hall.exists_farthest (List.ne_nil_of_mem hx) fun a ha => (hfailure ha).1
  obtain ⟨a, ha, harun⟩ := hall.exists_mem_failures hx
  obtain rfl := Result.fail.inj (hrun.symm.trans harun)
  refine ⟨_, hcomplete, rfl, Nat.le_antisymm (hfailure hfarthest.mem).2 ?_⟩
  exact hpos ▸ hfarthest.le ha

/-- **A choice that fails expects what the entry point does, provided that the expectations of shape
failures at its position are joined alike.** -/
theorem exists_error_of_parser_run (hne : alternatives ≠ [])
    (hrun : alternatives.parser.run input 0 = .fail f)
    (hjoin : (∀ x ∈ alternatives, ∃ g, x.parser.run input 0 = .fail g ∧ g.kind = .shape
        ∧ g.pos ≤ f.pos) →
      JoinsAlike (alternatives.flatMap fun x => x.parser.expects input f.pos)) :
    ∃ e, alternatives.parseComplete input = .error e ∧ e.kind = .failed f.kind ∧ e.pos = f.pos
      ∧ e.expected = f.expected := by
  obtain ⟨failures, hall⟩ := exists_allFail_of_parser_run hrun
  obtain ⟨f', hrun', hmerges, hexpected⟩ := hall.exists_merged hne
  obtain rfl := Result.fail.inj (hrun'.symm.trans hrun)
  obtain ⟨e, g, hcomplete, hgreatest, hreports⟩ := hall.exists_error hne
  have hreports' := hreports.of_merges hgreatest hmerges
  refine ⟨e, hcomplete, hreports'.kind, hreports'.pos, ?_⟩
  cases hkind : f'.kind with
  | domain => exact hreports'.expected hkind
  | shape =>
    have hof {a : FailedAttempt} (ha : a ∈ failures) :=
      hmerges.of_shape hkind (List.mem_map_of_mem ha)
    obtain ⟨s, -, hcomplete'⟩ := hall.exists_farthest hne fun a ha => (hof ha).1
    obtain rfl := Except.error.inj (hcomplete.symm.trans hcomplete')
    rw [hall.flatMap_expects] at hjoin
    have hpos : s.failure.pos = f'.pos := hreports'.pos
    rw [hexpected fun a ha => (hof ha).1, hjoin fun x hx => ?_, ← hpos]
    · rfl
    · obtain ⟨a, ha, hrun⟩ := hall.exists_mem_failures hx
      exact ⟨a.failure, hrun, hof ha⟩

end Alternatives
end ODataToken
