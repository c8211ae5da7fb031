import Mathlib.Data.List.Forall2
import Mathlib.Data.Nat.Basic
import ODataToken.Proofs.Parser.Alternatives
import ODataToken.Proofs.Selection

/-!
# Which error is reported

A whole text is read by the first alternative that succeeds, if that has consumed all of it.  If not
there are several failures to choose from, and perhaps an end that came too early.
`Alternatives.Selects` describes the choice without running anything: it says of a split of the list
into what failed and what comes after it which outcome belongs to it.

`Alternatives.parseComplete_selects` says that this outcome is always the one reported, that there
is no other, and that what is ranked after an alternative that succeeds has no part in it.
-/

set_option autoImplicit false

namespace ODataToken
namespace Alternatives

open ODataToken.Parser

variable {α : Type} {alternatives before after tried rest : Alternatives α} {a : Alternative α}
  {input : Text} {failures : List FailedAttempt} {d : FailedAttempt} {winner : Option (Winner α)}
  {v : α} {stop : Nat}

/-! ## The outcome of a list of alternatives -/

/-- All the alternatives fail at the start of the input, and these are their failures in order. -/
def AllFail (input : Text) (tried : Alternatives α) (failures : List FailedAttempt) : Prop :=
  List.Forall₂ (fun x f => x.name = f.alternative ∧ x.parser.run input 0 = .fail f.failure) tried
    failures

/-- The first of the failures that got farthest into the input. -/
abbrev IsFarthest (failures : List FailedAttempt) (f : FailedAttempt) : Prop :=
  IsFirstGreatest (fun f => f.failure.pos) failures f

/-- The failures on the domain. -/
def domainFailures (failures : List FailedAttempt) : List FailedAttempt :=
  failures.filter fun f => f.failure.kind == .domain

/-- What the failures at a position expected, with repetitions. -/
def expectedAt (failures : List FailedAttempt) (pos : Nat) : List Text :=
  (failures.filter fun f => f.failure.pos == pos).map fun f => f.failure.expected

/-- The alternatives, tried on an input in their order, lead to an outcome. -/
inductive Selects (alternatives : Alternatives α) (input : Text) : Outcome α → Prop
  /-- The first alternative that succeeds has consumed the whole input. -/
  | whole {before after : Alternatives α} {a : Alternative α} {failures : List FailedAttempt}
      {v : α} (hlist : alternatives = before ++ a :: after)
      (hbefore : AllFail input before failures)
      (hrun : a.parser.run input 0 = .ok v input.length) :
      Selects alternatives input (.ok ⟨v, a.name⟩)
  /-- No alternative succeeds, or the first to succeed stops short, and among the failures until
  then there are some on the domain: the farthest of these counts. -/
  | domain {tried rest : Alternatives α} {failures : List FailedAttempt} {d : FailedAttempt}
      (hlist : alternatives = tried ++ rest) (htried : AllFail input tried failures)
      (hrest : ∀ a ∈ rest.head?, ∃ v stop, a.parser.run input 0 = .ok v stop
        ∧ stop ≠ input.length)
      (hfarthest : IsFarthest (domainFailures failures) d) :
      Selects alternatives input
        (.error ⟨.failed .domain, input, d.failure.pos, d.failure.expected, some d.alternative⟩)
  /-- The first alternative that succeeds stops short, after failures on the shape alone. -/
  | trailingInput {before after : Alternatives α} {a : Alternative α}
      {failures : List FailedAttempt} {v : α} {stop : Nat}
      (hlist : alternatives = before ++ a :: after) (hbefore : AllFail input before failures)
      (hshape : ∀ f ∈ failures, f.failure.kind = .shape)
      (hrun : a.parser.run input 0 = .ok v stop) (hstop : stop ≠ input.length) :
      Selects alternatives input
        (.error ⟨.trailingInput, input, stop, "end of input", some a.name⟩)
  /-- All alternatives fail on the shape: the farthest position counts, with all that was expected
  there. -/
  | shape {failures : List FailedAttempt} {s : FailedAttempt} {distinct : List Text}
      (hall : AllFail input alternatives failures)
      (hshape : ∀ f ∈ failures, f.failure.kind = .shape) (hfarthest : IsFarthest failures s)
      (hdistinct : FirstOccurrences (expectedAt failures s.failure.pos) distinct) :
      Selects alternatives input
        (.error ⟨.failed .shape, input, s.failure.pos, Text.join " or " distinct,
          some s.alternative⟩)
  /-- There are no alternatives. -/
  | nothing (hlist : alternatives = []) :
      Selects alternatives input (.error ⟨.failed .shape, input, 0, "an alternative", none⟩)

/-! ## Attempts -/

/-- What has failed has left its failures, and the attempts go on behind it. -/
theorem attempt_append (h : AllFail input tried failures) (rest : Alternatives α) :
    attempt input (tried ++ rest)
      = ⟨failures ++ (attempt input rest).failures, (attempt input rest).winner⟩ := by
  induction h with
  | nil => rfl
  | cons hx _ ih =>
    obtain ⟨hname, hrun⟩ := hx
    rw [List.cons_append, attempt, hrun, ih, hname]
    rfl

theorem attempt_of_allFail (h : AllFail input alternatives failures) :
    attempt input alternatives = ⟨failures, none⟩ := by
  have happend := attempt_append h []
  rw [List.append_nil] at happend
  rw [happend, attempt, List.append_nil]

theorem attempt_of_split (h : AllFail input before failures)
    (hrun : a.parser.run input 0 = .ok v stop) (after : Alternatives α) :
    attempt input (before ++ a :: after) = ⟨failures, some ⟨a.name, v, stop⟩⟩ := by
  rw [attempt_append h, attempt, hrun, List.append_nil]

/-- All alternatives fail, or one is the first to succeed. -/
theorem allFail_or_exists_split (input : Text) (alternatives : Alternatives α) :
    (∃ failures, AllFail input alternatives failures)
      ∨ ∃ before a after failures v stop, alternatives = before ++ a :: after
          ∧ AllFail input before failures ∧ a.parser.run input 0 = .ok v stop := by
  induction alternatives with
  | nil => exact .inl ⟨[], .nil⟩
  | cons x alternatives ih =>
    cases hrun : x.parser.run input 0 with
    | ok v stop => exact .inr ⟨[], x, alternatives, [], v, stop, rfl, .nil, hrun⟩
    | fail f =>
      rcases ih with ⟨failures, h⟩ | ⟨before, a, after, failures, v, stop, rfl, h, hrun'⟩
      · exact .inl ⟨⟨x.name, f⟩ :: failures, .cons ⟨rfl, hrun⟩ h⟩
      · exact .inr ⟨x :: before, a, after, ⟨x.name, f⟩ :: failures, v, stop, rfl,
          .cons ⟨rfl, hrun⟩ h, hrun'⟩

/-- What is ranked after an alternative that succeeds is not tried. -/
theorem attempt_eq_of_run_eq_ok (hrun : a.parser.run input 0 = .ok v stop)
    (before after after' : Alternatives α) :
    attempt input (before ++ a :: after) = attempt input (before ++ a :: after') := by
  induction before with
  | nil => simp only [List.nil_append, attempt, hrun]
  | cons x before ih => simp only [List.cons_append, attempt, ih]

/-- The parser of the alternatives takes the same one as the winner. -/
theorem parser_run_of_split (h : AllFail input before failures)
    (hrun : a.parser.run input 0 = .ok v stop) (after : Alternatives α) :
    (parser (before ++ a :: after)).run input 0 = .ok v stop := by
  have from_ (sofar : Option Failure) :
      choiceFrom input 0 sofar ((before ++ a :: after).map Alternative.parser) = .ok v stop := by
    induction h generalizing sofar with
    | nil => rw [List.nil_append, List.map_cons, choiceFrom, hrun]
    | cons hx _ ih =>
      rw [List.cons_append, List.map_cons, choiceFrom, hx.2]
      exact ih _
  exact from_ none

/-! ## The choice among the failures -/

theorem farthest?_eq_some_iff : farthest? failures = some d ↔ IsFarthest failures d := by
  cases failures with
  | nil =>
    have hnone : ¬ IsFarthest [] d := not_isFirstGreatest_nil
    exact iff_of_false (by simp [farthest?]) hnone
  | cons f failures =>
    rw [farthest?, List.foldl_cons]
    exact foldl_eq_some_iff_isFirstGreatest fun _ _ => rfl

/-- A fold that never gives up what it has keeps having something. -/
theorem isSome_foldl {α : Type} {step : Option α → α → Option α}
    (hstep : ∀ best x, (step (some best) x).isSome) (l : List α) :
    ∀ best : α, (l.foldl step (some best)).isSome := by
  induction l with
  | nil => exact fun _ => rfl
  | cons x l ih =>
    intro best
    obtain ⟨next, hnext⟩ := Option.isSome_iff_exists.mp (hstep best x)
    rw [List.foldl_cons, hnext]
    exact ih next

theorem farthest?_eq_none_iff : farthest? failures = none ↔ failures = [] := by
  cases failures with
  | nil => simp [farthest?]
  | cons f failures =>
    refine iff_of_false (fun hnone => ?_) (List.cons_ne_nil _ _)
    -- the search starts with the first failure and always has one from then on
    have hsome : (farthest? (f :: failures)).isSome := by
      refine isSome_foldl (fun best x => ?_) failures f
      dsimp only
      split
      · rfl
      · rfl
    rw [hnone] at hsome
    cases hsome

theorem domainFailures_eq_nil_iff :
    domainFailures failures = [] ↔ ∀ f ∈ failures, f.failure.kind = .shape := by
  rw [domainFailures, List.filter_eq_nil_iff]
  refine forall₂_congr fun f _ => ?_
  cases f.failure.kind <;> decide

theorem expectationsAt_eq_iff {pos : Nat} {distinct : List Text} :
    expectationsAt failures pos = distinct
      ↔ FirstOccurrences (expectedAt failures pos) distinct := by
  constructor
  · rintro rfl
    exact firstOccurrences_eraseDups (expectedAt failures pos)
  · exact fun h => (firstOccurrences_eraseDups (expectedAt failures pos)).unique h

theorem errorOf_of_domain (h : IsFarthest (domainFailures failures) d)
    (winner : Option (Winner α)) :
    errorOf input ⟨failures, winner⟩
      = ⟨.failed .domain, input, d.failure.pos, d.failure.expected, some d.alternative⟩ := by
  have hd : farthest? (failures.filter fun f => f.failure.kind == .domain) = some d :=
    farthest?_eq_some_iff.mpr h
  simp only [errorOf, hd]

/-- Without a failure on the domain, what counts is the winner that stopped short. -/
theorem errorOf_of_shape (h : ∀ f ∈ failures, f.failure.kind = .shape)
    (winner : Option (Winner α)) :
    errorOf input ⟨failures, winner⟩
      = match winner with
        | some w => ⟨.trailingInput, input, w.pos, "end of input", some w.alternative⟩
        | none =>
          match farthest? failures with
          | some s =>
            ⟨.failed .shape, input, s.failure.pos,
              Text.join " or " (expectationsAt failures s.failure.pos), some s.alternative⟩
          | none => ⟨.failed .shape, input, 0, "an alternative", none⟩ := by
  have hnone : farthest? (failures.filter fun f => f.failure.kind == .domain) = none :=
    farthest?_eq_none_iff.mpr (domainFailures_eq_nil_iff.mpr h)
  cases winner with
  | some w => simp only [errorOf, hnone]
  | none => cases hs : farthest? failures <;> simp only [errorOf, hnone, hs]

theorem parseComplete_of_allFail (h : AllFail input alternatives failures) :
    alternatives.parseComplete input = .error (errorOf input (⟨failures, none⟩ : Attempts α)) := by
  rw [parseComplete, attempt_of_allFail h]

theorem parseComplete_of_split (h : AllFail input before failures)
    (hrun : a.parser.run input 0 = .ok v stop) (after : Alternatives α) :
    (before ++ a :: after).parseComplete input
      = if stop = input.length then .ok ⟨v, a.name⟩
        else .error (errorOf input ⟨failures, some ⟨a.name, v, stop⟩⟩) := by
  rw [parseComplete, attempt_of_split h hrun]

/-! ## The outcome that is reported -/

/-- The outcome that is selected is the one that is reported. -/
theorem Selects.parseComplete_eq {outcome : Outcome α} (h : Selects alternatives input outcome) :
    alternatives.parseComplete input = outcome := by
  cases h with
  | whole hlist hbefore hrun =>
    subst hlist
    rw [parseComplete_of_split hbefore hrun, if_pos rfl]
  | @domain tried rest failures d hlist htried hrest hfarthest =>
    subst hlist
    cases rest with
    | nil =>
      rw [List.append_nil, parseComplete_of_allFail htried, errorOf_of_domain hfarthest]
    | cons a after =>
      obtain ⟨v, stop, hrun, hstop⟩ := hrest a rfl
      rw [parseComplete_of_split htried hrun, if_neg hstop, errorOf_of_domain hfarthest]
  | trailingInput hlist hbefore hshape hrun hstop =>
    subst hlist
    rw [parseComplete_of_split hbefore hrun, if_neg hstop, errorOf_of_shape hshape]
  | shape hall hshape hfarthest hdistinct =>
    rw [parseComplete_of_allFail hall, errorOf_of_shape hshape]
    simp only [farthest?_eq_some_iff.mpr hfarthest, expectationsAt_eq_iff.mpr hdistinct]
  | nothing hlist =>
    subst hlist
    rfl

/-- Some outcome is always selected. -/
theorem exists_selects (alternatives : Alternatives α) (input : Text) :
    ∃ outcome, Selects alternatives input outcome := by
  rcases allFail_or_exists_split input alternatives with
    ⟨failures, hall⟩ | ⟨before, a, after, failures, v, stop, hlist, hbefore, hrun⟩
  · cases hd : farthest? (domainFailures failures) with
    | some d =>
      have hlist : alternatives = alternatives ++ [] := (List.append_nil _).symm
      exact ⟨_, .domain hlist hall (by simp) (farthest?_eq_some_iff.mp hd)⟩
    | none =>
      have hshape := domainFailures_eq_nil_iff.mp (farthest?_eq_none_iff.mp hd)
      cases hs : farthest? failures with
      | some s =>
        exact ⟨_, .shape hall hshape (farthest?_eq_some_iff.mp hs) (firstOccurrences_eraseDups _)⟩
      | none =>
        obtain rfl := farthest?_eq_none_iff.mp hs
        exact ⟨_, .nothing (List.forall₂_nil_right_iff.mp hall)⟩
  · by_cases hstop : stop = input.length
    · subst hstop
      exact ⟨_, .whole hlist hbefore hrun⟩
    · cases hd : farthest? (domainFailures failures) with
      | some d =>
        refine ⟨_, .domain hlist hbefore ?_ (farthest?_eq_some_iff.mp hd)⟩
        rintro _ ⟨⟩
        exact ⟨v, stop, hrun, hstop⟩
      | none =>
        have hshape := domainFailures_eq_nil_iff.mp (farthest?_eq_none_iff.mp hd)
        exact ⟨_, .trailingInput hlist hbefore hshape hrun hstop⟩

/-- What is reported is selected. -/
theorem selects_parseComplete (alternatives : Alternatives α) (input : Text) :
    Selects alternatives input (alternatives.parseComplete input) := by
  obtain ⟨outcome, h⟩ := exists_selects alternatives input
  rwa [h.parseComplete_eq]

/-- **The outcome of reading a whole text is the one that the alternatives select.**  It is a value
exactly if the first alternative that succeeds has consumed everything; of the errors, a failure on
the domain comes first, then input that was left over, then a failure on the shape.  Alternatives
after one that succeeds have no influence. -/
theorem parseComplete_selects (alternatives : Alternatives α) (input : Text) :
    (∀ outcome, alternatives.parseComplete input = outcome ↔ Selects alternatives input outcome)
      ∧ ∀ (before : Alternatives α) (a : Alternative α) (after after' : Alternatives α) (v : α)
          (stop : Nat), a.parser.run input 0 = .ok v stop →
          parseComplete (before ++ a :: after) input
            = parseComplete (before ++ a :: after') input := by
  refine ⟨fun outcome => ⟨?_, Selects.parseComplete_eq⟩, ?_⟩
  · rintro rfl
    exact selects_parseComplete alternatives input
  · intro before a after after' v stop hrun
    rw [parseComplete, parseComplete, attempt_eq_of_run_eq_ok hrun before after after']

/-- Two failures on the domain tie, the first of them counts, and an alternative that would read the
whole text comes after one that has read a part of it. -/
theorem parseComplete_selects_tie :
    let digits := takeWhile1 CharClass.digit "digit"
    let one : Alternative Text := ⟨"one", digits.verify (fun t => t.length == 1) "one digit"⟩
    let two : Alternative Text := ⟨"two", digits.verify (fun t => t.length == 2) "two digits"⟩
    let some : Alternative Text := ⟨"some", digits⟩
    let all : Alternative Text := ⟨"all", literal "123-"⟩
    digits.run "123-" 0 = .ok "123" 3
      ∧ parseComplete [one, two, some, all] "123-" = parseComplete [one, two, some] "123-"
      ∧ Selects [one, two, some, all] "123-"
          (.error ⟨.failed .domain, "123-", 0, "one digit", Option.some "one"⟩) := by
  intro digits one two some all
  have hrun : digits.run "123-" 0 = .ok (Text.ofString "123") 3 := by rfl
  have hselects := parseComplete_selects [one, two, some, all] "123-"
  exact ⟨hrun, hselects.2 [one, two] some [all] [] _ 3 hrun, (hselects.1 _).mp rfl⟩

end Alternatives
end ODataToken
