import ODataToken.Parser.Combinator
import ODataToken.Proofs.Parser.DomainFailures

/-!
# Checked parsers

A checked parser recognises a shape and then converts or rejects the value.  If the shape itself
never fails on the domain, the two ways to fail stay apart: a failure on the shape says that the
shape is not there, and a failure on the domain is a rejection of the check.

Where a rejection names no place, the failure stands where the parser started.  A check that always
names one (`Placed`) makes the same failure wherever that was, so it can be moved into a larger
parser that starts further ahead.
-/

set_option autoImplicit false

namespace ODataToken

variable {α β γ : Type}

/-! ## Failures of results and of checks -/

/-- The failure of a result, if it is one on the domain. -/
def Result.domainFailure? : Result α → Option Failure
  | ok _ _ => none
  | fail f => if f.kind = .domain then some f else none

/-- What a check rejects, and nothing where it accepts. -/
def rejection? : Except Rejection α → Option Rejection
  | .ok _ => none
  | .error r => some r

theorem rejection?_map (f : α → β) (x : Except Rejection α) :
    rejection? (x.map f) = rejection? x := by
  cases x <;> rfl

theorem map_eq_ok_iff {f : α → β} {x : Except Rejection α} {b : β} :
    x.map f = .ok b ↔ ∃ a, x = .ok a ∧ f a = b := by
  cases x <;> simp [Except.map]

/-- The failure of a parser that started at a position and whose value was rejected. -/
def Rejection.failureFrom (pos : Nat) (r : Rejection) : Failure :=
  .domain (r.pos.getD pos) r.expected

/-- What a check rejects, it rejects at a place of its own. -/
def Placed (x : Except Rejection α) : Prop := ∀ r, x = .error r → r.pos ≠ none

theorem Placed.ok (a : α) : Placed (.ok a) := fun _ h => by cases h

theorem Placed.bind {x : Except Rejection α} {g : α → Except Rejection β} (hx : Placed x)
    (hg : ∀ a, Placed (g a)) : Placed (x >>= g) := by
  cases x with
  | ok a => exact hg a
  | error r =>
    intro r' h
    cases h
    exact hx r rfl

/-- A rejection that names its place is the same failure wherever the parser started. -/
theorem Placed.map_failureFrom {x : Except Rejection α} (hx : Placed x) (pos pos' : Nat) :
    (rejection? x).map (Rejection.failureFrom pos)
      = (rejection? x).map (Rejection.failureFrom pos') := by
  cases x with
  | ok a => rfl
  | error r =>
    obtain ⟨place, hplace⟩ := Option.ne_none_iff_exists'.mp (hx r rfl)
    simp [rejection?, Rejection.failureFrom, hplace]

namespace Parser

variable {p : Parser α} {q : Parser β} {s : Parser γ} {input : Text} {pos stop : Nat}

/-! ## Runs of the combinators -/

theorem seq3_run_eq_ok_iff {x : α × β × γ} :
    (p.seq3 q s).run input pos = .ok x stop
      ↔ ∃ mid next, p.run input pos = .ok x.1 mid ∧ q.run input mid = .ok x.2.1 next
          ∧ s.run input next = .ok x.2.2 stop := by
  simp only [seq3, Result.andThen_eq_ok_iff, Result.map_eq_ok_iff]
  constructor
  · rintro ⟨a, mid, hp, b, next, hq, c, hs, rfl⟩
    exact ⟨mid, next, hp, hq, hs⟩
  · rintro ⟨mid, next, hp, hq, hs⟩
    exact ⟨_, mid, hp, _, next, hq, _, hs, rfl⟩

theorem optional_run_eq_ok_iff [ShapeOnly p] {o : Option α} :
    (optional p).run input pos = .ok o stop
      ↔ (∃ a, o = some a ∧ p.run input pos = .ok a stop)
        ∨ o = none ∧ stop = pos ∧ ∃ f, p.run input pos = .fail f := by
  simp only [optional]
  cases hp : p.run input pos with
  | ok a mid =>
    simp only [Result.ok.injEq, reduceCtorEq, exists_false, and_false, or_false]
    constructor
    · rintro ⟨rfl, rfl⟩
      exact ⟨a, rfl, rfl, rfl⟩
    · rintro ⟨_, rfl, rfl, rfl⟩
      exact ⟨rfl, rfl⟩
  | fail f => simp [ShapeOnly.kind_eq hp, eq_comm]

theorem tryMap_run_eq_ok_iff {check : α → Except Rejection β} {b : β} :
    (p.tryMap check).run input pos = .ok b stop
      ↔ ∃ a, p.run input pos = .ok a stop ∧ check a = .ok b := by
  rw [tryMap, Result.andThen_eq_ok_iff]
  constructor
  · rintro ⟨a, mid, hp, h⟩
    split at h
    · rename_i hcheck
      cases h
      exact ⟨a, hp, hcheck⟩
    · cases h
  · rintro ⟨a, hp, hcheck⟩
    exact ⟨a, stop, hp, by rw [hcheck]⟩

theorem tryMap_run_of_fail {check : α → Except Rejection β} {f : Failure}
    (hp : p.run input pos = .fail f) : (p.tryMap check).run input pos = .fail f := by
  simp only [tryMap, hp, Result.andThen_fail]

theorem tryMap_run_of_error {check : α → Except Rejection β} {a : α} {r : Rejection}
    (hp : p.run input pos = .ok a stop) (hcheck : check a = .error r) :
    (p.tryMap check).run input pos = .fail (r.failureFrom pos) := by
  simp only [tryMap, hp, Result.andThen_ok, hcheck, Rejection.failureFrom]

/-- Where the shape is there, a checked parser fails on the domain as its check does. -/
theorem tryMap_domainFailure? {check : α → Except Rejection β} {a : α}
    (hp : p.run input pos = .ok a stop) :
    ((p.tryMap check).run input pos).domainFailure?
      = (rejection? (check a)).map (Rejection.failureFrom pos) := by
  simp only [tryMap, hp, Result.andThen_ok]
  cases check a <;> rfl

theorem tryMap_domainFailure?_eq_some_iff [ShapeOnly p] {check : α → Except Rejection β}
    {f : Failure} :
    ((p.tryMap check).run input pos).domainFailure? = some f
      ↔ ∃ a stop, p.run input pos = .ok a stop
          ∧ (rejection? (check a)).map (Rejection.failureFrom pos) = some f := by
  cases hp : p.run input pos with
  | ok a mid => simp [tryMap_domainFailure? hp]
  | fail g => simp [tryMap, hp, Result.domainFailure?, ShapeOnly.kind_eq hp]

/-- A checked parser fails on the shape where the shape is not there, and only there. -/
theorem tryMap_fails_on_shape_iff [ShapeOnly p] {check : α → Except Rejection β} :
    (∃ f, (p.tryMap check).run input pos = .fail f ∧ f.kind = .shape)
      ↔ ∃ f, p.run input pos = .fail f := by
  simp only [tryMap]
  cases hp : p.run input pos with
  | ok a mid =>
    rw [Result.andThen_ok]
    cases check a with
    | ok b => simp
    | error r => simp
  | fail f => simp [ShapeOnly.kind_eq hp]

theorem label_run_eq_ok_iff {expected : Text} {a : α} :
    (label p expected).run input pos = .ok a stop ↔ p.run input pos = .ok a stop := by
  simp only [label]
  cases p.run input pos with
  | ok b mid => rfl
  | fail f =>
    dsimp only
    split <;> simp

theorem label_domainFailure? (p : Parser α) (expected input : Text) (pos : Nat) :
    ((label p expected).run input pos).domainFailure? = (p.run input pos).domainFailure? := by
  simp only [label]
  cases p.run input pos with
  | ok b mid => rfl
  | fail f =>
    by_cases hkind : f.kind = .domain
    · simp [hkind]
    · dsimp only
      split <;> simp [Result.domainFailure?, hkind]

theorem ShapeOnly.of_map (g : α → β) (h : ShapeOnly (p.map g)) : ShapeOnly p where
  kind_eq hrun := h.kind_eq (Result.map_eq_fail_iff.mpr hrun)

theorem exists_optional_run_eq_ok (p : Parser α) [ShapeOnly p] (input : Text) (pos : Nat) :
    ∃ o stop, (optional p).run input pos = .ok o stop := by
  cases h : (optional p).run input pos with
  | ok o stop => exact ⟨o, stop, rfl⟩
  | fail f =>
    obtain ⟨hf, hkind⟩ := optional_run_eq_fail_iff.mp h
    cases (ShapeOnly.kind_eq hf).symm.trans hkind

end Parser
end ODataToken
