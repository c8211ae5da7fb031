import ODataToken.Parser.Combinator
import ODataToken.Parser.Primitive
import ODataToken.Parser.Repeat

/-!
# Parsers that see the rest of the input only

Properties that nearly every parser of the grammar has, each with an instance for every
combinator, so that instance search finds them for a whole grammar.

* `Parser.Inside` — a success ends inside the input.
* `Parser.Plain` — moreover, what the parser does at a position is what it does at the start of the
  rest of the input, with all positions moved.  A parser whose value holds a position
  (`Parser.spanned`) is not plain.
* `Parser.ShapeOnly` — every failure is one of shape.  Repetition and option then never pass a
  failure on.
-/

set_option autoImplicit false

namespace ODataToken

/-! ## Moving a result -/

namespace Result

variable {α β : Type}

/-- The result with every position `n` further on. -/
def shift (n : Nat) : Result α → Result α
  | ok value pos => ok value (n + pos)
  | fail f => fail ⟨f.kind, n + f.pos, f.expected⟩

@[simp] theorem shift_ok (n : Nat) (value : α) (pos : Nat) :
    (ok value pos).shift n = ok value (n + pos) := rfl

@[simp] theorem shift_fail (n : Nat) (f : Failure) :
    (fail f : Result α).shift n = fail ⟨f.kind, n + f.pos, f.expected⟩ := rfl

@[simp] theorem shift_ite (n : Nat) (c : Prop) [Decidable c] (r s : Result α) :
    (if c then r else s).shift n = if c then r.shift n else s.shift n :=
  apply_ite (shift n) c r s

/-- Going on from a moved result is going on and moving, if the continuation moves along. -/
theorem andThen_shift {n : Nat} {next next' : α → Nat → Result β}
    (h : ∀ value pos, next' value (n + pos) = (next value pos).shift n) (r : Result α) :
    (r.shift n).andThen next' = (r.andThen next).shift n := by
  cases r with
  | ok value pos => exact h value pos
  | fail f => rfl

theorem map_shift (f : α → β) (n : Nat) (r : Result α) :
    (r.shift n).map f = (r.map f).shift n :=
  andThen_shift (fun _ _ => rfl) r

theorem andThen_eq_ok_iff {r : Result α} {next : α → Nat → Result β} {b : β} {stop : Nat} :
    r.andThen next = ok b stop ↔ ∃ a mid, r = ok a mid ∧ next a mid = ok b stop := by
  cases r <;> simp [and_assoc]

theorem andThen_eq_fail_iff {r : Result α} {next : α → Nat → Result β} {f : Failure} :
    r.andThen next = fail f ↔ r = fail f ∨ ∃ a mid, r = ok a mid ∧ next a mid = fail f := by
  cases r <;> simp [and_assoc]

theorem map_eq_ok_iff {r : Result α} {f : α → β} {b : β} {stop : Nat} :
    r.map f = ok b stop ↔ ∃ a, r = ok a stop ∧ f a = b := by
  cases r <;> simp [and_left_comm, and_comm]

theorem map_eq_fail_iff {r : Result α} {g : α → β} {f : Failure} :
    r.map g = fail f ↔ r = fail f := by
  cases r <;> simp

end Result

/-- Merging failures that have both moved. -/
theorem Failure.merge_shift (n : Nat) (f g : Failure) :
    Failure.merge ⟨f.kind, n + f.pos, f.expected⟩ ⟨g.kind, n + g.pos, g.expected⟩
      = ⟨(f.merge g).kind, n + (f.merge g).pos, (f.merge g).expected⟩ := by
  simp only [Failure.merge, ne_eq, Nat.add_left_cancel_iff, Nat.add_lt_add_iff_left]
  split
  · split <;> rfl
  · split
    · split <;> rfl
    · split <;> rfl

theorem Failure.merge_kind {f g : Failure} (hf : f.kind = .shape) (hg : g.kind = .shape) :
    (f.merge g).kind = .shape := by
  simp only [Failure.merge, hf, hg]
  split
  · split <;> assumption
  · split
    · split <;> assumption
    · split
      · exact hf
      · rfl

namespace Parser

variable {α β γ : Type}

/-! ## Plain parsers -/

/-- From the start of an input, a success ends inside the input. -/
class Inside (p : Parser α) : Prop where
  stop_le : ∀ {w value stop}, p.run w 0 = .ok value stop → stop ≤ w.length

/-- What the parser does depends on the rest of the input only, and it stays inside the rest. -/
class Plain (p : Parser α) : Prop extends Inside p where
  /-- Cutting off what stands before the rest moves the result and changes nothing else. -/
  run_add : ∀ input k pos, p.run input (k + pos) = (p.run (input.drop k) pos).shift k

/-- A plain parser at a position is the parser at the start of the rest. -/
theorem Plain.run_eq (p : Parser α) [Plain p] (input : Text) (pos : Nat) :
    p.run input pos = (p.run (input.drop pos) 0).shift pos :=
  Plain.run_add input pos 0

/-- Where a plain parser that stops at `stop` started and what it left. -/
theorem Plain.exists_of_run_eq_ok {p : Parser α} [Plain p] {input : Text} {pos stop : Nat} {a : α}
    (h : p.run input pos = .ok a stop) :
    ∃ s, stop = pos + s ∧ s ≤ (input.drop pos).length ∧ p.run (input.drop pos) 0 = .ok a s := by
  rw [Plain.run_eq] at h
  cases hr : p.run (input.drop pos) 0 with
  | ok v s =>
    rw [hr, Result.shift_ok, Result.ok.injEq] at h
    exact ⟨s, h.2.symm, Inside.stop_le hr, by rw [h.1]⟩
  | fail f => rw [hr] at h; cases h

/-! ### Primitives -/

instance (s : Text) : Plain (literal s) where
  run_add input k pos := by
    simp [literal, Nat.add_assoc]
  stop_le := by
    intro w value stop h
    simp only [literal, List.drop_zero, Nat.zero_add] at h
    split at h
    · cases h; exact (List.isPrefixOf_iff_prefix.mp ‹_›).length_le
    · cases h

instance (s : Text) : Plain (keyword s) where
  run_add input k pos := by
    simp [keyword, Nat.add_assoc, Nat.sub_sub]
  stop_le := by
    intro w value stop h
    simp only [keyword, List.drop_zero, Nat.zero_add, List.length_take] at h
    split at h
    · cases h; omega
    · cases h

instance (c : Text) : Plain (char c) where
  run_add input k pos := by
    simp only [char, List.getElem?_drop]
    cases input[k + pos]? with
    | none => rfl
    | some u => simp [Nat.add_assoc]
  stop_le := by
    intro w value stop h
    simp only [char] at h
    split at h
    · rename_i u hu
      split at h
      · cases h; exact (List.getElem?_eq_some_iff.mp hu).1
      · cases h
    · cases h

instance (units : Text) : Plain (oneOf units) where
  run_add input k pos := by
    simp only [oneOf, List.getElem?_drop]
    cases input[k + pos]? with
    | none => rfl
    | some u => simp [Nat.add_assoc]
  stop_le := by
    intro w value stop h
    simp only [oneOf] at h
    split at h
    · rename_i u hu
      split at h
      · cases h; exact (List.getElem?_eq_some_iff.mp hu).1
      · cases h
    · cases h

theorem isPrefix_of_firstCodePoint? {w c : Text} (h : w.firstCodePoint? = some c) : c <+: w := by
  unfold Text.firstCodePoint? at h
  split at h
  · cases h
  · cases h; exact List.prefix_rfl
  · split at h
    · cases h; simp
    · cases h; simp

instance (accepts : CharClass) (expected : Text) : Plain (satisfy accepts expected) where
  run_add input k pos := by
    simp only [satisfy, List.drop_drop]
    cases Text.firstCodePoint? (input.drop (k + pos)) with
    | none => rfl
    | some c => simp [Nat.add_assoc]
  stop_le := by
    intro w value stop h
    simp only [satisfy, List.drop_zero, Nat.zero_add] at h
    split at h
    · rename_i c hc
      split at h
      · cases h; exact (isPrefix_of_firstCodePoint? hc).length_le
      · cases h
    · cases h

theorem flatten_takeCodePoints_isPrefix (accepts : CharClass) (limit : Option Nat) (w : Text) :
    (w.takeCodePoints accepts limit).flatten <+: w := by
  fun_induction Text.takeCodePoints accepts limit w <;>
    simp_all [List.prefix_cons_iff]

instance (accepts : CharClass) (least : Nat) (most : Option Nat) (expected : Text) :
    Plain (takeBetween accepts least most expected) where
  run_add input k pos := by
    simp [takeBetween, Nat.add_assoc]
  stop_le := by
    intro w value stop h
    simp only [takeBetween, List.drop_zero, Nat.zero_add] at h
    split at h
    · cases h
    · cases h; exact (flatten_takeCodePoints_isPrefix accepts most w).length_le

instance (accepts : CharClass) : Plain (takeWhile accepts) :=
  inferInstanceAs (Plain (takeBetween accepts 0 none []))

instance (accepts : CharClass) (expected : Text) : Plain (takeWhile1 accepts expected) :=
  inferInstanceAs (Plain (takeBetween accepts 1 none expected))

instance (accepts : CharClass) (n : Nat) (expected : Text) :
    Plain (takeExactly accepts n expected) :=
  inferInstanceAs (Plain (takeBetween accepts n (some n) expected))

/-! ### Sequences -/

instance (f : α → β) (p : Parser α) [Plain p] : Plain (p.map f) where
  run_add input k pos := by
    show (p.run input (k + pos)).map f = _
    rw [Plain.run_add, Result.map_shift]; rfl
  stop_le h := by
    obtain ⟨a, ha, -⟩ := Result.map_eq_ok_iff.mp h
    exact Inside.stop_le ha

instance (p : Parser α) (value : β) [Plain p] : Plain (p.replace value) :=
  inferInstanceAs (Plain (p.map _))

instance (p : Parser α) (q : Parser β) [Plain p] [Plain q] : Plain (p.seq q) where
  run_add input k pos := by
    show (p.run input (k + pos)).andThen _ = _
    rw [Plain.run_add]
    refine Result.andThen_shift (fun a mid => ?_) _
    rw [Plain.run_add, Result.map_shift]
  stop_le := by
    intro w value stop h
    obtain ⟨a, mid, hp, hq⟩ := Result.andThen_eq_ok_iff.mp h
    obtain ⟨b, hb, -⟩ := Result.map_eq_ok_iff.mp hq
    obtain ⟨s, rfl, hs, -⟩ := Plain.exists_of_run_eq_ok hb
    have hmid : mid ≤ w.length := Inside.stop_le hp
    rw [List.length_drop] at hs
    omega

theorem seq3_eq (p : Parser α) (q : Parser β) (r : Parser γ) : p.seq3 q r = p.seq (q.seq r) := by
  unfold seq3 seq
  congr
  funext input pos
  cases p.run input pos with
  | fail f => rfl
  | ok a mid =>
    simp only [Result.andThen_ok]
    cases q.run input mid with
    | fail f => rfl
    | ok b mid' =>
      simp only [Result.andThen_ok]
      cases r.run input mid' <;> rfl

instance (p : Parser α) (q : Parser β) (r : Parser γ) [Plain p] [Plain q] [Plain r] :
    Plain (p.seq3 q r) := by
  rw [seq3_eq]; infer_instance

/-- What a parser does behind a lead. -/
theorem preceded_run (lead : Parser α) (p : Parser β) (input : Text) (pos : Nat) :
    (preceded lead p).run input pos
      = (lead.run input pos).andThen fun _ mid => p.run input mid := by
  show ((lead.run input pos).andThen fun a mid => (p.run input mid).map fun b => (a, b)).map
    Prod.snd = _
  cases lead.run input pos with
  | fail f => rfl
  | ok a mid => simp only [Result.andThen_ok]; cases p.run input mid <;> rfl

instance (lead : Parser α) (p : Parser β) [Plain lead] [Plain p] : Plain (preceded lead p) :=
  inferInstanceAs (Plain ((lead.seq p).map Prod.snd))

instance (p : Parser α) (trail : Parser β) [Plain p] [Plain trail] : Plain (terminated p trail) :=
  inferInstanceAs (Plain ((p.seq trail).map Prod.fst))

theorem between_eq (opening : Parser α) (p : Parser β) (closing : Parser γ) :
    between opening p closing = preceded opening (terminated p closing) := by
  unfold between preceded terminated seq map
  congr
  funext input pos
  dsimp only
  cases opening.run input pos with
  | fail f => rfl
  | ok a mid =>
    simp only [Result.andThen_ok]
    cases p.run input mid with
    | fail f => rfl
    | ok b mid' =>
      simp only [Result.andThen_ok]
      cases closing.run input mid' <;> rfl

instance (opening : Parser α) (p : Parser β) (closing : Parser γ) [Plain opening] [Plain p]
    [Plain closing] : Plain (between opening p closing) := by
  rw [between_eq]; infer_instance

instance (p : Parser α) [Plain p] : Plain (recognize p) where
  run_add input k pos := by
    show (p.run input (k + pos)).andThen _ = _
    rw [Plain.run_add]
    refine Result.andThen_shift (fun a mid => ?_) _
    simp [List.extract_eq_take_drop, Nat.add_sub_add_left]
  stop_le := by
    intro w value stop h
    obtain ⟨a, mid, hp, hq⟩ := Result.andThen_eq_ok_iff.mp h
    cases hq
    exact Inside.stop_le hp

/-! ### Choice -/

instance (p : Parser α) [Plain p] : Plain (optional p) where
  run_add input k pos := by
    simp only [optional, Plain.run_add (p := p) input k pos]
    cases p.run (input.drop k) pos <;> simp
  stop_le := by
    intro w value stop h
    simp only [optional] at h
    split at h
    · rename_i hp; cases h; exact Inside.stop_le hp
    · split at h
      · cases h
      · cases h; exact Nat.zero_le _

instance (p q : Parser α) [Plain p] [Plain q] : Plain (alt p q) where
  run_add input k pos := by
    simp only [alt, Plain.run_add (p := p) input k pos, Plain.run_add (p := q) input k pos]
    cases p.run (input.drop k) pos with
    | ok a s => rfl
    | fail f =>
      cases q.run (input.drop k) pos with
      | ok b s => rfl
      | fail g => simp [Failure.merge_shift]
  stop_le := by
    intro w value stop h
    simp only [alt] at h
    split at h
    · rename_i hp; cases h; exact Inside.stop_le hp
    · split at h
      · rename_i hq; cases h; exact Inside.stop_le hq
      · cases h

instance (p : Parser α) (expected : Text) [Plain p] : Plain (label p expected) where
  run_add input k pos := by
    simp only [label, Plain.run_add (p := p) input k pos]
    cases p.run (input.drop k) pos <;> simp
  stop_le := by
    intro w value stop h
    simp only [label] at h
    split at h
    · rename_i hp; cases h; exact Inside.stop_le hp
    · split at h <;> cases h

instance (p : Parser α) [Plain p] : Plain (commit p) where
  run_add input k pos := by
    simp only [commit, Plain.run_add (p := p) input k pos]
    cases p.run (input.drop k) pos <;> rfl
  stop_le := by
    intro w value stop h
    simp only [commit] at h
    split at h
    · rename_i hp; cases h; exact Inside.stop_le hp
    · cases h

/-- A checked conversion is plain if the check blames no position. -/
theorem Plain.tryMap (p : Parser α) [Plain p] {check : α → Except Rejection β}
    (hcheck : ∀ a r, check a = .error r → r.pos = none) : Plain (p.tryMap check) where
  run_add input k pos := by
    show (p.run input (k + pos)).andThen _ = _
    rw [Plain.run_add]
    refine Result.andThen_shift (fun a mid => ?_) _
    cases hc : check a with
    | ok b => rfl
    | error r => simp [hcheck a r hc]
  stop_le := by
    intro w value stop h
    obtain ⟨a, mid, hp, hq⟩ := Result.andThen_eq_ok_iff.mp h
    split at hq
    · cases hq; exact Inside.stop_le hp
    · cases hq

/-! ### Repetition -/

theorem countFrom_add (p : Parser α) [Plain p] (input : Text) (k : Nat) :
    ∀ n cur, countFrom p input n (k + cur) = (countFrom p (input.drop k) n cur).shift k
  | 0, _ => rfl
  | n + 1, cur => by
    rw [countFrom, countFrom, Plain.run_add]
    refine Result.andThen_shift (fun a mid => ?_) _
    rw [countFrom_add p input k n mid, Result.map_shift]

theorem countFrom_stop_le {p : Parser α} [Plain p] {w : Text} :
    ∀ {n cur : Nat} {vs : List α} {stop : Nat}, cur ≤ w.length →
      countFrom p w n cur = .ok vs stop → stop ≤ w.length
  | 0, _, _, _, hcur, h => by cases h; exact hcur
  | n + 1, cur, _, _, hcur, h => by
    obtain ⟨a, mid, hp, hrest⟩ := Result.andThen_eq_ok_iff.mp h
    obtain ⟨vs, hvs, -⟩ := Result.map_eq_ok_iff.mp hrest
    obtain ⟨s, rfl, hs, -⟩ := Plain.exists_of_run_eq_ok hp
    rw [List.length_drop] at hs
    exact countFrom_stop_le (by omega) hvs

instance (p : Parser α) (n : Nat) [Plain p] : Plain (count p n) where
  run_add input k pos := countFrom_add p input k n pos
  stop_le := countFrom_stop_le (Nat.zero_le _)

/-- A plain parser that moves forward was not yet at the end. -/
theorem Plain.lt_length {p : Parser α} [Plain p] {w : Text} {cur next : Nat} {a : α}
    (h : p.run w cur = .ok a next) (hlt : cur < next) : cur < w.length := by
  obtain ⟨s, rfl, hs, -⟩ := Plain.exists_of_run_eq_ok h
  rw [List.length_drop] at hs
  omega

/-- For a plain parser, a round of `many` is one that moves forward. -/
theorem manyFrom_eq (p : Parser α) [Plain p] (w : Text) (cur : Nat) :
    manyFrom p w cur =
      match p.run w cur with
      | .fail f => if f.kind = .domain then .fail f else .ok [] cur
      | .ok value next =>
        if cur < next then (manyFrom p w next).map (value :: ·) else .ok [] cur := by
  rw [manyFrom]
  cases h : p.run w cur with
  | fail f => rfl
  | ok a next =>
    by_cases hlt : cur < next
    · have hcur : cur ≤ w.length := Nat.le_of_lt (Plain.lt_length h hlt)
      simp [hlt, hcur]
    · simp [hlt]

theorem manyFrom_add (p : Parser α) [Plain p] (input : Text) (k cur : Nat) :
    manyFrom p input (k + cur) = (manyFrom p (input.drop k) cur).shift k := by
  induction cur using manyFrom.induct p (input.drop k) with
  | case1 cur f hp hf => simp [manyFrom_eq, Plain.run_add, hp, hf]
  | case2 cur f hp hf => simp [manyFrom_eq, Plain.run_add, hp, hf]
  | case3 cur a next hp hlt ih =>
    rw [manyFrom_eq, manyFrom_eq p (input.drop k), Plain.run_add, hp]
    simp [hlt.1, ih, Result.map_shift]
  | case4 cur a next hp hlt =>
    have hle : ¬ cur < next := fun h => hlt ⟨h, Nat.le_of_lt (Plain.lt_length hp h)⟩
    simp [manyFrom_eq, Plain.run_add, hp, hle]

theorem manyFrom_stop_le {p : Parser α} [Plain p] {w : Text} {cur : Nat} (hcur : cur ≤ w.length) :
    ∀ {vs : List α} {stop : Nat}, manyFrom p w cur = .ok vs stop → stop ≤ w.length := by
  induction cur using manyFrom.induct p w with
  | case1 cur f hp hf =>
    intro vs stop h
    rw [manyFrom_eq, hp] at h
    simp [hf] at h
  | case2 cur f hp hf =>
    intro vs stop h
    rw [manyFrom_eq, hp] at h
    simp only [if_neg hf, Result.ok.injEq] at h
    omega
  | case3 cur a next hp hlt ih =>
    intro vs stop h
    rw [manyFrom_eq, hp] at h
    simp only [if_pos hlt.1] at h
    obtain ⟨vs', hvs, -⟩ := Result.map_eq_ok_iff.mp h
    obtain ⟨s, rfl, hs, -⟩ := Plain.exists_of_run_eq_ok hp
    rw [List.length_drop] at hs
    exact ih (by omega) hvs
  | case4 cur a next hp hlt =>
    intro vs stop h
    have hle : ¬ cur < next := fun h => hlt ⟨h, Nat.le_of_lt (Plain.lt_length hp h)⟩
    rw [manyFrom_eq, hp] at h
    simp only [if_neg hle, Result.ok.injEq] at h
    omega

instance (p : Parser α) [Plain p] : Plain (many p) where
  run_add input k pos := manyFrom_add p input k pos
  stop_le := manyFrom_stop_le (Nat.zero_le _)

/-! ## Parsers without domain failures -/

/-- Every failure is one of shape. -/
class ShapeOnly (p : Parser α) : Prop where
  kind_eq : ∀ {input pos f}, p.run input pos = .fail f → f.kind = .shape

/-- What fails where it started with a fixed expectation fails on the shape. -/
theorem kind_eq_of_ite {c : Prop} [Decidable c] {a : α} {pos stop : Nat} {expected : Text}
    {f : Failure} (h : (if c then Result.ok a stop else .fail (.shape pos expected)) = .fail f) :
    f.kind = .shape := by
  split at h <;> cases h
  rfl

instance (s : Text) : ShapeOnly (literal s) := ⟨kind_eq_of_ite⟩

instance (s : Text) : ShapeOnly (keyword s) := ⟨kind_eq_of_ite⟩

instance (c : Text) : ShapeOnly (char c) where
  kind_eq {input pos f} h := by
    simp only [char] at h
    split at h
    · exact kind_eq_of_ite h
    · cases h; rfl

instance (units : Text) : ShapeOnly (oneOf units) where
  kind_eq {input pos f} h := by
    simp only [oneOf] at h
    split at h
    · exact kind_eq_of_ite h
    · cases h; rfl

instance (accepts : CharClass) (expected : Text) : ShapeOnly (satisfy accepts expected) where
  kind_eq {input pos f} h := by
    simp only [satisfy] at h
    split at h
    · exact kind_eq_of_ite h
    · cases h; rfl

instance (accepts : CharClass) (least : Nat) (most : Option Nat) (expected : Text) :
    ShapeOnly (takeBetween accepts least most expected) where
  kind_eq {input pos f} h := by
    simp only [takeBetween] at h
    split at h <;> cases h
    rfl

instance (accepts : CharClass) : ShapeOnly (takeWhile accepts) :=
  inferInstanceAs (ShapeOnly (takeBetween accepts 0 none []))

instance (accepts : CharClass) (expected : Text) : ShapeOnly (takeWhile1 accepts expected) :=
  inferInstanceAs (ShapeOnly (takeBetween accepts 1 none expected))

instance (accepts : CharClass) (n : Nat) (expected : Text) :
    ShapeOnly (takeExactly accepts n expected) :=
  inferInstanceAs (ShapeOnly (takeBetween accepts n (some n) expected))

instance (r : Regex) (expected : Text) : ShapeOnly (regex r expected) where
  kind_eq {input pos f} h := by
    simp only [regex] at h
    split at h <;> cases h
    rfl

instance (p : Pattern) (expected : Text) : ShapeOnly (pattern p expected) :=
  inferInstanceAs (ShapeOnly (regex _ _))

instance (f : α → β) (p : Parser α) [ShapeOnly p] : ShapeOnly (p.map f) :=
  ⟨fun h => ShapeOnly.kind_eq (Result.map_eq_fail_iff.mp h)⟩

instance (p : Parser α) (value : β) [ShapeOnly p] : ShapeOnly (p.replace value) :=
  inferInstanceAs (ShapeOnly (p.map _))

instance (p : Parser α) (q : Parser β) [ShapeOnly p] [ShapeOnly q] : ShapeOnly (p.seq q) where
  kind_eq h := by
    obtain hp | ⟨a, mid, -, hq⟩ := Result.andThen_eq_fail_iff.mp h
    · exact ShapeOnly.kind_eq hp
    · exact ShapeOnly.kind_eq (Result.map_eq_fail_iff.mp hq)

instance (p : Parser α) (q : Parser β) (r : Parser γ) [ShapeOnly p] [ShapeOnly q] [ShapeOnly r] :
    ShapeOnly (p.seq3 q r) := by
  rw [seq3_eq]; infer_instance

instance (lead : Parser α) (p : Parser β) [ShapeOnly lead] [ShapeOnly p] :
    ShapeOnly (preceded lead p) :=
  inferInstanceAs (ShapeOnly ((lead.seq p).map Prod.snd))

instance (p : Parser α) (trail : Parser β) [ShapeOnly p] [ShapeOnly trail] :
    ShapeOnly (terminated p trail) :=
  inferInstanceAs (ShapeOnly ((p.seq trail).map Prod.fst))

instance (p : Parser α) [ShapeOnly p] : ShapeOnly (recognize p) where
  kind_eq h := by
    obtain hp | ⟨a, mid, -, hq⟩ := Result.andThen_eq_fail_iff.mp h
    · exact ShapeOnly.kind_eq hp
    · cases hq

instance (p : Parser α) [ShapeOnly p] : ShapeOnly (optional p) where
  kind_eq {input pos f} h := by
    simp only [optional] at h
    split at h
    · cases h
    · split at h
      · rename_i hp _; cases h; exact ShapeOnly.kind_eq hp
      · cases h

instance (p q : Parser α) [ShapeOnly p] [ShapeOnly q] : ShapeOnly (alt p q) where
  kind_eq {input pos f} h := by
    simp only [alt] at h
    split at h
    · cases h
    · rename_i f hp
      split at h
      · cases h
      · rename_i g hq
        cases h
        exact Failure.merge_kind (ShapeOnly.kind_eq hp) (ShapeOnly.kind_eq hq)

instance (opening : Parser α) (p : Parser β) (closing : Parser γ) [ShapeOnly opening]
    [ShapeOnly p] [ShapeOnly closing] : ShapeOnly (between opening p closing) := by
  rw [between_eq]; infer_instance

instance (p : Parser α) (expected : Text) [ShapeOnly p] : ShapeOnly (label p expected) where
  kind_eq {input pos f} h := by
    simp only [label] at h
    split at h
    · cases h
    · rename_i hp
      split at h
      · cases h; exact ShapeOnly.kind_eq hp
      · cases h; rfl

/-- The rounds of what never fails on its domain never fail. -/
theorem manyFrom_ne_fail (p : Parser α) [ShapeOnly p] {input : Text} {cur : Nat} {f : Failure} :
    manyFrom p input cur ≠ .fail f := by
  intro h
  fun_induction manyFrom p input cur with
  | case1 cur g hrun hdomain =>
    rw [ShapeOnly.kind_eq hrun] at hdomain
    cases hdomain
  | case2 => cases h
  | case3 cur a next hrun hlt ih => exact ih (Result.map_eq_fail_iff.mp h)
  | case4 => cases h

instance (p : Parser α) [ShapeOnly p] : ShapeOnly (many p) where
  kind_eq h := absurd h (manyFrom_ne_fail p)

end Parser
end ODataToken
