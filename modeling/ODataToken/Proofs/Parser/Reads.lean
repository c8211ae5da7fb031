import ODataToken.Parser.Alternatives
import ODataToken.Proofs.Parser.Plain
import ODataToken.Proofs.Text.Case

/-!
# What a parser reads

`p.Reads a c r` says that at the start of the text `c ++ r` the parser `p` reads the value `a` and
stops after `c`.  The rest `r` is part of the statement, because a greedy parser may stop only in
front of certain texts.  `p.Refuses w` says that it fails at the start of `w`.

Each combinator gets a lemma that says what it reads in terms of what its parts read.  A whole
grammar is then described by rewriting, without running it.
-/

set_option autoImplicit false

namespace ODataToken
namespace Parser

variable {α β γ : Type}

/-- At the start of `c ++ r` the parser reads `a` and stops after `c`. -/
def Reads (p : Parser α) (a : α) (c r : Text) : Prop := p.run (c ++ r) 0 = .ok a c.length

/-- The parser fails at the start of `w`. -/
def Refuses (p : Parser α) (w : Text) : Prop := ∃ f, p.run w 0 = .fail f

/-! ## Reading and running -/

theorem reads_nil_iff {p : Parser α} {a : α} {t : Text} :
    p.Reads a t [] ↔ p.run t 0 = .ok a t.length := by
  rw [Reads, List.append_nil]

theorem reads_of_run {p : Parser α} {a : α} {w : Text} {stop : Nat} (h : p.run w 0 = .ok a stop)
    (hle : stop ≤ w.length) : p.Reads a (w.take stop) (w.drop stop) := by
  rw [Reads, List.take_append_drop, h, List.length_take, Nat.min_eq_left hle]

/-- What a plain parser does after `c`, at the start of `r`. -/
theorem run_append (p : Parser α) [Plain p] (c r : Text) :
    p.run (c ++ r) c.length = (p.run r 0).shift c.length := by
  rw [Plain.run_eq, List.drop_left]

theorem refuses_or_reads (p : Parser α) [Inside p] (w : Text) :
    p.Refuses w ∨ ∃ a c r, w = c ++ r ∧ p.Reads a c r := by
  cases h : p.run w 0 with
  | ok a stop =>
    refine .inr ⟨a, w.take stop, w.drop stop, ?_, reads_of_run h (Inside.stop_le h)⟩
    rw [List.take_append_drop]
  | fail f => exact .inl ⟨f, h⟩

/-- Where a parser is run, it reads a part of the rest of the input. -/
theorem run_eq_ok_iff_reads {p : Parser α} [Plain p] {input : Text} {pos stop : Nat} {a : α} :
    p.run input pos = .ok a stop
      ↔ ∃ c r, input.drop pos = c ++ r ∧ stop = pos + c.length ∧ p.Reads a c r := by
  constructor
  · intro h
    obtain ⟨n, rfl, hle, hrun⟩ := Plain.exists_of_run_eq_ok h
    refine ⟨(input.drop pos).take n, (input.drop pos).drop n, (List.take_append_drop _ _).symm, ?_,
      reads_of_run hrun hle⟩
    rw [List.length_take, Nat.min_eq_left hle]
  · rintro ⟨c, r, hw, rfl, hreads⟩
    rw [Plain.run_eq, hw, hreads, Result.shift_ok]

/-- A parser reads one part of a text only. -/
theorem Reads.unique {p : Parser α} {a a' : α} {c c' r r' : Text} (h : p.Reads a c r)
    (h' : p.Reads a' c' r') (heq : c ++ r = c' ++ r') : a = a' ∧ c = c' ∧ r = r' := by
  rw [Reads, heq, h', Result.ok.injEq] at h
  obtain ⟨hc, hr⟩ := List.append_inj heq h.2.symm
  exact ⟨h.1.symm, hc, hr⟩

theorem not_refuses_of_reads {p : Parser α} {a : α} {c r : Text} (h : p.Reads a c r) :
    ¬ p.Refuses (c ++ r) := by
  rintro ⟨f, hf⟩
  cases h.symm.trans hf

theorem exists_run_eq_ok_iff {p : Parser α} [Plain p] {input : Text} {pos : Nat} :
    (∃ a stop, p.run input pos = .ok a stop) ↔ ¬ p.Refuses (input.drop pos) := by
  constructor
  · rintro ⟨a, stop, h⟩
    obtain ⟨c, r, hw, -, hreads⟩ := run_eq_ok_iff_reads.mp h
    rw [hw]
    exact not_refuses_of_reads hreads
  · intro h
    obtain ⟨a, c, r, hw, hreads⟩ := (refuses_or_reads p (input.drop pos)).resolve_left h
    exact ⟨a, pos + c.length, run_eq_ok_iff_reads.mpr ⟨c, r, hw, rfl, hreads⟩⟩

theorem extract_append_drop {input : Text} {pos stop : Nat} (h : pos ≤ stop) :
    input.extract pos stop ++ input.drop stop = input.drop pos := by
  have hstop : (input.drop pos).drop (stop - pos) = input.drop stop := by
    rw [List.drop_drop, Nat.add_sub_cancel' h]
  rw [List.extract_eq_take_drop, ← hstop, List.take_append_drop]

/-- Where a parser is run that does not stop where it starts, it reads the part of the input up to
where it stops. -/
theorem run_eq_ok_iff_extract {p : Parser α} [Plain p] {input : Text} {pos stop : Nat} {a : α}
    (hne : ∀ r, ¬ p.Reads a [] r) :
    p.run input pos = .ok a stop
      ↔ pos ≤ stop ∧ stop ≤ input.length
        ∧ p.Reads a (input.extract pos stop) (input.drop stop) := by
  rw [run_eq_ok_iff_reads]
  constructor
  · rintro ⟨c, r, hw, rfl, hreads⟩
    have hc : c.length ≠ 0 := fun h => hne r (List.length_eq_zero_iff.mp h ▸ hreads)
    have hlen : input.length - pos = c.length + r.length := by
      rw [← List.length_drop, hw, List.length_append]
    have hextract : input.extract pos (pos + c.length) = c := by
      rw [List.extract_eq_take_drop, Nat.add_sub_cancel_left, hw, List.take_left]
    refine ⟨Nat.le_add_right _ _, by omega, ?_⟩
    rwa [hextract, ← List.drop_drop, hw, List.drop_left]
  · rintro ⟨hpos, hstop, hreads⟩
    refine ⟨_, _, (extract_append_drop hpos).symm, ?_, hreads⟩
    rw [List.extract_eq_take_drop, List.length_take, List.length_drop]
    omega

/-! ## Fixed texts -/

theorem literal_reads_iff {s v c r : Text} : (literal s).Reads v c r ↔ v = s ∧ c = s := by
  simp only [Reads, literal, List.drop_zero, Nat.zero_add]
  constructor
  · intro h
    split at h
    · rename_i hpre
      rw [Result.ok.injEq] at h
      obtain ⟨t, ht⟩ := List.isPrefixOf_iff_prefix.mp hpre
      exact ⟨h.1.symm, (List.append_inj ht h.2).1.symm⟩
    · cases h
  · rintro ⟨rfl, rfl⟩
    simp

theorem literal_refuses_iff {s w : Text} : (literal s).Refuses w ↔ ¬ s <+: w := by
  simp only [Refuses, literal, List.drop_zero, Nat.zero_add, ← List.isPrefixOf_iff_prefix]
  split <;> simp_all

/-- A plain keyword reads itself up to the case of ASCII letters. -/
theorem keyword_reads_iff {s v c r : Text} (hs : s.all CodeUnit.isPlain = true) :
    (keyword s).Reads v c r ↔ v = c ∧ c.lower = s.lower := by
  simp only [Reads, keyword, List.drop_zero, Nat.zero_add, Text.equalsIgnoringCase_iff hs]
  constructor
  · intro h
    split at h
    · rename_i hc
      rw [Result.ok.injEq] at h
      obtain ⟨hv, hlen⟩ := h
      rw [hlen, List.take_left] at hc hv
      exact ⟨hv.symm, hc.2⟩
    · cases h
  · rintro ⟨rfl, hc⟩
    have hlen : v.length = s.length := by
      rw [← Text.length_lower v, hc, Text.length_lower]
    rw [← hlen, List.take_left]
    simp [hc]

theorem keyword_refuses_iff {s w : Text} (hs : s.all CodeUnit.isPlain = true) :
    (keyword s).Refuses w ↔ Text.lower (w.take s.length) ≠ s.lower := by
  simp only [Refuses, keyword, List.drop_zero, Nat.zero_add, Text.equalsIgnoringCase_iff hs]
  split
  · rename_i h
    exact ⟨fun ⟨f, hf⟩ => (by cases hf), fun hne => absurd h.2 hne⟩
  · rename_i h
    refine ⟨fun _ heq => h ⟨?_, heq⟩, fun _ => ⟨_, rfl⟩⟩
    rw [← Text.length_lower, heq, Text.length_lower]

/-- A keyword of one letter reads that letter in either case. -/
theorem keyword_singleton_reads_iff {x : CodeUnit} {v c r : Text} (hx : x.isPlain = true) :
    (keyword [x]).Reads v c r ↔ ∃ u, v = [u] ∧ c = [u] ∧ u.lower = x.lower := by
  rw [keyword_reads_iff (by simpa using hx)]
  constructor
  · rintro ⟨rfl, hc⟩
    obtain ⟨u, c', rfl, hu, hnil⟩ := Text.exists_cons_of_lower_eq_cons hc
    obtain rfl := List.map_eq_nil_iff.mp hnil
    exact ⟨u, rfl, rfl, hu⟩
  · rintro ⟨u, rfl, rfl, hu⟩
    exact ⟨rfl, congrArg (fun u => [u]) hu⟩

/-- A plain keyword refuses a text that begins with another letter. -/
theorem keyword_refuses_of_head {x : CodeUnit} {s w : Text}
    (hs : (x :: s).all CodeUnit.isPlain = true) (h : ∀ u ∈ w.head?, u.lower ≠ x.lower) :
    (keyword (x :: s)).Refuses w := by
  rw [keyword_refuses_iff hs]
  cases w with
  | nil => simp [Text.lower]
  | cons u w =>
    intro heq
    exact h u rfl (List.cons.inj heq).1

/-! ## Single units -/

theorem char_run_zero (u : CodeUnit) (w : Text) :
    (char [u]).run w 0
      = if w.head? = some u then .ok [u] 1 else .fail (.shape 0 (Text.quote [u])) := by
  cases w with
  | nil => rfl
  | cons x w => simp [char, eq_comm]

theorem char_reads_iff {u : CodeUnit} {v c r : Text} :
    (char [u]).Reads v c r ↔ v = [u] ∧ c = [u] := by
  rw [Reads, char_run_zero]
  constructor
  · intro h
    split at h
    · rename_i hhead
      rw [Result.ok.injEq] at h
      obtain ⟨x, rfl⟩ := List.length_eq_one_iff.mp h.2.symm
      simp_all
    · cases h
  · rintro ⟨rfl, rfl⟩
    simp

theorem char_refuses_iff {u : CodeUnit} {w : Text} :
    (char [u]).Refuses w ↔ w.head? ≠ some u := by
  rw [Refuses, char_run_zero]
  split <;> simp_all

theorem oneOf_run_zero (units w : Text) :
    (oneOf units).run w 0
      = match w with
        | [] => .fail (.shape 0 (Text.join " or " (units.codePoints.map Text.quote)))
        | u :: _ =>
          if u ∈ units then .ok [u] 1
          else .fail (.shape 0 (Text.join " or " (units.codePoints.map Text.quote))) := by
  cases w with
  | nil => rfl
  | cons u w => simp [oneOf]

theorem oneOf_reads_iff {units v c r : Text} :
    (oneOf units).Reads v c r ↔ ∃ u ∈ units, v = [u] ∧ c = [u] := by
  rw [Reads, oneOf_run_zero]
  constructor
  · intro h
    split at h
    · cases h
    · rename_i u w hw
      split at h
      · rename_i hu
        rw [Result.ok.injEq] at h
        obtain ⟨x, rfl⟩ := List.length_eq_one_iff.mp h.2.symm
        obtain ⟨rfl, -⟩ := List.cons.inj hw
        exact ⟨x, hu, h.1.symm, rfl⟩
      · cases h
  · rintro ⟨u, hu, rfl, rfl⟩
    simp [hu]

theorem oneOf_refuses_iff {units w : Text} :
    (oneOf units).Refuses w ↔ ∀ u ∈ w.head?, u ∉ units := by
  rw [Refuses, oneOf_run_zero]
  cases w with
  | nil => simp
  | cons u w => by_cases hu : u ∈ units <;> simp [hu]

/-! ## Sequences -/

theorem map_reads_iff {p : Parser α} {f : α → β} {b : β} {c r : Text} :
    (p.map f).Reads b c r ↔ ∃ a, f a = b ∧ p.Reads a c r := by
  simp only [Reads, map, Result.map_eq_ok_iff, and_comm]

theorem map_refuses_iff {p : Parser α} {f : α → β} {w : Text} :
    (p.map f).Refuses w ↔ p.Refuses w := by
  simp only [Refuses, map, Result.map_eq_fail_iff]

theorem replace_reads_iff {p : Parser α} {value b : β} {c r : Text} :
    (p.replace value).Reads b c r ↔ b = value ∧ ∃ a, p.Reads a c r := by
  rw [replace, map_reads_iff]
  exact ⟨fun ⟨a, hb, ha⟩ => ⟨hb.symm, a, ha⟩, fun ⟨hb, a, ha⟩ => ⟨a, hb.symm, ha⟩⟩

theorem replace_refuses_iff {p : Parser α} {value : β} {w : Text} :
    (p.replace value).Refuses w ↔ p.Refuses w :=
  map_refuses_iff

/-- A sequence reads what its two parts read, the first in front of what the second reads. -/
theorem seq_reads_iff {p : Parser α} {q : Parser β} [Plain q] {x : α × β} {w r : Text} :
    (p.seq q).Reads x w r
      ↔ ∃ c d, w = c ++ d ∧ p.Reads x.1 c (d ++ r) ∧ q.Reads x.2 d r := by
  constructor
  · intro h
    obtain ⟨a, mid, hp, h⟩ := Result.andThen_eq_ok_iff.mp h
    obtain ⟨b, hq, rfl⟩ := Result.map_eq_ok_iff.mp h
    obtain ⟨s, hstop, -, hq⟩ := Plain.exists_of_run_eq_ok hq
    have hmid : mid ≤ w.length := by omega
    have hw : w.take mid ++ (w.drop mid ++ r) = w ++ r := by
      rw [← List.append_assoc, List.take_append_drop]
    refine ⟨w.take mid, w.drop mid, (List.take_append_drop mid w).symm, ?_, ?_⟩
    · rw [Reads, hw, hp, List.length_take, Nat.min_eq_left hmid]
    · rw [List.drop_append_of_le_length hmid] at hq
      rw [Reads, hq, List.length_drop]
      congr 1
      omega
  · rintro ⟨c, d, rfl, hp, hq⟩
    rw [Reads, List.append_assoc]
    show (p.run (c ++ (d ++ r)) 0).andThen _ = _
    rw [hp, Result.andThen_ok, run_append, hq]
    simp

theorem seq_refuses_iff {p : Parser α} {q : Parser β} [Plain p] [Plain q] {w : Text} :
    (p.seq q).Refuses w
      ↔ p.Refuses w ∨ ∃ a c r, w = c ++ r ∧ p.Reads a c r ∧ q.Refuses r := by
  constructor
  · rintro ⟨f, h⟩
    obtain hp | ⟨a, mid, hp, hq⟩ := Result.andThen_eq_fail_iff.mp h
    · exact .inl ⟨f, hp⟩
    · rw [Result.map_eq_fail_iff, Plain.run_eq] at hq
      refine .inr ⟨a, w.take mid, w.drop mid, (List.take_append_drop mid w).symm,
        reads_of_run hp (Inside.stop_le hp), ?_⟩
      cases hr : q.run (w.drop mid) 0 with
      | ok b s => rw [hr] at hq; cases hq
      | fail g => exact ⟨g, hr⟩
  · rintro (⟨f, hp⟩ | ⟨a, c, r, rfl, hp, f, hq⟩)
    · exact ⟨f, by show (p.run w 0).andThen _ = _; rw [hp]; rfl⟩
    · refine ⟨⟨f.kind, c.length + f.pos, f.expected⟩, ?_⟩
      show (p.run (c ++ r) 0).andThen _ = _
      rw [hp, Result.andThen_ok, run_append, hq]
      rfl

theorem seq3_reads_iff {p : Parser α} {q : Parser β} {s : Parser γ} [Plain q] [Plain s]
    {x : α × β × γ} {w r : Text} :
    (p.seq3 q s).Reads x w r
      ↔ ∃ c d e, w = c ++ (d ++ e) ∧ p.Reads x.1 c (d ++ (e ++ r)) ∧ q.Reads x.2.1 d (e ++ r)
          ∧ s.Reads x.2.2 e r := by
  rw [seq3_eq, seq_reads_iff]
  constructor
  · rintro ⟨c, w', rfl, hp, h⟩
    obtain ⟨d, e, rfl, hq, hs⟩ := seq_reads_iff.mp h
    rw [List.append_assoc] at hp
    exact ⟨c, d, e, rfl, hp, hq, hs⟩
  · rintro ⟨c, d, e, rfl, hp, hq, hs⟩
    rw [← List.append_assoc] at hp
    exact ⟨c, d ++ e, rfl, hp, seq_reads_iff.mpr ⟨d, e, rfl, hq, hs⟩⟩

theorem preceded_reads_iff {lead : Parser α} {p : Parser β} [Plain p] {b : β} {w r : Text} :
    (preceded lead p).Reads b w r
      ↔ ∃ a c d, w = c ++ d ∧ lead.Reads a c (d ++ r) ∧ p.Reads b d r := by
  rw [preceded, map_reads_iff]
  constructor
  · rintro ⟨⟨a, b⟩, rfl, h⟩
    obtain ⟨c, d, hw, hl, hp⟩ := seq_reads_iff.mp h
    exact ⟨a, c, d, hw, hl, hp⟩
  · rintro ⟨a, c, d, hw, hl, hp⟩
    exact ⟨(a, b), rfl, seq_reads_iff.mpr ⟨c, d, hw, hl, hp⟩⟩

theorem preceded_refuses_iff {lead : Parser α} {p : Parser β} [Plain lead] [Plain p] {w : Text} :
    (preceded lead p).Refuses w
      ↔ lead.Refuses w ∨ ∃ a c r, w = c ++ r ∧ lead.Reads a c r ∧ p.Refuses r := by
  rw [preceded, map_refuses_iff, seq_refuses_iff]

theorem terminated_reads_iff {p : Parser α} {trail : Parser β} [Plain trail] {a : α}
    {w r : Text} :
    (terminated p trail).Reads a w r
      ↔ ∃ b c d, w = c ++ d ∧ p.Reads a c (d ++ r) ∧ trail.Reads b d r := by
  rw [terminated, map_reads_iff]
  constructor
  · rintro ⟨⟨a, b⟩, rfl, h⟩
    obtain ⟨c, d, hw, hp, ht⟩ := seq_reads_iff.mp h
    exact ⟨b, c, d, hw, hp, ht⟩
  · rintro ⟨b, c, d, hw, hp, ht⟩
    exact ⟨(a, b), rfl, seq_reads_iff.mpr ⟨c, d, hw, hp, ht⟩⟩

theorem terminated_refuses_iff {p : Parser α} {trail : Parser β} [Plain p] [Plain trail]
    {w : Text} :
    (terminated p trail).Refuses w
      ↔ p.Refuses w ∨ ∃ a c r, w = c ++ r ∧ p.Reads a c r ∧ trail.Refuses r := by
  rw [terminated, map_refuses_iff, seq_refuses_iff]

theorem recognize_reads_iff {p : Parser α} {t c r : Text} :
    (recognize p).Reads t c r ↔ t = c ∧ ∃ a, p.Reads a c r := by
  simp only [Reads, recognize]
  constructor
  · intro h
    obtain ⟨a, stop, hp, h⟩ := Result.andThen_eq_ok_iff.mp h
    rw [Result.ok.injEq] at h
    obtain ⟨rfl, rfl⟩ := h
    exact ⟨by simp, a, hp⟩
  · rintro ⟨rfl, a, hp⟩
    rw [hp]
    simp

/-! ## Choice -/

theorem optional_reads_some_iff {p : Parser α} {a : α} {c r : Text} :
    (optional p).Reads (some a) c r ↔ p.Reads a c r := by
  simp only [Reads, optional]
  cases p.run (c ++ r) 0 with
  | ok b stop => simp
  | fail f => simp; split <;> simp

theorem optional_reads_none_iff {p : Parser α} [ShapeOnly p] {c r : Text} :
    (optional p).Reads none c r ↔ c = [] ∧ p.Refuses r := by
  constructor
  · intro h
    simp only [Reads, optional] at h
    split at h
    · cases h
    · rename_i f hf
      split at h
      · cases h
      · rw [Result.ok.injEq] at h
        obtain rfl := List.length_eq_zero_iff.mp h.2.symm
        exact ⟨rfl, f, hf⟩
  · rintro ⟨rfl, f, hf⟩
    rw [Reads, List.nil_append]
    simp [optional, hf, ShapeOnly.kind_eq hf]

theorem optional_reads_iff {p : Parser α} [ShapeOnly p] {o : Option α} {c r : Text} :
    (optional p).Reads o c r
      ↔ (∃ a, o = some a ∧ p.Reads a c r) ∨ o = none ∧ c = [] ∧ p.Refuses r := by
  cases o with
  | none => simp [optional_reads_none_iff]
  | some a => simp [optional_reads_some_iff]

theorem optional_oneOf_reads_iff {units c r : Text} {o : Option Text} :
    (optional (oneOf units)).Reads o c r
      ↔ (∃ u ∈ units, o = some [u] ∧ c = [u]) ∨ o = none ∧ c = [] ∧ ∀ u ∈ r.head?, u ∉ units := by
  rw [optional_reads_iff, oneOf_refuses_iff]
  refine or_congr_left ⟨?_, ?_⟩
  · rintro ⟨v, rfl, hv⟩
    obtain ⟨u, hu, rfl, rfl⟩ := oneOf_reads_iff.mp hv
    exact ⟨u, hu, rfl, rfl⟩
  · rintro ⟨u, hu, rfl, rfl⟩
    exact ⟨[u], rfl, oneOf_reads_iff.mpr ⟨u, hu, rfl, rfl⟩⟩

theorem alt_reads_iff {p q : Parser α} {a : α} {c r : Text} :
    (alt p q).Reads a c r ↔ p.Reads a c r ∨ p.Refuses (c ++ r) ∧ q.Reads a c r := by
  simp only [Reads, Refuses, alt]
  cases p.run (c ++ r) 0 with
  | ok b stop => simp
  | fail f => cases q.run (c ++ r) 0 <;> simp

theorem alt_refuses_iff {p q : Parser α} {w : Text} :
    (alt p q).Refuses w ↔ p.Refuses w ∧ q.Refuses w := by
  simp only [Refuses, alt]
  cases p.run w 0 with
  | ok b stop => simp
  | fail f => cases q.run w 0 <;> simp

/-- What a choice succeeds with, one of its parsers succeeds with. -/
theorem exists_mem_of_choiceFrom {input : Text} {pos stop : Nat} {sofar : Option Failure}
    {ps : List (Parser α)} {a : α} (h : choiceFrom input pos sofar ps = .ok a stop) :
    ∃ p ∈ ps, p.run input pos = .ok a stop := by
  induction ps generalizing sofar with
  | nil => cases h
  | cons p ps ih =>
    rw [choiceFrom] at h
    split at h
    · rename_i hp
      exact ⟨p, List.mem_cons_self, hp.trans h⟩
    · obtain ⟨q, hq, hrun⟩ := ih h
      exact ⟨q, List.mem_cons_of_mem p hq, hrun⟩

/-- What holds of the failures of the parsers, and of a merge if it holds of both failures, holds of
the failure of a choice. -/
theorem of_choiceFrom_eq_fail {P : Failure → Prop} {input : Text} {pos : Nat}
    {sofar : Option Failure} {ps : List (Parser α)} {f : Failure}
    (hmerge : ∀ f g, P f → P g → P (f.merge g)) (hnone : P (.shape pos "an alternative"))
    (hps : ∀ p ∈ ps, ∀ g, p.run input pos = .fail g → P g) (hsofar : ∀ g ∈ sofar, P g)
    (h : choiceFrom input pos sofar ps = .fail f) : P f := by
  induction ps generalizing sofar with
  | nil =>
    cases h
    cases sofar with
    | none => exact hnone
    | some g => exact hsofar g rfl
  | cons p ps ih =>
    rw [choiceFrom] at h
    cases hp : p.run input pos with
    | ok a stop => rw [hp] at h; cases h
    | fail g =>
      rw [hp] at h
      have hg := hps p List.mem_cons_self g hp
      refine ih (fun q hq => hps q (List.mem_cons_of_mem p hq)) ?_ h
      rintro _ ⟨⟩
      cases sofar with
      | none => exact hg
      | some e => exact hmerge e g (hsofar e rfl) hg

/-- To split a list at an item is to split it at its first or further on. -/
theorem exists_split_cons_iff {a : β} {l : List β} {P : List β → β → Prop} :
    (∃ before b after, a :: l = before ++ b :: after ∧ P before b)
      ↔ P [] a ∨ ∃ before b after, l = before ++ b :: after ∧ P (a :: before) b := by
  constructor
  · rintro ⟨before, b, after, heq, h⟩
    cases before with
    | nil =>
      obtain ⟨rfl, -⟩ := List.cons.inj heq
      exact .inl h
    | cons c before =>
      obtain ⟨rfl, hrest⟩ := List.cons.inj heq
      exact .inr ⟨before, b, after, hrest, h⟩
  · rintro (h | ⟨before, b, after, rfl, h⟩)
    · exact ⟨[], a, l, rfl, h⟩
    · exact ⟨a :: before, b, after, rfl, h⟩

/-- A choice reads what the first of its parsers reads that does not refuse. -/
theorem choice_reads_iff {ps : List (Parser α)} {a : α} {c r : Text} :
    (choice ps).Reads a c r
      ↔ ∃ before p after, ps = before ++ p :: after ∧ (∀ q ∈ before, q.Refuses (c ++ r))
          ∧ p.Reads a c r := by
  have from_ (sofar : Option Failure) :
      choiceFrom (c ++ r) 0 sofar ps = .ok a c.length
        ↔ ∃ before p after, ps = before ++ p :: after ∧ (∀ q ∈ before, q.Refuses (c ++ r))
            ∧ p.Reads a c r := by
    induction ps generalizing sofar with
    | nil => simp [choiceFrom]
    | cons p ps ih =>
      rw [exists_split_cons_iff, choiceFrom]
      simp only [List.forall_mem_cons, Reads, Refuses]
      cases hrun : p.run (c ++ r) 0 with
      | ok b stop => simp
      | fail f =>
        simp only [ih]
        simp [Reads, Refuses]
  exact from_ none

/-- What a choice reads is read by one of its parsers. -/
theorem exists_mem_of_choice_reads {ps : List (Parser α)} {a : α} {c r : Text}
    (h : (choice ps).Reads a c r) : ∃ p ∈ ps, p.Reads a c r :=
  exists_mem_of_choiceFrom h

theorem Inside.choice {ps : List (Parser α)} (h : ∀ p ∈ ps, Inside p) : Inside (choice ps) where
  stop_le hrun := by
    obtain ⟨p, hp, hrun⟩ := exists_mem_of_choiceFrom hrun
    exact (h p hp).stop_le hrun

theorem ShapeOnly.choice {ps : List (Parser α)} (h : ∀ p ∈ ps, ShapeOnly p) :
    ShapeOnly (choice ps) where
  kind_eq hrun :=
    of_choiceFrom_eq_fail (P := fun f => f.kind = .shape) (fun _ _ => Failure.merge_kind) rfl
      (fun p hp _ hg => (h p hp).kind_eq hg) (by simp) hrun

@[simp] theorem label_reads_iff {p : Parser α} {expected : Text} {a : α} {c r : Text} :
    (label p expected).Reads a c r ↔ p.Reads a c r := by
  simp only [Reads, label]
  cases p.run (c ++ r) 0 with
  | ok b stop => rfl
  | fail f => simp; split <;> simp

@[simp] theorem commit_reads_iff {p : Parser α} {a : α} {c r : Text} :
    (commit p).Reads a c r ↔ p.Reads a c r := by
  simp only [Reads, commit]
  cases p.run (c ++ r) 0 <;> simp

/-! ## Checks -/

theorem tryMap_reads_iff {p : Parser α} {check : α → Except Rejection β} {b : β} {c r : Text} :
    (p.tryMap check).Reads b c r ↔ ∃ a, p.Reads a c r ∧ check a = .ok b := by
  simp only [Reads, tryMap]
  rw [Result.andThen_eq_ok_iff]
  constructor
  · rintro ⟨a, mid, hp, h⟩
    split at h
    · rename_i b' hb
      rw [Result.ok.injEq] at h
      obtain ⟨rfl, rfl⟩ := h
      exact ⟨a, hp, hb⟩
    · cases h
  · rintro ⟨a, hp, hb⟩
    exact ⟨a, _, hp, by rw [hb]⟩

/-! ## Repetition -/

theorem count_zero_reads_iff {p : Parser α} {vs : List α} {c r : Text} :
    (count p 0).Reads vs c r ↔ vs = [] ∧ c = [] := by
  simp [Reads, count, countFrom, eq_comm]

theorem count_succ_eq (p : Parser α) (n : Nat) :
    count p (n + 1) = (p.seq (count p n)).map fun x => x.1 :: x.2 := by
  unfold count seq map
  congr
  funext input pos
  rw [countFrom]
  dsimp only
  cases p.run input pos with
  | fail f => rfl
  | ok a mid =>
    simp only [Result.andThen_ok]
    cases countFrom p input n mid <;> rfl

theorem count_succ_reads_iff {p : Parser α} [Plain p] {n : Nat} {vs : List α} {w r : Text} :
    (count p (n + 1)).Reads vs w r
      ↔ ∃ v vs' c d, vs = v :: vs' ∧ w = c ++ d ∧ p.Reads v c (d ++ r)
          ∧ (count p n).Reads vs' d r := by
  rw [count_succ_eq, map_reads_iff]
  constructor
  · rintro ⟨⟨v, vs'⟩, rfl, h⟩
    obtain ⟨c, d, hw, hp, hrest⟩ := seq_reads_iff.mp h
    exact ⟨v, vs', c, d, rfl, hw, hp, hrest⟩
  · rintro ⟨v, vs', c, d, rfl, hw, hp, hrest⟩
    exact ⟨(v, vs'), rfl, seq_reads_iff.mpr ⟨c, d, hw, hp, hrest⟩⟩

/-- The loop of `many` ends in front of a text that the repeated parser refuses. -/
theorem many_reads_nil {p : Parser α} [Plain p] [ShapeOnly p] {r : Text} (h : p.Refuses r) :
    (many p).Reads [] [] r := by
  obtain ⟨f, hf⟩ := h
  rw [Reads, List.nil_append]
  show manyFrom p r 0 = _
  rw [manyFrom_eq, hf]
  simp [ShapeOnly.kind_eq hf]

/-- One round of `many`. -/
theorem many_reads_cons {p : Parser α} [Plain p] {v : α} {vs : List α} {c d r : Text}
    (hc : c ≠ []) (hp : p.Reads v c (d ++ r)) (h : (many p).Reads vs d r) :
    (many p).Reads (v :: vs) (c ++ d) r := by
  have hpos : 0 < c.length := List.length_pos_iff.mpr hc
  rw [Reads, List.append_assoc]
  show manyFrom p (c ++ (d ++ r)) 0 = _
  have hrest : manyFrom p (c ++ (d ++ r)) c.length = .ok vs (c.length + d.length) := by
    have := manyFrom_add p (c ++ (d ++ r)) c.length 0
    rw [Nat.add_zero, List.drop_left] at this
    rw [this]
    show ((many p).run (d ++ r) 0).shift c.length = _
    rw [h, Result.shift_ok]
  rw [manyFrom_eq, hp]
  simp [hpos, hrest]

/-- After a round the repetition goes on with what that round has left. -/
theorem exists_many_reads_of_round {p : Parser α} [Plain p] {a : α} {vs : List α} {w r : Text}
    {next : Nat} (hround : p.run (w ++ r) 0 = .ok a next)
    (hrest : manyFrom p (w ++ r) next = .ok vs w.length) :
    ∃ c d, w = c ++ d ∧ c.length = next ∧ p.Reads a c (d ++ r) ∧ (many p).Reads vs d r := by
  have hshift := manyFrom_add p (w ++ r) next 0
  rw [Nat.add_zero, hrest] at hshift
  cases hd : manyFrom p ((w ++ r).drop next) 0 with
  | fail f => rw [hd] at hshift; cases hshift
  | ok us stop =>
    rw [hd, Result.shift_ok, Result.ok.injEq] at hshift
    obtain ⟨rfl, hlen⟩ := hshift
    have hnext : next ≤ w.length := by omega
    have hw : w.take next ++ (w.drop next ++ r) = w ++ r := by
      rw [← List.append_assoc, List.take_append_drop]
    have hclen : (w.take next).length = next := by rw [List.length_take]; omega
    refine ⟨w.take next, w.drop next, (List.take_append_drop next w).symm, hclen, ?_, ?_⟩
    · rw [Reads, hw, hround, hclen]
    · rw [List.drop_append_of_le_length hnext] at hd
      show manyFrom p (w.drop next ++ r) 0 = _
      rw [hd, List.length_drop]
      congr 1
      omega

/-- What `many` has read is nothing, or a first round and what the rounds after it read. -/
theorem many_reads_cases {p : Parser α} [Plain p] {vs : List α} {w r : Text}
    (h : (many p).Reads vs w r) :
    (vs = [] ∧ w = [] ∧ (p.Refuses r ∨ ∃ a, p.Reads a [] r))
      ∨ ∃ v vs' c d, vs = v :: vs' ∧ w = c ++ d ∧ c ≠ [] ∧ p.Reads v c (d ++ r)
          ∧ (many p).Reads vs' d r := by
  change manyFrom p (w ++ r) 0 = _ at h
  rw [manyFrom_eq] at h
  cases hp : p.run (w ++ r) 0 with
  | fail f =>
    rw [hp] at h
    simp only at h
    split at h
    · cases h
    · rw [Result.ok.injEq] at h
      obtain rfl := List.length_eq_zero_iff.mp h.2.symm
      exact .inl ⟨h.1.symm, rfl, .inl ⟨f, hp⟩⟩
  | ok a next =>
    rw [hp] at h
    simp only at h
    split at h
    · rename_i hpos
      obtain ⟨vs', hvs, rfl⟩ := Result.map_eq_ok_iff.mp h
      obtain ⟨c, d, rfl, rfl, hc, hd⟩ := exists_many_reads_of_round hp hvs
      exact .inr ⟨a, vs', c, d, rfl, rfl, List.length_pos_iff.mp hpos, hc, hd⟩
    · rename_i hpos
      rw [Result.ok.injEq] at h
      obtain rfl := List.length_eq_zero_iff.mp h.2.symm
      obtain rfl : next = 0 := by omega
      exact .inl ⟨h.1.symm, rfl, .inr ⟨a, hp⟩⟩

/-- `many` stops only in front of what the repeated parser refuses, or reads without moving. -/
theorem many_reads_end {p : Parser α} [Plain p] {vs : List α} {w r : Text}
    (h : (many p).Reads vs w r) : p.Refuses r ∨ ∃ a, p.Reads a [] r := by
  induction vs generalizing w with
  | nil =>
    obtain ⟨-, -, hend⟩ | ⟨v, vs', c, d, hv, -⟩ := many_reads_cases h
    · exact hend
    · cases hv
  | cons v vs ih =>
    obtain ⟨hv, -⟩ | ⟨v', vs', c, d, hv, -, -, -, hrest⟩ := many_reads_cases h
    · cases hv
    · obtain ⟨-, rfl⟩ := List.cons.inj hv
      exact ih hrest

end Parser
end ODataToken
