import ODataToken.Proofs.Parser.Runs
import ODataToken.Proofs.Pattern

/-!
# Parsers that end at a delimiter

A literal in a longer input is followed by a space, a closing parenthesis or a comma.  A parser that
takes none of these for a part of what it reads cannot tell such a delimiter from the end of the
input: `Parser.Delimited` says that it does the same in front of either, failures included, whatever
comes after the delimiter.

The property holds of the primitives whose texts and classes are without delimiters, and every
combinator keeps it, so that instance search finds it for a whole grammar.
-/

set_option autoImplicit false

namespace ODataToken

/-- The units that may follow a literal in a longer input. -/
def delimiters : Text := " ),"

/-- No delimiter passes the test.  This is computed on the delimiters alone, where a statement about
every unit would be decided by going through all of them. -/
def noDelimiter (test : CodeUnit → Bool) : Bool := delimiters.all fun d => !test d

theorem eq_false_of_noDelimiter {test : CodeUnit → Bool} (h : noDelimiter test = true)
    {d : CodeUnit} (hd : d ∈ delimiters) : test d = false := by
  simpa using List.all_eq_true.mp h d hd

theorem not_mem_of_noDelimiter {t : Text} (h : noDelimiter t.contains = true) {d : CodeUnit}
    (hd : d ∈ delimiters) : d ∉ t := by
  simpa using eq_false_of_noDelimiter h hd

/-- A prefix without the delimiter ends before it. -/
theorem isPrefix_of_isPrefix_append {t w r : Text} {d : CodeUnit} (hd : d ∉ t)
    (h : t <+: w ++ d :: r) : t <+: w := by
  rcases List.prefix_or_prefix_of_prefix h (List.prefix_append w _) with hle | ⟨s, rfl⟩
  · exact hle
  · rw [List.prefix_append_right_inj] at h
    cases s with
    | nil => simp
    | cons u s =>
      obtain rfl := (List.cons_prefix_cons.mp h).1
      exact absurd (List.mem_append_right w List.mem_cons_self) hd

/-! ## Patterns -/

namespace Pattern

/-- Some class of the pattern accepts the unit. -/
def mentions (u : CodeUnit) (ignoreCase : Bool) : Pattern → Bool
  | unit c | run c _ => c.accepts ignoreCase u
  | seq p q | alt p q => p.mentions u ignoreCase || q.mentions u ignoreCase
  | opt p => p.mentions u ignoreCase
  | lineStart => false
  | ignoringCase p => p.mentions u true

/-- The texts of a pattern consist of units that it mentions. -/
theorem Matches.mentions {p : Pattern} {ignoreCase : Bool} {t : Text}
    (h : p.Matches ignoreCase t) : ∀ u ∈ t, p.mentions u ignoreCase = true := by
  induction p generalizing ignoreCase t with
  | unit c =>
    obtain ⟨v, rfl, hv⟩ := h
    intro u hu
    obtain rfl := List.mem_singleton.mp hu
    exact hv
  | run c atLeast => exact h.2
  | seq p q ihp ihq =>
    obtain ⟨s, r, rfl, hs, hr⟩ := h
    intro u hu
    rw [Pattern.mentions, Bool.or_eq_true]
    exact (List.mem_append.mp hu).imp (ihp hs u) (ihq hr u)
  | alt p q ihp ihq =>
    intro u hu
    rw [Pattern.mentions, Bool.or_eq_true]
    exact h.imp (fun hp => ihp hp u hu) fun hq => ihq hq u hu
  | opt p ih =>
    rcases h with h | rfl
    · exact ih h
    · simp
  | lineStart =>
    obtain rfl : t = [] := h
    simp
  | ignoringCase p ih => exact ih h

/-- A pattern ends before a unit that it does not mention. -/
theorem ends_append_of_not_mentions {p : Pattern} {ignoreCase : Bool} {u : CodeUnit}
    (hu : p.mentions u ignoreCase = false) (w r : Text) {pos : Nat} (hpos : pos ≤ w.length) :
    p.ends (w ++ u :: r) ignoreCase pos = p.ends w ignoreCase pos := by
  rw [ends_append p ignoreCase w (u :: r) hpos, eq_comm, List.filter_eq_self]
  intro stop hstop
  obtain ⟨t, hpre, rfl, ht⟩ := exists_matches_of_mem_ends hstop
  have hmem : u ∉ t := fun hmem => by
    rw [ht.mentions u hmem] at hu
    cases hu
  rw [List.drop_append_of_le_length hpos] at hpre
  have hle := (isPrefix_of_isPrefix_append hmem hpre).length_le
  rw [List.length_drop] at hle
  rw [decide_eq_true_eq]
  omega

end Pattern

namespace Parser

variable {α β γ : Type}

/-- In front of a delimiter the parser does what it does at the end of the input, and it stays
inside the input. -/
class Delimited (p : Parser α) : Prop where
  stop_le : ∀ {w pos a stop}, pos ≤ w.length → p.run w pos = .ok a stop → stop ≤ w.length
  run_append : ∀ {d}, d ∈ delimiters → ∀ (w r : Text) {pos}, pos ≤ w.length →
    p.run (w ++ d :: r) pos = p.run w pos

namespace Delimited

/-! ## Primitives -/

/-- For a plain parser it is enough to look at the start of the input. -/
theorem of_plain (p : Parser α) [Plain p]
    (h : ∀ d ∈ delimiters, ∀ w r, p.run (w ++ d :: r) 0 = p.run w 0) : Delimited p where
  stop_le hpos hrun := by
    obtain ⟨s, rfl, hs, -⟩ := Plain.exists_of_run_eq_ok hrun
    rw [List.length_drop] at hs
    omega
  run_append := by
    intro d hd w r pos hpos
    rw [Plain.run_eq, Plain.run_eq p w, List.drop_append_of_le_length hpos, h d hd]

theorem literal {s : Text} (hs : noDelimiter s.contains = true) : Delimited (literal s) := by
  refine of_plain _ fun d hd w r => ?_
  have hpre : s.isPrefixOf (w ++ d :: r) = s.isPrefixOf w := by
    rw [Bool.eq_iff_iff, List.isPrefixOf_iff_prefix, List.isPrefixOf_iff_prefix]
    exact ⟨isPrefix_of_isPrefix_append (not_mem_of_noDelimiter hs hd),
      fun h => h.trans (List.prefix_append w _)⟩
  simp only [Parser.literal, List.drop_zero, hpre]

theorem lower_of_mem_delimiters {d : CodeUnit} (hd : d ∈ delimiters) : d.lower = d := by
  have h : noDelimiter (fun d => d.lower != d) = true := by decide
  simpa using eq_false_of_noDelimiter h hd

theorem keyword {s : Text} (hplain : s.all CodeUnit.isPlain = true)
    (hs : noDelimiter s.lower.contains = true) : Delimited (keyword s) := by
  refine of_plain _ fun d hd w r => ?_
  by_cases hlen : s.length ≤ w.length
  · simp only [Parser.keyword, List.drop_zero, List.take_append_of_le_length hlen]
  · -- the input is too short for the keyword, and the delimiter is no part of it
    have hshort : (w.take s.length).length ≠ s.length := by
      rw [List.length_take]
      omega
    have hother : Text.lower ((w ++ d :: r).take s.length) ≠ s.lower := by
      intro heq
      have hmem : d ∉ (w ++ d :: r).take s.length := fun hmem => by
        have hlower := List.mem_map_of_mem (f := CodeUnit.lower) hmem
        rw [lower_of_mem_delimiters hd] at hlower
        exact not_mem_of_noDelimiter hs hd (heq ▸ hlower)
      have hle := (isPrefix_of_isPrefix_append hmem (List.take_prefix _ _)).length_le
      rw [← Text.length_lower, heq, Text.length_lower] at hle
      exact hlen hle
    simp only [Parser.keyword, List.drop_zero, Text.equalsIgnoringCase_iff hplain, hother, hshort,
      and_false, false_and, if_false]

theorem char {u : CodeUnit} (hu : u ∉ delimiters) : Delimited (char [u]) := by
  refine of_plain _ fun d hd w r => ?_
  have hd' : d ≠ u := by
    rintro rfl
    exact hu hd
  cases w with
  | nil => simp [char_run_zero, hd']
  | cons v w => simp [char_run_zero]

theorem oneOf {units : Text} (hunits : noDelimiter units.contains = true) :
    Delimited (oneOf units) := by
  refine of_plain _ fun d hd w r => ?_
  cases w with
  | nil => simp [oneOf_run_zero, not_mem_of_noDelimiter hunits hd]
  | cons u w => simp [oneOf_run_zero]

/-- A run ends at a delimiter that is not in its class. -/
theorem takeCodePoints_append {accepts : CharClass} {units : CodeUnit → Bool}
    (h : accepts.OfSingleUnits units) {d : CodeUnit} (hd : units d = false) (most : Option Nat)
    (w r : Text) :
    Text.takeCodePoints accepts most (w ++ d :: r) = Text.takeCodePoints accepts most w := by
  have hrun : (w ++ d :: r).takeWhile units = w.takeWhile units := by
    rw [List.takeWhile_append]
    split
    · rename_i hall
      rw [(List.takeWhile_prefix units).eq_of_length hall, List.takeWhile_cons, hd]
      simp
    · rfl
  cases most with
  | none => simp only [Text.takeCodePoints_none, Text.takeWhile_codePoints h, hrun]
  | some n => simp only [Text.takeCodePoints_some, Text.takeWhile_codePoints h, hrun]

theorem takeBetween {accepts : CharClass} {units : CodeUnit → Bool}
    (h : accepts.OfSingleUnits units) (hunits : noDelimiter units = true) (least : Nat)
    (most : Option Nat) (expected : Text) :
    Delimited (takeBetween accepts least most expected) := by
  refine of_plain _ fun d hd w r => ?_
  have hd' := eq_false_of_noDelimiter hunits hd
  simp only [Parser.takeBetween, List.drop_zero, takeCodePoints_append h hd']

theorem pattern {p : Pattern} (expected : Text) [Plain (pattern p expected)]
    (hp : noDelimiter (p.mentions · false) = true) : Delimited (pattern p expected) := by
  refine of_plain _ fun d hd w r => ?_
  have hd' := eq_false_of_noDelimiter hp hd
  have hends := Pattern.ends_append_of_not_mentions hd' w r (Nat.zero_le _)
  simp only [pattern_run, Pattern.matchEnd?, Nat.zero_le, if_true, hends]
  cases hstop : (p.ends w false 0).head? with
  | none => rfl
  | some stop =>
    obtain ⟨t, hpre, rfl, -⟩ :=
      Pattern.exists_matches_of_mem_ends (List.mem_of_head? hstop)
    have hle : 0 + t.length ≤ w.length := by simpa using hpre.length_le
    simp only [List.extract_eq_take_drop, List.drop_zero, Nat.sub_zero,
      List.take_append_of_le_length hle]

end Delimited

/-! ## Combinators -/

instance (f : α → β) (p : Parser α) [Delimited p] : Delimited (p.map f) where
  stop_le hpos hrun := by
    obtain ⟨a, ha, -⟩ := Result.map_eq_ok_iff.mp hrun
    exact Delimited.stop_le hpos ha
  run_append hd w r pos hpos := congrArg (Result.map f) (Delimited.run_append hd w r hpos)

instance (p : Parser α) (value : β) [Delimited p] : Delimited (p.replace value) :=
  inferInstanceAs (Delimited (p.map _))

instance (p : Parser α) (q : Parser β) [Delimited p] [Delimited q] : Delimited (p.seq q) where
  stop_le hpos hrun := by
    obtain ⟨a, mid, hp, hq⟩ := Result.andThen_eq_ok_iff.mp hrun
    obtain ⟨b, hb, -⟩ := Result.map_eq_ok_iff.mp hq
    exact Delimited.stop_le (Delimited.stop_le hpos hp) hb
  run_append := by
    intro d hd w r pos hpos
    simp only [seq, Delimited.run_append hd w r hpos]
    cases hp : p.run w pos with
    | fail f => rfl
    | ok a mid =>
      have hmid := Delimited.stop_le hpos hp
      simp only [Result.andThen_ok, Delimited.run_append hd w r hmid]

instance (p : Parser α) (q : Parser β) (r : Parser γ) [Delimited p] [Delimited q] [Delimited r] :
    Delimited (p.seq3 q r) := by
  rw [seq3_eq]; infer_instance

instance (lead : Parser α) (p : Parser β) [Delimited lead] [Delimited p] :
    Delimited (preceded lead p) :=
  inferInstanceAs (Delimited ((lead.seq p).map Prod.snd))

instance (p : Parser α) (trail : Parser β) [Delimited p] [Delimited trail] :
    Delimited (terminated p trail) :=
  inferInstanceAs (Delimited ((p.seq trail).map Prod.fst))

instance (opening : Parser α) (p : Parser β) (closing : Parser γ) [Delimited opening]
    [Delimited p] [Delimited closing] : Delimited (between opening p closing) := by
  rw [between_eq]; infer_instance

instance (p : Parser α) [Delimited p] : Delimited (recognize p) where
  stop_le hpos hrun := by
    obtain ⟨a, mid, hp, hq⟩ := Result.andThen_eq_ok_iff.mp hrun
    cases hq
    exact Delimited.stop_le hpos hp
  run_append := by
    intro d hd w r pos hpos
    simp only [recognize, Delimited.run_append hd w r hpos]
    cases hp : p.run w pos with
    | fail f => rfl
    | ok a stop =>
      have hle := Delimited.stop_le hpos hp
      simp only [Result.andThen_ok, List.extract_eq_take_drop, List.drop_append_of_le_length hpos]
      rw [List.take_append_of_le_length]
      rw [List.length_drop]
      omega

instance (p : Parser α) [Delimited p] : Delimited (spanned p) where
  stop_le hpos hrun := by
    obtain ⟨a, mid, hp, hq⟩ := Result.andThen_eq_ok_iff.mp hrun
    cases hq
    exact Delimited.stop_le hpos hp
  run_append := by
    intro d hd w r pos hpos
    simp only [spanned, Delimited.run_append hd w r hpos]

instance (p : Parser α) (check : α → Except Rejection β) [Delimited p] :
    Delimited (p.tryMap check) where
  stop_le hpos hrun := by
    obtain ⟨a, mid, hp, hq⟩ := Result.andThen_eq_ok_iff.mp hrun
    split at hq
    · cases hq; exact Delimited.stop_le hpos hp
    · cases hq
  run_append := by
    intro d hd w r pos hpos
    simp only [tryMap, Delimited.run_append hd w r hpos]

/-! ### Choice -/

instance (p : Parser α) [Delimited p] : Delimited (optional p) where
  stop_le := by
    intro w pos a stop hpos hrun
    simp only [optional] at hrun
    split at hrun
    · rename_i hp; cases hrun; exact Delimited.stop_le hpos hp
    · split at hrun
      · cases hrun
      · cases hrun; exact hpos
  run_append := by
    intro d hd w r pos hpos
    simp only [optional, Delimited.run_append hd w r hpos]

instance (p q : Parser α) [Delimited p] [Delimited q] : Delimited (alt p q) where
  stop_le := by
    intro w pos a stop hpos hrun
    simp only [alt] at hrun
    split at hrun
    · rename_i hp; cases hrun; exact Delimited.stop_le hpos hp
    · split at hrun
      · rename_i hq; cases hrun; exact Delimited.stop_le hpos hq
      · cases hrun
  run_append := by
    intro d hd w r pos hpos
    simp only [alt, Delimited.run_append hd w r hpos]

instance (p : Parser α) (expected : Text) [Delimited p] : Delimited (label p expected) where
  stop_le := by
    intro w pos a stop hpos hrun
    simp only [label] at hrun
    split at hrun
    · rename_i hp; cases hrun; exact Delimited.stop_le hpos hp
    · split at hrun <;> cases hrun
  run_append := by
    intro d hd w r pos hpos
    simp only [label, Delimited.run_append hd w r hpos]

instance (p : Parser α) [Delimited p] : Delimited (commit p) where
  stop_le := by
    intro w pos a stop hpos hrun
    simp only [commit] at hrun
    split at hrun
    · rename_i hp; cases hrun; exact Delimited.stop_le hpos hp
    · cases hrun
  run_append := by
    intro d hd w r pos hpos
    simp only [commit, Delimited.run_append hd w r hpos]

/-- A choice ends at a delimiter if all its parsers do. -/
theorem Delimited.choice {ps : List (Parser α)} (h : ∀ p ∈ ps, Delimited p) :
    Delimited (choice ps) where
  stop_le hpos hrun := by
    obtain ⟨p, hp, hrun⟩ := exists_mem_of_choiceFrom hrun
    exact (h p hp).stop_le hpos hrun
  run_append := by
    intro d hd w r pos hpos
    have from_ (sofar : Option Failure) :
        choiceFrom (w ++ d :: r) pos sofar ps = choiceFrom w pos sofar ps := by
      induction ps generalizing sofar with
      | nil => rfl
      | cons p ps ih =>
        have := h p List.mem_cons_self
        simp only [choiceFrom, Delimited.run_append hd w r hpos]
        cases p.run w pos with
        | ok a stop => rfl
        | fail f => exact ih (fun q hq => h q (List.mem_cons_of_mem p hq)) _
    exact from_ none

/-! ### Repetition -/

instance (p : Parser α) (n : Nat) [Delimited p] : Delimited (count p n) := by
  induction n with
  | zero =>
    refine ⟨?_, ?_⟩
    · intro w pos a stop hpos hrun
      cases hrun
      exact hpos
    · intros
      rfl
  | succ n ih =>
    rw [count_succ_eq]
    infer_instance

end Parser
end ODataToken
