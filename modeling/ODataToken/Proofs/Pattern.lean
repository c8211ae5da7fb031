import ODataToken.Proofs.Parser.Reads

/-!
# The texts of a pattern

`Pattern.Matches` says which texts a pattern describes, without a matcher.  What the matcher
consumes is always such a text: `Pattern.exists_matches_of_mem_ends` for every position that it
lists, and `Parser.pattern_reads` for the one that it prefers.

A pattern looks neither back, unless it asks for the start of a line (`Pattern.ends_add`), nor
ahead of what it matches (`Pattern.ends_append`).  So a pattern parser is plain, and it reads the
same when the input ends where it has stopped.

`Pattern.Prefers` says where the match ends, with one lemma for each way to build a pattern.
-/

set_option autoImplicit false

namespace ODataToken

namespace Pattern

/-- The texts of a pattern.  The start of a line holds nothing. -/
def Matches (ignoreCase : Bool) : Pattern → Text → Prop
  | unit c, t => ∃ u, t = [u] ∧ c.accepts ignoreCase u = true
  | run c atLeast, t => atLeast ≤ t.length ∧ ∀ u ∈ t, c.accepts ignoreCase u = true
  | seq p q, t => ∃ s r, t = s ++ r ∧ p.Matches ignoreCase s ∧ q.Matches ignoreCase r
  | alt p q, t => p.Matches ignoreCase t ∨ q.Matches ignoreCase t
  | opt p, t => p.Matches ignoreCase t ∨ t = []
  | lineStart, t => t = []
  | ignoringCase p, t => p.Matches true t

/-- From `pos` on, the pattern describes the part of the input up to each position at which it can
end. -/
theorem exists_matches_of_mem_ends {p : Pattern} {ignoreCase : Bool} {input : Text}
    {pos stop : Nat} (h : stop ∈ p.ends input ignoreCase pos) :
    ∃ t, t <+: input.drop pos ∧ stop = pos + t.length ∧ p.Matches ignoreCase t := by
  induction p generalizing ignoreCase pos stop with
  | unit c =>
    rw [ends] at h
    split at h
    · rename_i hany
      obtain ⟨u, hu, haccepts⟩ := (Option.any_eq_true _ _).mp hany
      obtain ⟨hlt, hget⟩ := List.getElem?_eq_some_iff.mp hu
      refine ⟨[u], ?_, List.mem_singleton.mp h, u, rfl, haccepts⟩
      rw [List.drop_eq_getElem_cons hlt, hget]
      exact List.cons_prefix_cons.mpr ⟨rfl, List.nil_prefix⟩
    · cases h
  | run c atLeast =>
    simp only [ends, List.mem_reverse, List.mem_range'_1] at h
    refine ⟨((input.drop pos).takeWhile (c.accepts ignoreCase)).take (stop - pos), ?_, ?_, ?_, ?_⟩
    · exact List.IsPrefix.trans (List.take_prefix _ _) (List.takeWhile_prefix _)
    · rw [List.length_take]
      omega
    · rw [List.length_take]
      omega
    · intro u hu
      exact List.all_eq_true.mp List.all_takeWhile u (List.mem_of_mem_take hu)
  | seq p q ihp ihq =>
    obtain ⟨mid, hp, hq⟩ := List.mem_flatMap.mp h
    obtain ⟨s, ⟨r, hs⟩, rfl, hps⟩ := ihp hp
    obtain ⟨t, ht, rfl, hqt⟩ := ihq hq
    refine ⟨s ++ t, ?_, ?_, s, t, rfl, hps, hqt⟩
    · rw [← List.drop_drop, ← hs, List.drop_left] at ht
      rw [← hs]
      exact (List.prefix_append_right_inj s).mpr ht
    · rw [List.length_append, Nat.add_assoc]
  | alt p q ihp ihq =>
    rcases List.mem_append.mp h with hp | hq
    · obtain ⟨t, hpre, hstop, ht⟩ := ihp hp
      exact ⟨t, hpre, hstop, .inl ht⟩
    · obtain ⟨t, hpre, hstop, ht⟩ := ihq hq
      exact ⟨t, hpre, hstop, .inr ht⟩
  | opt p ih =>
    rcases List.mem_append.mp h with hp | hnone
    · obtain ⟨t, hpre, hstop, ht⟩ := ih hp
      exact ⟨t, hpre, hstop, .inl ht⟩
    · exact ⟨[], List.nil_prefix, List.mem_singleton.mp hnone, .inr rfl⟩
  | lineStart =>
    rw [ends] at h
    split at h
    · exact ⟨[], List.nil_prefix, List.mem_singleton.mp h, rfl⟩
    · cases h
  | ignoringCase p ih => exact ih h

/-! ## Other parts of the input -/

/-- The pattern asks somewhere for the start of a line, and so for what stands before it. -/
def looksBack : Pattern → Bool
  | unit _ | run _ _ => false
  | seq p q | alt p q => p.looksBack || q.looksBack
  | opt p | ignoringCase p => p.looksBack
  | lineStart => true

/-- Cutting off what stands before the rest moves the positions at which the pattern can end. -/
theorem ends_add {p : Pattern} (h : p.looksBack = false) (ignoreCase : Bool) (input : Text)
    (k pos : Nat) :
    p.ends input ignoreCase (k + pos) = (p.ends (input.drop k) ignoreCase pos).map (k + ·) := by
  induction p generalizing ignoreCase pos with
  | unit c =>
    simp only [ends, List.getElem?_drop]
    split
    · rw [List.map_singleton, Nat.add_assoc]
    · rfl
  | run c atLeast =>
    simp only [ends, List.drop_drop, List.map_reverse, List.map_add_range', Nat.add_assoc]
  | seq p q ihp ihq =>
    rw [looksBack, Bool.or_eq_false_iff] at h
    simp only [ends, ihp h.1, List.flatMap_map, List.map_flatMap, ihq h.2]
  | alt p q ihp ihq =>
    rw [looksBack, Bool.or_eq_false_iff] at h
    simp only [ends, ihp h.1, ihq h.2, List.map_append]
  | opt p ih => simp only [ends, ih h, List.map_append, List.map_singleton]
  | lineStart => cases h
  | ignoringCase p ih => exact ih h true pos

theorem le_of_mem_ends {p : Pattern} {ignoreCase : Bool} {input : Text} {pos stop : Nat}
    (h : stop ∈ p.ends input ignoreCase pos) : pos ≤ stop := by
  obtain ⟨t, -, rfl, -⟩ := exists_matches_of_mem_ends h
  exact Nat.le_add_right pos t.length

/-- A run in a shorter input is as long as the input allows. -/
theorem length_takeWhile_append (units : CodeUnit → Bool) (w r : Text) :
    (w.takeWhile units).length = min ((w ++ r).takeWhile units).length w.length := by
  have hle := (List.takeWhile_prefix units (l := w)).length_le
  rw [List.takeWhile_append]
  split
  · rename_i hall
    rw [List.length_append]
    omega
  · omega

theorem filter_le_range' (s n limit : Nat) :
    (List.range' s n).filter (· ≤ limit) = List.range' s (min n (limit + 1 - s)) := by
  induction n with
  | zero => simp
  | succ n ih =>
    rw [List.range'_1_concat, List.filter_append, ih]
    by_cases h : s + n ≤ limit
    · have hmin : min (n + 1) (limit + 1 - s) = min n (limit + 1 - s) + 1 := by omega
      have hn : min n (limit + 1 - s) = n := by omega
      rw [hmin, hn, List.range'_1_concat]
      simp [h]
    · have hmin : min (n + 1) (limit + 1 - s) = min n (limit + 1 - s) := by omega
      rw [hmin]
      simp [h]

/-- **In a shorter input a pattern can end where it can end in the longer one, as far as that
goes.**  So cutting the input off behind the preferred end leaves it the preferred one. -/
theorem ends_append (p : Pattern) (ignoreCase : Bool) (w r : Text) {pos : Nat}
    (hpos : pos ≤ w.length) :
    p.ends w ignoreCase pos = (p.ends (w ++ r) ignoreCase pos).filter (· ≤ w.length) := by
  induction p generalizing ignoreCase pos with
  | unit c =>
    simp only [ends]
    rcases Nat.lt_or_eq_of_le hpos with hlt | rfl
    · rw [List.getElem?_append_left hlt]
      split
      · simp [Nat.succ_le_of_lt hlt]
      · rfl
    · simp only [List.getElem?_eq_none (Nat.le_refl _), Option.any_none, Bool.false_eq_true,
        if_false]
      split
      · simp
      · rfl
  | run c atLeast =>
    have hlen := length_takeWhile_append (c.accepts ignoreCase) (w.drop pos) r
    rw [List.length_drop] at hlen
    simp only [ends, List.filter_reverse, filter_le_range', List.drop_append_of_le_length hpos]
    congr 2
    omega
  | seq p q ihp ihq =>
    simp only [ends, ihp ignoreCase hpos, List.filter_flatMap]
    generalize p.ends (w ++ r) ignoreCase pos = mids
    induction mids with
    | nil => rfl
    | cons mid mids ih =>
      by_cases hmid : mid ≤ w.length
      · simp [hmid, ihq ignoreCase hmid, ih]
      · -- beyond the shorter input there is no way back into it
        have hnone : (q.ends (w ++ r) ignoreCase mid).filter (· ≤ w.length) = [] := by
          refine List.filter_eq_nil_iff.mpr fun stop hstop => ?_
          have := le_of_mem_ends hstop
          simp only [decide_eq_true_eq]
          omega
        simp [hmid, hnone, ih]
  | alt p q ihp ihq =>
    simp only [ends, ihp ignoreCase hpos, ihq ignoreCase hpos, List.filter_append]
  | opt p ih => simp [ends, ih ignoreCase hpos, hpos]
  | lineStart =>
    have hstart : atLineStart (w ++ r) pos = atLineStart w pos := by
      cases pos with
      | zero => rfl
      | succ n => simp only [atLineStart, Nat.add_sub_cancel, List.getElem?_append_left hpos]
    simp only [ends, hstart]
    split
    · simp [hpos]
    · rfl
  | ignoringCase p ih => exact ih true hpos

/-! ## The preferred end -/

section Prefers

variable {p q : Pattern} {cls : UnitClass} {atLeast : Nat} {u : CodeUnit} {c d r w : Text}

/-- At the start of `c ++ r` the pattern would rather end after `c` than anywhere else. -/
def Prefers (p : Pattern) (c r : Text) : Prop := (p.ends (c ++ r) false 0).head? = some c.length

theorem prefers_unit (hu : cls.accepts false u = true) (r : Text) :
    (unit cls).Prefers [u] r := by
  simp [Prefers, ends, hu]

theorem ends_unit_eq_nil (h : ∀ u ∈ w.head?, cls.accepts false u = false) :
    (unit cls).ends w false 0 = [] := by
  cases w with
  | nil => rfl
  | cons u w => simp [ends, h u rfl]

/-- A run prefers to be as long as it can. -/
theorem prefers_run (hlen : atLeast ≤ c.length) (hc : ∀ u ∈ c, cls.accepts false u = true)
    (hr : ∀ u ∈ r.head?, cls.accepts false u = false) : (run cls atLeast).Prefers c r := by
  have hstop : r.takeWhile (cls.accepts false) = [] := by
    cases r with
    | nil => rfl
    | cons u r => exact List.takeWhile_cons_of_neg (by simp [hr u rfl])
  have htake : (c ++ r).takeWhile (cls.accepts false) = c := by
    rw [List.takeWhile_append_of_pos hc, hstop, List.append_nil]
  simp only [Prefers, ends, List.drop_zero, htake, List.head?_reverse, Nat.zero_add]
  have hcount : c.length + 1 - atLeast = (c.length - atLeast) + 1 := by omega
  rw [hcount, List.range'_1_concat, List.getLast?_concat, Nat.add_sub_cancel' hlen]

/-- In a sequence each part prefers what it prefers alone, if the second does not look back. -/
theorem prefers_seq (hq : q.looksBack = false) (hc : p.Prefers c (d ++ r)) (hd : q.Prefers d r) :
    (seq p q).Prefers (c ++ d) r := by
  obtain ⟨rest, hp⟩ := List.head?_eq_some_iff.mp hc
  obtain ⟨rest', hends⟩ := List.head?_eq_some_iff.mp hd
  have hsecond : q.ends (c ++ (d ++ r)) false c.length
      = (c.length + d.length) :: rest'.map (c.length + ·) := by
    have := ends_add hq false (c ++ (d ++ r)) c.length 0
    rwa [Nat.add_zero, List.drop_left, hends, List.map_cons] at this
  rw [Prefers, List.append_assoc, ends, hp, List.flatMap_cons, hsecond, List.cons_append,
    List.head?_cons, List.length_append]

theorem ends_seq_eq_nil (h : p.ends w false 0 = []) : (seq p q).ends w false 0 = [] := by
  rw [ends, h, List.flatMap_nil]

theorem prefers_alt_left (h : p.Prefers c r) : (alt p q).Prefers c r := by
  rw [Prefers] at h
  rw [Prefers, ends, List.head?_append, h, Option.some_or]

theorem prefers_alt_right (hp : p.ends (c ++ r) false 0 = []) (hq : q.Prefers c r) :
    (alt p q).Prefers c r := by
  rwa [Prefers, ends, hp]

/-- An optional part prefers to be there. -/
theorem prefers_opt (h : p.Prefers c r) : (opt p).Prefers c r := by
  rw [Prefers] at h
  rw [Prefers, ends, List.head?_append, h, Option.some_or]

theorem prefers_opt_nil (h : p.ends r false 0 = []) : (opt p).Prefers [] r := by
  rw [Prefers, List.nil_append, ends, h]
  rfl

end Prefers

end Pattern

instance (p : Pattern) (expected : Text) : Parser.Inside (Parser.pattern p expected) where
  stop_le {w value stop} hrun := by
    simp only [Parser.pattern_run, Pattern.matchEnd?, Nat.zero_le, if_true] at hrun
    split at hrun
    · rename_i e he
      cases hrun
      obtain ⟨t, ht, rfl, -⟩ := Pattern.exists_matches_of_mem_ends (List.mem_of_head? he)
      rw [Nat.zero_add]
      exact ht.length_le
    · cases hrun

/-! ## Pattern parsers -/

namespace Parser

variable {p : Pattern} {expected v c r w : Text}

/-- A pattern parser reads as far as the pattern prefers. -/
theorem pattern_reads_iff : (pattern p expected).Reads v c r ↔ v = c ∧ p.Prefers c r := by
  simp only [Pattern.Prefers, Reads, pattern_run, Pattern.matchEnd?, Nat.zero_le, if_true]
  constructor
  · intro h
    split at h
    · rename_i stop hstop
      rw [Result.ok.injEq] at h
      obtain ⟨rfl, rfl⟩ := h
      exact ⟨by simp, hstop⟩
    · cases h
  · rintro ⟨rfl, hstop⟩
    rw [hstop]
    simp

theorem pattern_refuses_iff :
    (pattern p expected).Refuses w ↔ p.ends w false 0 = [] := by
  simp only [Refuses, pattern_run, Pattern.matchEnd?, Nat.zero_le, if_true]
  cases p.ends w false 0 <;> simp

/-- A pattern parser reads a text of the pattern. -/
theorem pattern_reads (h : (pattern p expected).Reads v c r) : v = c ∧ p.Matches false c := by
  obtain ⟨rfl, hstop⟩ := pattern_reads_iff.mp h
  obtain ⟨t, ⟨s, hs⟩, hlen, ht⟩ := Pattern.exists_matches_of_mem_ends (List.mem_of_head? hstop)
  rw [List.drop_zero] at hs
  obtain ⟨rfl, -⟩ := List.append_inj hs (by omega)
  exact ⟨rfl, ht⟩

/-- What follows the match is not needed to find it. -/
theorem pattern_reads_nil (h : (pattern p expected).Reads v c r) :
    (pattern p expected).Reads v c [] := by
  obtain ⟨rfl, hstop⟩ := pattern_reads_iff.mp h
  obtain ⟨rest, hends⟩ := List.head?_eq_some_iff.mp hstop
  refine pattern_reads_iff.mpr ⟨rfl, ?_⟩
  rw [Pattern.Prefers, List.append_nil, Pattern.ends_append p false v r (Nat.zero_le _), hends]
  simp

/-- Where a pattern does not match, it does not match less. -/
theorem pattern_refuses_of_append (h : (pattern p expected).Refuses (w ++ r)) :
    (pattern p expected).Refuses w := by
  rw [pattern_refuses_iff] at h ⊢
  rw [Pattern.ends_append p false w r (Nat.zero_le _), h, List.filter_nil]

/-- A pattern that does not look back and does not match nothing makes a plain parser. -/
theorem Plain.pattern (h : p.looksBack = false) (hempty : p.ends [] false 0 = [])
    (expected : Text) : Plain (pattern p expected) where
  run_add input k pos := by
    by_cases hk : k + pos ≤ input.length
    · have hpos : pos ≤ (input.drop k).length := by
        rw [List.length_drop]
        omega
      simp only [Parser.pattern_run, Pattern.matchEnd?, if_pos hk, if_pos hpos,
        Pattern.ends_add h false input k pos, List.head?_map]
      cases (p.ends (input.drop k) false pos).head? with
      | none => rfl
      | some stop => simp [List.extract_eq_take_drop, Nat.add_sub_add_left]
    · -- beyond the input nothing matches, nor does the pattern match the nothing that is left
      have hnone : p.matchEnd? (input.drop k) pos = none := by
        rw [Pattern.matchEnd?, List.length_drop]
        split
        · obtain rfl : pos = 0 := by omega
          rw [List.drop_eq_nil_iff.mpr (by omega), hempty]
          rfl
        · rfl
      have hnone' : p.matchEnd? input (k + pos) = none := if_neg hk
      simp [Parser.pattern_run, hnone, hnone']

end Parser
end ODataToken
