import Mathlib.Data.List.Basic
import ODataToken.Text.Lowercase

/-!
# Keywords without regard to case

Full lower-casing can turn one unit into two, can turn a letter outside ASCII into an ASCII letter,
and looks at the letters around a capital sigma.  Against a keyword of ASCII letters without a `k`
none of this matters: a text has the lower case of the keyword exactly when the two agree unit by
unit up to the case of ASCII letters (`Text.equalsIgnoringCase_iff`).

Only two letters outside ASCII have a lower case that begins with an ASCII letter.  One is the
Kelvin sign, which becomes a `k`.  The other is the capital `I` with a dot, which becomes an `i` and
a dot above it, and no keyword has that dot.  That there are no others is read off the table of
lower cases (`Unicode.lowercase?_of_lt`).
-/

set_option autoImplicit false

namespace ODataToken

/-! ## Single units -/

namespace CodeUnit

/-- The unit, in lower case if it is an ASCII letter. -/
def lower (u : CodeUnit) : CodeUnit := if 0x41 ≤ u && u ≤ 0x5A then u + 0x20 else u

/-- An ASCII unit that no unit outside ASCII has as its lower case. -/
def isPlain (u : CodeUnit) : Bool := u < 0x80 && u.lower != 0x6B

theorem isPlain_iff {u : CodeUnit} : u.isPlain = true ↔ u < 0x80 ∧ u.lower ≠ 0x6B := by
  simp [isPlain]

/-- A unit that is no capital letter is its own lower case. -/
theorem lower_eq_self {u : CodeUnit} (h : u < 0x41) : u.lower = u := by
  unfold lower
  split
  · rename_i hu
    simp only [Bool.and_eq_true, decide_eq_true_eq] at hu
    exact absurd h (UInt16.not_lt.mpr hu.1)
  · rfl

/-- A unit with the lower case `x` is `x` or the capital letter. -/
theorem eq_or_eq_of_lower_eq {u x : CodeUnit} (h : u.lower = x) : u = x ∨ u = x - 0x20 := by
  unfold lower at h
  split at h
  · exact .inr (by rw [← h, UInt16.add_sub_cancel])
  · exact .inl h

theorem lower_lt {u : CodeUnit} (h : u < 0x80) : u.lower < 0x80 := by
  unfold lower
  split
  · rename_i hu
    simp only [Bool.and_eq_true, decide_eq_true_eq, UInt16.le_iff_toNat_le] at hu
    rw [UInt16.lt_iff_toNat_lt, UInt16.toNat_add]
    have h1 : u.toNat ≤ 90 := hu.2
    show (u.toNat + 32) % 65536 < 128
    omega
  · exact h

theorem lt_of_lower_lt {u : CodeUnit} (h : u.lower < 0x80) : u < 0x80 := by
  unfold lower at h
  split at h
  · rename_i hu
    simp only [Bool.and_eq_true, decide_eq_true_eq] at hu
    exact UInt16.lt_of_le_of_lt hu.2 (by decide)
  · exact h

theorem le_pairValue (u v : CodeUnit) : 0x10000 ≤ pairValue u v := by
  unfold pairValue
  omega

/-- An ASCII unit is no half of a surrogate pair. -/
theorem isHighSurrogate_of_lt {u : CodeUnit} (h : u < 0x80) : u.isHighSurrogate = false := by
  rw [isHighSurrogate, Bool.and_eq_false_iff, decide_eq_false_iff_not, UInt16.not_le]
  exact .inl (UInt16.lt_trans h (by decide))

end CodeUnit

/-! ## The table -/

namespace Unicode

theorem lowercase?_ascii : ∀ n < 0x80,
    lowercase? n = if 0x41 ≤ n ∧ n ≤ 0x5A then some (n + 0x20) else none := by
  decide +kernel

/-- A run leads into ASCII only from ASCII, or to a `k`. -/
theorem ascii_of_mem_lowercaseRuns : ∀ run ∈ lowercaseRuns,
    run.last < 0x80 ∨ (run.first = 0x212A ∧ run.last = 0x212A ∧ run.distance = -8383)
      ∨ 0x80 ≤ run.first + run.distance := by
  decide +kernel

/-- No run leads beyond the code points. -/
theorem lt_of_mem_lowercaseRuns : ∀ run ∈ lowercaseRuns, run.last + run.distance < 0x110000 := by
  decide +kernel

variable {n m : Nat}

theorem exists_run (h : lowercase? n = some m) :
    ∃ run ∈ lowercaseRuns, run.first ≤ n ∧ n ≤ run.last ∧ m = run.lower n := by
  obtain ⟨run, hrun, hm⟩ := Option.bind_eq_some_iff.mp h
  obtain ⟨hhas, hm⟩ := Option.ite_none_right_eq_some.mp hm
  simp only [CaseRun.has, Bool.and_eq_true, decide_eq_true_eq] at hhas
  exact ⟨run, List.mem_of_find?_eq_some hrun, hhas.1.1, hhas.1.2, (Option.some.inj hm).symm⟩

/-- **Only ASCII letters have ASCII letters as their lower case**, but for the `k`. -/
theorem lowercase?_of_lt (h : lowercase? n = some m) (hm : m < 0x80) : n < 0x80 ∨ m = 0x6B := by
  obtain ⟨run, hmem, hfirst, hlast, rfl⟩ := exists_run h
  rw [CaseRun.lower] at hm ⊢
  rcases ascii_of_mem_lowercaseRuns run hmem with hascii | ⟨hf, hl, hd⟩ | hdistance
  · exact .inl (by omega)
  · exact .inr (by omega)
  · omega

theorem lowercase?_lt (h : lowercase? n = some m) : m < 0x110000 := by
  obtain ⟨run, hmem, -, hlast, rfl⟩ := exists_run h
  have := lt_of_mem_lowercaseRuns run hmem
  rw [CaseRun.lower]
  omega

end Unicode

/-! ## Code points -/

namespace Text

variable {before after : List Text} {c rest more s : Text} {u x : CodeUnit} {n : Nat}

theorem ofCodePoint_ne_nil (n : Nat) : ofCodePoint n ≠ [] := by
  unfold ofCodePoint
  split <;> exact List.cons_ne_nil _ _

/-- A text of one code point that begins with an ASCII unit is that unit. -/
theorem ofCodePoint_eq_cons (h : ofCodePoint n = x :: rest) (hn : n < 0x110000) (hx : x < 0x80) :
    x.toNat = n ∧ rest = [] := by
  have hx' : x.toNat < 0x80 := hx
  unfold ofCodePoint at h
  split at h
  · rename_i hlt
    obtain ⟨rfl, rfl⟩ := List.cons.inj h
    exact ⟨UInt16.toNat_ofNat_of_lt' hlt, rfl⟩
  · obtain ⟨rfl, -⟩ := List.cons.inj h
    rw [UInt16.toNat_ofNat'] at hx'
    omega

theorem lowerAlone_ne_nil (hc : c ≠ []) : lowerAlone c ≠ [] := by
  unfold lowerAlone
  split
  · split
    · exact List.cons_ne_nil _ _
    · cases Unicode.lowercase? _ with
      | none => exact hc
      | some m => exact ofCodePoint_ne_nil m
  · exact hc

/-- The lower case of an ASCII unit is one unit. -/
theorem lowerAlone_of_lt (hu : u < 0x80) : lowerAlone [u] = [u.lower] := by
  have hu' : u.toNat < 0x80 := hu
  have hne : u.toNat ≠ 0x130 := by omega
  rw [lowerAlone, codePointValue?]
  simp only [if_neg hne, Unicode.lowercase?_ascii _ hu', CodeUnit.lower, Bool.and_eq_true,
    decide_eq_true_eq, UInt16.le_iff_toNat_le, UInt16.reduceToNat]
  split
  · simp only [Option.elim_some, ofCodePoint, if_pos (show u.toNat + 0x20 < 0x10000 by omega)]
    simp
  · rfl

theorem eq_singleton_of_codePointValue? (h : c.codePointValue? = some n) (hn : n < 0x10000) :
    ∃ u, c = [u] ∧ u.toNat = n := by
  unfold codePointValue? at h
  split at h
  · rename_i u
    exact ⟨u, rfl, Option.some.inj h⟩
  · rename_i u v
    obtain ⟨-, hpair⟩ := Option.ite_none_right_eq_some.mp h
    have hle := CodeUnit.le_pairValue u v
    rw [Option.some.inj hpair] at hle
    omega
  · cases h

/-- A code point that begins with an ASCII unit is that unit. -/
theorem lt_of_codePointValue?_cons (h : codePointValue? (x :: rest) = some n) (hx : x < 0x80) :
    n < 0x80 := by
  unfold codePointValue? at h
  split at h
  · rename_i u heq
    obtain ⟨rfl, -⟩ := List.cons.inj heq
    rw [← Option.some.inj h]
    exact hx
  · rename_i u v heq
    obtain ⟨rfl, -⟩ := List.cons.inj heq
    obtain ⟨hpair, -⟩ := Option.ite_none_right_eq_some.mp h
    rw [CodeUnit.isHighSurrogate_of_lt hx] at hpair
    cases hpair
  · cases h

/-- Only a unit that is the same up to the case of ASCII letters has a lower case that begins with a
plain unit. -/
theorem eq_of_lowerAlone_eq_cons (hvalue : c.codePointValue? = some n) (hx : x < 0x80)
    (hk : x ≠ 0x6B) (h : lowerAlone c = x :: rest) :
    (∃ u, c = [u] ∧ u.lower = x ∧ rest = []) ∨ rest = [0x307] := by
  have hascii (hn : n < 0x80) : ∃ u, c = [u] ∧ u.lower = x ∧ rest = [] := by
    obtain ⟨u, rfl, rfl⟩ := eq_singleton_of_codePointValue? hvalue (by omega)
    rw [lowerAlone_of_lt hn] at h
    exact ⟨u, rfl, (List.cons.inj h).1, (List.cons.inj h).2.symm⟩
  simp only [lowerAlone, hvalue] at h
  split at h
  · exact .inr (List.cons.inj h).2.symm
  · refine .inl (hascii ?_)
    cases hlower : Unicode.lowercase? n with
    | none =>
      rw [hlower, Option.elim_none] at h
      subst h
      exact lt_of_codePointValue?_cons hvalue hx
    | some m =>
      rw [hlower, Option.elim_some] at h
      obtain ⟨rfl, -⟩ := ofCodePoint_eq_cons h (Unicode.lowercase?_lt hlower) hx
      exact (Unicode.lowercase?_of_lt hlower hx).resolve_right fun h => hk (UInt16.toNat_inj.mp h)

theorem lowerBetween_ne_nil (hc : c ≠ []) : lowerBetween before c after ≠ [] := by
  unfold lowerBetween
  split
  · exact List.cons_ne_nil _ _
  · exact lowerAlone_ne_nil hc

theorem lowerBetween_of_lt (hu : u < 0x80) : lowerBetween before [u] after = [u.lower] := by
  have hsigma : [u] ≠ [0x3A3] := by
    rintro h
    obtain rfl := (List.cons.inj h).1
    exact absurd hu (by decide)
  rw [lowerBetween, decide_eq_false hsigma, Bool.false_and, Bool.false_and, if_neg (by decide),
    lowerAlone_of_lt hu]

theorem eq_of_lowerBetween_eq_cons (hvalue : c.codePointValue? = some n) (hx : x < 0x80)
    (hk : x ≠ 0x6B) (h : lowerBetween before c after = x :: rest) :
    (∃ u, c = [u] ∧ u.lower = x ∧ rest = []) ∨ rest = [0x307] := by
  unfold lowerBetween at h
  split at h
  · obtain ⟨rfl, -⟩ := List.cons.inj h
    exact absurd hx (by decide)
  · exact eq_of_lowerAlone_eq_cons hvalue hx hk h

end Text

/-! ## Texts -/

namespace Text

variable {before after : List Text} {c rest more s : Text} {u x : CodeUnit} {n : Nat}

/-- The text in lower case as far as it consists of ASCII letters. -/
def lower (t : Text) : Text := t.map CodeUnit.lower

/-- The lower case of a code point, with more behind it, is a plain keyword only if the code point
is the first unit of the keyword up to the case of ASCII letters. -/
theorem lowerBetween_append_eq_lower_iff (hvalue : c.codePointValue? = some n)
    (hs : s.all CodeUnit.isPlain = true) :
    lowerBetween before c after ++ more = s.lower
      ↔ ∃ u a s', c = [u] ∧ s = a :: s' ∧ u.lower = a.lower ∧ more = lower s' := by
  constructor
  · intro h
    obtain ⟨x, rest, hx⟩ := List.exists_cons_of_ne_nil
      (show lowerBetween before c after ≠ [] from lowerBetween_ne_nil (by rintro rfl; cases hvalue))
    rw [hx] at h
    cases s with
    | nil => cases h
    | cons a s' =>
      rw [List.all_cons, Bool.and_eq_true, CodeUnit.isPlain_iff] at hs
      obtain ⟨⟨ha, hk⟩, hs⟩ := hs
      obtain ⟨rfl, hmore⟩ := List.cons.inj h
      obtain ⟨u, rfl, hlow, rfl⟩ | rfl :=
        eq_of_lowerBetween_eq_cons hvalue (CodeUnit.lower_lt ha) hk hx
      · exact ⟨u, a, s', rfl, rfl, hlow, hmore⟩
      · -- no plain unit is the dot above that the lower case of `U+0130` ends with
        have hmem : (0x307 : CodeUnit) ∈ s'.map CodeUnit.lower := hmore ▸ List.mem_cons_self
        obtain ⟨b, hb, hb'⟩ := List.mem_map.mp hmem
        have hlt := CodeUnit.lower_lt (CodeUnit.isPlain_iff.mp (List.all_eq_true.mp hs b hb)).1
        rw [hb'] at hlt
        exact absurd hlt (by decide)
  · rintro ⟨u, a, s', rfl, rfl, hlow, rfl⟩
    rw [List.all_cons, Bool.and_eq_true, CodeUnit.isPlain_iff] at hs
    have hu : u < 0x80 := CodeUnit.lt_of_lower_lt (hlow ▸ CodeUnit.lower_lt hs.1.1)
    rw [lowerBetween_of_lt hu, hlow]
    rfl

/-- A unit that is a code point of its own has to be the first one of the keyword, and what follows
the rest of it. -/
theorem lowerBehind_cons_eq_lower_iff {codePoints : List Text} {t : Text}
    (hs : s.all CodeUnit.isPlain = true)
    (hmore : ∀ {s' : Text}, s'.all CodeUnit.isPlain = true →
      (lowerBehind ([u] :: before) codePoints = s'.lower ↔ t.lower = s'.lower)) :
    lowerBehind before ([u] :: codePoints) = s.lower ↔ lower (u :: t) = s.lower := by
  rw [lowerBehind, lowerBetween_append_eq_lower_iff rfl hs]
  constructor
  · rintro ⟨w, a, s', hw, rfl, hlow, hrest⟩
    obtain rfl := (List.cons.inj hw).1
    rw [List.all_cons, Bool.and_eq_true] at hs
    exact List.cons_eq_cons.mpr ⟨hlow, (hmore hs.2).mp hrest⟩
  · intro h
    cases s with
    | nil => cases h
    | cons a s' =>
      rw [List.all_cons, Bool.and_eq_true] at hs
      obtain ⟨hlow, hrest⟩ := List.cons.inj h
      exact ⟨u, a, s', rfl, rfl, hlow, (hmore hs.2).mpr hrest⟩

/-- The first half of a surrogate pair is no unit of a keyword. -/
theorem lower_cons_ne_of_isHighSurrogate {t : Text} (hu : u.isHighSurrogate = true)
    (hs : s.all CodeUnit.isPlain = true) : lower (u :: t) ≠ s.lower := by
  intro h
  cases s with
  | nil => cases h
  | cons a s' =>
    rw [List.all_cons, Bool.and_eq_true, CodeUnit.isPlain_iff] at hs
    have hlt : u.lower < 0x80 := (List.cons.inj h).1 ▸ CodeUnit.lower_lt hs.1.1
    rw [CodeUnit.isHighSurrogate_of_lt (CodeUnit.lt_of_lower_lt hlt)] at hu
    cases hu

/-- **Code points have the lower case of a plain keyword** exactly when they make up the keyword up
to the case of ASCII letters, whatever stands before them. -/
theorem lowerBehind_eq_lower_iff (t : Text) (hs : s.all CodeUnit.isPlain = true) :
    lowerBehind before t.codePoints = s.lower ↔ t.lower = s.lower := by
  fun_induction codePoints t generalizing before s with
  | case1 => rfl
  | case2 u => exact lowerBehind_cons_eq_lower_iff hs fun _ => Iff.rfl
  | case3 u v rest hpair ih =>
    -- a surrogate pair is no part of a keyword, neither as it stands nor in lower case
    have hvalue : codePointValue? [u, v] = some (CodeUnit.pairValue u v) := if_pos hpair
    rw [lowerBehind, lowerBetween_append_eq_lower_iff hvalue hs]
    rw [Bool.and_eq_true] at hpair
    refine iff_of_false ?_ (lower_cons_ne_of_isHighSurrogate hpair.1 hs)
    rintro ⟨w, a, s', hw, -⟩
    cases hw
  | case4 u v rest hpair ih => exact lowerBehind_cons_eq_lower_iff hs ih

theorem toLowercase_of_isPlain (hs : s.all CodeUnit.isPlain = true) : s.toLowercase = s.lower :=
  (lowerBehind_eq_lower_iff s hs).mpr rfl

/-- **A text matches a plain keyword without regard to case when it is the keyword up to the case of
ASCII letters.** -/
theorem equalsIgnoringCase_iff (hs : s.all CodeUnit.isPlain = true) :
    c.equalsIgnoringCase s = true ↔ c.lower = s.lower := by
  rw [equalsIgnoringCase, beq_iff_eq, toLowercase_of_isPlain hs]
  exact lowerBehind_eq_lower_iff c hs

/-- What a text begins with, when it is a word up to the case of ASCII letters. -/
theorem exists_cons_of_lower_eq_cons {c s : Text} {x : CodeUnit} (h : c.lower = x :: s) :
    ∃ u c', c = u :: c' ∧ u.lower = x ∧ Text.lower c' = s := by
  cases c with
  | nil => cases h
  | cons u c' =>
    obtain ⟨hx, hs⟩ := List.cons.inj h
    exact ⟨u, c', rfl, hx, hs⟩

theorem length_lower (t : Text) : t.lower.length = t.length := List.length_map _

end Text
end ODataToken
