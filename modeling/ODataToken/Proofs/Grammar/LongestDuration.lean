import ODataToken.Proofs.DurationParts
import ODataToken.Proofs.Grammar.Duration

/-!
# Durations are read as far as they go

An optional part of a grammar is read if it is there, and what was read is never given back.  So it
is not plain that this finds the longest text of a language.  Here it does: all components begin
with digits, but the unit behind the digits tells them apart, and the components come in a fixed
order.  Where a longer text could leave a component out that was read, it would have to go on with
the same digits and another unit (`optional_length_le`).

`durationValue_longest` says where a duration is read, how far and with which value, and what
surrounds it in a literal.
-/

set_option autoImplicit false

namespace ODataToken

/-- The text `c` is the longest of those of a language that `w` begins with. -/
def IsLongestPrefix (L : Text → Prop) (c w : Text) : Prop :=
  c <+: w ∧ L c ∧ ∀ c', c' <+: w → L c' → c'.length ≤ c.length

namespace Grammar

open ODataToken.Parser Text Duration
open CodeUnit (apostrophe)

/-! ## Optional parts -/

section Optional

variable {α : Type} {p : Parser α} [ShapeOnly p] {P : Text → α → Prop} {o : Option α} {n : α}
  {c s r c' s' r' w : Text}

theorem not_optional_refuses : ¬ (optional p).Refuses w := by
  rintro ⟨f, hf⟩
  simp only [Parser.optional] at hf
  split at hf
  · cases hf
  · rename_i g hg
    rw [ShapeOnly.kind_eq hg] at hf
    cases hf

/-- What is read with an optional part in front is as long as every other text of the two parts, if
the second part alone does not begin like the first, and is itself read as far as it goes. -/
theorem optional_length_le (hreads : (optional p).Reads o c (s ++ r))
    (h' : p.Reads n c' (s' ++ r') ∨ c' = []) (heq : c ++ (s ++ r) = c' ++ (s' ++ r'))
    (hother : c' = [] → s' ≠ [] → p.Refuses (s' ++ r'))
    (hrest : s ++ r = s' ++ r' → s'.length ≤ s.length) :
    (c' ++ s').length ≤ (c ++ s).length := by
  rw [List.length_append, List.length_append]
  rcases h' with h' | hnil
  · obtain ⟨-, rfl, hsr⟩ := hreads.unique (optional_reads_some_iff.mpr h') heq
    exact Nat.add_le_add_left (hrest hsr) _
  · subst hnil
    by_cases hs' : s' = []
    · rw [hs']
      exact Nat.zero_le _
    · have hnone : (optional p).Reads none [] (s' ++ r') :=
        optional_reads_none_iff.mpr ⟨rfl, hother rfl hs'⟩
      obtain ⟨-, rfl, hsr⟩ := hreads.unique hnone heq
      exact Nat.add_le_add_left (hrest hsr) _

end Optional

variable {c r c' r' w : Text} {n n' : Nat} {v v' : Int}

/-! ## The time part -/

/-- Behind the letter of the time part all can be missing. -/
theorem timeComponents_refuses_iff : timeComponents.Refuses w ↔ (keyword "T").Refuses w := by
  rw [timeComponents, map_refuses_iff, preceded_refuses_iff, or_iff_left]
  rintro ⟨_, _, _, -, -, h⟩
  rw [seq3_eq, seq_refuses_iff] at h
  rcases h with h | ⟨_, _, _, -, -, h⟩
  · exact not_optional_refuses h
  · rcases seq_refuses_iff.mp h with h | ⟨_, _, _, -, -, h⟩
    · exact not_optional_refuses h
    · exact not_optional_refuses h

/-- What was read of the time part is as long as every time part that is there. -/
theorem timeComponents_length_le (hreads : timeComponents.Reads n c r) (htext : IsTimePart c' n')
    (heq : c ++ r = c' ++ r') : c'.length ≤ c.length := by
  obtain ⟨⟨oh, om, os⟩, -, hparts⟩ := map_reads_iff.mp hreads
  obtain ⟨_, _, rest, rfl, hmark, hrest⟩ := preceded_reads_iff.mp hparts
  obtain ⟨mark, rfl, rfl, -⟩ := timePart_mark_reads_iff.mp hmark
  obtain ⟨h, m, s, rfl, hh, hm, hs⟩ := seq3_reads_iff.mp hrest
  obtain ⟨mark', h', m', s', nh, nm, ns, rfl, -, hh', hm', hs', -⟩ := htext
  have hseconds : s ++ r = s' ++ r' → s'.length ≤ s.length := by
    intro heq
    have hle : (s' ++ []).length ≤ (s ++ []).length :=
      optional_length_le hs (hs'.imp seconds_reads_iff.mpr And.left) heq
        (fun _ hne => absurd rfl hne) (fun _ => Nat.le_refl _)
    rwa [List.append_nil, List.append_nil] at hle
  have hminutes : m ++ (s ++ r) = m' ++ (s' ++ r') → (m' ++ s').length ≤ (m ++ s).length := by
    intro heq
    refine optional_length_le hm (hm'.imp (component_reads_iff isUnit_minutes).mpr And.left) heq
      (fun _ hne => component_refuses isUnit_minutes ?_) hseconds
    have hs' := hs'.resolve_right fun hnil => hne hnil.1
    exact markNot_of_isSeconds (by decide) (by decide) hs' r'
  have hrest : h ++ (m ++ s ++ r) = h' ++ (m' ++ s' ++ r') := by
    simpa using (List.cons.inj heq).2
  rw [← List.append_assoc] at hh
  have hhours : (h' ++ (m' ++ s')).length ≤ (h ++ (m ++ s)).length := by
    refine optional_length_le hh (hh'.imp (component_reads_iff isUnit_hours).mpr And.left) hrest
      (fun _ hne => component_refuses isUnit_hours ?_) (by simpa using hminutes)
    rw [List.append_assoc]
    rcases hm' with hm' | ⟨rfl, -⟩
    · exact markNot_of_isComponent isUnit_minutes (by decide) hm' _
    · have hs' := hs'.resolve_right fun hnil => hne hnil.1
      exact markNot_of_isSeconds (by decide) (by decide) hs' r'
  exact Nat.succ_le_succ hhours

/-- So is what was read of an optional time part. -/
theorem optional_timeComponents_length_le {o : Option Nat}
    (h : (optional timeComponents).Reads o c r) (h' : IsOptional IsTimePart c' n')
    (heq : c ++ r = c' ++ r') : c'.length ≤ c.length := by
  rcases h' with h' | ⟨rfl, -⟩
  · rcases optional_reads_iff.mp h with ⟨n, rfl, hn⟩ | ⟨rfl, rfl, hrefuses⟩
    · exact timeComponents_length_le hn h' heq
    · -- the letter is there, so the time part was not left out
      obtain ⟨mark, h, m, s, _, _, _, rfl, hmark, -⟩ := h'
      rw [List.nil_append] at heq
      rw [timeComponents_refuses_iff, heq] at hrefuses
      have hreads : (keyword "T").Reads [mark] [mark] (h ++ (m ++ s) ++ r') :=
        timePart_mark_reads_iff.mpr ⟨mark, rfl, rfl, hmark⟩
      exact (not_refuses_of_reads hreads hrefuses).elim
  · exact Nat.zero_le _

/-! ## Durations -/

/-- The mark that components follow is no sign. -/
theorem not_mem_signs_of_lower_eq {u : CodeUnit} (hu : u.lower = 0x70) (rest : Text) :
    ∀ v ∈ (u :: rest).head?, v ∉ Text.ofString "+-" := by
  rintro _ ⟨⟩ hmem
  rcases mem_signs_iff.mp hmem with rfl | rfl
  · exact absurd hu (by decide)
  · exact absurd hu (by decide)

theorem duration_mark_reads_iff {v : Text} :
    (keyword "P").Reads v c r ↔ ∃ u, v = [u] ∧ c = [u] ∧ u.lower = 0x70 :=
  keyword_singleton_reads_iff (x := 0x50) (by decide)

/-- **What was read of a duration is as long as every text of a duration that is there.** -/
theorem durationValue_length_le (h : durationValue.Reads v c r) (h' : IsDurationText c' v')
    (heq : c ++ r = c' ++ r') : c'.length ≤ c.length := by
  obtain ⟨⟨osign, od, ot⟩, -, hparts⟩ := map_reads_iff.mp h
  obtain ⟨sign, _, t, rfl, hsign, hpd, ht⟩ := seq3_reads_iff.mp hparts
  obtain ⟨_, _, d, rfl, hmark, hd⟩ := preceded_reads_iff.mp hpd
  obtain ⟨mark, -, rfl, hlower⟩ := duration_mark_reads_iff.mp hmark
  obtain ⟨sign', mark', d', t', days, time, rfl, hsign', hmark', hd', ht', -⟩ := h'
  -- the sign and the mark are the same in both
  obtain ⟨o', hsign', -⟩ := exists_optional_sign_reads hsign'
    (not_mem_signs_of_lower_eq hmark' (d' ++ (t' ++ r')))
  obtain ⟨-, rfl, hrest⟩ := hsign.unique hsign' (by simpa using heq)
  have hmarks : mark :: (d ++ (t ++ r)) = mark' :: (d' ++ (t' ++ r')) := by simpa using hrest
  obtain ⟨rfl, hparts⟩ := List.cons.inj hmarks
  have hdays : (d' ++ t').length ≤ (d ++ t).length := by
    refine optional_length_le hd (hd'.imp (component_reads_iff isUnit_days).mpr And.left) hparts
      (fun _ hne => ?_) fun heq => optional_timeComponents_length_le ht ht' heq
    exact days_refuses_of_isTimePart (ht'.resolve_right fun hnil => hne hnil.1) r'
  simp only [List.length_append, List.length_cons, List.length_nil] at hdays ⊢
  omega

/-- A duration is read wherever there is a sign or none and the mark. -/
theorem durationValue_refuses_iff :
    durationValue.Refuses w
      ↔ ¬ ∃ (sign : Text) (mark : CodeUnit) (rest : Text),
          w = sign ++ mark :: rest ∧ sign.IsSign ∧ mark.lower = 0x70 := by
  constructor
  · rintro hrefuses ⟨sign, mark, rest, rfl, hsign, hmark⟩
    obtain ⟨o, hsign, -⟩ :=
      exists_optional_sign_reads hsign (not_mem_signs_of_lower_eq hmark rest)
    have hreads : (keyword "P").Reads [mark] [mark] rest :=
      duration_mark_reads_iff.mpr ⟨mark, rfl, rfl, hmark⟩
    rw [durationValue, map_refuses_iff, seq3_eq, seq_refuses_iff] at hrefuses
    rcases hrefuses with h | ⟨_, _, r, heq, hsign', h⟩
    · exact not_optional_refuses h
    · obtain ⟨-, -, rfl⟩ := hsign.unique hsign' heq
      rcases seq_refuses_iff.mp h with h | ⟨_, _, _, -, -, h⟩
      · rcases preceded_refuses_iff.mp h with h | ⟨_, _, _, -, -, h⟩
        · exact not_refuses_of_reads hreads h
        · exact not_optional_refuses h
      · exact not_optional_refuses h
  · intro hnot
    rcases refuses_or_reads durationValue w with h | ⟨v, c, r, rfl, hreads⟩
    · exact h
    · obtain ⟨sign, mark, d, t, days, time, rfl, hsign, hmark, -⟩ := durationValue_reads hreads
      exact absurd ⟨sign, mark, d ++ (t ++ r), by simp, hsign, hmark⟩ hnot

/-! ## Where durations are read, how far, and with which value -/

theorem lower_eq_mark_iff {u : CodeUnit} : u.lower = 0x70 ↔ u = 0x50 ∨ u = 0x70 := by
  refine ⟨fun h => (CodeUnit.eq_or_eq_of_lower_eq h).symm, ?_⟩
  rintro (rfl | rfl) <;> decide

/-- The components that a text spells add up to one duration. -/
theorem nanoseconds_eq_of_isSpelledBy {p q : DurationParts} {t : Text} (hp : p.IsSpelledBy t)
    (hq : q.IsSpelledBy t) : p.nanoseconds = q.nanoseconds := by
  have reads {p : DurationParts} (hp : p.IsSpelledBy t) :
      durationValue.Reads p.nanoseconds t [] :=
    durationValue_reads_of (isDurationText_iff.mpr ⟨p, hp, rfl⟩) fun _ hu => by cases hu
  exact ((reads hp).unique (reads hq) rfl).1

/-- The texts of durations. -/
def IsDuration (t : Text) : Prop := ∃ p : DurationParts, p.IsSpelledBy t

/-- At the start of a text, a duration reads the longest one that is there. -/
theorem durationValue_reads_iff {v : Int} :
    durationValue.Reads v c r
      ↔ IsLongestPrefix IsDuration c (c ++ r)
        ∧ ∃ p : DurationParts, p.IsSpelledBy c ∧ v = p.nanoseconds := by
  have length_le {v : Int} {c r : Text} (hreads : durationValue.Reads v c r) :
      ∀ c', c' <+: c ++ r → IsDuration c' → c'.length ≤ c.length := by
    rintro c' ⟨r', heq⟩ ⟨p, hp⟩
    exact durationValue_length_le hreads (isDurationText_iff.mpr ⟨p, hp, rfl⟩) heq.symm
  constructor
  · intro hreads
    obtain ⟨p, hp, rfl⟩ := isDurationText_iff.mp (durationValue_reads hreads)
    exact ⟨⟨List.prefix_append c r, ⟨p, hp⟩, length_le hreads⟩, p, hp, rfl⟩
  · rintro ⟨⟨-, hc, hlongest⟩, p, hp, rfl⟩
    rcases refuses_or_reads durationValue (c ++ r) with h | ⟨w, d, s, heq, hreads⟩
    · -- the text has a sign and the mark, so something is read
      obtain ⟨sign, mark, d, t, _, _, rfl, hsign, hmark, -⟩ := isDurationText_iff.mpr ⟨p, hp, rfl⟩
      exact (durationValue_refuses_iff.mp h
        ⟨sign, mark, d ++ (t ++ r), by simp, hsign, hmark⟩).elim
    · -- and what is read is as long as `c`, since each of the two is a longest one
      obtain ⟨q, hq, rfl⟩ := isDurationText_iff.mp (durationValue_reads hreads)
      have hlen : c.length = d.length := by
        refine Nat.le_antisymm (length_le hreads c ⟨r, heq⟩ hc) (hlongest d ⟨s, heq.symm⟩ ⟨q, hq⟩)
      obtain ⟨rfl, rfl⟩ := List.append_inj heq hlen
      rwa [nanoseconds_eq_of_isSpelledBy hp hq]

theorem not_isDurationText_nil {v : Int} : ¬ IsDurationText [] v := by
  rintro ⟨sign, mark, d, t, days, time, hnil, -⟩
  simp at hnil

/-- **A duration is read wherever there is a sign or none and the mark.  What is read is the longest
text of a duration that is there, and its value is what the components add up to.**  A duration
literal is the keyword, if it is not left away, and a whole text of a duration between
apostrophes. -/
theorem durationValue_longest (input : Text) (pos : Nat) :
    ((∃ v stop, durationValue.run input pos = .ok v stop)
        ↔ ∃ (sign : Text) (mark : CodeUnit) (rest : Text),
          input.drop pos = sign ++ mark :: rest ∧ sign.IsSign ∧ (mark = 0x50 ∨ mark = 0x70))
      ∧ (∀ (v : Int) (stop : Nat), durationValue.run input pos = .ok v stop
        ↔ pos ≤ stop ∧ stop ≤ input.length
          ∧ IsLongestPrefix IsDuration (input.extract pos stop) (input.drop pos)
          ∧ ∃ p : DurationParts, p.IsSpelledBy (input.extract pos stop) ∧ v = p.nanoseconds)
      ∧ ∀ (requireKeyword : Bool) (l : Literal) (stop : Nat),
        (duration requireKeyword).run input pos = .ok l stop
          ↔ pos ≤ stop ∧ stop ≤ input.length
            ∧ ∃ (word t : Text) (p : DurationParts),
              input.extract pos stop = word ++ apostrophe :: (t ++ [apostrophe])
                ∧ (word.lower = "duration" ∨ word = [] ∧ requireKeyword = false)
                ∧ p.IsSpelledBy t ∧ l = .duration ⟨p.nanoseconds⟩ := by
  refine ⟨?_, fun v stop => ?_, fun requireKeyword l stop => ?_⟩
  · simp only [exists_run_eq_ok_iff, durationValue_refuses_iff, not_not, lower_eq_mark_iff]
  · have hne (r : Text) : ¬ durationValue.Reads v [] r := fun h =>
      not_isDurationText_nil (durationValue_reads h)
    rw [run_eq_ok_iff_extract hne]
    refine and_congr_right fun hpos => and_congr_right fun _ => ?_
    rw [durationValue_reads_iff, extract_append_drop hpos]
  · have hne (r : Text) : ¬ (duration requireKeyword).Reads l [] r := by
      rintro h
      obtain ⟨word, t, _, hnil, -⟩ := duration_reads_iff.mp h
      simp at hnil
    rw [run_eq_ok_iff_extract hne, duration_reads_iff]
    refine and_congr_right fun _ => and_congr_right fun _ => ?_
    constructor
    · rintro ⟨word, t, v, hextract, hword, ht, rfl⟩
      obtain ⟨p, hp, rfl⟩ := isDurationText_iff.mp ht
      exact ⟨word, t, p, hextract, hword, hp, rfl⟩
    · rintro ⟨word, t, p, hextract, hword, hp, rfl⟩
      exact ⟨word, t, _, hextract, hword, isDurationText_iff.mpr ⟨p, hp, rfl⟩, rfl⟩

/-- The digits in front of the second `M` are no component, and what is read ends before them. -/
example : durationValue.run "-p1DT07H5M0.5s2M" 0 = .ok (-111900500000000) 14 := by decide +kernel

end Grammar
end ODataToken
