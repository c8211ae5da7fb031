import ODataToken.Proofs.Grammar.Dispatch

/-!
# Strings and bare durations

Where durations do not need their keyword they are tried on a quoted text before strings are, and
they end at the first apostrophe inside, be it the first half of a doubled one or not.  So it is the
part of a string before its first apostrophe that decides what the canonical text of the string
reads as: if that part is the text of a duration then the string is lost, to the duration if there
is no apostrophe in it, and to an error if there is one.
-/

set_option autoImplicit false

namespace ODataToken

open ODataToken.Parser Grammar
open CodeUnit (apostrophe point)

/-! ## Texts of durations have no apostrophe -/

theorem ne_apostrophe_of_lower {u x : CodeUnit} (h : u.lower = x) (hx : apostrophe.lower ≠ x) :
    u ≠ apostrophe := by
  rintro rfl
  exact hx h

theorem not_mem_of_isNumeral {d : Text} (h : d.IsNumeral) : apostrophe ∉ d := by
  intro hmem
  have := h.2 _ hmem
  cases this

theorem not_mem_of_isOptional {P : Text → Nat → Prop} {t : Text} {n : Nat}
    (hP : ∀ n, P t n → apostrophe ∉ t) (h : IsOptional P t n) : apostrophe ∉ t := by
  rcases h with h | ⟨rfl, -⟩
  · exact hP n h
  · exact List.not_mem_nil

theorem not_mem_of_isComponent {unit : CodeUnit} {k n : Nat} {t : Text}
    (hunit : apostrophe.lower ≠ unit.lower) (h : IsComponent unit k t n) : apostrophe ∉ t := by
  obtain ⟨d, mark, rfl, hd, hmark, -⟩ := h
  have hne := ne_apostrophe_of_lower hmark hunit
  simp [not_mem_of_isNumeral hd, hne.symm]

theorem not_mem_of_isSeconds {t : Text} {n : Nat} (h : IsSeconds t n) : apostrophe ∉ t := by
  obtain ⟨d, f, mark, k, rfl, hd, hf, hmark, -⟩ := h
  have hne := ne_apostrophe_of_lower hmark (by decide)
  have hfraction : apostrophe ∉ f := by
    rcases hf with ⟨rfl, -⟩ | ⟨fd, rfl, hfd, -⟩
    · exact List.not_mem_nil
    · have hpoint : apostrophe ≠ point := by decide
      simp [not_mem_of_isNumeral hfd, hpoint]
  simp [not_mem_of_isNumeral hd, hfraction, hne.symm]

theorem not_mem_of_isTimePart {t : Text} {n : Nat} (h : IsTimePart t n) : apostrophe ∉ t := by
  obtain ⟨mark, h, m, s, nh, nm, ns, rfl, hmark, hh, hm, hs, -⟩ := h
  have hne := ne_apostrophe_of_lower hmark (by decide)
  have hh' := not_mem_of_isOptional (fun n => not_mem_of_isComponent (by decide)) hh
  have hm' := not_mem_of_isOptional (fun n => not_mem_of_isComponent (by decide)) hm
  have hs' := not_mem_of_isOptional (fun n => not_mem_of_isSeconds) hs
  simp [hne.symm, hh', hm', hs']

theorem not_mem_of_isDurationText {t : Text} {n : Int} (h : IsDurationText t n) :
    apostrophe ∉ t := by
  obtain ⟨sign, mark, d, rest, days, time, rfl, hsign, hmark, hd, hrest, -⟩ := h
  have hne := ne_apostrophe_of_lower hmark (by decide)
  have hd' := not_mem_of_isOptional (fun n => not_mem_of_isComponent (by decide)) hd
  have hrest' := not_mem_of_isOptional (fun n => not_mem_of_isTimePart) hrest
  have hsign' : apostrophe ∉ sign := by
    rcases hsign with rfl | rfl | rfl <;> decide
  simp [hsign', hne.symm, hd', hrest']

/-! ## The part before the first apostrophe -/

namespace Text

/-- The part of the text before its first apostrophe, or the whole text if there is none. -/
def upToApostrophe (t : Text) : Text := t.takeWhile fun u => u != apostrophe

theorem upToApostrophe_append_iff {c r : Text} :
    upToApostrophe (c ++ r) = c ↔ apostrophe ∉ c ∧ ∀ u ∈ r.head?, u = apostrophe := by
  rw [upToApostrophe, takeWhile_append_eq_iff]
  refine and_congr ⟨fun h hmem => ?_, fun h u hu => ?_⟩ ?_
  · exact absurd (h _ hmem) (by decide)
  · rw [bne_iff_ne]
    rintro rfl
    exact h hu
  · exact forall₂_congr fun u _ => bne_eq_false_iff_eq

/-- What a quoted text begins with, up to the first apostrophe inside, is what the text begins with
up to its first apostrophe. -/
theorem exists_apostropheQuoted_eq (t : Text) :
    ∃ r, apostropheQuoted t = apostrophe :: (t.upToApostrophe ++ [apostrophe]) ++ r
      ∧ (r = [] ↔ t.upToApostrophe = t) := by
  obtain ⟨c, rest, rfl, hc, hrest⟩ := exists_run_append (fun u => u != apostrophe) t
  have hpart : upToApostrophe (c ++ rest) = c := takeWhile_append_eq_iff.mpr ⟨hc, hrest⟩
  rw [hpart, apostropheQuoted_eq, doubleApostrophes_append, doubleApostrophes_of_forall_ne hc]
  cases rest with
  | nil => exact ⟨[], by simp [doubleApostrophes], by simp⟩
  | cons u rest =>
    rw [stopsAt_cons] at hrest
    obtain rfl := bne_eq_false_iff_eq.mp hrest
    exact ⟨apostrophe :: (doubleApostrophes rest ++ [apostrophe]), by simp [doubleApostrophes],
      by simp⟩

end Text

/-! ## Durations in quoted texts -/

/-- A duration without its keyword reads a quoted text up to the first apostrophe inside. -/
theorem bareDuration_reads_iff {a : Literal} {c r s : Text}
    (hquoted : apostropheQuoted s = c ++ r) :
    (duration false).Reads a c r
      ↔ ∃ n, IsDurationText s.upToApostrophe n ∧ a = .duration ⟨n⟩
          ∧ c = apostrophe :: (s.upToApostrophe ++ [apostrophe]) := by
  obtain ⟨r', hr', -⟩ := s.exists_apostropheQuoted_eq
  rw [duration_reads_iff]
  constructor
  · rintro ⟨mark, t, n, rfl, hmark | ⟨rfl, -⟩, ht, rfl⟩
    · obtain ⟨u, m, rfl, hu, -⟩ := Text.exists_cons_of_lower_eq_cons hmark
      rw [apostropheQuoted_eq, List.cons_append, List.cons_append] at hquoted
      exact absurd (List.cons.inj hquoted).1.symm (ne_apostrophe_of_lower hu (by decide))
    · -- both texts end at the same apostrophe
      have htail : s.upToApostrophe ++ apostrophe :: r' = t ++ apostrophe :: r := by
        rw [hr'] at hquoted
        simpa using hquoted
      have hfirst : t = s.upToApostrophe := by
        have hmem : apostrophe ∉ s.upToApostrophe := by
          intro hmem
          exact absurd (List.mem_takeWhile_imp hmem) (by decide)
        have hs : Text.upToApostrophe (s.upToApostrophe ++ apostrophe :: r') = s.upToApostrophe :=
          Text.upToApostrophe_append_iff.mpr ⟨hmem, by simp⟩
        have ht' : Text.upToApostrophe (t ++ apostrophe :: r) = t :=
          Text.upToApostrophe_append_iff.mpr ⟨not_mem_of_isDurationText ht, by simp⟩
        rw [← ht', ← htail, hs]
      subst hfirst
      exact ⟨n, ht, rfl, rfl⟩
  · rintro ⟨n, hn, rfl, rfl⟩
    exact ⟨[], _, n, rfl, .inr ⟨rfl, rfl⟩, hn, rfl⟩

variable {s : Text} {n : Int}

theorem bareDuration_run (h : IsDurationText s.upToApostrophe n) :
    (duration false).run (apostropheQuoted s) 0
      = .ok (.duration ⟨n⟩) (s.upToApostrophe.length + 2) := by
  obtain ⟨r, hr, -⟩ := s.exists_apostropheQuoted_eq
  have hreads := (bareDuration_reads_iff hr).mpr ⟨n, h, rfl, rfl⟩
  rw [Reads, ← hr] at hreads
  rw [hreads]
  simp

theorem bareDuration_refuses (h : ∀ n, ¬ IsDurationText s.upToApostrophe n) :
    (duration false).Refuses (apostropheQuoted s) := by
  rcases refuses_or_reads (duration false) (apostropheQuoted s) with hw | ⟨a, c, r, hw, hreads⟩
  · exact hw
  · obtain ⟨n, hn, -⟩ := (bareDuration_reads_iff hw).mp hreads
    exact absurd hn (h n)

theorem length_apostropheQuoted_eq_iff :
    s.upToApostrophe.length + 2 = (apostropheQuoted s).length ↔ s.upToApostrophe = s := by
  obtain ⟨r, hr, hnil⟩ := s.exists_apostropheQuoted_eq
  rw [hr, ← hnil, ← List.length_eq_zero_iff]
  simp only [List.length_append, List.length_cons, List.length_nil]
  omega

/-- A text of a duration is all that stands before its first apostrophe. -/
theorem upToApostrophe_of_isDurationText (h : IsDurationText s n) : s.upToApostrophe = s := by
  have hall := Text.upToApostrophe_append_iff (r := []).mpr
    ⟨not_mem_of_isDurationText h, by simp⟩
  rwa [List.append_nil] at hall

/-- So it takes all of a quoted text if that is a text of a duration. -/
theorem bareDuration_takesWhole_iff {v : Literal} :
    (duration false).run (apostropheQuoted s) 0 = .ok v (apostropheQuoted s).length
      ↔ ∃ n, IsDurationText s n ∧ v = .duration ⟨n⟩ := by
  constructor
  · intro h
    obtain ⟨n, hn, rfl, hall⟩ :=
      (bareDuration_reads_iff (List.append_nil _).symm).mp (reads_nil_iff.mpr h)
    have hs : s.upToApostrophe = s := by
      rw [← length_apostropheQuoted_eq_iff, hall]
      simp
    rw [hs] at hn
    exact ⟨n, hn, rfl⟩
  · rintro ⟨n, hn, rfl⟩
    have hs := upToApostrophe_of_isDurationText hn
    rw [← length_apostropheQuoted_eq_iff.mpr hs]
    exact bareDuration_run (hs.symm ▸ hn)

/-! ## The dispatcher -/

/-- What only reads texts of another rank than that of strings fails on a quoted text. -/
theorem refuses_quoted {p : Parser Literal} [Inside p] {rank : Nat} (hrank : rank ≠ 3)
    (h : ∀ {a c r}, p.Reads a c r → literalRank (c ++ r) = rank) (s : Text) :
    p.Refuses (apostropheQuoted s) := by
  rcases refuses_or_reads p (apostropheQuoted s) with hw | ⟨a, c, r, hw, hreads⟩
  · exact hw
  · have hr := h hreads
    rw [← hw, literalRank_of_apostrophe rfl] at hr
    exact absurd hr.symm hrank

theorem nullValue_refuses_quoted (s : Text) : nullValue.Refuses (apostropheQuoted s) :=
  refuses_quoted (by decide) rank_of_nullValue s

theorem boolean_refuses_quoted (s : Text) : boolean.Refuses (apostropheQuoted s) :=
  refuses_quoted (by decide) rank_of_boolean s

theorem parseLiteral_bareDuration (h : IsDurationText s.upToApostrophe n) :
    parseLiteral ⟨false⟩ (Literal.string s).text
      = if s.upToApostrophe = s then .ok ⟨.duration ⟨n⟩, "duration"⟩
        else .error ⟨.trailingInput, (Literal.string s).text, s.upToApostrophe.length + 2,
          "end of input", some "duration"⟩ := by
  have hlist : literalAlternatives ⟨false⟩
      = [⟨"null", nullValue⟩] ++ ⟨"duration", duration false⟩
        :: (literalAlternatives ⟨false⟩).drop 2 := rfl
  have hnull : ∀ b ∈ ([⟨"null", nullValue⟩] : Alternatives Literal),
      ShapeOnly b.parser ∧ b.parser.Refuses (Literal.string s).text := by
    intro b hb
    obtain rfl := List.mem_singleton.mp hb
    exact ⟨inferInstanceAs (ShapeOnly nullValue), nullValue_refuses_quoted s⟩
  have hrun := bareDuration_run h
  split
  · rename_i hs
    rw [length_apostropheQuoted_eq_iff.mpr hs] at hrun
    exact Alternatives.parseComplete_eq_ok_iff.mpr
      ⟨_, _, _, hlist, fun b hb => (hnull b hb).2, reads_nil_iff.mpr hrun, rfl⟩
  · rename_i hs
    rw [parseLiteral, hlist]
    exact Alternatives.parseComplete_eq_trailingInput hnull hrun
      (fun hlen => hs (length_apostropheQuoted_eq_iff.mp hlen))

theorem parseLiteral_string (h : ∀ n, ¬ IsDurationText s.upToApostrophe n) :
    parseLiteral ⟨false⟩ (Literal.string s).text = .ok ⟨.string s, "string"⟩ := by
  have hlist : literalAlternatives ⟨false⟩
      = [⟨"null", nullValue⟩, ⟨"duration", duration false⟩, ⟨"boolean", boolean⟩]
        ++ ⟨"string", string⟩ :: (literalAlternatives ⟨false⟩).drop 4 := rfl
  have hbefore : ∀ b ∈ ([⟨"null", nullValue⟩, ⟨"duration", duration false⟩,
      ⟨"boolean", boolean⟩] : Alternatives Literal), b.parser.Refuses (Literal.string s).text := by
    rintro b (_ | ⟨_, _ | ⟨_, _ | ⟨_, hb⟩⟩⟩)
    · exact nullValue_refuses_quoted s
    · exact bareDuration_refuses h
    · exact boolean_refuses_quoted s
    · cases hb
  exact Alternatives.parseComplete_eq_ok_iff.mpr
    ⟨_, _, _, hlist, hbefore, string_reads_iff.mpr ⟨s, rfl, rfl, by simp⟩, rfl⟩

/-- **When durations need no keyword, the canonical text of a string reads as that string exactly if
the part before its first apostrophe is no duration.**  If the whole string is a duration then that
is what its text reads as.  If an apostrophe follows the duration then the result is an error: what
comes after the first half of the doubled apostrophe is left over.  The duration has not taken the
whole text in that case, and the alternative for strings, which would, is never tried. -/
theorem parseLiteral_string_default (s : Text) :
    (∀ v, Alternative.TakesWhole ⟨"duration", duration false⟩ (Literal.string s).text v
        ↔ ∃ n, IsDurationText s n ∧ v = .duration ⟨n⟩)
      ∧ ((∃ found, parseLiteral ⟨false⟩ (Literal.string s).text = .ok found
            ∧ found.value = .string s) ↔ ∀ n, ¬ IsDurationText s.upToApostrophe n)
      ∧ ∀ n, IsDurationText s.upToApostrophe n →
          parseLiteral ⟨false⟩ (Literal.string s).text
            = if s.upToApostrophe = s then .ok ⟨.duration ⟨n⟩, "duration"⟩
              else .error ⟨.trailingInput, (Literal.string s).text, s.upToApostrophe.length + 2,
                "end of input", some "duration"⟩ := by
  refine ⟨fun v => bareDuration_takesWhole_iff, ⟨?_, ?_⟩, fun n => parseLiteral_bareDuration⟩
  · rintro ⟨found, hfound, hvalue⟩ n hn
    rw [parseLiteral_bareDuration hn] at hfound
    split at hfound
    · obtain rfl := Except.ok.inj hfound
      cases hvalue
    · cases hfound
  · intro h
    exact ⟨_, parseLiteral_string h, rfl⟩

/-- The string `P1D'` is no duration, and its canonical text does not read as a string. -/
theorem parseLiteral_string_default_apostrophe :
    (∀ v, ¬ Alternative.TakesWhole ⟨"duration", duration false⟩ (Literal.string "P1D'").text v)
      ∧ (Literal.string "P1D'").text = "'P1D'''"
      ∧ parseLiteral ⟨false⟩ (Literal.string "P1D'").text
          = .error ⟨.trailingInput, "'P1D'''", 5, "end of input", some "duration"⟩ := by
  refine ⟨fun v h => ?_, by decide, rfl⟩
  have hrun : (duration false).run (Literal.string "P1D'").text 0
      = .ok (.duration ⟨86400000000000⟩) 5 := rfl
  rw [Alternative.TakesWhole, hrun, Result.ok.injEq] at h
  exact absurd h.2 (by decide)

end ODataToken
