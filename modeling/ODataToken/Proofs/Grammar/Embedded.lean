import ODataToken.Proofs.Grammar.Delimited
import ODataToken.Proofs.RoundTrip

/-!
# Literals in a longer input

The parser of literals can stand inside another grammar, where a literal is a part of the input.
Two theorems say that it does there what reading a whole text does.

* `parseLiteral_extract` — the part that it consumed, read as a whole text, is the same literal.
* `primitiveLiteral_run_append` — a whole text that is a literal is read as this literal, and no
  further, in front of a delimiter.

Both need that the alternative that wins goes on winning: it reads what it did, and those before it
go on failing.

Behind what the winner has read the input may be cut off, since only strings care what follows.  Of
those before it, the ones for `null` and for durations do not look ahead either, and for the others
the rank of what is left decides, for that is the rank of the winner.  In front of a delimiter all
but the one for strings do what they do at the end of the input; and what is ranked after strings
does not begin with an apostrophe.
-/

set_option autoImplicit false

namespace ODataToken

open ODataToken.Parser Grammar Text

variable {options : LiteralOptions} {i j : Nat} {x b : Alternative Literal} {a : Literal}
  {c r t : Text}

namespace Grammar

/-! ## Nothing looks ahead when it succeeds -/

/-- A parser whose success does not depend on what follows fails on no more when less follows. -/
theorem refuses_of_append {α : Type} {p : Parser α} [Inside p]
    (h : ∀ {a c r r'}, p.Reads a c r → p.Reads a c r') (hrefuses : p.Refuses (t ++ r)) :
    p.Refuses t := by
  rcases refuses_or_reads p t with ht | ⟨a, c, s, rfl, hreads⟩
  · exact ht
  · obtain ⟨f, hf⟩ := hrefuses
    have hrun : p.run (c ++ (s ++ r)) 0 = .ok a c.length := h hreads
    rw [List.append_assoc, hrun] at hf
    cases hf

theorem float_reads_nil (h : float.Reads a c r) : float.Reads a c [] := by
  have hforms : ∀ p ∈ floatForms, (∀ {w}, p.Refuses (w ++ r) → p.Refuses w)
      ∧ ∀ {a c}, p.Reads a c r → p.Reads a c [] := by
    refine forall_mem_floatForms ?_ fun name _ x => ?_
    · simp only [map_refuses_iff, map_reads_iff]
      exact ⟨pattern_refuses_of_append, fun ⟨t, ha, ht⟩ => ⟨t, ha, pattern_reads_nil ht⟩⟩
    · simp only [replace_refuses_iff, replace_reads_iff, literal_refuses_iff, literal_reads_iff]
      exact ⟨fun h hpre => h (hpre.trans (List.prefix_append _ _)), id⟩
  rw [float_eq, label_reads_iff, choice_reads_iff] at h ⊢
  obtain ⟨before, p, after, hlist, hbefore, hp⟩ := h
  rw [hlist] at hforms
  refine ⟨before, p, after, hlist, fun q hq => ?_, ?_⟩
  · rw [List.append_nil]
    exact (hforms q (List.mem_append_left _ hq)).1 (hbefore q hq)
  · exact (hforms p (List.mem_append_right _ List.mem_cons_self)).2 hp

/-- **What an alternative has read it also reads as a whole text.** -/
theorem reads_nil_of_mem (hx : x ∈ literalAlternatives options) (h : x.parser.Reads a c r) :
    x.parser.Reads a c [] := by
  simp only [literalAlternatives, List.mem_cons, List.not_mem_nil, or_false] at hx
  rcases hx with rfl | rfl | rfl | rfl | rfl | rfl | rfl | rfl | rfl | rfl | rfl
  · exact nullValue_reads_iff.mpr (nullValue_reads_iff.mp h)
  · exact duration_reads_iff.mpr (duration_reads_iff.mp h)
  · exact boolean_reads_iff.mpr (boolean_reads_iff.mp h)
  · obtain ⟨s, ha, hc, -⟩ := string_reads_iff.mp h
    exact string_reads_iff.mpr ⟨s, ha, hc, by simp⟩
  · obtain ⟨v, rfl, hwritten, hvalid⟩ := dateTimeOffset_reads h
    exact dateTimeOffset_reads_nil hwritten hvalid
  · exact date_reads_iff.mpr (date_reads_iff.mp h)
  · obtain ⟨v, rfl, hwritten, hvalid⟩ := time_reads h
    exact time_reads_of_isWritten hwritten hvalid (stopsAt_nil _)
  · exact guid_reads_iff.mpr (guid_reads_iff.mp h)
  · exact float_reads_nil h
  · obtain ⟨hc, -, hrange⟩ := integer_reads_iff.mp h
    exact integer_reads_iff.mpr ⟨hc, stopsAt_nil _, hrange⟩
  · exact binary_reads_iff.mpr (binary_reads_iff.mp h)

/-! ## What fails before the winner -/

/-- The option only concerns durations. -/
theorem getElem?_strictAlternatives (h : 1 < i) :
    strictAlternatives[i]? = (literalAlternatives options)[i]? := by
  obtain ⟨k, rfl⟩ : ∃ k, i = k + 2 := ⟨i - 2, by omega⟩
  rfl

/-- An alternative that fails in front of the winner fails on what the winner has read alone. -/
theorem refuses_of_lt_of_append (hx : (literalAlternatives options)[i]? = some x)
    (hb : (literalAlternatives options)[j]? = some b) (hlt : j < i)
    (hreads : x.parser.Reads a c []) (hrefuses : b.parser.Refuses (c ++ r)) :
    b.parser.Refuses c := by
  rcases j with _ | _ | j
  · obtain rfl := Option.some.inj hb
    exact refuses_of_append (fun h => nullValue_reads_iff.mpr (nullValue_reads_iff.mp h)) hrefuses
  · obtain rfl := Option.some.inj hb
    exact refuses_of_append (fun h => duration_reads_iff.mpr (duration_reads_iff.mp h)) hrefuses
  · -- the alternatives further on do not depend on the option
    rw [← getElem?_strictAlternatives (by omega)] at hb hx
    exact refuses_of_lt (needsKeyword_strict c) hb hx hlt hreads

/-- **What the parser of literals has read is the same literal when it is read as a whole text.** -/
theorem parseLiteral_of_primitiveLiteral_reads (h : (primitiveLiteral options).Reads a c r) :
    parseLiteral options c = .ok ⟨a, a.alternative⟩ := by
  obtain ⟨before, x, after, hlist, hbefore, hreads⟩ := Alternatives.parser_reads_iff.mp h
  have hx := List.mem_of_getElem? (Alternatives.getElem?_of_split hlist)
  have hwhole := reads_nil_of_mem hx hreads
  refine Alternatives.parseComplete_eq_ok_iff.mpr
    ⟨before, x, after, hlist, fun b hb => ?_, hwhole, (wellFormed_of_reads hx hreads).2.1⟩
  obtain ⟨j, hj, hget⟩ := Alternatives.exists_getElem?_of_mem_before hlist hb
  exact refuses_of_lt_of_append (Alternatives.getElem?_of_split hlist) hget hj hwhole (hbefore b hb)

end Grammar

/-- **The part of an input that was read as a literal reads as the same literal when it is all there
is**, by the alternative of its kind and under the options that it was read with. -/
theorem parseLiteral_extract (options : LiteralOptions) (input : Text) (pos stop : Nat)
    (l : Literal) (h : (primitiveLiteral options).run input pos = .ok l stop) :
    parseLiteral options (input.extract pos stop) = .ok ⟨l, l.alternative⟩ := by
  obtain ⟨n, rfl, hle, hrun⟩ := Plain.exists_of_run_eq_ok h
  have hextract : input.extract pos (pos + n) = (input.drop pos).take n := by
    rw [List.extract_eq_take_drop, Nat.add_sub_cancel_left]
  rw [hextract]
  exact parseLiteral_of_primitiveLiteral_reads (reads_of_run hrun hle)

/-- A date that does not exist is no date, and so its year is an integer. -/
theorem parseLiteral_extract_year :
    (primitiveLiteral ⟨false⟩).run "(2023-02-29,1)" 1 = .ok (.integer 2023) 5
      ∧ parseLiteral ⟨false⟩ "2023" = .ok ⟨.integer 2023, "integer"⟩ :=
  ⟨rfl, parseLiteral_extract ⟨false⟩ "(2023-02-29,1)" 1 5 _ rfl⟩

/-! ## In front of a delimiter -/

namespace Grammar

/-- What a string reads begins with an apostrophe. -/
theorem string_refuses (h : t.head? ≠ some CodeUnit.apostrophe) : string.Refuses t := by
  rcases refuses_or_reads string t with ht | ⟨a, c, r, rfl, hreads⟩
  · exact ht
  · obtain ⟨s, -, rfl, -⟩ := string_reads_iff.mp hreads
    exact absurd rfl h

/-- What reads a whole text reads it in front of a delimiter. -/
theorem reads_of_mem_delimiters {d : CodeUnit} (hd : d ∈ delimiters)
    (hx : (literalAlternatives options)[i]? = some x) (h : x.parser.Reads a t []) :
    x.parser.Reads a t (d :: r) := by
  by_cases hi : i = 3
  · subst hi
    obtain rfl := Option.some.inj hx
    obtain ⟨s, ha, ht, -⟩ := string_reads_iff.mp h
    refine string_reads_iff.mpr ⟨s, ha, ht, ?_⟩
    rintro ⟨⟩
    exact absurd hd (by decide)
  · have := delimited_of_getElem? hx hi
    rw [Reads, Delimited.run_append hd t r (Nat.zero_le _)]
    exact reads_nil_iff.mp h

/-- What fails before the winner on a whole text fails in front of a delimiter. -/
theorem refuses_of_mem_delimiters {d : CodeUnit} (hd : d ∈ delimiters)
    (hx : (literalAlternatives options)[i]? = some x)
    (hb : (literalAlternatives options)[j]? = some b) (hlt : j < i)
    (hreads : x.parser.Reads a t []) (hrefuses : b.parser.Refuses t) :
    b.parser.Refuses (t ++ d :: r) := by
  by_cases hj : j = 3
  · -- what comes after strings does not read a text that begins with an apostrophe
    subst hj
    obtain rfl := Option.some.inj hb
    refine string_refuses fun hhead => ?_
    cases t with
    | nil =>
      obtain rfl := Option.some.inj hhead
      exact absurd hd (by decide)
    | cons u t =>
      rw [← getElem?_strictAlternatives (by omega)] at hx
      have hrank := rank_of_reads (needsKeyword_strict _) hx hreads
      rw [literalRank_of_apostrophe (t := u :: t) hhead] at hrank
      omega
  · have := delimited_of_getElem? hb hj
    obtain ⟨f, hf⟩ := hrefuses
    exact ⟨f, (Delimited.run_append hd t r (Nat.zero_le _)).trans hf⟩

end Grammar

/-- **A text that reads as a literal reads as the same literal in front of a delimiter**, up to the
delimiter and whatever comes after it, under the options that it was read with. -/
theorem primitiveLiteral_run_append (options : LiteralOptions) (text : Text)
    (found : Attributed Literal) (h : parseLiteral options text = .ok found) (d : CodeUnit)
    (hd : d ∈ delimiters) (rest : Text) :
    (primitiveLiteral options).run (text ++ d :: rest) 0 = .ok found.value text.length := by
  obtain ⟨before, x, after, hlist, hbefore, hreads, -⟩ := Alternatives.parseComplete_eq_ok_iff.mp h
  have hx := Alternatives.getElem?_of_split hlist
  refine Alternatives.parser_reads_iff.mpr
    ⟨before, x, after, hlist, fun b hb => ?_, reads_of_mem_delimiters hd hx hreads⟩
  obtain ⟨j, hj, hget⟩ := Alternatives.exists_getElem?_of_mem_before hlist hb
  exact refuses_of_mem_delimiters hd hx hget hj hreads (hbefore b hb)

/-- A string that holds delimiters and an apostrophe ends at its closing one, although one more
apostrophe follows further on. -/
theorem primitiveLiteral_run_append_string :
    parseLiteral ⟨true⟩ "'O''Neil, J.'" = .ok ⟨.string "O'Neil, J.", "string"⟩
      ∧ CodeUnit.ofChar ',' ∈ delimiters
      ∧ (primitiveLiteral ⟨true⟩).run "'O''Neil, J.','' or '" 0
          = .ok (.string "O'Neil, J.") 13 := by
  have h : parseLiteral ⟨true⟩ "'O''Neil, J.'" = .ok ⟨.string "O'Neil, J.", "string"⟩ :=
    parseLiteral_canonical (l := .string "O'Neil, J.") trivial id (needsKeyword_strict _)
  exact ⟨h, by decide, primitiveLiteral_run_append ⟨true⟩ "'O''Neil, J.'" _ h (CodeUnit.ofChar ',')
    (by decide) "'' or '"⟩

end ODataToken
