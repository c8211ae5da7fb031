import ODataToken.Proofs.Grammar.Failures
import ODataToken.Proofs.Parser.FailureMerge

/-!
# The two reports of a failure agree

A literal can be read as a part of a larger text, by a choice, or as a whole text, by the entry
point.  Where all kinds of literal fail, both report the same kind, the same position and also the
same expectation (`Alternatives.reports_agree`).

In general the expectations of shape failures need not agree.  Here they do
(`Grammar.FailUpTo.joinsAlike`), because of where the kinds fail on their shape: all at once, with
expectations that are all different (`Grammar.joinsAlike_startExpectations`); behind a sign, where
two kinds miss a year and one a digit; or far into the text, where no more than two of them get.
-/

set_option autoImplicit false

namespace ODataToken

open ODataToken.Parser Alternatives
open CodeUnit (apostrophe hyphen)

namespace Grammar

variable {options : LiteralOptions} {text w : Text} {pos : Nat} {x : Alternative Literal}
  {f : Failure}

/-! ## Failing at once -/

/-- What is expected of a kind of literal at the start of the text. -/
def startExpectation (x : Alternative Literal) : Text :=
  if x.name = "null" then Text.quote "null" else if x.name = "guid" then "GUID" else x.name

theorem expected_of_pos_eq_zero (hx : x ∈ literalAlternatives options)
    (h : x.parser.run text 0 = .fail f) (hkind : f.kind = .shape) (hpos : f.pos = 0) :
    f.expected = startExpectation x := by
  simp only [literalAlternatives, List.mem_cons, List.not_mem_nil, or_false] at hx
  rcases hx with rfl | rfl | rfl | rfl | rfl | rfl | rfl | rfl | rfl | rfl | rfl
  · have hnull := Result.map_eq_fail_iff.mp h
    simp only [literal] at hnull
    split at hnull <;> cases hnull
    rfl
  all_goals exact expected_of_label h hkind hpos

/-- All kinds of literal fail on their shape, none of them beyond the position. -/
def FailUpTo (options : LiteralOptions) (text : Text) (pos : Nat) : Prop :=
  ∀ x ∈ literalAlternatives options,
    ∃ f, x.parser.run text 0 = .fail f ∧ f.kind = .shape ∧ f.pos ≤ pos

/-- What the kinds of literal expect where they fail at a position. -/
def expectationsAt (options : LiteralOptions) (text : Text) (pos : Nat) : List Text :=
  (literalAlternatives options).flatMap fun x => x.parser.expects text pos

/-- The alternative at a place of the list, which fails on its shape. -/
theorem FailUpTo.exists_run (h : FailUpTo options text pos) (i : Nat)
    (hi : (literalAlternatives options)[i]? = some x) :
    ∃ f, x.parser.run text 0 = .fail f ∧ f.kind = .shape := by
  obtain ⟨f, hf, hkind, -⟩ := h x (List.mem_of_getElem? hi)
  exact ⟨f, hf, hkind⟩

theorem expectationsAt_zero (h : FailUpTo options text 0) :
    expectationsAt options text 0 = (literalAlternatives options).map startExpectation := by
  have hexpects : ∀ x ∈ literalAlternatives options,
      x.parser.expects text 0 = [startExpectation x] := by
    intro x hx
    obtain ⟨f, hf, hkind, hle⟩ := h x hx
    have hzero := Nat.le_zero.mp hle
    rw [expects_of_pos_eq hf hzero, expected_of_pos_eq_zero hx hf hkind hzero]
  rw [expectationsAt, List.flatMap_congr hexpects, List.map_eq_flatMap]

/-- At the start every kind expects something else, and nothing that joins others. -/
theorem joinsAlike_startExpectations (options : LiteralOptions) :
    JoinsAlike ((literalAlternatives options).map startExpectation) := by
  have hlist : (literalAlternatives options).map startExpectation
      = ["\"null\"", "duration", "boolean", "string", "datetime", "date", "time", "GUID", "float",
        "integer", "binary"] := by rfl
  rw [hlist, JoinsAlike]
  decide +kernel

/-! ## Failing farther on -/

theorem expects_eq_nil {p : Parser Literal} {e : Text} (hpos : pos ≠ 0)
    (h : p.run text 0 = .fail (.shape 0 e)) : p.expects text pos = [] :=
  expects_of_pos_ne h (Ne.symm hpos)

/-- Beyond the start four kinds expect nothing. -/
theorem FailUpTo.expectationsAt_eq (h : FailUpTo options text pos) (hpos : pos ≠ 0) :
    expectationsAt options text pos
      = (duration options.requireDurationKeyword).expects text pos ++ (string.expects text pos
        ++ (dateTimeOffset.expects text pos ++ (date.expects text pos ++ (time.expects text pos
        ++ (guid.expects text pos ++ integer.expects text pos))))) := by
  have hne {f : Failure} (hf : f.pos = 0) : f.pos ≠ pos := fun heq => hpos (heq.symm.trans hf)
  obtain ⟨fnull, hnull, -⟩ := h.exists_run 0 rfl
  obtain ⟨fboolean, hboolean, -⟩ := h.exists_run 2 rfl
  obtain ⟨ffloat, hfloat, -⟩ := h.exists_run 8 rfl
  obtain ⟨fbinary, hbinary, hkind⟩ := h.exists_run 10 rfl
  rw [expectationsAt, literalAlternatives]
  simp only [List.flatMap_cons, List.flatMap_nil, List.append_nil, List.nil_append,
    expects_of_pos_ne hnull (hne (FailsAtStart.pos_eq (p := nullValue) hnull)),
    expects_of_pos_ne hboolean (hne (FailsAtStart.pos_eq (p := boolean) hboolean)),
    expects_of_pos_ne hfloat (hne (FailsAtStart.pos_eq (p := float) hfloat)),
    expects_of_pos_ne hbinary (hne (pos_of_binary hbinary hkind))]

/-- A text that fails as an integer on its shape has no digits at the start. -/
theorem FailUpTo.stopsAt (h : FailUpTo options text pos) :
    Text.StopsAt CodeUnit.isDigit text := by
  obtain ⟨f, hinteger, hkind⟩ := h.exists_run 9 rfl
  exact stopsAt_of_integer [] (.inl rfl) hinteger hkind

/-- In a text that begins with an apostrophe, durations and strings get beyond it. -/
theorem FailUpTo.length_le_of_apostrophe (h : FailUpTo options text pos) (hpos : pos ≠ 0)
    (hhead : text.head? = some apostrophe) : (expectationsAt options text pos).length ≤ 2 := by
  have hhex : Text.StopsAt CodeUnit.isHexDigit text := Text.forall_mem_head_of_eq hhead (by decide)
  have hsign : ∀ u ∈ text.head?, u ∉ Text.ofString "+-" :=
    Text.forall_mem_head_of_eq hhead (by decide)
  have hyear := year_run_of_stopsAt h.stopsAt (by rw [hhead]; decide)
  rw [h.expectationsAt_eq hpos, expects_eq_nil hpos (dateTimeOffset_run_of_year hyear),
    expects_eq_nil hpos (date_run_of_year hyear),
    expects_eq_nil hpos (time_run_of_stopsAt h.stopsAt),
    expects_eq_nil hpos (guid_run_of_stopsAt hhex),
    expects_eq_nil hpos (integer_run_of_stopsAt h.stopsAt hsign)]
  have hduration := length_expects_le (duration options.requireDurationKeyword) text pos
  have hstring := length_expects_le string text pos
  simp only [List.append_nil, List.length_append]
  omega

/-- In a text that begins with neither an apostrophe nor a sign, durations and GUIDs get beyond the
start. -/
theorem FailUpTo.length_le_of_word (h : FailUpTo options text pos) (hpos : pos ≠ 0)
    (hhead : text.head? ≠ some apostrophe) (hsign : ∀ u ∈ text.head?, u ∉ Text.ofString "+-") :
    (expectationsAt options text pos).length ≤ 2 := by
  have hhyphen : text.head? ≠ some hyphen := fun heq => hsign hyphen heq (by decide)
  have hyear := year_run_of_stopsAt h.stopsAt hhyphen
  rw [h.expectationsAt_eq hpos, expects_eq_nil hpos (string_run_of_head hhead),
    expects_eq_nil hpos (dateTimeOffset_run_of_year hyear),
    expects_eq_nil hpos (date_run_of_year hyear),
    expects_eq_nil hpos (time_run_of_stopsAt h.stopsAt),
    expects_eq_nil hpos (integer_run_of_stopsAt h.stopsAt hsign)]
  have hduration := length_expects_le (duration options.requireDurationKeyword) text pos
  have hguid := length_expects_le guid text pos
  simp only [List.append_nil, List.nil_append, List.length_append]
  omega

/-- Behind a sign a year is missed twice, by a date and by a date with a time, and a digit once. -/
theorem joinsAlike_behind_sign :
    JoinsAlike ["four-digit year", "four-digit year", "digit"] := by
  rw [JoinsAlike]
  decide +kernel

/-- Behind a sign only dates and integers fail, all at one position. -/
theorem FailUpTo.joinsAlike_of_sign {u : CodeUnit} (h : FailUpTo options (u :: w) pos)
    (hpos : pos ≠ 0) (hu : u ∈ Text.ofString "+-") :
    JoinsAlike (expectationsAt options (u :: w) pos) := by
  have hsign : Text.IsSign [u] := by
    rcases mem_signs_iff.mp hu with rfl | rfl
    · exact .inr (.inl (by decide))
    · exact .inr (.inr (by decide))
  have hother : u ≠ apostrophe ∧ u.lower ≠ 0x64 ∧ u.isHexDigit = false := by
    rcases mem_signs_iff.mp hu with rfl | rfl <;> decide
  obtain ⟨f, hfail, hkind⟩ := h.exists_run 9 rfl
  have hw := stopsAt_of_integer [u] hsign hfail hkind
  have hquote : (u :: w).head? ≠ some apostrophe := by simpa using hother.1
  have hkeyword := duration_keyword_refuses (w := u :: w) (by simpa using hother.2.1)
  have hinteger := integer_run_sign hu hw
  rw [h.expectationsAt_eq hpos,
    expects_eq_nil hpos (duration_run_of_refuses hkeyword (.inr hquote)),
    expects_eq_nil hpos (string_run_of_head hquote),
    expects_eq_nil hpos (time_run_of_stopsAt h.stopsAt),
    expects_eq_nil hpos (guid_run_of_stopsAt (Text.stopsAt_cons.mpr hother.2.2))]
  simp only [List.nil_append]
  rcases mem_signs_iff.mp hu with rfl | rfl
  · have hyear := year_run_of_stopsAt h.stopsAt (by simp; decide)
    rw [expects_eq_nil hpos (dateTimeOffset_run_of_year hyear),
      expects_eq_nil hpos (date_run_of_year hyear)]
    exact joinsAlike_of_length_le (Nat.le_succ_of_le (length_expects_le integer _ pos))
  · have hyear : year.run (CodeUnit.ofChar '-' :: w) 0 = _ := year_run_hyphen hw
    by_cases hone : 1 = pos
    · rw [expects_of_pos_eq (dateTimeOffset_run_of_year hyear) hone,
        expects_of_pos_eq (date_run_of_year hyear) hone, expects_of_pos_eq hinteger hone]
      exact joinsAlike_behind_sign
    · rw [expects_of_pos_ne (dateTimeOffset_run_of_year hyear) hone,
        expects_of_pos_ne (date_run_of_year hyear) hone, expects_of_pos_ne hinteger hone]
      exact joinsAlike_of_length_le (Nat.zero_le _)

/-- **The expectations of the kinds of literal at the farthest position are joined alike.** -/
theorem FailUpTo.joinsAlike (h : FailUpTo options text pos) :
    JoinsAlike (expectationsAt options text pos) := by
  by_cases hpos : pos = 0
  · subst hpos
    rw [expectationsAt_zero h]
    exact joinsAlike_startExpectations options
  by_cases hhead : text.head? = some apostrophe
  · exact joinsAlike_of_length_le (h.length_le_of_apostrophe hpos hhead)
  cases text with
  | nil => exact joinsAlike_of_length_le (h.length_le_of_word hpos hhead (by simp))
  | cons u w =>
    by_cases hu : u ∈ Text.ofString "+-"
    · exact h.joinsAlike_of_sign hpos hu
    · exact joinsAlike_of_length_le (h.length_le_of_word hpos hhead (by simpa using hu))

/-- If no literal can be read, the choice reports what the entry point does, with the same
expectation. -/
theorem exists_error_of_primitiveLiteral (h : (primitiveLiteral options).run text 0 = .fail f) :
    ∃ e, parseLiteral options text = .error e ∧ e.kind = .failed f.kind ∧ e.pos = f.pos
      ∧ e.expected = f.expected :=
  exists_error_of_parser_run (List.cons_ne_nil _ _) h FailUpTo.joinsAlike

end Grammar

/-- **A choice and the entry point report the same failure.**  If all of some alternatives fail at
the start of an input, their parser, the choice of their parsers and every bracketing of it report
the kind and the position of the error of the entry point and, if the kind is that of the domain,
its expectation.  For literals the expectations always agree. -/
theorem Alternatives.reports_agree :
    (∀ {α : Type} (alternatives : Alternatives α) (input : Text), alternatives ≠ [] →
      (∀ x ∈ alternatives, x.parser.Refuses input) →
      ∃ e, alternatives.parseComplete input = .error e
        ∧ FailsAs alternatives.parser input e
        ∧ FailsAs (choice (alternatives.map Alternative.parser)) input e
        ∧ ∀ b : Bracketing α, b.parsers = alternatives.map Alternative.parser →
            FailsAs b.parser input e)
      ∧ ∀ options text f, (Grammar.primitiveLiteral options).run text 0 = .fail f →
          ∃ e, parseLiteral options text = .error e ∧ e.kind = .failed f.kind ∧ e.pos = f.pos
            ∧ e.expected = f.expected :=
  ⟨fun _ _ => exists_error_of_refuses, fun _ _ _ => Grammar.exists_error_of_primitiveLiteral⟩

/-- Behind a sign a year is missed twice and expected once.  Where an expectation comes again after
another one, the choice repeats it and the entry point does not, and still they agree on the kind
and the position. -/
theorem Alternatives.reports_agree_sign :
    (∃ e, parseLiteral ⟨false⟩ "-x" = .error e ∧ e.kind = .failed .shape ∧ e.pos = 1
        ∧ e.expected = "four-digit year or digit")
      ∧ (choice [literal "a", literal "b", literal "a"]).run "x" 0
          = .fail (.shape 0 "\"a\" or \"b\" or \"a\"")
      ∧ FailsAs (alt (literal "a") (alt (literal "b") (literal "a"))) "x"
          ⟨.failed .shape, "x", 0, "\"a\" or \"b\"", some "first"⟩ := by
  have hrun : (Grammar.primitiveLiteral ⟨false⟩).run "-x" 0
      = .fail (.shape 1 "four-digit year or digit") := by rfl
  let alternatives : Alternatives Text :=
    [⟨"first", literal "a"⟩, ⟨"second", literal "b"⟩, ⟨"third", literal "a"⟩]
  have hrefuses : ∀ x ∈ alternatives, x.parser.Refuses "x" := by
    intro x hx
    simp only [alternatives, List.mem_cons, List.not_mem_nil, or_false] at hx
    rcases hx with rfl | rfl | rfl <;> exact ⟨_, rfl⟩
  obtain ⟨e, hcomplete, -, -, hbracketing⟩ :=
    Alternatives.reports_agree.1 alternatives "x" (List.cons_ne_nil _ _) hrefuses
  obtain rfl : (⟨.failed .shape, "x", 0, "\"a\" or \"b\"", some "first"⟩ : ParseError) = e :=
    Except.error.inj (Eq.trans (by rfl) hcomplete)
  exact ⟨Alternatives.reports_agree.2 _ _ _ hrun, by rfl,
    hbracketing (.node (.leaf _) (.node (.leaf _) (.leaf _))) rfl⟩

end ODataToken
