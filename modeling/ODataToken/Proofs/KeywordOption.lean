import ODataToken.Proofs.FailureAgreement

/-!
# What the option for durations changes

The option decides whether a duration may leave its keyword away.  Two readings of one text, with
and without the option, are compared here (`parseLiteral_requireKeyword`).

* If the text does not begin with an apostrophe, the outcome is the same, errors included: a
  duration without its keyword would begin with one, and without both of them either parser fails at
  once.
* If it does, and no duration can be read from it, it is a string or nothing.  A string that lacks
  its closing apostrophe fails at the end of the text, and nothing gets farther.
* If a duration can be read from it, that is what counts where the keyword is optional, also when
  something is left over.
-/

set_option autoImplicit false

namespace ODataToken

open ODataToken.Parser Alternatives
open CodeUnit (apostrophe hyphen)

namespace Grammar

variable {options : LiteralOptions} {text : Text} {v : Literal} {stop : Nat}

/-! ## Without an apostrophe -/

/-- Both parsers for durations read what has the keyword, and what has not fails at once. -/
theorem duration_run_eq (h : text.head? ≠ some apostrophe) :
    (duration true).run text 0 = (duration false).run text 0 := by
  cases hkeyword : (keyword "duration").run text 0 with
  | ok mark mid =>
    have hoptional : (optional (keyword "duration")).run text 0 = .ok (some mark) mid := by
      simp [Parser.optional, hkeyword]
    have hquoted : (preceded (keyword "duration") quotedDuration).run text 0
        = (preceded (optional (keyword "duration")) quotedDuration).run text 0 := by
      simp only [preceded, seq, Parser.map, hkeyword, hoptional, Result.andThen_ok]
      cases quotedDuration.run text mid <;> rfl
    simp only [duration, label, Parser.map, hquoted, if_true, Bool.false_eq_true, if_false]
  | fail f =>
    rw [duration_run_of_refuses ⟨f, hkeyword⟩ (.inl rfl),
      duration_run_of_refuses ⟨f, hkeyword⟩ (.inr h)]

theorem parseLiteral_eq_of_head (h : text.head? ≠ some apostrophe) :
    parseLiteral ⟨true⟩ text = parseLiteral ⟨false⟩ text := by
  simp only [parseLiteral, parseComplete, literalAlternatives, attempt, duration_run_eq h]

/-! ## Behind an apostrophe -/

/-- With an apostrophe at the start nothing can be read but a string and a duration without its
keyword. -/
theorem refuses_of_apostrophe (hhead : text.head? = some apostrophe) {i : Nat}
    {x : Alternative Literal} (hx : strictAlternatives[i]? = some x) (hi : i ≠ 3) :
    x.parser.Refuses text := by
  have hmem := List.mem_of_getElem? hx
  have := plain_of_mem_literalAlternatives hmem
  rcases refuses_or_reads x.parser text with hrefuses | ⟨a, c, r, rfl, hreads⟩
  · exact hrefuses
  -- what is read is a whole text of its own, and its rank is that of strings
  have hwhole := reads_nil_of_mem hmem hreads
  cases c with
  | nil => cases parseLiteral_of_reads (needsKeyword_strict []) hx hwhole
  | cons u c =>
    have hc : (u :: c).head? = some apostrophe := hhead
    have hrank := rank_of_reads (needsKeyword_strict _) hx hwhole
    rw [literalRank_of_apostrophe hc] at hrank
    exact absurd hrank.symm hi

theorem nullValue_refuses (hhead : text.head? = some apostrophe) : nullValue.Refuses text :=
  refuses_of_apostrophe hhead (i := 0) (x := ⟨"null", nullValue⟩) rfl (by decide)

theorem boolean_refuses (hhead : text.head? = some apostrophe) : boolean.Refuses text :=
  refuses_of_apostrophe hhead (i := 2) (x := ⟨"boolean", boolean⟩) rfl (by decide)

theorem float_refuses (hhead : text.head? = some apostrophe) : float.Refuses text :=
  refuses_of_apostrophe hhead (i := 8) (x := ⟨"float", float⟩) rfl (by decide)

/-- A duration without its keyword is the outcome, or leaves over what is the error. -/
theorem parseLiteral_of_duration (options : LiteralOptions) (hhead : text.head? = some apostrophe)
    (h : (duration options.requireDurationKeyword).run text 0 = .ok v stop) :
    parseLiteral options text
      = if stop = text.length then .ok ⟨v, "duration"⟩
        else .error ⟨.trailingInput, text, stop, "end of input", some "duration"⟩ := by
  have hlist : literalAlternatives options = [⟨"null", nullValue⟩]
      ++ ⟨"duration", duration options.requireDurationKeyword⟩
        :: (literalAlternatives options).drop 2 := rfl
  rw [parseLiteral, hlist]
  refine parseComplete_of_shapeOnly ?_ h
  simp only [List.mem_singleton, forall_eq]
  exact ⟨inferInstance, nullValue_refuses hhead⟩

/-- A string is the outcome, or leaves over what is the error, if there is no duration. -/
theorem parseLiteral_of_string (options : LiteralOptions) (hhead : text.head? = some apostrophe)
    (hduration : (duration options.requireDurationKeyword).Refuses text)
    (h : string.run text 0 = .ok v stop) :
    parseLiteral options text
      = if stop = text.length then .ok ⟨v, "string"⟩
        else .error ⟨.trailingInput, text, stop, "end of input", some "string"⟩ := by
  have hlist : literalAlternatives options = [⟨"null", nullValue⟩,
      ⟨"duration", duration options.requireDurationKeyword⟩, ⟨"boolean", boolean⟩]
      ++ ⟨"string", string⟩ :: (literalAlternatives options).drop 4 := rfl
  rw [parseLiteral, hlist]
  refine parseComplete_of_shapeOnly ?_ h
  simp only [List.forall_mem_cons, List.not_mem_nil, false_imp_iff, implies_true, and_true]
  exact ⟨⟨inferInstance, nullValue_refuses hhead⟩, ⟨inferInstance, hduration⟩,
    ⟨inferInstance, boolean_refuses hhead⟩⟩

/-- If there is neither a duration nor a string, all kinds of literal fail on their shape. -/
theorem failUpTo_of_apostrophe (hhead : text.head? = some apostrophe)
    (hduration : (duration options.requireDurationKeyword).Refuses text)
    (hstring : string.Refuses text) : FailUpTo options text text.length := by
  have hdigit : Text.StopsAt CodeUnit.isDigit text := Text.forall_mem_head_of_eq hhead (by decide)
  have hhex : Text.StopsAt CodeUnit.isHexDigit text := Text.forall_mem_head_of_eq hhead (by decide)
  have hsign : ∀ u ∈ text.head?, u ∉ Text.ofString "+-" :=
    Text.forall_mem_head_of_eq hhead (by decide)
  have hmark : ∀ u ∈ text.head?, u.lower ≠ 0x62 := Text.forall_mem_head_of_eq hhead (by decide)
  have hyear := year_run_of_stopsAt hdigit (by rw [hhead]; decide)
  have hshape : ∀ x ∈ literalAlternatives options,
      ∃ f, x.parser.run text 0 = .fail f ∧ f.kind = .shape := by
    have hof {p : Parser Literal} [ShapeOnly p] (h : p.Refuses text) :
        ∃ f, p.run text 0 = .fail f ∧ f.kind = .shape :=
      h.imp fun _ hf => ⟨hf, ShapeOnly.kind_eq hf⟩
    simp only [literalAlternatives, List.forall_mem_cons, List.not_mem_nil, false_imp_iff,
      implies_true, and_true]
    exact ⟨hof (nullValue_refuses hhead), hof hduration, hof (boolean_refuses hhead), hof hstring,
      ⟨_, dateTimeOffset_run_of_year hyear, rfl⟩, ⟨_, date_run_of_year hyear, rfl⟩,
      ⟨_, time_run_of_stopsAt hdigit, rfl⟩, ⟨_, guid_run_of_stopsAt hhex, rfl⟩,
      hof (float_refuses hhead), ⟨_, integer_run_of_stopsAt hdigit hsign, rfl⟩,
      ⟨_, binary_run_of_head hmark, rfl⟩⟩
  intro x hx
  obtain ⟨f, hf, hkind⟩ := hshape x hx
  have := bounded_of_mem_literalAlternatives hx
  have hwithin := Bounded.within (p := x.parser) (Nat.zero_le text.length)
  rw [hf] at hwithin
  exact ⟨f, hf, hkind, hwithin.2⟩

/-- If there is neither a duration nor a string, the error is at the end of the text, where the
closing apostrophe of the string is missing. -/
theorem exists_error_of_apostrophe (options : LiteralOptions)
    (hhead : text.head? = some apostrophe)
    (hduration : (duration options.requireDurationKeyword).Refuses text)
    (hstring : string.Refuses text) :
    ∃ e, parseLiteral options text = .error e ∧ e.kind = .failed .shape ∧ e.pos = text.length := by
  have hfail := failUpTo_of_apostrophe hhead hduration hstring
  cases text with
  | nil => cases hhead
  | cons u w =>
    obtain rfl := Option.some.inj hhead
    exact exists_error_of_shape (x := ⟨"string", string⟩) hfail (by simp [literalAlternatives])
      (string_run_of_refuses hstring) rfl

theorem exists_of_duration_run {requireKeyword : Bool}
    (h : (duration requireKeyword).run text 0 = .ok v stop) : ∃ d, v = .duration d := by
  obtain ⟨_, _, n, -, -, -, hv⟩ :=
    duration_reads_iff.mp (reads_of_run h (Inside.stop_le h))
  exact ⟨⟨n⟩, hv⟩

theorem exists_of_string_run (h : string.run text 0 = .ok v stop) : ∃ s, v = .string s := by
  obtain ⟨s, hv, -⟩ := string_reads_iff.mp (reads_of_run h (Inside.stop_le h))
  exact ⟨s, hv⟩

/-- Without a duration both readings give the same string, or errors of one kind at one
position. -/
theorem parseLiteral_of_duration_refuses (hhead : text.head? = some apostrophe)
    (h : (duration false).Refuses text) :
    (∃ s, parseLiteral ⟨true⟩ text = .ok ⟨.string s, "string"⟩
        ∧ parseLiteral ⟨false⟩ text = .ok ⟨.string s, "string"⟩)
      ∨ ∃ e e', parseLiteral ⟨true⟩ text = .error e ∧ parseLiteral ⟨false⟩ text = .error e'
          ∧ e.kind = e'.kind ∧ e.pos = e'.pos := by
  have hkeyword : (keyword "duration").Refuses text :=
    duration_keyword_refuses (Text.forall_mem_head_of_eq hhead (by decide))
  have hstrict : (duration true).Refuses text := ⟨_, duration_run_of_refuses hkeyword (.inl rfl)⟩
  cases hstring : string.run text 0 with
  | ok v stop =>
    have htrue := parseLiteral_of_string ⟨true⟩ hhead hstrict hstring
    have hfalse := parseLiteral_of_string ⟨false⟩ hhead h hstring
    obtain ⟨s, rfl⟩ := exists_of_string_run hstring
    by_cases hstop : stop = text.length
    · rw [if_pos hstop] at htrue hfalse
      exact .inl ⟨s, htrue, hfalse⟩
    · rw [if_neg hstop] at htrue hfalse
      exact .inr ⟨_, _, htrue, hfalse, rfl, rfl⟩
  | fail f =>
    obtain ⟨e, htrue, hkind, hpos⟩ :=
      exists_error_of_apostrophe ⟨true⟩ hhead hstrict ⟨f, hstring⟩
    obtain ⟨e', hfalse, hkind', hpos'⟩ :=
      exists_error_of_apostrophe ⟨false⟩ hhead h ⟨f, hstring⟩
    exact .inr ⟨e, e', htrue, hfalse, hkind.trans hkind'.symm, hpos.trans hpos'.symm⟩

end Grammar

open Grammar

/-- **What the option for durations changes.**  It changes nothing for a text that does not begin
with an apostrophe.  For one that does, and from which no duration can be read without its keyword,
both readings give the same string, or errors of one kind at one position.  If a duration can be
read, the reading with an optional keyword gives it, or has something left over behind it. -/
theorem parseLiteral_requireKeyword (text : Text) :
    (text.head? ≠ some apostrophe → parseLiteral ⟨true⟩ text = parseLiteral ⟨false⟩ text)
      ∧ (text.head? = some apostrophe → (duration false).Refuses text →
          (∃ s, parseLiteral ⟨true⟩ text = .ok ⟨.string s, "string"⟩
              ∧ parseLiteral ⟨false⟩ text = .ok ⟨.string s, "string"⟩)
            ∨ ∃ e e', parseLiteral ⟨true⟩ text = .error e ∧ parseLiteral ⟨false⟩ text = .error e'
                ∧ e.kind = e'.kind ∧ e.pos = e'.pos)
      ∧ ∀ v stop, text.head? = some apostrophe → (duration false).run text 0 = .ok v stop →
          (∃ d, v = .duration d) ∧ parseLiteral ⟨false⟩ text
            = if stop = text.length then .ok ⟨v, "duration"⟩
              else .error ⟨.trailingInput, text, stop, "end of input", some "duration"⟩ :=
  ⟨parseLiteral_eq_of_head, parseLiteral_of_duration_refuses, fun _ _ hhead hrun =>
    ⟨exists_of_duration_run hrun, parseLiteral_of_duration ⟨false⟩ hhead hrun⟩⟩

/-- Without an apostrophe the option changes nothing, nor for what lacks the unit of a duration.
Two apostrophes behind a duration belong to a string where the keyword is required, and are left
over where it is optional. -/
theorem parseLiteral_requireKeyword_instances :
    parseLiteral ⟨true⟩ "20e" = parseLiteral ⟨false⟩ "20e"
      ∧ parseLiteral ⟨false⟩ "'P1'" = .ok ⟨.string "P1", "string"⟩
      ∧ parseLiteral ⟨true⟩ "'P1D'''" = .ok ⟨.string "P1D'", "string"⟩
      ∧ parseLiteral ⟨false⟩ "'P1D'''"
          = .error ⟨.trailingInput, "'P1D'''", 5, "end of input", some "duration"⟩ := by
  have hstrict (s text : Text) (h : text = apostropheQuoted s) :
      parseLiteral ⟨true⟩ text = .ok ⟨.string s, "string"⟩ :=
    parseLiteral_of_reads (i := 3) (x := ⟨"string", string⟩) (needsKeyword_strict _) rfl
      (string_reads_iff.mpr ⟨s, rfl, h, by simp⟩)
  obtain ⟨hsame, -, -⟩ := parseLiteral_requireKeyword "20e"
  obtain ⟨-, hrefuses, -⟩ := parseLiteral_requireKeyword "'P1'"
  obtain ⟨-, -, hduration⟩ := parseLiteral_requireKeyword "'P1D'''"
  refine ⟨hsame (by decide), ?_, hstrict "P1D'" _ (by decide), ?_⟩
  · have htrue := hstrict "P1" "'P1'" (by decide)
    rcases hrefuses rfl ⟨_, rfl⟩ with ⟨s, hok, hfalse⟩ | ⟨e, _, herror, -⟩
    · rw [hfalse, ← hok, htrue]
    · rw [htrue] at herror
      cases herror
  · exact (hduration (.duration ⟨86400000000000⟩) 5 rfl rfl).2

end ODataToken
