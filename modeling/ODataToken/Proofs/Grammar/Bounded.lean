import ODataToken.Proofs.Grammar.Embedded
import ODataToken.Proofs.Parser.Keeps
import ODataToken.Proofs.Parser.ErrorSelection

/-!
# The grammar stays between its start and the end of the input

Every parser of the grammar is bounded.  The checks on dates and times are the only ones that blame
a position, and it is that of a field which has been read.  A literal, a name and an identifier
consume something, so that input left over lies strictly inside the text.

`boundedPrimitives`, `boundedCombinators` and `Grammar.eachParser_bounded` are the three layers of
the one result, `Grammar.bounded_and_advances`.
-/

set_option autoImplicit false

namespace ODataToken

open ODataToken.Parser

/-! ## The places of the fields -/

namespace Grammar

/-- Where the fields of a date stand that a check may blame. -/
def DateShape.places (d : DateShape) : List Nat := [d.month.start, d.day.start]

/-- Where the fields of a time of day stand. -/
def TimeShape.places (t : TimeShape) : List Nat :=
  t.hour.start :: t.minute.start :: (t.second.map fun s => s.1.start).toList

/-- Where the fields of an offset stand. -/
def OffsetShape.places : OffsetShape → List Nat
  | .utc => []
  | .signed _ hour minute => [hour.start, minute.start]

theorem checkRange_blames {f : Spanned Nat} {places : List Nat} (h : f.start ∈ places)
    (least greatest : Nat) (what : Text) : Blames places (checkRange f least greatest what) := by
  rw [checkRange]
  split
  · exact .ok _ _
  · exact .error (by simpa using h)

theorem checkDate_blames (d : DateShape) : Blames d.places (checkDate d) := by
  refine Blames.bind (checkRange_blames (by simp [DateShape.places]) _ _ _) fun _ => ?_
  refine Blames.bind (checkRange_blames (by simp [DateShape.places]) _ _ _) fun _ => ?_
  cases daysInMonth? d.year d.month.value with
  | none => exact .ok _ _
  | some last =>
    dsimp only
    split
    · exact .error (by simp [DateShape.places])
    · exact .ok _ _

theorem checkTime_blames (t : TimeShape) : Blames t.places (checkTime t) := by
  refine Blames.bind (checkRange_blames (by simp [TimeShape.places]) _ _ _) fun _ => ?_
  refine Blames.bind (checkRange_blames (by simp [TimeShape.places]) _ _ _) fun _ => ?_
  obtain ⟨hour, minute, _ | ⟨second, fraction⟩⟩ := t
  · exact .ok _ _
  · refine Blames.bind (checkRange_blames (by simp [TimeShape.places]) _ _ _) fun _ => ?_
    exact .ok _ _

theorem checkOffset_blames (o : OffsetShape) : Blames o.places (checkOffset o) := by
  cases o with
  | utc => exact .ok _ _
  | signed sign hour minute =>
    refine Blames.bind (checkRange_blames (by simp [OffsetShape.places]) _ _ _) fun _ => ?_
    refine Blames.bind (checkRange_blames (by simp [OffsetShape.places]) _ _ _) fun _ => ?_
    exact .ok _ _

theorem checkDateTime_blames (d : DateShape) (t : TimeShape) (o : Option OffsetShape) :
    Blames (d.places ++ (t.places ++ o.toList.flatMap OffsetShape.places))
      (checkDateTime d t o) := by
  have hoffset : (o.getD .utc).places ⊆ o.toList.flatMap OffsetShape.places := by
    cases o with
    | none => exact List.Subset.refl []
    | some o => simp
  refine ((checkDate_blames d).mono (by simp)).bind fun _ => ?_
  refine ((checkTime_blames t).mono (by simp)).bind fun _ => ?_
  refine ((checkOffset_blames (o.getD .utc)).mono ?_).bind fun _ => .ok _ _
  exact List.Subset.trans hoffset (by simp)

/-! ## Dates and times -/

instance : Bounded year := inferInstanceAs (Bounded (Parser.map _ _))

instance : Bounded fractionalSeconds := inferInstanceAs (Bounded (Parser.map _ _))

theorem field_keeps (what : Text) : (field what).Keeps fun f => [f.start] := .spanned _

theorem dateShape_keeps : dateShape.Keeps DateShape.places :=
  ((Keeps.of_bounded year).seq3 ((field_keeps _).preceded _) ((field_keeps _).preceded _)).map
    fun _ => by simp [DateShape.places]

theorem timeShape_keeps : timeShape.Keeps TimeShape.places := by
  have second := ((field_keeps "second").seq (.of_bounded
    (optional (preceded (char ".") fractionalSeconds)))).preceded (char ":")
  refine ((field_keeps _).seq3 ((field_keeps _).preceded _) second.optional).map fun ⟨_, _, s⟩ => ?_
  cases s with
  | none => simp [TimeShape.places]
  | some s => simp [TimeShape.places]

theorem offsetShape_keeps : offsetShape.Keeps OffsetShape.places := by
  have utc : ((keyword "Z").replace OffsetShape.utc).Keeps OffsetShape.places :=
    (Keeps.of_bounded (keyword "Z")).map fun _ => List.Subset.refl []
  have signed := (Keeps.of_bounded (oneOf "+-")).seq3 (field_keeps "hour")
    ((field_keeps "minute").preceded (char ":"))
  exact utc.alt (signed.map fun _ => by simp [OffsetShape.places])

instance : Bounded calendarDate := dateShape_keeps.tryMap checkDate_blames

instance : Bounded timeOfDay := timeShape_keeps.tryMap checkTime_blames

instance : Bounded utcOffset := offsetShape_keeps.tryMap checkOffset_blames

instance : Bounded date := inferInstanceAs (Bounded (label _ _))

instance : Bounded time := inferInstanceAs (Bounded (label _ _))

instance : Bounded dateTimeOffset := by
  have hkeeps := dateShape_keeps.seq3 (timeShape_keeps.preceded (keyword "T"))
    offsetShape_keeps.optional
  have hbounded : Bounded ((seq3 dateShape (preceded (keyword "T") timeShape)
      (optional offsetShape)).tryMap fun (d, t, o) =>
        (checkDateTime d t o).map Literal.dateTimeOffset) :=
    hkeeps.tryMap fun (d, t, o) => (checkDateTime_blames d t o).map _
  exact inferInstanceAs (Bounded (label _ _))

/-! ## Keywords, durations, numbers, GUIDs and quoted content -/

instance : Bounded nullValue := inferInstanceAs (Bounded (Parser.replace _ _))

instance : Bounded boolean := inferInstanceAs (Bounded (label _ _))

instance : Bounded digits := inferInstanceAs (Bounded (takeWhile1 _ _))

instance (unit : Text) (nanosPerUnit : Nat) : Bounded (component unit nanosPerUnit) :=
  inferInstanceAs (Bounded (Parser.map _ _))

instance : Bounded seconds := inferInstanceAs (Bounded (Parser.map _ _))

instance : Bounded timeComponents := inferInstanceAs (Bounded (Parser.map _ _))

instance : Bounded durationValue := inferInstanceAs (Bounded (Parser.map _ _))

instance : Bounded quotedDuration := inferInstanceAs (Bounded (between _ _ _))

instance (requireKeyword : Bool) : Bounded (duration requireKeyword) := by
  cases requireKeyword
  · exact inferInstanceAs (Bounded (label (Parser.map _ (preceded (optional _) _)) _))
  · exact inferInstanceAs (Bounded (label (Parser.map _ (preceded _ _)) _))

instance : Bounded signedDigits := inferInstanceAs (Bounded (recognize _))

/-- An integer out of range is rejected as a whole. -/
instance : Bounded integer := by
  have : Bounded (signedDigits.tryMap checkInteger) := by
    refine (Keeps.of_bounded signedDigits).tryMap fun t => ?_
    simp only [checkInteger]
    split
    · exact .error (by simp [Rejection.overall])
    · exact .ok _ _
  exact inferInstanceAs (Bounded (label _ _))

instance : Bounded float := by
  have : Bounded (choice floatForms) :=
    .choice (forall_mem_floatForms inferInstance fun _ _ _ => inferInstance)
  exact inferInstanceAs (Bounded (label (choice floatForms) _))

instance (n : Nat) : Bounded (hexGroup n) := inferInstanceAs (Bounded (takeExactly _ _ _))

instance : Bounded guid := inferInstanceAs (Bounded (label _ _))

instance : Bounded stringPart := inferInstanceAs (Bounded (alt _ _))

instance : Bounded quotedString := inferInstanceAs (Bounded (Parser.map _ _))

instance : Bounded string := inferInstanceAs (Bounded (label _ _))

instance : Bounded base64Body := inferInstanceAs (Bounded (terminated _ _))

/-- Text that encodes no bytes is rejected as a whole. -/
instance : Bounded binary := by
  have : Bounded (base64Body.tryMap checkBase64) := by
    refine (Keeps.of_bounded base64Body).tryMap fun t => ?_
    rw [checkBase64]
    cases Base64Url.decode t with
    | ok bytes => exact .ok _ _
    | error fault => exact .error (by simp [Rejection.overall])
  exact inferInstanceAs (Bounded (label _ _))

/-! ## Names and literals -/

instance : Bounded identifier := inferInstanceAs (Bounded (recognize _))

instance : Bounded dottedIdentifiers := inferInstanceAs (Bounded (sepBy1 _ _))

instance : Bounded name := inferInstanceAs (Bounded (label _ _))

theorem bounded_of_mem_literalAlternatives {options : LiteralOptions} {x : Alternative Literal}
    (hx : x ∈ literalAlternatives options) : Bounded x.parser := by
  simp only [literalAlternatives, List.mem_cons, List.not_mem_nil, or_false] at hx
  rcases hx with rfl | rfl | rfl | rfl | rfl | rfl | rfl | rfl | rfl | rfl | rfl
  all_goals
    dsimp only
    infer_instance

instance (options : LiteralOptions) : Bounded (primitiveLiteral options) :=
  Alternatives.bounded fun _ hx => bounded_of_mem_literalAlternatives hx

/-- **Every parser of the grammar is bounded.** -/
theorem eachParser_bounded : EachParser Bounded where
  nullValue := inferInstance
  boolean := inferInstance
  integer := inferInstance
  float := inferInstance
  guid := inferInstance
  string := inferInstance
  quotedString := inferInstance
  binary := inferInstance
  year := inferInstance
  fractionalSeconds := inferInstance
  calendarDate := inferInstance
  timeOfDay := inferInstance
  utcOffset := inferInstance
  date := inferInstance
  time := inferInstance
  dateTimeOffset := inferInstance
  durationValue := inferInstance
  duration _ := inferInstance
  identifier := inferInstance
  dottedIdentifiers := inferInstance
  name := inferInstance
  primitiveLiteral _ := inferInstance

/-! ## Progress -/

instance : Advances identifier := inferInstanceAs (Advances (recognize _))

instance : Advances dottedIdentifiers := by
  rw [dottedIdentifiers, sepBy1_eq]
  infer_instance

instance : Advances name := inferInstanceAs (Advances (label _ _))

/-- No literal is read from no text. -/
instance (options : LiteralOptions) : Advances (primitiveLiteral options) :=
  .of_plain _ fun a r hreads => by
    have hok := parseLiteral_of_primitiveLiteral_reads hreads
    obtain ⟨required⟩ := options
    cases required <;> cases hok

end Grammar

/-- Input is left over strictly inside the text, if the alternatives are bounded and advance. -/
theorem Alternatives.pos_of_trailingInput {α : Type} {alternatives : Alternatives α} {text : Text}
    {e : ParseError} [Bounded alternatives.parser] [Advances alternatives.parser]
    (h : alternatives.parseComplete text = .error e) (hkind : e.kind = .trailingInput) :
    0 < e.pos ∧ e.pos < text.length := by
  have hselects := Alternatives.selects_parseComplete alternatives text
  rw [h] at hselects
  cases hselects with
  | domain => cases hkind
  | shape => cases hkind
  | nothing => cases hkind
  | @trailingInput before after a failures v stop hlist hbefore _ hrun hstop =>
    have hparser : alternatives.parser.run text 0 = .ok v stop :=
      hlist ▸ Alternatives.parser_run_of_split hbefore hrun after
    have hle := (Bounded.stop_within (Nat.zero_le _) hparser).2
    exact ⟨Advances.lt hparser, Nat.lt_of_le_of_ne hle hstop⟩

namespace Grammar

theorem parser_nameAlternatives : nameAlternatives.parser = name := choice_singleton name

instance : Bounded nameAlternatives.parser := parser_nameAlternatives ▸ inferInstance

instance : Advances nameAlternatives.parser := parser_nameAlternatives ▸ inferInstance

end Grammar
end ODataToken
