import ODataToken.Proofs.Grammar.Calendar
import ODataToken.Proofs.Grammar.Duration
import ODataToken.Proofs.Grammar.Name
import ODataToken.Proofs.Grammar.Quoted
import ODataToken.Proofs.Grammar.Scalar
import ODataToken.Proofs.Parser.Moves
import ODataToken.Token

/-!
# What stands before does not matter

Behind any text, every parser of the grammar does what it does at the start of the text that
follows, and only the positions of the result are further on: the value, the kind of a failure and
what it expects are the same.  This holds of failures at an impossible date as well, although these
are found after the shape has been read, at places that the shape has kept.
-/

set_option autoImplicit false

namespace ODataToken

open ODataToken.Parser

/-! ## Checks at moved places -/

namespace Grammar

theorem bind_mapError {ε ε' α β : Type} (g : ε → ε') (x : Except ε α) (f : α → Except ε β) :
    (x >>= f).mapError g = x.mapError g >>= fun a => (f a).mapError g := by
  cases x <;> rfl

/-- The fields of a date with their places `k` further on. -/
def DateShape.move (k : Nat) (d : DateShape) : DateShape :=
  ⟨d.year, d.month.move k, d.day.move k⟩

/-- The fields of a time of day with their places `k` further on. -/
def TimeShape.move (k : Nat) (t : TimeShape) : TimeShape :=
  ⟨t.hour.move k, t.minute.move k, t.second.map fun x => (x.1.move k, x.2)⟩

/-- The fields of an offset with their places `k` further on. -/
def OffsetShape.move (k : Nat) : OffsetShape → OffsetShape
  | .utc => .utc
  | .signed sign hour minute => .signed sign (hour.move k) (minute.move k)

theorem checkRange_move (k : Nat) (f : Spanned Nat) (least greatest : Nat) (what : Text) :
    checkRange (f.move k) least greatest what
      = (checkRange f least greatest what).mapError (Rejection.move k) := by
  by_cases h : least ≤ f.value ∧ f.value ≤ greatest
  · simp [checkRange, h, Except.mapError]
  · simp [checkRange, h, Except.mapError, Rejection.move]

theorem checkDate_move (k : Nat) (d : DateShape) :
    checkDate (d.move k) = (checkDate d).mapError (Rejection.move k) := by
  simp only [checkDate, DateShape.move, checkRange_move, bind_mapError, Spanned.move_value,
    Spanned.move_start]
  refine bind_congr fun _ => bind_congr fun _ => ?_
  cases daysInMonth? d.year d.month.value with
  | none => rfl
  | some last =>
    by_cases hlast : last < d.day.value
    · simp only [hlast, if_true]
      rfl
    · simp only [hlast, if_false]
      rfl

theorem checkTime_move (k : Nat) (t : TimeShape) :
    checkTime (t.move k) = (checkTime t).mapError (Rejection.move k) := by
  simp only [checkTime, TimeShape.move, checkRange_move, bind_mapError, Spanned.move_value]
  refine bind_congr fun _ => bind_congr fun _ => ?_
  obtain _ | ⟨second, fraction⟩ := t.second
  · rfl
  · simp only [Option.map_some, checkRange_move, bind_mapError, Spanned.move_value]
    rfl

theorem checkOffset_move (k : Nat) (o : OffsetShape) :
    checkOffset (o.move k) = (checkOffset o).mapError (Rejection.move k) := by
  cases o with
  | utc => rfl
  | signed sign hour minute =>
    simp only [checkOffset, OffsetShape.move, checkRange_move, bind_mapError, Spanned.move_value]
    rfl

theorem checkDateTime_move (k : Nat) (d : DateShape) (t : TimeShape) (o : Option OffsetShape) :
    checkDateTime (d.move k) (t.move k) (o.map (OffsetShape.move k))
      = (checkDateTime d t o).mapError (Rejection.move k) := by
  have hgetD : (o.map (OffsetShape.move k)).getD .utc = (o.getD .utc).move k := by
    cases o <;> rfl
  simp only [checkDateTime, checkDate_move, checkTime_move, hgetD, checkOffset_move, bind_mapError]
  rfl

/-! ## Dates and times -/

theorem field_moves (what : Text) : (field what).Moves Spanned.move := .spanned _

theorem dateShape_moves : dateShape.Moves DateShape.move :=
  ((Moves.of_plain year).seq3 ((field_moves _).preceded _) ((field_moves _).preceded _)).map
    fun _ _ => rfl

theorem timeShape_moves : timeShape.Moves TimeShape.move := by
  have second : (preceded (char ":")
      (seq (field "second") (optional (preceded (char ".") fractionalSeconds)))).Moves
        fun k x => (x.1.move k, x.2) :=
    ((field_moves _).seq (.of_plain _)).preceded _
  exact ((field_moves _).seq3 ((field_moves _).preceded _) second.optional).map fun _ _ => rfl

theorem offsetShape_moves : offsetShape.Moves OffsetShape.move := by
  have utc : ((keyword "Z").replace OffsetShape.utc).Moves OffsetShape.move :=
    (Moves.of_plain (keyword "Z")).map fun _ _ => rfl
  have signed : (seq3 (oneOf "+-") (field "hour") (preceded (char ":") (field "minute"))).Moves
      fun k x => (x.1, x.2.1.move k, x.2.2.move k) :=
    (Moves.of_plain (oneOf "+-")).seq3 (field_moves _) ((field_moves _).preceded _)
  exact utc.alt (signed.map fun _ _ => rfl)

instance : Plain calendarDate :=
  dateShape_moves.tryMap (.of_map DateShape.toDate (dateShape_map_toDate ▸ inferInstance))
    checkDate_move

instance : Plain timeOfDay :=
  timeShape_moves.tryMap (.of_map TimeShape.fields (timeShape_map_fields ▸ inferInstance))
    checkTime_move

instance : Plain utcOffset :=
  offsetShape_moves.tryMap (.of_map OffsetShape.fields (offsetShape_map_fields ▸ inferInstance))
    checkOffset_move

instance : Plain date := inferInstanceAs (Plain (label _ _))

instance : Plain time := inferInstanceAs (Plain (label _ _))

instance : Plain dateTimeOffset := by
  have hinside : Inside plainDateTime := inferInstance
  rw [← dateTimeShape_map] at hinside
  have hmoves := dateShape_moves.seq3 (timeShape_moves.preceded (keyword "T"))
    offsetShape_moves.optional
  have hplain : Plain ((seq3 dateShape (preceded (keyword "T") timeShape)
      (optional offsetShape)).tryMap fun (d, t, o) =>
        (checkDateTime d t o).map Literal.dateTimeOffset) := by
    refine hmoves.tryMap (.of_map _ hinside) fun k (d, t, o) => ?_
    dsimp only
    rw [checkDateTime_move]
    cases checkDateTime d t o <;> rfl
  exact inferInstanceAs (Plain (label _ _))

/-! ## Numbers -/

instance : Plain integer := by
  have : Plain (signedDigits.tryMap checkInteger) := by
    refine Plain.tryMap _ fun t r h => ?_
    simp only [checkInteger] at h
    split at h
    · cases h; rfl
    · cases h
  exact inferInstanceAs (Plain (label _ _))

instance (expected : Text) : Plain (pattern decimalPattern expected) :=
  .pattern (by decide) (by decide) expected

instance : Plain float := by
  have : Plain (choice floatForms) :=
    .choice (forall_mem_floatForms inferInstance fun _ _ _ => inferInstance)
  exact inferInstanceAs (Plain (label (choice floatForms) _))

/-! ## Names and literals -/

instance {α β : Type} (item : Parser α) (sep : Parser β) [Plain item] [Plain sep]
    [ShapeOnly sep] : Plain (sepBy1 item sep) := by
  rw [sepBy1_eq]
  infer_instance

instance : Plain dottedIdentifiers := inferInstanceAs (Plain (sepBy1 _ _))

instance : Plain name := inferInstanceAs (Plain (label _ _))

theorem plain_of_mem_literalAlternatives {options : LiteralOptions} {x : Alternative Literal}
    (hx : x ∈ literalAlternatives options) : Plain x.parser := by
  simp only [literalAlternatives, List.mem_cons, List.not_mem_nil, or_false] at hx
  rcases hx with rfl | rfl | rfl | rfl | rfl | rfl | rfl | rfl | rfl | rfl | rfl
  all_goals
    dsimp only
    infer_instance

instance (options : LiteralOptions) : Plain (primitiveLiteral options) := by
  refine Plain.choice fun p hp => ?_
  obtain ⟨x, hx, rfl⟩ := List.mem_map.mp hp
  exact plain_of_mem_literalAlternatives hx

end Grammar

/-! ## The parsers of the grammar -/

/-- All the parsers that the grammar offers have the property `P`. -/
structure Grammar.EachParser (P : {α : Type} → Parser α → Prop) : Prop where
  nullValue : P nullValue
  boolean : P boolean
  integer : P integer
  float : P float
  guid : P guid
  string : P string
  quotedString : P quotedString
  binary : P binary
  year : P year
  fractionalSeconds : P fractionalSeconds
  calendarDate : P calendarDate
  timeOfDay : P timeOfDay
  utcOffset : P utcOffset
  date : P date
  time : P time
  dateTimeOffset : P dateTimeOffset
  durationValue : P durationValue
  duration : ∀ requireKeyword, P (duration requireKeyword)
  identifier : P identifier
  dottedIdentifiers : P dottedIdentifiers
  name : P name
  primitiveLiteral : ∀ options, P (primitiveLiteral options)

/-- Behind any text, the parser does what it does at the start of the text that follows, with the
position where it ends or fails further on by the length of what stands before. -/
def Parser.PositionIndependent {α : Type} (p : Parser α) : Prop :=
  ∀ before text : Text, p.run (before ++ text) before.length = (p.run text 0).shift before.length

theorem Parser.PositionIndependent.of_plain {α : Type} (p : Parser α) [Plain p] :
    p.PositionIndependent :=
  fun before text => run_append p before text

/-- **Every parser of the grammar is independent of the position.** -/
theorem Grammar.eachParser_positionIndependent : EachParser PositionIndependent where
  nullValue := .of_plain _
  boolean := .of_plain _
  integer := .of_plain _
  float := .of_plain _
  guid := .of_plain _
  string := .of_plain _
  quotedString := .of_plain _
  binary := .of_plain _
  year := .of_plain _
  fractionalSeconds := .of_plain _
  calendarDate := .of_plain _
  timeOfDay := .of_plain _
  utcOffset := .of_plain _
  date := .of_plain _
  time := .of_plain _
  dateTimeOffset := .of_plain _
  durationValue := .of_plain _
  duration _ := .of_plain _
  identifier := .of_plain _
  dottedIdentifiers := .of_plain _
  name := .of_plain _
  primitiveLiteral _ := .of_plain _

/-- The month is to blame, three units further on than in the date alone. -/
example : Grammar.date.run "on 2023-13-01" 3 = .fail ⟨.domain, 8, "month between 01 and 12"⟩ := rfl

end ODataToken
