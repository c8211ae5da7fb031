import ODataToken.Literal
import ODataToken.Proofs.Floats
import ODataToken.Proofs.Json.Keys
import ODataToken.Proofs.RoundTrip

/-!
# Equality and JSON forms

Two literals count as equal when they are of one kind and have the same payload.  A program can put
any floats into the fields of a date, and there equality is that of numbers: a date with `NaN` in it
differs from itself, and dates that differ in the sign of a zero are equal.  These two are all that
keeps equality from being identity (`Literal.equal_iff_toJson`), apart from the literals that are
floats themselves.

The JSON form of a literal can be read back (`Literal.ofJson?_toJson`), whatever its fields are, as
digits and base64url text tell apart all integers and all bytes.  So it tells as much as the literal
itself, and the JSON form of a name tells as much as the name.
-/

set_option autoImplicit false

namespace ODataToken

/-! ## Reading JSON forms back -/

namespace Json

/-- The truth value. -/
def bool? : Json → Option Bool
  | bool b => some b
  | _ => none

/-- The integer. -/
def int? : Json → Option Int
  | int n => some n
  | _ => none

/-- The float. -/
def float? : Json → Option Float
  | float x => some x
  | _ => none

/-- The text. -/
def text? : Json → Option Text
  | str t => some t
  | _ => none

end Json

/-- The fields of dates and times whose JSON form can be read back. -/
class ReadableNumber (ν : Type) [JsonNumber ν] where
  ofJson? : Json → Option ν
  ofJson?_toJson (x : ν) : ofJson? (JsonNumber.toJson x) = some x

instance : ReadableNumber Int := ⟨Json.int?, fun _ => rfl⟩

instance : ReadableNumber Float := ⟨Json.float?, fun _ => rfl⟩

section

variable {ν : Type} [JsonNumber ν] [ReadableNumber ν]

namespace Json

/-- The number at a key. -/
def number? (key : Text) (j : Json) : Option ν := (j.get? key).bind ReadableNumber.ofJson?

theorem number?_of_get? {key : Text} {j : Json} {x : ν}
    (h : j.get? key = some (JsonNumber.toJson x)) : j.number? key = some x := by
  rw [number?, h, Option.bind_some, ReadableNumber.ofJson?_toJson]

end Json

/-- The date of which a value is the JSON form. -/
def CalendarDate.ofJson? (j : Json) : Option (CalendarDate ν) := do
  let year ← j.number? "year"
  let month ← j.number? "month"
  let day ← j.number? "day"
  return ⟨year, month, day⟩

/-- The time of day of which a value is the JSON form. -/
def TimeOfDay.ofJson? (j : Json) : Option (TimeOfDay ν) := do
  let hour ← j.number? "hour"
  let minute ← j.number? "minute"
  let second ← j.number? "second"
  let nanosecond ← j.number? "nanosecond"
  return ⟨hour, minute, second, nanosecond⟩

/-- The date and time of which a value is the JSON form. -/
def DateTimeOffset.ofJson? (j : Json) : Option (DateTimeOffset ν) := do
  let date ← CalendarDate.ofJson? (← j.get? "date")
  let time ← TimeOfDay.ofJson? (← j.get? "time")
  let offsetMinutes ← j.number? "offsetMinutes"
  return ⟨date, time, offsetMinutes⟩

theorem CalendarDate.ofJson?_toJson (d : CalendarDate ν) : ofJson? d.toJson = some d := by
  have year : d.toJson.number? "year" = some d.year := Json.number?_of_get? rfl
  have month : d.toJson.number? "month" = some d.month := Json.number?_of_get? rfl
  have day : d.toJson.number? "day" = some d.day := Json.number?_of_get? rfl
  simp [ofJson?, year, month, day]

theorem TimeOfDay.ofJson?_toJson (t : TimeOfDay ν) : ofJson? t.toJson = some t := by
  have hour : t.toJson.number? "hour" = some t.hour := Json.number?_of_get? rfl
  have minute : t.toJson.number? "minute" = some t.minute := Json.number?_of_get? rfl
  have second : t.toJson.number? "second" = some t.second := Json.number?_of_get? rfl
  have nanosecond : t.toJson.number? "nanosecond" = some t.nanosecond := Json.number?_of_get? rfl
  simp [ofJson?, hour, minute, second, nanosecond]

theorem DateTimeOffset.ofJson?_toJson (v : DateTimeOffset ν) :
    ofJson? (Literal.dateTimeOffset v).valueToJson = some v := by
  have date : (Literal.dateTimeOffset v).valueToJson.get? "date" = some v.date.toJson := rfl
  have time : (Literal.dateTimeOffset v).valueToJson.get? "time" = some v.time.toJson := rfl
  have offsetMinutes : (Literal.dateTimeOffset v).valueToJson.number? "offsetMinutes"
      = some v.offsetMinutes := Json.number?_of_get? rfl
  simp [ofJson?, date, time, offsetMinutes, CalendarDate.ofJson?_toJson, TimeOfDay.ofJson?_toJson]

namespace Literal

/-- How a value is read for each kind of literal but floats. -/
def readers : List (Text × (Json → Option (Literal ν))) := [
  ("null", fun _ => some .null),
  ("boolean", fun value => value.bool?.map .boolean),
  ("integer", fun value => value.text?.map fun t => .integer (readInt t)),
  ("string", fun value => value.text?.map .string),
  ("guid", fun value => value.text?.map .guid),
  ("date", fun value => (CalendarDate.ofJson? value).map .date),
  ("time", fun value => (TimeOfDay.ofJson? value).map .time),
  ("dateTimeOffset", fun value => (DateTimeOffset.ofJson? value).map .dateTimeOffset),
  ("duration", fun value => value.text?.map fun t => .duration ⟨readInt t⟩),
  ("binary", fun value => value.text?.bind fun t => (Base64Url.decode t).toOption.map .binary)]

/-- The literal of which a value is the JSON form. -/
def ofJson? (j : Json) : Option (Literal ν) := do
  let kind ← (← j.get? "kind").text?
  let read ← readers.lookup kind
  read (← j.get? "value")

/-- **The JSON form of a literal can be read back**, unless it is a float. -/
theorem ofJson?_toJson {l : Literal ν} (h : ¬ l.IsFloat) : ofJson? l.toJson = some l := by
  cases l with
  | float value => exact absurd trivial h
  | integer n =>
    change some (integer (readInt (Text.ofInt n))) = _
    rw [readInt_ofInt]
  | date d =>
    change (CalendarDate.ofJson? d.toJson).map date = _
    rw [CalendarDate.ofJson?_toJson, Option.map_some]
  | time t =>
    change (TimeOfDay.ofJson? t.toJson).map time = _
    rw [TimeOfDay.ofJson?_toJson, Option.map_some]
  | dateTimeOffset v =>
    change (DateTimeOffset.ofJson? (dateTimeOffset v).valueToJson).map dateTimeOffset = _
    rw [DateTimeOffset.ofJson?_toJson, Option.map_some]
  | duration d =>
    change some (duration ⟨readInt (Text.ofInt d.nanoseconds)⟩) = _
    rw [readInt_ofInt]
  | binary bytes =>
    change (Base64Url.decode (Base64Url.encode bytes)).toOption.map binary = _
    rw [Base64Url.decode_encode]
    rfl
  | _ => rfl

theorem ofJson?_toJson_float (x : Float) :
    ofJson? (float x : Literal ν).toJson = (none : Option (Literal ν)) :=
  rfl

variable {a b : Literal ν}

/-- Whatever the fields are, a literal that is no float shares its JSON form with no other. -/
theorem toJson_eq_iff (h : ¬ a.IsFloat) : a.toJson = b.toJson ↔ a = b := by
  refine ⟨fun heq => ?_, congrArg toJson⟩
  have hread := ofJson?_toJson h
  rw [heq] at hread
  by_cases hb : b.IsFloat
  · cases b with
    | float x => cases (ofJson?_toJson_float x).symm.trans hread
    | _ => cases hb
  · exact (Option.some.inj ((ofJson?_toJson hb).symm.trans hread)).symm

end Literal

end

/-! ## Equality of literals -/

section

variable {ν : Type} {p : ν → Prop}

/-- Every field of the date satisfies `p`. -/
def CalendarDate.Fields (p : ν → Prop) (d : CalendarDate ν) : Prop := p d.year ∧ p d.month ∧ p d.day

/-- Every field of the time satisfies `p`. -/
def TimeOfDay.Fields (p : ν → Prop) (t : TimeOfDay ν) : Prop :=
  p t.hour ∧ p t.minute ∧ p t.second ∧ p t.nanosecond

/-- Every field of dates and times in the literal satisfies `p`. -/
def Literal.Fields (p : ν → Prop) : Literal ν → Prop
  | date d => d.Fields p
  | time t => t.Fields p
  | dateTimeOffset v => v.date.Fields p ∧ v.time.Fields p ∧ p v.offsetMinutes
  | _ => True

variable [BEq ν]

/-- Equality of fields that satisfy `p` is identity. -/
def IdentifiesFields (p : ν → Prop) : Prop := ∀ x y, p x → p y → ((x == y) = true ↔ x = y)

theorem CalendarDate.equal_eq_true_iff (hp : IdentifiesFields p) {d e : CalendarDate ν}
    (hd : d.Fields p) (he : e.Fields p) : d.equal e = true ↔ d = e := by
  obtain ⟨year, month, day⟩ := d
  obtain ⟨year', month', day'⟩ := e
  rw [equal, Bool.and_eq_true, Bool.and_eq_true, hp _ _ hd.1 he.1, hp _ _ hd.2.1 he.2.1,
    hp _ _ hd.2.2 he.2.2, and_assoc, mk.injEq]

theorem TimeOfDay.equal_eq_true_iff (hp : IdentifiesFields p) {t u : TimeOfDay ν}
    (ht : t.Fields p) (hu : u.Fields p) : t.equal u = true ↔ t = u := by
  obtain ⟨hour, minute, second, nanosecond⟩ := t
  obtain ⟨hour', minute', second', nanosecond'⟩ := u
  rw [equal, Bool.and_eq_true, Bool.and_eq_true, Bool.and_eq_true, hp _ _ ht.1 hu.1,
    hp _ _ ht.2.1 hu.2.1, hp _ _ ht.2.2.1 hu.2.2.1, hp _ _ ht.2.2.2 hu.2.2.2, and_assoc, and_assoc,
    mk.injEq]

theorem DateTimeOffset.equal_eq_true_iff (hp : IdentifiesFields p) {v w : DateTimeOffset ν}
    (hv : (Literal.dateTimeOffset v).Fields p) (hw : (Literal.dateTimeOffset w).Fields p) :
    v.equal w = true ↔ v = w := by
  obtain ⟨date, time, offset⟩ := v
  obtain ⟨date', time', offset'⟩ := w
  rw [equal, Bool.and_eq_true, Bool.and_eq_true, CalendarDate.equal_eq_true_iff hp hv.1 hw.1,
    TimeOfDay.equal_eq_true_iff hp hv.2.1 hw.2.1, hp _ _ hv.2.2 hw.2.2, and_assoc, mk.injEq]

namespace Literal

variable {a b : Literal ν}

/-- Equality is identity where it is for the fields, unless it is about floats. -/
theorem equal_eq_true_iff (hp : IdentifiesFields p) (hfloat : ¬ a.IsFloat) (ha : a.Fields p)
    (hb : b.Fields p) : a.equal b = true ↔ a = b := by
  unfold equal
  split
  · simp
  · simp
  · simp
  · exact absurd trivial hfloat
  · simp
  · simp
  · rw [CalendarDate.equal_eq_true_iff hp ha hb, date.injEq]
  · rw [TimeOfDay.equal_eq_true_iff hp ha hb, time.injEq]
  · rw [DateTimeOffset.equal_eq_true_iff hp ha hb, dateTimeOffset.injEq]
  · simp
  · simp
  next hkinds =>
    refine ⟨nofun, ?_⟩
    rintro rfl
    cases a <;> simp_all

end Literal

end

namespace Name

variable {m n : Name}

theorem all_zip_beq_iff {s t : List Text} :
    (s.length == t.length && (s.zip t).all fun pair => pair.1 == pair.2) = true ↔ s = t := by
  induction s generalizing t with
  | nil => cases t <;> simp
  | cons x s ih =>
    cases t with
    | nil => simp
    | cons y t =>
      rw [List.cons.injEq, ← ih]
      simp [and_left_comm]

/-- Equality of names is identity. -/
theorem equal_eq_true_iff : m.equal n = true ↔ m = n := by
  cases m with
  | identifier s =>
    cases n with
    | identifier t => simp [equal]
    | qualified t => simp [equal]
  | qualified s =>
    cases n with
    | identifier t => simp [equal]
    | qualified t => rw [equal, all_zip_beq_iff, qualified.injEq]

/-- The JSON form also says whether a name is an identifier. -/
theorem eq_of_toJson_eq (h : m.toJson = n.toJson) : m = n := by
  obtain ⟨hkind, hsegments⟩ : m.kind = n.kind ∧ m.segments = n.segments := by
    simpa [toJson, List.map_inj_right] using h
  have hne : Text.ofString "identifier" ≠ "qualified" := by decide
  cases m with
  | identifier s =>
    cases n with
    | identifier t => rw [List.singleton_inj.mp hsegments]
    | qualified t => exact absurd hkind hne
  | qualified s =>
    cases n with
    | identifier t => exact absurd hkind.symm hne
    | qualified t => rw [show s = t from hsegments]

theorem equal_eq_true_iff_toJson : m.equal n = true ↔ m.toJson = n.toJson :=
  equal_eq_true_iff.trans ⟨congrArg toJson, eq_of_toJson_eq⟩

end Name

theorem equivalence_of_iff_eq {α : Type} {r : α → α → Prop} (h : ∀ x y, r x y ↔ x = y) :
    Equivalence r where
  refl x := (h x x).mpr rfl
  symm hxy := (h _ _).mpr ((h _ _).mp hxy).symm
  trans hxy hyz := (h _ _).mpr (((h _ _).mp hxy).trans ((h _ _).mp hyz))

/-! ## Literals with any fields -/

namespace Literal

theorem identifiesFields_isStandard : IdentifiesFields IsStandard :=
  fun _ _ hx hy => hx.beq_eq_true_iff hy

/-- **Equality is identity, and JSON forms tell as much.**  Different literals that are no floats
have different JSON forms, whatever their fields are.  When there is neither `NaN` nor a negative
zero in the fields, such a literal is also equal to itself alone.  Both go for every name. -/
theorem equal_iff_toJson :
    (∀ a b : Literal Float, ¬ a.IsFloat → (a.toJson = b.toJson ↔ a = b))
    ∧ (∀ a b : Literal Float, ¬ a.IsFloat → a.Fields IsStandard → b.Fields IsStandard →
      (a.equal b = true ↔ a = b) ∧ (a.equal b = true ↔ a.toJson = b.toJson))
    ∧ Equivalence (fun a b : { l : Literal Float // ¬ l.IsFloat ∧ l.Fields IsStandard } =>
      a.1.equal b.1 = true)
    ∧ (∀ m n : Name, (m.equal n = true ↔ m = n) ∧ (m.equal n = true ↔ m.toJson = n.toJson))
    ∧ Equivalence (fun m n : Name => m.equal n = true) := by
  have hidentity {a b : Literal Float} (hfloat : ¬ a.IsFloat) (ha : a.Fields IsStandard)
      (hb : b.Fields IsStandard) : a.equal b = true ↔ a = b :=
    equal_eq_true_iff identifiesFields_isStandard hfloat ha hb
  refine ⟨fun a b hfloat => toJson_eq_iff hfloat, fun a b hfloat ha hb => ?_, ?_, ?_, ?_⟩
  · exact ⟨hidentity hfloat ha hb, (hidentity hfloat ha hb).trans (toJson_eq_iff hfloat).symm⟩
  · exact equivalence_of_iff_eq fun a b =>
      (hidentity a.2.1 a.2.2 b.2.2).trans Subtype.ext_iff.symm
  · exact fun m n => ⟨Name.equal_eq_true_iff, Name.equal_eq_true_iff_toJson⟩
  · exact equivalence_of_iff_eq fun m n => Name.equal_eq_true_iff

/-- Dates that are none, bytes of which one list is the beginning of the other, and a text of
digits beside their number. -/
theorem equal_iff_toJson_instances :
    (date ⟨-4, 13, 0.5⟩ : Literal Float).equal (date ⟨-4, 13, 0.5⟩) = true
    ∧ (date ⟨-4, 13, 0.5⟩ : Literal Float).toJson ≠ (date ⟨4, 13, 0.5⟩ : Literal Float).toJson
    ∧ (binary [0] : Literal Float).toJson ≠ (binary [0, 0] : Literal Float).toJson
    ∧ (integer 1 : Literal Float).toJson ≠ (string "1" : Literal Float).toJson := by
  obtain ⟨hjson, hequal, -⟩ := equal_iff_toJson
  have hfields : (date ⟨-4, 13, 0.5⟩ : Literal Float).Fields IsStandard :=
    ⟨⟨rfl, by decide +kernel⟩, ⟨rfl, by decide +kernel⟩, ⟨rfl, by decide +kernel⟩⟩
  have hyears : (-4 : Float) ≠ 4 := by decide +kernel
  refine ⟨(hequal _ _ id hfields hfields).1.mpr rfl, ?_, ?_, ?_⟩
  · simp [hjson _ (date ⟨4, 13, 0.5⟩) (show ¬ (date ⟨-4, 13, 0.5⟩ : Literal Float).IsFloat from id),
      hyears]
  · simp [hjson _ (binary [0, 0]) (show ¬ (binary [0] : Literal Float).IsFloat from id)]
  · simp [hjson _ (string "1") (show ¬ (integer 1 : Literal Float).IsFloat from id)]

/-- A date with `NaN` in it differs from itself, and dates that differ in the sign of a zero alone
are equal although their JSON forms are not. -/
theorem equal_nan_and_zeros :
    (¬ ∀ a b : Literal Float, ¬ a.IsFloat → ¬ b.IsFloat →
      (a.equal b = true ↔ a = b) ∧ (a.equal b = true ↔ a.toJson = b.toJson))
    ∧ (date ⟨0 / 0, 1, 1⟩ : Literal Float).equal (date ⟨0 / 0, 1, 1⟩) = false
    ∧ (date ⟨-0.0, 1, 1⟩ : Literal Float).equal (date ⟨0, 1, 1⟩) = true
    ∧ (date ⟨-0.0, 1, 1⟩ : Literal Float).toJson ≠ (date ⟨0, 1, 1⟩ : Literal Float).toJson := by
  have hnan : (date ⟨0 / 0, 1, 1⟩ : Literal Float).equal (date ⟨0 / 0, 1, 1⟩) = false := rfl
  have hzeros : (-0.0 : Float) ≠ 0 := by decide +kernel
  refine ⟨fun h => ?_, hnan, rfl, ?_⟩
  · exact absurd ((h _ _ id id).1.mpr rfl) (Bool.eq_false_iff.mp hnan)
  · rw [ne_eq, toJson_eq_iff id]
    simp [hzeros]

end Literal
end ODataToken
