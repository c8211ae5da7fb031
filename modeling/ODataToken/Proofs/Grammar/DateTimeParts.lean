import ODataToken.Proofs.Grammar.Calendar
import ODataToken.Proofs.Parser.Checks

/-!
# A date with a time agrees with its parts

A date with a time is not read by the parsers of a date, a time of day and an offset one after the
other.  Their shapes are read first, all three, and only then are the fields checked, so that a
token that merely begins like a date with a time fails on its shape.  There are two ways to the same
value, and they could come apart in what they accept, in where they stop and in which field they
blame.

They do not (`dateTimeOffset_of_parts`).  The literal is read where its parts are, with the values
that these have.  It fails on the domain where the shapes of its date and time are there and one of
the parts fails on its domain, and the failure is that of the first such part.  What makes the
failures agree is that a check always names the field that it blames: the two ways start at
different positions, and a rejection without a place would be put there.
-/

set_option autoImplicit false

namespace ODataToken

open ODataToken.Parser

namespace Grammar

variable {input : Text} {pos p q stop : Nat}

instance : ShapeOnly dateShape := .of_map DateShape.toDate (dateShape_map_toDate ▸ inferInstance)

instance : ShapeOnly timeShape := .of_map TimeShape.fields (timeShape_map_fields ▸ inferInstance)

instance : ShapeOnly offsetShape :=
  .of_map OffsetShape.fields (offsetShape_map_fields ▸ inferInstance)

/-! ## Checks name the field that they blame -/

theorem checkRange_placed {f : Spanned Nat} {least greatest : Nat} {what : Text} :
    Placed (checkRange f least greatest what) := by
  intro r h
  unfold checkRange at h
  split at h
  · cases h
  · cases h
    exact Option.some_ne_none _

theorem checkTime_placed {t : TimeShape} : Placed (checkTime t) := by
  refine .bind checkRange_placed fun _ => .bind checkRange_placed fun _ => ?_
  split
  · exact .bind checkRange_placed fun _ => .ok _
  · exact .ok _

theorem checkOffset_placed {o : OffsetShape} : Placed (checkOffset o) := by
  cases o with
  | utc => exact .ok _
  | signed sign hour minute =>
    exact .bind checkRange_placed fun _ => .bind checkRange_placed fun _ => .ok _

/-- The check of a date with a time rejects what the first of the three checks rejects. -/
theorem rejection?_checkDateTime (d : DateShape) (t : TimeShape) (o : Option OffsetShape) :
    rejection? (checkDateTime d t o)
      = (rejection? (checkDate d)).or
          ((rejection? (checkTime t)).or (rejection? (checkOffset (o.getD .utc)))) := by
  rw [checkDateTime]
  cases checkDate d with
  | error r => rfl
  | ok date =>
    cases checkTime t with
    | error r => rfl
    | ok time => cases checkOffset (o.getD .utc) <;> rfl

/-! ## Where the parts stand -/

/-- A `T` in either case stands at a position. -/
def MarkAt (input : Text) (pos : Nat) : Prop := ∃ mark ∈ input[pos]?, mark ∈ Text.ofString "Tt"

/-- The shape of a date goes from `pos` to `p`, a `T` follows, and then the shape of a time of day
up to `q`.  Nothing is said about ranges. -/
structure ShapesAt (input : Text) (pos p q : Nat) : Prop where
  date : ∃ d, dateShape.run input pos = .ok d p
  mark : MarkAt input p
  time : ∃ t, timeShape.run input (p + 1) = .ok t q

/-- A date, a `T` and a time of day go from `pos` to `q`, and then an offset up to `stop`.  Without
an offset the date with its time ends at `q`, and it is in UTC. -/
structure PartsAt (input : Text) (pos p q stop : Nat) (v : DateTimeOffset) : Prop where
  date : calendarDate.run input pos = .ok v.date p
  mark : MarkAt input p
  time : timeOfDay.run input (p + 1) = .ok v.time q
  offset : utcOffset.run input q = .ok v.offsetMinutes stop
    ∨ (∃ f, utcOffset.run input q = .fail f ∧ f.kind = .shape) ∧ v.offsetMinutes = 0 ∧ stop = q

/-- The failure of the first of the three parts that fails on its domain. -/
def partsFailure? (input : Text) (pos p q : Nat) : Option Failure :=
  (calendarDate.run input pos).domainFailure?.or
    ((timeOfDay.run input (p + 1)).domainFailure?.or (utcOffset.run input q).domainFailure?)

/-- The mark between the date and the time is one unit. -/
theorem exists_keyword_T_run_iff :
    (∃ value, (keyword "T").run input pos = .ok value stop)
      ↔ stop = pos + 1 ∧ MarkAt input pos := by
  have hmark (u : CodeUnit) : u.lower = 0x74 ↔ u ∈ Text.ofString "Tt" := by
    have htext : Text.ofString "Tt" = [0x54, 0x74] := by decide
    rw [htext, List.mem_cons, List.mem_singleton]
    refine ⟨fun h => (CodeUnit.eq_or_eq_of_lower_eq h).symm, ?_⟩
    rintro (rfl | rfl) <;> decide
  have hdrop {u : CodeUnit} : (∃ r, input.drop pos = [u] ++ r) ↔ input[pos]? = some u := by
    rw [← List.head?_drop, List.head?_eq_some_iff]
    rfl
  simp only [run_eq_ok_iff_reads, MarkAt, Option.mem_def, ← hdrop, ← hmark]
  constructor
  · rintro ⟨value, c, r, hw, rfl, hT⟩
    obtain ⟨u, -, rfl, hu⟩ := (keyword_singleton_reads_iff (by decide)).mp hT
    exact ⟨rfl, u, ⟨r, hw⟩, hu⟩
  · rintro ⟨rfl, u, ⟨r, hw⟩, hu⟩
    exact ⟨[u], [u], r, hw, rfl, (keyword_singleton_reads_iff (by decide)).mpr ⟨u, rfl, rfl, hu⟩⟩

/-- The shape of a date with a time is there where the shapes of its parts are. -/
theorem dateTimeShape_run_eq_ok_iff {x : DateShape × TimeShape × Option OffsetShape} :
    (seq3 dateShape (preceded (keyword "T") timeShape) (optional offsetShape)).run input pos
        = .ok x stop
      ↔ ∃ p q, dateShape.run input pos = .ok x.1 p ∧ MarkAt input p
          ∧ timeShape.run input (p + 1) = .ok x.2.1 q
          ∧ (optional offsetShape).run input q = .ok x.2.2 stop := by
  simp only [seq3_run_eq_ok_iff, preceded_run_eq_ok_iff]
  constructor
  · rintro ⟨p, q, hdate, ⟨value, mid, hT, htime⟩, hoffset⟩
    obtain ⟨rfl, hmark⟩ := exists_keyword_T_run_iff.mp ⟨value, hT⟩
    exact ⟨p, q, hdate, hmark, htime, hoffset⟩
  · rintro ⟨p, q, hdate, hmark, htime, hoffset⟩
    obtain ⟨value, hT⟩ := exists_keyword_T_run_iff.mpr ⟨rfl, hmark⟩
    exact ⟨p, q, hdate, ⟨value, p + 1, hT, htime⟩, hoffset⟩

/-- An optional offset that passes its check is an offset, or there is none and it is UTC. -/
theorem optional_offset_iff {minutes : Int} :
    (∃ o, (optional offsetShape).run input q = .ok o stop
        ∧ checkOffset (o.getD .utc) = .ok minutes)
      ↔ utcOffset.run input q = .ok minutes stop
        ∨ (∃ f, utcOffset.run input q = .fail f ∧ f.kind = .shape) ∧ minutes = 0 ∧ stop = q := by
  rw [utcOffset, tryMap_fails_on_shape_iff, tryMap_run_eq_ok_iff]
  simp only [optional_run_eq_ok_iff]
  constructor
  · rintro ⟨_, ⟨o, rfl, ho⟩ | ⟨rfl, rfl, hnone⟩, hcheck⟩
    · exact .inl ⟨o, ho, hcheck⟩
    · exact .inr ⟨hnone, (Except.ok.inj hcheck).symm, rfl⟩
  · rintro (⟨o, ho, hcheck⟩ | ⟨hnone, rfl, rfl⟩)
    · exact ⟨some o, .inl ⟨o, rfl, ho⟩, hcheck⟩
    · exact ⟨none, .inr ⟨rfl, rfl, hnone⟩, rfl⟩

/-- An offset fails on the domain as the check of the optional one does. -/
theorem utcOffset_domainFailure? {o : Option OffsetShape}
    (ho : (optional offsetShape).run input q = .ok o stop) :
    (utcOffset.run input q).domainFailure?
      = (rejection? (checkOffset (o.getD .utc))).map (Rejection.failureFrom q) := by
  rcases optional_run_eq_ok_iff.mp ho with ⟨o, rfl, hsome⟩ | ⟨rfl, -, hnone⟩
  · exact tryMap_domainFailure? hsome
  · have hshape : ∃ f, utcOffset.run input q = .fail f ∧ f.kind = .shape :=
      tryMap_fails_on_shape_iff.mpr hnone
    obtain ⟨f, hf, hkind⟩ := hshape
    rw [hf, Result.domainFailure?, hkind]
    rfl

/-- Where the shapes are there, the parts fail on the domain as the check of the whole does. -/
theorem partsFailure?_eq {d : DateShape} {t : TimeShape} {o : Option OffsetShape}
    (hdate : dateShape.run input pos = .ok d p) (htime : timeShape.run input (p + 1) = .ok t q)
    (hoffset : (optional offsetShape).run input q = .ok o stop) :
    partsFailure? input pos p q
      = (rejection? (checkDateTime d t o)).map (Rejection.failureFrom pos) := by
  rw [partsFailure?, calendarDate, tryMap_domainFailure? hdate, timeOfDay,
    tryMap_domainFailure? htime, utcOffset_domainFailure? hoffset,
    checkTime_placed.map_failureFrom (p + 1) pos,
    checkOffset_placed.map_failureFrom q pos, ← Option.map_or, ← Option.map_or,
    ← rejection?_checkDateTime]

theorem dateTimeOffset_run_eq_ok_iff {l : Literal} :
    dateTimeOffset.run input pos = .ok l stop
      ↔ ∃ v p q, l = .dateTimeOffset v ∧ PartsAt input pos p q stop v := by
  simp only [dateTimeOffset, label_run_eq_ok_iff, tryMap_run_eq_ok_iff, dateTimeShape_run_eq_ok_iff,
    map_eq_ok_iff, checkDateTime_eq_ok_iff]
  constructor
  · rintro ⟨⟨d, t, o⟩, ⟨p, q, hd, hmark, ht, ho⟩, v, ⟨hdate, htime, hoffset⟩, rfl⟩
    exact ⟨v, p, q, rfl, tryMap_run_eq_ok_iff.mpr ⟨d, hd, hdate⟩, hmark,
      tryMap_run_eq_ok_iff.mpr ⟨t, ht, htime⟩, optional_offset_iff.mp ⟨o, ho, hoffset⟩⟩
  · rintro ⟨v, p, q, rfl, hparts⟩
    obtain ⟨d, hd, hdate⟩ := tryMap_run_eq_ok_iff.mp hparts.date
    obtain ⟨t, ht, htime⟩ := tryMap_run_eq_ok_iff.mp hparts.time
    obtain ⟨o, ho, hoffset⟩ := optional_offset_iff.mpr hparts.offset
    exact ⟨(d, t, o), ⟨p, q, hd, hparts.mark, ht, ho⟩, v, ⟨hdate, htime, hoffset⟩, rfl⟩

/-- The optional offset never fails, so the shape of the whole is there where those of the date and
the time are. -/
theorem dateTimeOffset_domainFailure?_iff {f : Failure} :
    (dateTimeOffset.run input pos).domainFailure? = some f
      ↔ ∃ p q, ShapesAt input pos p q ∧ partsFailure? input pos p q = some f := by
  rw [dateTimeOffset, label_domainFailure?, tryMap_domainFailure?_eq_some_iff]
  simp only [dateTimeShape_run_eq_ok_iff, rejection?_map]
  constructor
  · rintro ⟨⟨d, t, o⟩, stop, ⟨p, q, hd, hmark, ht, ho⟩, hf⟩
    exact ⟨p, q, ⟨⟨d, hd⟩, hmark, ⟨t, ht⟩⟩, (partsFailure?_eq hd ht ho).trans hf⟩
  · rintro ⟨p, q, ⟨⟨d, hd⟩, hmark, ⟨t, ht⟩⟩, hf⟩
    obtain ⟨o, stop, ho⟩ := exists_optional_run_eq_ok offsetShape input q
    exact ⟨(d, t, o), stop, ⟨p, q, hd, hmark, ht, ho⟩, (partsFailure?_eq hd ht ho).symm.trans hf⟩

/-- **A date with a time agrees with its parts.**  It is read where a date, a `T`, a time of day and
perhaps an offset are, with their values, and ends where they end.  It fails on the domain where the
shapes of the date and the time are there and one of the parts fails on its domain, and its failure
is that of the first such part. -/
theorem dateTimeOffset_of_parts (input : Text) (pos : Nat) :
    (∀ l stop, dateTimeOffset.run input pos = .ok l stop
        ↔ ∃ v p q, l = .dateTimeOffset v ∧ PartsAt input pos p q stop v)
      ∧ ∀ f, (dateTimeOffset.run input pos).domainFailure? = some f
        ↔ ∃ p q, ShapesAt input pos p q ∧ partsFailure? input pos p q = some f :=
  ⟨fun _ _ => dateTimeOffset_run_eq_ok_iff, fun _ => dateTimeOffset_domainFailure?_iff⟩

/-- Of an impossible day and an impossible hour the day is to blame, which comes first. -/
example : dateTimeOffset.run "2023-02-29T25:00Z" 0
    = .fail (.domain 8 "a day between 01 and 28 for 2023-02") := by rfl

end Grammar
end ODataToken
