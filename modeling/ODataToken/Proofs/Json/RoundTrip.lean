import ODataToken.Proofs.Json.Keys
import ODataToken.Proofs.Json.Number

/-!
# JSON texts read back

The compact text of a value reads back as that value (`Json.read?_render`), with one exception.
JSON has one kind of numbers, so a float reads back as the number that its digits denote, which is
an integer if they have no point and no exponent, and null if the float has no digits
(`Json.readBack`).

A reader stops behind a value at whatever closes it, and it has to be known what that is: nothing, a
comma, or a closing bracket.  No text of a value is read any further because of these (`Closes`).
The induction is on the value, and it carries how much fuel is enough: no more than the text is
long.
-/

set_option autoImplicit false

namespace ODataToken

open Text (StopsAt)

/-! ## Strings -/

namespace CodeUnit

/-- Four hexadecimal digits read back. -/
theorem hexUnit?_unicodeEscape (u : CodeUnit) :
    Json.hexUnit? (hexDigit (u.toNat / 0x1000)) (hexDigit (u.toNat / 0x100 % 16))
      (hexDigit (u.toNat / 16 % 16)) (hexDigit (u.toNat % 16)) = some u := by
  have hdigit : ∀ n < 16, Json.hexValue? (hexDigit n) = some n := by decide
  have hu := u.toNat_lt
  have hsum : ((u.toNat / 0x1000 * 16 + u.toNat / 0x100 % 16) * 16 + u.toNat / 16 % 16) * 16
      + u.toNat % 16 = u.toNat := by omega
  simp only [Json.hexUnit?, hdigit _ (show u.toNat / 0x1000 < 16 by omega),
    hdigit _ (Nat.mod_lt _ (show 0 < 16 by decide)), Option.bind_eq_bind, Option.bind_some, hsum,
    UInt16.ofNat_toNat]
  rfl

end CodeUnit

namespace Json

variable {j : Json} {c t rest content more : Text} {u : CodeUnit}

/-- What a reader of strings returns, with `c` in front of the content. -/
def prepend (c : Text) (read : Option (Text × Text)) : Option (Text × Text) :=
  read.map fun (content, rest) => (c ++ content, rest)

/-- A unit that needs no escape is read as it is. -/
theorem readString_cons (hquote : u ≠ 0x22) (hcontrol : ¬ u < 0x20) (hslash : u ≠ 0x5C)
    (more : Text) : readString (u :: more) = prepend [u] (readString more) := by
  rw [readString.eq_def]
  simp only [if_neg hquote, if_neg hcontrol, if_neg hslash]
  cases readString more <;> rfl

theorem readString_close (rest : Text) : readString (0x22 :: rest) = some ([], rest) := by
  rw [readString.eq_def]
  exact if_pos rfl

/-- A short escape is read as the unit that it stands for. -/
theorem readString_short {e : CodeUnit} (he : e ≠ CodeUnit.ofChar 'u') (h : escaped? e = some u)
    (more : Text) : readString (0x5C :: e :: more) = prepend [u] (readString more) := by
  rw [readString.eq_def]
  simp only [h, if_neg he]
  cases readString more <;> rfl

/-- A long escape is read as the unit with the four digits. -/
theorem readString_unicodeEscape (u : CodeUnit) (more : Text) :
    readString (u.unicodeEscape ++ more) = prepend [u] (readString more) := by
  show readString (0x5C :: CodeUnit.ofChar 'u' :: _ :: _ :: _ :: _ :: more) = _
  rw [readString.eq_def]
  simp only [CodeUnit.hexUnit?_unicodeEscape u]
  cases readString more <;> rfl

/-- **An escaped unit is read as the unit.** -/
theorem readString_escape (u : CodeUnit) (more : Text) :
    readString (u.escape ++ more) = prepend [u] (readString more) := by
  unfold CodeUnit.escape
  split_ifs with hquote hslash hback htab hline hfeed hreturn hlong
  · exact eq_of_beq hquote ▸ readString_short (by decide) (by decide) more
  · exact eq_of_beq hslash ▸ readString_short (by decide) (by decide) more
  · exact eq_of_beq hback ▸ readString_short (by decide) (by decide) more
  · exact eq_of_beq htab ▸ readString_short (by decide) (by decide) more
  · exact eq_of_beq hline ▸ readString_short (by decide) (by decide) more
  · exact eq_of_beq hfeed ▸ readString_short (by decide) (by decide) more
  · exact eq_of_beq hreturn ▸ readString_short (by decide) (by decide) more
  · exact readString_unicodeEscape u more
  · rw [beq_iff_eq] at hquote hslash
    simp only [Bool.or_eq_true, decide_eq_true_eq, not_or] at hlong
    exact readString_cons hquote hlong.1.1 hslash more

/-- A surrogate is no unit that means something in a string. -/
theorem readString_surrogate (h : 0xD800 ≤ u) (more : Text) :
    readString (u :: more) = prepend [u] (readString more) := by
  have hlarge {v : CodeUnit} (hv : v < 0xD800) : u ≠ v :=
    fun heq => absurd (UInt16.lt_of_lt_of_le hv h) (heq ▸ UInt16.lt_irrefl _)
  refine readString_cons (hlarge (by decide)) ?_ (hlarge (by decide)) more
  exact UInt16.not_lt.mpr (UInt16.le_trans (by decide) h)

theorem prepend_some (c t rest : Text) : prepend c (some (t, rest)) = some (c ++ t, rest) := rfl

/-- **A quoted text is read as the text**, up to its closing quote. -/
theorem readString_quote (t rest : Text) :
    readString (t.codePoints.flatMap Text.escapeCodePoint ++ 0x22 :: rest) = some (t, rest) := by
  fun_induction Text.codePoints t with
  | case1 => exact readString_close rest
  | case2 u =>
    rw [List.flatMap_singleton, Text.escapeCodePoint, readString_escape, readString_close]
    rfl
  | case3 u v more hpair ih =>
    simp only [CodeUnit.isHighSurrogate, CodeUnit.isLowSurrogate, Bool.and_eq_true,
      decide_eq_true_eq] at hpair
    rw [List.flatMap_cons, List.append_assoc, Text.escapeCodePoint, List.cons_append,
      readString_surrogate hpair.1.1, List.cons_append,
      readString_surrogate (UInt16.le_trans (by decide) hpair.2.1), List.nil_append, ih,
      prepend_some, prepend_some]
    · rfl
    · simp
  | case4 u v more _ ih =>
    rw [List.flatMap_cons, List.append_assoc, Text.escapeCodePoint, readString_escape, ih,
      prepend_some, List.singleton_append]

/-! ## Values -/

mutual

/-- What the text of a value is read as. -/
def readBack : Json → Json
  | float value => if value.isFinite then numberValue (floatNotation value) else null
  | arr items => arr (readBackItems items)
  | obj fields => obj (readBackFields fields)
  | other => other

/-- What the texts of some values are read as. -/
def readBackItems : List Json → List Json
  | [] => []
  | item :: rest => readBack item :: readBackItems rest

/-- What the texts of some fields are read as. -/
def readBackFields : List (Text × Json) → Fields
  | [] => []
  | (key, value) :: rest => (key, readBack value) :: readBackFields rest

end

/-- Nothing, or something that closes the value before it. -/
def Closes (rest : Text) : Prop :=
  ∀ u ∈ rest.head?, u = CodeUnit.ofChar ',' ∨ u = CodeUnit.ofChar ']' ∨ u = 0x7D

theorem Closes.stopsAt (h : Closes rest) : StopsAt continuesNumber rest := by
  intro u hu
  rcases h u hu with rfl | rfl | rfl <;> decide

theorem skipSpace_cons (h : isSpace u = false) (t : Text) : skipSpace (u :: t) = u :: t :=
  List.dropWhile_cons_of_neg (by rw [h]; decide)

/-- A number begins with a digit or a minus. -/
theorem IsNumber.exists_cons (h : IsNumber t) :
    ∃ u t', t = u :: t' ∧ (u.isDigit = true ∨ u = CodeUnit.ofChar '-') := by
  obtain ⟨sign, whole, fraction, exponent, rfl, rfl | rfl, hwhole, -⟩ := h
  · rcases hwhole with rfl | ⟨⟨hne, hdigits⟩, -⟩
    · exact ⟨_, _, rfl, .inl rfl⟩
    · obtain ⟨u, t', rfl⟩ := List.exists_cons_of_ne_nil hne
      exact ⟨u, _, rfl, .inl (hdigits u List.mem_cons_self)⟩
  · exact ⟨_, _, rfl, .inr rfl⟩

/-- A unit that a number begins with is none that means something else. -/
theorem ne_of_beginsNumber (hu : u.isDigit = true ∨ u = CodeUnit.ofChar '-') {v : CodeUnit}
    (hdigit : v.isDigit = false) (hminus : v ≠ CodeUnit.ofChar '-') : u ≠ v := by
  rintro rfl
  rcases hu with hu | hu
  · rw [hu] at hdigit
    cases hdigit
  · exact hminus hu

theorem isSpace_of_beginsNumber (hu : u.isDigit = true ∨ u = CodeUnit.ofChar '-') :
    isSpace u = false := by
  simp only [isSpace, Bool.or_eq_false_iff, beq_eq_false_iff_ne]
  refine ⟨⟨⟨?_, ?_⟩, ?_⟩, ?_⟩ <;> exact ne_of_beginsNumber hu rfl (by decide)

/-- A number is read as one, and as nothing else. -/
theorem readValue_number (h : IsNumber t) (fuel : Nat) (hrest : Closes rest) :
    readValue .lenient (fuel + 1) (t ++ rest) = some (numberValue t, rest) := by
  obtain ⟨u, t', rfl, hu⟩ := h.exists_cons
  have hne {v : CodeUnit} := @ne_of_beginsNumber u hu v
  have hprefix {c : CodeUnit} (hc : u ≠ c) (word : Text) :
      (c :: word).isPrefixOf (u :: (t' ++ rest)) = false := by
    rw [List.isPrefixOf_cons_cons, beq_eq_false_iff_ne.mpr hc.symm, Bool.false_and]
  have hword : readWord (u :: (t' ++ rest)) = none := by
    rw [readWord, if_neg, if_neg, if_neg]
    all_goals exact Bool.not_eq_true _ ▸ hprefix (hne rfl (by decide)) _
  rw [readValue, List.cons_append, skipSpace_cons (isSpace_of_beginsNumber hu)]
  simp only [if_neg (hne (v := 0x22) rfl (by decide)),
    if_neg (hne (v := CodeUnit.ofChar '[') rfl (by decide)),
    if_neg (hne (v := 0x7B) rfl (by decide)), hword, Option.orElse_none]
  rw [← List.cons_append]
  exact readNumber_append h hrest.stopsAt

theorem readValue_null (fuel : Nat) (rest : Text) :
    readValue .lenient (fuel + 1) (("null" : Text) ++ rest) = some (.null, rest) := by
  rw [readValue]
  rfl

theorem readValue_bool (fuel : Nat) (value : Bool) (rest : Text) :
    readValue .lenient (fuel + 1) (render (.bool value) ++ rest) = some (.bool value, rest) := by
  cases value with
  | true => rw [readValue]; rfl
  | false => rw [readValue]; rfl

theorem quote_append (value rest : Text) :
    value.quote ++ rest
      = 0x22 :: (value.codePoints.flatMap Text.escapeCodePoint ++ 0x22 :: rest) := by
  rw [Text.quote, List.append_assoc]
  rfl

theorem readValue_str (fuel : Nat) (value rest : Text) :
    readValue .lenient (fuel + 1) (value.quote ++ rest) = some (.str value, rest) := by
  rw [quote_append, readValue, skipSpace_cons (by decide)]
  simp only [if_true, readString_quote, Option.map_some]

theorem readKey_quote (key more : Text) :
    readKey .lenient (key.quote ++ CodeUnit.ofChar ':' :: more) = some (key, more) := by
  have hspace : (CodeUnit.ofChar ':' :: more).dropWhile Rules.lenient.isKeySpace
      = CodeUnit.ofChar ':' :: more := List.dropWhile_cons_of_neg (by decide)
  rw [quote_append, readKey, skipSpace_cons (by decide)]
  simp only [readString_quote, hspace, guard_true, Option.bind_eq_bind, Option.bind_some]
  rfl

theorem readSeparator_more (closing : CodeUnit) (rest : Text) :
    readSeparator closing (CodeUnit.ofChar ',' :: rest) = some (true, rest) := by
  rw [readSeparator, skipSpace_cons (by decide)]
  exact if_pos rfl

theorem readSeparator_close (closing : CodeUnit) (hspace : isSpace closing = false)
    (hcomma : closing ≠ CodeUnit.ofChar ',') (rest : Text) :
    readSeparator closing (closing :: rest) = some (false, rest) := by
  rw [readSeparator, skipSpace_cons hspace]
  simp only [if_neg hcomma, if_true]

/-! ## Whole values -/

/-- The value's text is read as it should be, whatever closes it. -/
def ReadsBack (j : Json) : Prop :=
  ∀ (fuel : Nat) (rest : Text), (render j).length ≤ fuel → Closes rest →
    readValue .lenient fuel (render j ++ rest) = some (j.readBack, rest)

theorem closes_cons (hu : u = CodeUnit.ofChar ',' ∨ u = CodeUnit.ofChar ']' ∨ u = 0x7D) (t : Text) :
    Closes (u :: t) := by
  intro v hv
  obtain rfl : u = v := Option.some.inj hv
  exact hu

theorem renderItems_cons_cons (item next : Json) (others : List Json) :
    renderItems (item :: next :: others)
      = render item ++ CodeUnit.ofChar ',' :: renderItems (next :: others) := by
  rw [renderItems, List.append_assoc]
  · rfl
  · nofun

theorem renderFields_cons_cons (field next : Text × Json) (others : Fields) :
    renderFields (field :: next :: others)
      = field.1.quote ++ CodeUnit.ofChar ':'
          :: (render field.2 ++ CodeUnit.ofChar ',' :: renderFields (next :: others)) := by
  rw [renderFields, List.append_assoc, List.append_assoc, List.append_assoc]
  · rfl
  · nofun

/-- **The items of a list are read one after another**, up to the bracket. -/
theorem readItems_render {items : List Json} (hne : items ≠ [])
    (h : ∀ item ∈ items, ReadsBack item) {fuel : Nat} (hfuel : (renderItems items).length < fuel)
    (rest : Text) :
    readItems .lenient fuel (renderItems items ++ CodeUnit.ofChar ']' :: rest)
      = some (readBackItems items, rest) := by
  induction items generalizing fuel with
  | nil => exact absurd rfl hne
  | cons item more ih =>
    obtain ⟨hitem, hmore⟩ := List.forall_mem_cons.mp h
    obtain ⟨fuel, rfl⟩ : ∃ k, fuel = k + 1 := ⟨fuel - 1, by omega⟩
    cases more with
    | nil =>
      rw [renderItems] at hfuel ⊢
      rw [readItems, hitem fuel _ (by omega) (closes_cons (.inr (.inl rfl)) rest)]
      simp only [Option.bind_eq_bind, Option.bind_some,
        readSeparator_close (CodeUnit.ofChar ']') (by decide) (by decide)]
      rfl
    | cons next others =>
      rw [renderItems_cons_cons, List.length_append, List.length_cons] at hfuel
      have hothers := ih (List.cons_ne_nil _ _) hmore (show _ < fuel by omega)
      rw [renderItems_cons_cons, List.append_assoc, List.cons_append, readItems,
        hitem fuel _ (by omega) (closes_cons (.inl rfl) _)]
      simp only [Option.bind_eq_bind, Option.bind_some, readSeparator_more, if_true, hothers]
      rfl

theorem insert_of_notMem {key : Text} {value : Json} {fields : Fields}
    (h : key ∉ fields.map Prod.fst) : insert key value fields = fields ++ [(key, value)] := by
  induction fields with
  | nil => rfl
  | cons field fields ih =>
    rw [List.map_cons, List.mem_cons, not_or] at h
    rw [insert, if_neg (Ne.symm h.1), ih h.2, List.cons_append]

/-- One field is read, and written behind those that are there. -/
theorem readFields_succ {key : Text} {value : Json} {sofar : Fields} {fuel : Nat}
    (hnew : key ∉ sofar.map Prod.fst) (hvalue : ReadsBack value)
    (hfuel : (render value).length ≤ fuel) (hrest : Closes rest) :
    readFields .lenient (fuel + 1) sofar
        (key.quote ++ CodeUnit.ofChar ':' :: (render value ++ rest))
      = (readSeparator 0x7D rest).bind fun (more, rest) =>
          if more then readFields .lenient fuel (sofar ++ [(key, readBack value)]) rest
          else some (sofar ++ [(key, readBack value)], rest) := by
  have hguard : (Rules.lenient.allowRepeats || (lookup? key sofar).isNone) = true := rfl
  rw [readFields, readKey_quote]
  simp only [Option.bind_eq_bind, Option.bind_some, hguard, guard_true,
    hvalue fuel rest hfuel hrest, insert_of_notMem hnew]
  rfl

/-- **The fields of a record are read one after another**, up to the bracket. -/
theorem readFields_render {fields sofar : Fields} (hne : fields ≠ [])
    (hkeys : ((sofar ++ fields).map Prod.fst).Nodup) (h : ∀ field ∈ fields, ReadsBack field.2)
    {fuel : Nat} (hfuel : (renderFields fields).length < fuel) (rest : Text) :
    readFields .lenient fuel sofar (renderFields fields ++ 0x7D :: rest)
      = some (sofar ++ readBackFields fields, rest) := by
  induction fields generalizing fuel sofar with
  | nil => exact absurd rfl hne
  | cons field more ih =>
    obtain ⟨key, value⟩ := field
    obtain ⟨hfirst, hmore⟩ := List.forall_mem_cons.mp h
    have hvalue : ReadsBack value := hfirst
    obtain ⟨fuel, rfl⟩ : ∃ k, fuel = k + 1 := ⟨fuel - 1, by omega⟩
    have hnew : key ∉ sofar.map Prod.fst := by
      rw [List.map_append, List.nodup_append] at hkeys
      exact fun hmem => hkeys.2.2 _ hmem _ List.mem_cons_self rfl
    cases more with
    | nil =>
      rw [renderFields, List.length_append, List.length_append] at hfuel
      rw [renderFields, List.append_assoc, List.append_assoc]
      refine (readFields_succ hnew hvalue (by omega) (closes_cons (.inr (.inr rfl)) rest)).trans ?_
      rw [readSeparator_close 0x7D (by decide) (by decide)]
      rfl
    | cons next others =>
      rw [renderFields_cons_cons, List.length_append, List.length_cons, List.length_append,
        List.length_cons] at hfuel
      dsimp only at hfuel
      have hkeys' : ((sofar ++ [(key, readBack value)] ++ next :: others).map Prod.fst).Nodup := by
        rw [List.append_assoc, List.map_append]
        rwa [List.map_append] at hkeys
      have hothers := ih (List.cons_ne_nil _ _) hkeys' hmore (show _ < fuel by omega)
      rw [renderFields_cons_cons, List.append_assoc, List.cons_append, List.append_assoc,
        List.cons_append, readFields_succ hnew hvalue (by omega) (closes_cons (.inl rfl) _),
        readSeparator_more]
      simp only [Option.bind_some, if_true, hothers, List.append_assoc]
      rfl

/-- Fuel for a text that is not empty is fuel for one step. -/
theorem exists_fuel {fuel : Nat} (hne : t ≠ []) (h : t.length ≤ fuel) : ∃ k, fuel = k + 1 := by
  have := List.length_pos_iff.mpr hne
  exact ⟨fuel - 1, by omega⟩

theorem readsBack_number {number : Text} (h : IsNumber number) (hrender : render j = number)
    (hvalue : numberValue number = j.readBack) : ReadsBack j := by
  intro fuel rest hfuel hrest
  obtain ⟨u, t', ht, -⟩ := h.exists_cons
  rw [hrender] at hfuel ⊢
  obtain ⟨fuel, rfl⟩ := exists_fuel (ht ▸ List.cons_ne_nil u t') hfuel
  rw [readValue_number h fuel hrest, hvalue]

theorem readsBack_null {fuel : Nat} (hfuel : (render null).length ≤ fuel) (rest : Text) :
    readValue .lenient fuel (render null ++ rest) = some (null, rest) := by
  obtain ⟨fuel, rfl⟩ := exists_fuel (t := render null) (by decide) hfuel
  exact readValue_null fuel rest

/-- A float is read as a number, or as null if it is not finite. -/
theorem readsBack_float (value : Float) : ReadsBack (float value) := by
  by_cases h : value.isFinite = true
  · exact readsBack_number (j := float value) (isNumber_floatNotation value) (if_pos h)
      (by rw [readBack, if_pos h])
  · intro fuel rest hfuel _
    have hrender : render (float value) = render null := if_neg h
    rw [hrender] at hfuel ⊢
    rw [readsBack_null hfuel, readBack, if_neg h]

/-- The text of a value begins with a unit that is no white space and no closing bracket. -/
theorem exists_render_eq_cons (j : Json) :
    ∃ u t, render j = u :: t ∧ isSpace u = false ∧ u ≠ CodeUnit.ofChar ']' := by
  have hnumber {number : Text} (h : IsNumber number) :
      ∃ u t, number = u :: t ∧ isSpace u = false ∧ u ≠ CodeUnit.ofChar ']' := by
    obtain ⟨u, t, ht, hu⟩ := h.exists_cons
    exact ⟨u, t, ht, isSpace_of_beginsNumber hu, ne_of_beginsNumber hu rfl (by decide)⟩
  cases j with
  | null => exact ⟨_, _, rfl, by decide, by decide⟩
  | bool value => cases value <;> exact ⟨_, _, rfl, by decide, by decide⟩
  | int value => exact hnumber (isNumber_ofInt value)
  | float value =>
    by_cases h : value.isFinite = true
    · rw [show render (float value) = floatNotation value from if_pos h]
      exact hnumber (isNumber_floatNotation value)
    · exact ⟨_, _, if_neg h, by decide, by decide⟩
  | str value => exact ⟨_, _, rfl, by decide, by decide⟩
  | arr items => exact ⟨_, _, rfl, by decide, by decide⟩
  | obj fields => exact ⟨_, _, rfl, by decide, by decide⟩

theorem exists_renderItems_eq_cons {items : List Json} (hne : items ≠ []) :
    ∃ u t, renderItems items = u :: t ∧ isSpace u = false ∧ u ≠ CodeUnit.ofChar ']' := by
  obtain ⟨item, more, rfl⟩ := List.exists_cons_of_ne_nil hne
  obtain ⟨u, t, ht, hu⟩ := exists_render_eq_cons item
  cases more with
  | nil => exact ⟨u, t, ht, hu⟩
  | cons next others => exact ⟨u, _, by rw [renderItems_cons_cons, ht]; rfl, hu⟩

theorem exists_renderFields_eq_cons {fields : Fields} (hne : fields ≠ []) :
    ∃ t, renderFields fields = 0x22 :: t := by
  obtain ⟨⟨key, value⟩, more, rfl⟩ := List.exists_cons_of_ne_nil hne
  cases more with
  | nil => exact ⟨_, rfl⟩
  | cons next others => exact ⟨_, by rw [renderFields_cons_cons]; rfl⟩

theorem render_arr (items : List Json) :
    render (arr items) = CodeUnit.ofChar '[' :: (renderItems items ++ [CodeUnit.ofChar ']']) := by
  rw [render, List.append_assoc]
  rfl

theorem render_obj (fields : Fields) :
    render (obj fields) = 0x7B :: (renderFields fields ++ [0x7D]) := by
  rw [render, List.append_assoc]
  rfl

theorem readsBack_arr {items : List Json} (ih : ∀ item ∈ items, ReadsBack item) :
    ReadsBack (arr items) := by
  intro fuel rest hfuel _
  rw [render_arr, List.length_cons, List.length_append, List.length_singleton] at hfuel
  obtain ⟨fuel, rfl⟩ : ∃ k, fuel = k + 1 := ⟨fuel - 1, by omega⟩
  rw [render_arr, List.cons_append, List.append_assoc, List.singleton_append, readValue,
    skipSpace_cons (by decide)]
  rcases eq_or_ne items [] with rfl | hne
  · rfl
  · obtain ⟨u, t, ht, hspace, hclose⟩ := exists_renderItems_eq_cons hne
    have hitems := readItems_render hne ih (show _ < fuel by omega) rest
    rw [ht, List.cons_append] at hitems ⊢
    simp only [skipSpace_cons hspace, if_neg hclose, hitems]
    rfl

theorem readsBack_obj {fields : Fields} (hkeys : (fields.map Prod.fst).Nodup)
    (ih : ∀ field ∈ fields, ReadsBack field.2) : ReadsBack (obj fields) := by
  intro fuel rest hfuel _
  rw [render_obj, List.length_cons, List.length_append, List.length_singleton] at hfuel
  obtain ⟨fuel, rfl⟩ : ∃ k, fuel = k + 1 := ⟨fuel - 1, by omega⟩
  rw [render_obj, List.cons_append, List.append_assoc, List.singleton_append, readValue,
    skipSpace_cons (by decide)]
  rcases eq_or_ne fields [] with rfl | hne
  · rfl
  · obtain ⟨t, ht⟩ := exists_renderFields_eq_cons hne
    have hfields : readFields .lenient fuel [] (renderFields fields ++ 0x7D :: rest)
        = some (readBackFields fields, rest) :=
      @readFields_render fields [] hne hkeys ih fuel (by omega) rest
    rw [ht, List.cons_append] at hfields ⊢
    simp only [skipSpace_cons (show isSpace 0x22 = false by decide), hfields]
    rfl

/-- **The text of a value is read as what it should be**, whatever closes it. -/
theorem HasDistinctKeys.readsBack (h : j.HasDistinctKeys) : ReadsBack j := by
  induction h with
  | null => exact fun fuel rest hfuel _ => readsBack_null hfuel rest
  | bool value =>
    intro fuel rest hfuel _
    obtain ⟨fuel, rfl⟩ := exists_fuel (by cases value <;> decide) hfuel
    exact readValue_bool fuel value rest
  | int value =>
    exact readsBack_number (j := Json.int value) (isNumber_ofInt value) rfl
      (numberValue_ofInt value)
  | float value => exact readsBack_float value
  | str value =>
    intro fuel rest hfuel _
    obtain ⟨fuel, rfl⟩ := exists_fuel (show render (Json.str value) ≠ [] from nofun) hfuel
    exact readValue_str fuel value rest
  | arr _ ih => exact readsBack_arr ih
  | obj hkeys _ ih => exact readsBack_obj hkeys ih

/-- **The compact text of a value reads back as the value**, up to floats. -/
theorem read?_render (h : j.HasDistinctKeys) : read? (render j) = some j.readBack := by
  have hread := h.readsBack (2 * (render j).length + 2) [] (by omega) nofun
  rw [List.append_nil] at hread
  rw [read?, readWhole?, hread]
  rfl

end Json
end ODataToken
