import ODataToken.Proofs.Grammar.Bounded

/-!
# Where literals fail on their shape

Most kinds of literal are told by the first unit, and their parsers fail at once on a text that
begins with another one.  Four kinds can get farther and then fail on the shape:

* a duration and a GUID can fail anywhere;
* a string fails at the end of the text, where its closing apostrophe is missing
  (`string_run_of_refuses`);
* a date and a number fail behind a sign that no digit follows.

A label is what a parser expects that fails at once, and is not seen otherwise
(`label_run_of_fail`).
-/

set_option autoImplicit false

namespace ODataToken

open CodeUnit (apostrophe hyphen)

/-! ## Failures of the first part -/

namespace Parser

variable {α β : Type} {p : Parser α} {q : Parser β} {accepts : CharClass}
  {units : CodeUnit → Bool} {w c r e expected : Text} {n : Nat} {a : α}

theorem seq_run_of_fail {f : Failure} (h : p.run w 0 = .fail f) :
    (p.seq q).run w 0 = .fail f := by
  simp [seq, h]

theorem recognize_run_of_fail {f : Failure} (h : p.run w 0 = .fail f) :
    (recognize p).run w 0 = .fail f := by
  simp [recognize, h]

theorem commit_run_of_fail {f : Failure} (h : p.run w 0 = .fail f) :
    (commit p).run w 0 = .fail (.domain f.pos f.expected) := by
  simp [commit, h]

theorem label_run_of_fail (h : p.run w 0 = .fail (.shape n e)) :
    (label p expected).run w 0 = .fail (.shape n (if n = 0 then expected else e)) := by
  by_cases hn : n = 0 <;> simp [label, h, hn]

/-- A label does not hide a failure on the domain. -/
theorem label_run_of_domain {f : Failure} (h : p.run w 0 = .fail f) (hkind : f.kind = .domain) :
    (label p expected).run w 0 = .fail f := by
  simp [label, h, hkind]

/-- Where a label fails on its shape at the start, the label is expected. -/
theorem expected_of_label {f : Failure} (h : (label p expected).run w 0 = .fail f)
    (hkind : f.kind = .shape) (hpos : f.pos = 0) : f.expected = expected := by
  simp only [label] at h
  split at h
  · cases h
  · split at h
    · rename_i hf
      cases h
      rcases hf with hf | hf
      · rw [hkind] at hf; cases hf
      · exact absurd hpos hf
    · cases h; rfl

/-- A run of fixed length fails at once if the first unit is not in the class. -/
theorem takeExactly_run_of_stopsAt (hclass : accepts.OfSingleUnits units) (expected : Text)
    (hn : 0 < n) (h : Text.StopsAt units w) :
    (takeExactly accepts n expected).run w 0 = .fail (.shape 0 expected) := by
  rcases refuses_or_reads (takeExactly accepts n expected) w with
    ⟨f, hf⟩ | ⟨v, c, r, rfl, hreads⟩
  · rw [hf]
    simp only [takeExactly, takeBetween] at hf
    split at hf <;> cases hf
    rfl
  · obtain ⟨-, hlen, hall⟩ := (takeExactly_reads_iff hclass).mp hreads
    cases c with
    | nil => exact absurd hlen (Nat.ne_of_lt hn)
    | cons u c =>
      have hu := hall u List.mem_cons_self
      rw [h u rfl] at hu
      cases hu

/-- What the second of two parsers fails with behind what the first has read. -/
theorem seq_run_of_reads [Plain q] {f : Failure} (hp : p.Reads a c r) (hq : q.run r 0 = .fail f) :
    (p.seq q).run (c ++ r) 0 = .fail ⟨f.kind, c.length + f.pos, f.expected⟩ := by
  show (p.run (c ++ r) 0).andThen _ = _
  rw [hp, Result.andThen_ok, run_append, hq]
  rfl

/-- What is optional is skipped where it fails on the shape. -/
theorem optional_seq_run_of_fail {f : Failure} (hp : p.run w 0 = .fail (.shape n e))
    (hq : q.run w 0 = .fail f) : ((optional p).seq q).run w 0 = .fail f := by
  simp [seq, optional, hp, hq]

end Parser

/-! ## Kinds that are told by the first unit -/

namespace Grammar

open ODataToken.Parser

variable {w e : Text} {n : Nat} {options : LiteralOptions}

/-- A keyword of another first letter is not there. -/
theorem keyword_run_of_head {x : CodeUnit} {s : Text} (hs : (x :: s).all CodeUnit.isPlain = true)
    (h : ∀ u ∈ w.head?, u.lower ≠ x.lower) :
    (keyword (x :: s)).run w 0 = .fail (.shape 0 (Text.quote (x :: s))) := by
  obtain ⟨f, hf⟩ := keyword_refuses_of_head hs h
  rw [hf]
  simp only [keyword] at hf
  split at hf <;> cases hf
  rfl

/-! ### Dates and times -/

theorem date_run_of_year (h : year.run w 0 = .fail (.shape n e)) :
    date.run w 0 = .fail (.shape n (if n = 0 then "date" else e)) :=
  label_run_of_fail (by simp [calendarDate, dateShape, tryMap, seq3, Parser.map, h])

theorem dateTimeOffset_run_of_year (h : year.run w 0 = .fail (.shape n e)) :
    dateTimeOffset.run w 0 = .fail (.shape n (if n = 0 then "datetime" else e)) :=
  label_run_of_fail (by simp [dateShape, tryMap, seq3, Parser.map, h])

theorem year_run_of_stopsAt (h : Text.StopsAt CodeUnit.isDigit w)
    (hhyphen : w.head? ≠ some hyphen) :
    year.run w 0 = .fail (.shape 0 "four-digit year") := by
  have hsign : (char "-").run w 0 = .fail (.shape 0 (Text.quote [hyphen])) := by
    rw [Text.ofString_hyphen, char_run_zero, if_neg hhyphen]
  have hdigits := takeExactly_run_of_stopsAt CharClass.digit_ofSingleUnits "four-digit year"
    (n := 4) (by decide) h
  exact Result.map_eq_fail_iff.mpr (optional_seq_run_of_fail hsign hdigits)

theorem year_run_hyphen (h : Text.StopsAt CodeUnit.isDigit w) :
    year.run (hyphen :: w) 0 = .fail (.shape 1 "four-digit year") := by
  have hsign : (optional (char "-")).Reads (some [hyphen]) [hyphen] w :=
    optional_reads_some_iff.mpr (char_reads_iff.mpr ⟨rfl, rfl⟩)
  have hdigits := takeExactly_run_of_stopsAt CharClass.digit_ofSingleUnits "four-digit year"
    (n := 4) (by decide) h
  exact Result.map_eq_fail_iff.mpr (seq_run_of_reads hsign hdigits)

theorem time_run_of_stopsAt (h : Text.StopsAt CodeUnit.isDigit w) :
    time.run w 0 = .fail (.shape 0 "time") := by
  have hdigits := takeExactly_run_of_stopsAt CharClass.digit_ofSingleUnits ("two-digit " ++ "hour")
    (n := 2) (by decide) h
  have hhour : (field "hour").run w 0 = .fail (.shape 0 ("two-digit " ++ "hour")) := by
    simp [field, spanned, Parser.map, hdigits]
  have hshape : timeOfDay.run w 0 = .fail (.shape 0 ("two-digit " ++ "hour")) := by
    simp [timeOfDay, timeShape, tryMap, seq3, Parser.map, hhour]
  exact label_run_of_fail (Result.map_eq_fail_iff.mpr hshape)

/-! ### GUIDs and integers -/

theorem guid_run_of_stopsAt (h : Text.StopsAt CodeUnit.isHexDigit w) :
    guid.run w 0 = .fail (.shape 0 "GUID") := by
  have hgroup := takeExactly_run_of_stopsAt CharClass.hexDigit_ofSingleUnits
    (Text.ofNat 8 ++ " hex digits") (n := 8) (by decide) h
  exact label_run_of_fail (e := Text.ofNat 8 ++ " hex digits")
    (by simp [recognize, seq, terminated, Parser.map, hexGroup, hgroup])

theorem integer_run_of_signedDigits (h : signedDigits.run w 0 = .fail (.shape n e)) :
    integer.run w 0 = .fail (.shape n (if n = 0 then "integer" else e)) :=
  label_run_of_fail (by simp [tryMap, h])

theorem digit_run_of_stopsAt (h : Text.StopsAt CodeUnit.isDigit w) :
    (takeWhile1 CharClass.digit "digit").run w 0 = .fail (.shape 0 "digit") := by
  have hnil : w.takeWhile CodeUnit.isDigit = [] := (Text.takeWhile_append_eq_iff (c := [])).mpr
    ⟨by simp, h⟩
  rw [takeWhile1_run_zero CharClass.digit_ofSingleUnits.toOfUnits, if_pos hnil]

theorem integer_run_of_stopsAt (h : Text.StopsAt CodeUnit.isDigit w)
    (hsign : ∀ u ∈ w.head?, u ∉ Text.ofString "+-") :
    integer.run w 0 = .fail (.shape 0 "integer") := by
  obtain ⟨f, hf⟩ := oneOf_refuses_iff.mpr hsign
  obtain ⟨_, pos, _⟩ := f
  obtain rfl : _ = FailureKind.shape := ShapeOnly.kind_eq hf
  have hdigits := optional_seq_run_of_fail hf (digit_run_of_stopsAt h)
  exact integer_run_of_signedDigits (n := 0) (e := "digit")
    (by simp [signedDigits, recognize, hdigits])

theorem integer_run_sign {u : CodeUnit} (hu : u ∈ Text.ofString "+-")
    (h : Text.StopsAt CodeUnit.isDigit w) :
    integer.run (u :: w) 0 = .fail (.shape 1 "digit") := by
  have hsign : (optional (oneOf "+-")).Reads (some [u]) [u] w :=
    optional_reads_some_iff.mpr (oneOf_reads_iff.mpr ⟨u, hu, rfl, rfl⟩)
  have hdigits := seq_run_of_reads hsign (digit_run_of_stopsAt h)
  rw [List.singleton_append] at hdigits
  exact integer_run_of_signedDigits (n := 1) (e := "digit")
    (by simp [signedDigits, recognize, hdigits])

/-! ### Strings and durations -/

theorem apostrophe_run_of_head (h : w.head? ≠ some apostrophe) :
    (char [apostrophe]).run w 0 = .fail (.shape 0 (Text.quote [apostrophe])) := by
  rw [char_run_zero, if_neg h]

/-- A quoted string fails at once without its opening apostrophe. -/
theorem quotedString_run_of_head (h : w.head? ≠ some apostrophe) :
    quotedString.run w 0 = .fail (.shape 0 (Text.quote [apostrophe])) := by
  simp [quotedString, between, Parser.map, apostrophe_run_of_head h]

/-- A quoted string that is begun and does not succeed lacks its closing apostrophe at the end. -/
theorem quotedString_run_of_refuses (h : quotedString.Refuses (apostrophe :: w)) :
    quotedString.run (apostrophe :: w) 0
      = .fail (.shape (w.length + 1) (Text.quote [apostrophe])) := by
  obtain ⟨f, hf⟩ | ⟨vs, c, r, rfl, hmany⟩ := refuses_or_reads (many stringPart) w
  · exact absurd hf (manyFrom_ne_fail stringPart)
  have hend : stringPart.Refuses r := by
    refine (many_reads_end hmany).resolve_right fun ⟨a, ha⟩ => ?_
    obtain ⟨-, h⟩ | ⟨-, hne, -⟩ := stringPart_reads_iff.mp ha
    · cases h
    · exact hne rfl
  obtain rfl | ⟨r', rfl, hr'⟩ := stringPart_refuses_iff.mp hend
  · have hopen : (char [apostrophe]).Reads [apostrophe] [apostrophe] (c ++ []) :=
      char_reads_iff.mpr ⟨rfl, rfl⟩
    have hclose := seq_run_of_reads hmany (apostrophe_run_of_head (w := []) (by simp))
    have hbetween := seq_run_of_reads (q := terminated (many stringPart) (char [apostrophe])) hopen
      (Result.map_eq_fail_iff.mpr hclose)
    rw [quotedString, between_eq]
    refine Result.map_eq_fail_iff.mpr (Result.map_eq_fail_iff.mpr ?_)
    rw [List.length_append, Nat.add_comm]
    exact hbetween
  · -- the string would end in front of the rest
    obtain ⟨f, hf⟩ := h
    have hreads : quotedString.Reads vs.flatten (apostropheQuoted vs.flatten) r' :=
      quotedString_reads_iff.mpr ⟨rfl, hr'⟩
    rw [Reads, apostropheQuoted_eq, ← many_stringPart_consumed hmany] at hreads
    simp [hf] at hreads

theorem string_run_of_head (h : w.head? ≠ some apostrophe) :
    string.run w 0 = .fail (.shape 0 "string") :=
  label_run_of_fail (Result.map_eq_fail_iff.mpr (quotedString_run_of_head h))

/-- So does a string literal. -/
theorem string_run_of_refuses (h : string.Refuses (apostrophe :: w)) :
    string.run (apostrophe :: w) 0
      = .fail (.shape (w.length + 1) (Text.quote [apostrophe])) := by
  have hquoted : quotedString.Refuses (apostrophe :: w) := by
    rcases refuses_or_reads quotedString (apostrophe :: w) with hrefuses | ⟨s, c, r, heq, hreads⟩
    · exact hrefuses
    · have hstring : string.Reads (.string s) c r :=
        label_reads_iff.mpr (map_reads_iff.mpr ⟨s, rfl, hreads⟩)
      rw [heq] at h
      exact absurd h (not_refuses_of_reads hstring)
  exact label_run_of_fail (Result.map_eq_fail_iff.mpr (quotedString_run_of_refuses hquoted))

/-- Without its keyword and, where that is optional, without an apostrophe, a duration fails at
once. -/
theorem duration_run_of_refuses {requireKeyword : Bool} (h : (keyword "duration").Refuses w)
    (hquoted : requireKeyword = true ∨ w.head? ≠ some apostrophe) :
    (duration requireKeyword).run w 0 = .fail (.shape 0 "duration") := by
  obtain ⟨⟨_, pos, e⟩, hf⟩ := h
  obtain rfl : _ = FailureKind.shape := ShapeOnly.kind_eq hf
  obtain rfl : pos = 0 := FailsAtStart.pos_eq hf
  cases requireKeyword with
  | true => exact label_run_of_fail (e := e) (by simp [preceded, seq, Parser.map, hf])
  | false =>
    have hhead := hquoted.resolve_left Bool.false_ne_true
    have hquote : quotedDuration.run w 0 = .fail (.shape 0 (Text.quote [apostrophe])) := by
      simp [quotedDuration, between, apostrophe_run_of_head hhead]
    have hseq := optional_seq_run_of_fail hf hquote
    exact label_run_of_fail (Result.map_eq_fail_iff.mpr (Result.map_eq_fail_iff.mpr hseq))

theorem duration_keyword_refuses (h : ∀ u ∈ w.head?, u.lower ≠ 0x64) :
    (keyword "duration").Refuses w :=
  keyword_refuses_of_head (x := 0x64) (s := Text.ofString "uration") (by decide) h

/-- Without its mark a binary literal fails at once. -/
theorem binary_run_of_head (h : ∀ u ∈ w.head?, u.lower ≠ 0x62) :
    binary.run w 0 = .fail (.shape 0 "binary") := by
  have hmark : (keyword "binary'").run w 0 = .fail (.shape 0 (Text.quote "binary'")) :=
    keyword_run_of_head (x := 0x62) (s := Text.ofString "inary'") (by decide) h
  exact label_run_of_fail (e := Text.quote "binary'") (by simp [preceded, seq, Parser.map, hmark])

/-! ## Kinds that fail at once or on their domain -/

instance : ShapeOnly boolean := inferInstanceAs (ShapeOnly (label _ _))

instance : ShapeOnly string :=
  inferInstanceAs
    (ShapeOnly (label (Parser.map _ (Parser.map _ (between _ (many stringPart) _))) _))

instance : ShapeOnly durationValue := inferInstanceAs (ShapeOnly (Parser.map _ _))

instance : ShapeOnly quotedDuration := inferInstanceAs (ShapeOnly (between _ _ _))

instance (requireKeyword : Bool) : ShapeOnly (duration requireKeyword) := by
  cases requireKeyword
  · exact inferInstanceAs (ShapeOnly (label (Parser.map _ (preceded (optional _) _)) _))
  · exact inferInstanceAs (ShapeOnly (label (Parser.map _ (preceded _ _)) _))

instance : ShapeOnly float := by
  have : ShapeOnly (choice floatForms) :=
    .choice (forall_mem_floatForms inferInstance fun _ _ _ => inferInstance)
  exact inferInstanceAs (ShapeOnly (label (choice floatForms) _))

instance : FailsAtStart nullValue := inferInstanceAs (FailsAtStart (Parser.replace _ _))

instance : FailsAtStart boolean := inferInstanceAs (FailsAtStart (label _ _))

instance : FailsAtStart float := by
  have : FailsAtStart (choice floatForms) :=
    .choice (forall_mem_floatForms inferInstance fun _ _ _ => inferInstance)
  exact inferInstanceAs (FailsAtStart (label (choice floatForms) _))

/-- Behind its mark a binary literal is committed. -/
theorem pos_of_binary {f : Failure} (h : binary.run w 0 = .fail f) (hkind : f.kind = .shape) :
    f.pos = 0 := by
  simp only [binary, label] at h
  split at h
  · cases h
  · rename_i g hg
    split at h
    · cases h
      rcases Result.andThen_eq_fail_iff.mp
        (Result.map_eq_fail_iff.mp (Result.map_eq_fail_iff.mp hg)) with hmark | ⟨_, _, -, hbody⟩
      · exact FailsAtStart.pos_eq hmark
      · -- what is committed fails on the domain
        have hcommit := Result.map_eq_fail_iff.mp hbody
        simp only [commit] at hcommit
        split at hcommit <;> cases hcommit
        cases hkind
    · cases h; rfl

/-- An integer that fails on its shape has no digits, at the start or behind a sign. -/
theorem stopsAt_of_integer (sign : Text) {f : Failure} (hsign : sign.IsSign)
    (h : integer.run (sign ++ w) 0 = .fail f) (hkind : f.kind = .shape) :
    Text.StopsAt CodeUnit.isDigit w := by
  obtain ⟨d, r, rfl, hd, hr⟩ := Text.exists_run_append CodeUnit.isDigit w
  cases d with
  | nil => exact hr
  | cons u d =>
    -- digits are read, and what is left to fail is the range
    have hreads : signedDigits.Reads (sign ++ u :: d) (sign ++ u :: d) r :=
      signedDigits_reads_iff.mpr ⟨rfl, sign, u :: d, rfl, hsign, ⟨by simp, hd⟩, hr⟩
    rw [Reads, List.append_assoc] at hreads
    simp only [integer, label, tryMap, hreads, Result.andThen_ok] at h
    split at h
    · cases h
    · rename_i g hg
      split at hg
      · cases hg
      · cases hg
        rw [if_pos (.inl rfl)] at h
        cases h
        cases hkind

end Grammar
end ODataToken
