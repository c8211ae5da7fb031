import ODataToken.Proofs.Grammar.Dispatch
import ODataToken.Proofs.Grammar.Name

/-!
# Words that are literals and names alike

A token is read as a literal first, so a name can only be read where no literal can.  What both can
read are the reserved words: `null`, `NaN`, `INF`, and `true` and `false` in any case
(`parseToken_spec`).

For the other direction every kind of literal is held against names.  Most literals have an
apostrophe, a hyphen, a plus or a colon somewhere, which no name has (`IsDottedName.not_mem`); the
others begin with a digit, which no name does (`IsDottedName.not_isDigit`).  Both rest on the tables
of alphabetic characters and of numbers.
-/

set_option autoImplicit false

namespace ODataToken

open CodeUnit (apostrophe hyphen point colon)

/-! ## Dotted names -/

namespace Text

variable {t w : Text} {u : CodeUnit}

/-- Identifiers with dots between them, at least one. -/
def IsDottedName (t : Text) : Prop :=
  ∃ segments, segments ≠ [] ∧ (∀ s ∈ segments, s.IsIdentifier) ∧ t = join "." segments

/-- The words that are literals and names alike. -/
def IsReserved (t : Text) : Prop :=
  t = "null" ∨ t = "NaN" ∨ t = "INF" ∨ t.lower = "true" ∨ t.lower = "false"

instance : DecidablePred IsReserved := fun _ => inferInstanceAs (Decidable (_ ∨ _))

/-- An ASCII character is no half of a surrogate pair. -/
theorem not_surrogate_of_lt (h : u < 0x80) :
    u.isHighSurrogate = false ∧ u.isLowSurrogate = false := by
  simp only [CodeUnit.isHighSurrogate, CodeUnit.isLowSurrogate, Bool.and_eq_false_iff,
    decide_eq_false_iff_not, UInt16.le_iff_toNat_le, UInt16.lt_iff_toNat_lt,
    UInt16.reduceToNat] at h ⊢
  omega

theorem mem_join_iff {sep : Text} {ts : List Text} (h : u ∉ sep) :
    u ∈ join sep ts ↔ ∃ t ∈ ts, u ∈ t := by
  cases ts with
  | nil => simp [join]
  | cons t ts => simp [join_cons, h]

/-- **A name holds no ASCII character but a dot that is no identifier character.** -/
theorem IsDottedName.not_mem (h : t.IsDottedName) (hascii : u < 0x80) (hpoint : u ≠ point)
    (hchar : CharClass.identifierChar [u] = false) : u ∉ t := by
  obtain ⟨segments, -, hall, rfl⟩ := h
  rw [mem_join_iff (by simpa using hpoint)]
  rintro ⟨s, hs, hu⟩
  have hmem := singleton_mem_codePoints hu (not_surrogate_of_lt hascii).1
    (not_surrogate_of_lt hascii).2
  rw [(hall s hs).identifierChar_of_mem hmem] at hchar
  cases hchar

/-- The first character of a name, if it is an ASCII character, can begin an identifier. -/
theorem IsDottedName.identifierLeading_head (h : IsDottedName (u :: w)) (hascii : u < 0x80) :
    CharClass.identifierLeading [u] = true := by
  obtain ⟨segments, hne, hall, hjoin⟩ := h
  obtain ⟨s, ss, rfl⟩ := List.exists_cons_of_ne_nil hne
  obtain ⟨hs, -⟩ := List.forall_mem_cons.mp hall
  obtain ⟨v, s, rfl⟩ := List.exists_cons_of_ne_nil hs.ne_nil
  rw [join_cons, List.cons_append] at hjoin
  obtain ⟨rfl, -⟩ := List.cons.inj hjoin
  obtain ⟨c, cs, hcodePoints, hlead, -⟩ := hs
  have hfirst : firstCodePoint? (u :: s) = some [u] := by
    cases s with
    | nil => rfl
    | cons v s => simp [firstCodePoint?, (not_surrogate_of_lt hascii).1]
  rw [← head?_codePoints, hcodePoints] at hfirst
  obtain rfl := Option.some.inj hfirst
  exact hlead

/-! ### What names do without -/

theorem not_identifierChar_of_mem_marks (hu : u ∈ Text.ofString "'+-:") :
    u < 0x80 ∧ u ≠ point ∧ CharClass.identifierChar [u] = false := by
  -- a boolean test of the four units; as a proposition it could be decided for every unit there is
  have hmarks : (Text.ofString "'+-:").all (fun u => u < 0x80 && u != point
      && !CharClass.identifierChar [u]) = true := by decide +kernel
  simpa [and_assoc] using List.all_eq_true.mp hmarks u hu

/-- No name has an apostrophe, a sign or a colon. -/
theorem IsDottedName.not_mem_marks (h : t.IsDottedName) (hu : u ∈ Text.ofString "'+-:") :
    u ∉ t := by
  obtain ⟨hascii, hpoint, hchar⟩ := not_identifierChar_of_mem_marks hu
  exact h.not_mem hascii hpoint hchar

theorem not_identifierLeading_digit :
    ∀ n < 10, CharClass.identifierLeading [0x30 + UInt16.ofNat n] = false := by
  decide +kernel

/-- No name begins with a digit. -/
theorem IsDottedName.not_isDigit (h : IsDottedName (u :: w)) : u.isDigit = false := by
  rw [Bool.eq_false_iff]
  intro hu
  have hrange : 0x30 ≤ u.toNat ∧ u.toNat ≤ 0x39 := by
    simpa [CodeUnit.isDigit, UInt16.le_iff_toNat_le] using hu
  have hdigit : 0x30 + UInt16.ofNat (u.toNat - 0x30) = u := by
    rw [← UInt16.toNat_inj, UInt16.toNat_add, UInt16.toNat_ofNat']
    simp only [UInt16.reduceToNat]
    omega
  have hascii : u < 0x80 := by
    rw [UInt16.lt_iff_toNat_lt]
    simp only [UInt16.reduceToNat]
    omega
  have hlead := h.identifierLeading_head hascii
  rw [← hdigit, not_identifierLeading_digit _ (by omega)] at hlead
  cases hlead

/-- No name begins with a number, signed or not. -/
theorem not_isDottedName_number {sign digits : Text} (hsign : sign.IsSign)
    (hdigits : digits.IsNumeral) : ¬ IsDottedName (sign ++ (digits ++ w)) := by
  intro h
  rcases hsign with rfl | rfl | rfl
  · obtain ⟨u, ds, rfl⟩ := List.exists_cons_of_ne_nil hdigits.1
    have hdigit := hdigits.2 u List.mem_cons_self
    rw [h.not_isDigit] at hdigit
    cases hdigit
  · exact h.not_mem_marks (u := CodeUnit.ofChar '+') (by decide)
      (List.mem_append_left _ (by decide))
  · exact h.not_mem_marks (u := hyphen) (by decide) (List.mem_append_left _ (by decide))

/-! ### Words of ASCII letters -/

theorem codePoints_eq_map (h : ∀ u ∈ t, u.isHighSurrogate = false) :
    t.codePoints = t.map fun u => [u] := by
  fun_induction codePoints t with
  | case1 => rfl
  | case2 u => rfl
  | case3 u v rest huv ih =>
    rw [Bool.and_eq_true, h u List.mem_cons_self] at huv
    cases huv.1
  | case4 u v rest huv ih =>
    rw [ih fun x hx => h x (List.mem_cons_of_mem _ hx)]
    rfl

/-- An ASCII character that can begin an identifier. -/
def isPlainLeading (u : CodeUnit) : Bool := u < 0x80 && CharClass.identifierLeading [u]

/-- ASCII characters that can begin an identifier are one. -/
theorem isIdentifier_of_all (hne : t ≠ []) (hall : t.all isPlainLeading = true) :
    t.IsIdentifier := by
  have h : ∀ u ∈ t, u < 0x80 ∧ CharClass.identifierLeading [u] = true := by
    simpa [isPlainLeading] using hall
  have hcodePoints := codePoints_eq_map fun u hu => (not_surrogate_of_lt (h u hu).1).1
  obtain ⟨u, w, rfl⟩ := List.exists_cons_of_ne_nil hne
  refine ⟨[u], w.map fun u => [u], hcodePoints, (h u List.mem_cons_self).2, ?_⟩
  rw [List.forall_mem_map]
  exact fun v hv =>
    CharClass.identifierChar_of_identifierLeading (h v (List.mem_cons_of_mem _ hv)).2

theorem IsIdentifier.isDottedName (h : t.IsIdentifier) : t.IsDottedName :=
  ⟨[t], List.cons_ne_nil _ _, by simpa using h, by simp [join]⟩

/-- The letters of the truth values can begin an identifier, in either case. -/
theorem isPlainLeading_of_lower (hu : u.lower ∈ Text.ofString "truefals") :
    isPlainLeading u = true := by
  have hletters : (Text.ofString "truefals").all (fun x => isPlainLeading x
      && isPlainLeading (x - 0x20)) = true := by decide +kernel
  have hcases := List.all_eq_true.mp hletters _ hu
  rw [Bool.and_eq_true] at hcases
  rcases CodeUnit.eq_or_eq_of_lower_eq (rfl : u.lower = u.lower) with heq | heq
  · rw [heq]
    exact hcases.1
  · rw [heq]
    exact hcases.2

theorem isIdentifier_of_lower (hne : t ≠ [])
    (h : t.lower.all (Text.ofString "truefals").contains = true) : t.IsIdentifier := by
  refine isIdentifier_of_all hne (List.all_eq_true.mpr fun u hu => isPlainLeading_of_lower ?_)
  exact List.contains_iff_mem.mp (List.all_eq_true.mp h _ (List.mem_map_of_mem hu))

/-- The reserved words are identifiers. -/
theorem IsReserved.isIdentifier (h : t.IsReserved) : t.IsIdentifier := by
  have hne {word : String} (hword : Text.ofString word ≠ []) (ht : t.lower = word) : t ≠ [] := by
    rintro rfl
    exact hword ht.symm
  rcases h with rfl | rfl | rfl | h | h
  · exact isIdentifier_of_all (by decide) (by decide +kernel)
  · exact isIdentifier_of_all (by decide) (by decide +kernel)
  · exact isIdentifier_of_all (by decide) (by decide +kernel)
  · exact isIdentifier_of_lower (hne (by decide) h) (by rw [h]; decide)
  · exact isIdentifier_of_lower (hne (by decide) h) (by rw [h]; decide)

end Text

/-! ## Literals that are names -/

namespace Grammar

open ODataToken.Parser Text

variable {options : LiteralOptions} {x : Alternative Literal} {v : Literal} {text : Text}

/-- **A literal that is a name is a reserved word.** -/
theorem isReserved_of_reads (hx : x ∈ literalAlternatives options) (h : x.parser.Reads v text [])
    (hname : text.IsDottedName) : text.IsReserved := by
  have hmark (u : CodeUnit) (hu : u ∈ Text.ofString "'+-:") (hmem : u ∈ text) :
      text.IsReserved := absurd hmem (hname.not_mem_marks hu)
  simp only [literalAlternatives, List.mem_cons, List.not_mem_nil, or_false] at hx
  rcases hx with rfl | rfl | rfl | rfl | rfl | rfl | rfl | rfl | rfl | rfl | rfl
  · exact .inl (nullValue_reads_iff.mp h).2
  · obtain ⟨mark, body, n, rfl, -⟩ := duration_reads_iff.mp h
    exact hmark apostrophe (by decide) (by simp)
  · obtain ⟨b, -, hword⟩ := boolean_reads_iff.mp h
    cases b with
    | true => exact .inr (.inr (.inr (.inl hword)))
    | false => exact .inr (.inr (.inr (.inr hword)))
  · obtain ⟨s, -, rfl, -⟩ := string_reads_iff.mp h
    exact hmark apostrophe (by decide) (by simp [apostropheQuoted])
  · obtain ⟨d, -, ⟨date, time, offset, mark, rfl, ⟨year, month, day, rfl, -⟩, -⟩, -⟩ :=
      dateTimeOffset_reads h
    exact hmark hyphen (by decide) (by simp)
  · obtain ⟨d, -, ⟨year, month, day, rfl, -⟩, -⟩ := date_reads_iff.mp h
    exact hmark hyphen (by decide) (by simp)
  · obtain ⟨d, -, ⟨hour, minute, rest, rfl, -⟩, -⟩ := time_reads h
    exact hmark colon (by decide) (by simp)
  · obtain ⟨-, g₁, g₂, g₃, g₄, g₅, rfl, -⟩ := guid_reads_iff.mp h
    exact hmark hyphen (by decide) (by simp)
  · rcases (float_reads h).2 with ⟨sign, whole, rest, rfl, hsign, hwhole, -⟩ | hword | hword | rfl
    · exact absurd hname (not_isDottedName_number hsign hwhole)
    · exact .inr (.inl hword)
    · exact .inr (.inr (.inl hword))
    · exact hmark hyphen (by decide) (by decide)
  · obtain ⟨⟨sign, digits, rfl, hsign, hdigits⟩, -⟩ := integer_reads_iff.mp h
    rw [← List.append_nil digits] at hname
    exact absurd hname (not_isDottedName_number hsign hdigits)
  · obtain ⟨mark, body, bytes, rfl, -⟩ := binary_reads_iff.mp h
    exact hmark apostrophe (by decide) (by simp)

/-- The reserved words are literals, whatever the options say. -/
theorem exists_parseLiteral_of_isReserved (options : LiteralOptions) (h : text.IsReserved) :
    ∃ l, parseLiteral options text = .ok l := by
  have hneeds : NeedsKeyword options text := by
    refine .inr fun hhead => ?_
    have hmem := List.mem_of_mem_head? hhead
    exact h.isIdentifier.isDottedName.not_mem_marks (by decide) hmem
  have hboolean (b : Bool) (hword : text.lower = booleanWord b) :
      ∃ l, parseLiteral options text = .ok l :=
    ⟨_, parseLiteral_of_reads (i := 2) (x := ⟨"boolean", boolean⟩) hneeds rfl
      (boolean_reads_iff.mpr ⟨b, rfl, hword⟩)⟩
  rcases h with rfl | rfl | rfl | h | h
  · exact ⟨_, rfl⟩
  · obtain ⟨_ | _⟩ := options <;> exact ⟨_, rfl⟩
  · obtain ⟨_ | _⟩ := options <;> exact ⟨_, rfl⟩
  · exact hboolean true h
  · exact hboolean false h

/-! ## Names -/

/-- **A whole text is read as a name if it is one or more identifiers with dots between them.** -/
theorem parseName_eq_ok_iff {found : Attributed Name} :
    parseName text = .ok found
      ↔ ∃ segments, segments ≠ [] ∧ (∀ s ∈ segments, s.IsIdentifier) ∧ text = join "." segments
          ∧ found = ⟨.ofSegments segments, "name"⟩ := by
  have hlist : parseName text = .ok found
      ↔ name.Reads found.value text [] ∧ found.alternative = "name" := by
    rw [parseName, Alternatives.parseComplete_eq_ok_iff, nameAlternatives, exists_split_cons_iff]
    simp [eq_comm]
  rw [hlist, name_reads_iff]
  obtain ⟨value, alternative⟩ := found
  have hstop := stopsIdentifier_nil
  have hend : (preceded (char ".") identifier).Refuses [] := ⟨_, rfl⟩
  simp only [Attributed.mk.injEq]
  constructor
  · rintro ⟨⟨segments, hne, hall, hvalue, htext, -⟩, halternative⟩
    exact ⟨segments, hne, hall, htext, hvalue, halternative⟩
  · rintro ⟨segments, hne, hall, htext, hvalue, halternative⟩
    exact ⟨⟨segments, hne, hall, hvalue, htext, hstop, hend⟩, halternative⟩

/-- What is left over behind a name is the error. -/
theorem parseName_of_reads {n : Name} {c r : Text} (h : name.Reads n c r) (hr : r ≠ []) :
    parseName (c ++ r)
      = .error ⟨.trailingInput, c ++ r, c.length, "end of input", some "name"⟩ := by
  have hbefore : ∀ b ∈ ([] : Alternatives Name), ShapeOnly b.parser ∧ b.parser.Refuses (c ++ r) :=
    by simp
  have hstop : c.length ≠ (c ++ r).length := by simpa using hr
  have herror := @Alternatives.parseComplete_of_shapeOnly Name (c ++ r) [] [] ⟨"name", name⟩ n
    c.length hbefore h
  rwa [if_neg hstop] at herror

theorem exists_parseName_error (h : ¬ text.IsDottedName) : ∃ e, parseName text = .error e := by
  cases hname : parseName text with
  | error e => exact ⟨e, rfl⟩
  | ok found =>
    obtain ⟨segments, hne, hall, htext, -⟩ := parseName_eq_ok_iff.mp hname
    exact absurd ⟨segments, hne, hall, htext⟩ h

/-- A text is a literal and a name if and only if it is a reserved word. -/
theorem isReserved_iff :
    ((∃ l, parseLiteral options text = .ok l) ∧ ∃ n, parseName text = .ok n)
      ↔ text.IsReserved := by
  constructor
  · rintro ⟨⟨l, hl⟩, n, hn⟩
    obtain ⟨before, x, after, hlist, -, hreads, -⟩ := Alternatives.parseComplete_eq_ok_iff.mp hl
    obtain ⟨segments, hne, hall, htext, -⟩ := parseName_eq_ok_iff.mp hn
    have hx : x ∈ literalAlternatives options := by rw [hlist]; simp
    exact isReserved_of_reads hx hreads ⟨segments, hne, hall, htext⟩
  · intro h
    obtain ⟨segments, hne, hall, htext⟩ := h.isIdentifier.isDottedName
    exact ⟨exists_parseLiteral_of_isReserved options h, _,
      parseName_eq_ok_iff.mpr ⟨segments, hne, hall, htext, rfl⟩⟩

end Grammar

/-! ## Tokens -/

open ODataToken.Parser Grammar

variable {options : LiteralOptions} {text : Text}

/-- A name that is no reserved word is read as a name. -/
theorem parseToken_of_segments {segments : List Text} (hne : segments ≠ [])
    (hall : ∀ s ∈ segments, s.IsIdentifier) (htext : text = Text.join "." segments)
    (hreserved : ¬ text.IsReserved) :
    parseToken options text = .ok ⟨.name (.ofSegments segments), "name"⟩ := by
  have hname := parseName_eq_ok_iff.mpr ⟨segments, hne, hall, htext, rfl⟩
  rw [parseToken]
  cases hliteral : parseLiteral options text with
  | ok l => exact absurd (isReserved_iff.mp ⟨⟨l, hliteral⟩, _, hname⟩) hreserved
  | error e => rw [hname]

/-- The error where neither can be read: that of the literal, unless it is one of the shape and the
name gets farther. -/
theorem parseToken_of_errors {e e' : ParseError} (hliteral : parseLiteral options text = .error e)
    (hname : parseName text = .error e') :
    ∃ e'', parseToken options text = .error e''
      ∧ (e.kind = .failed .domain → e'' = e)
      ∧ (e.kind ≠ .failed .domain → e''.pos = max e.pos e'.pos ∧ (e'.pos ≤ e.pos → e'' = e)
          ∧ (e.pos < e'.pos → e'' = e')) := by
  rw [parseToken, hliteral, hname]
  dsimp only
  split
  · rename_i h
    exact ⟨e', rfl, fun hkind => absurd hkind h.1, fun _ => ⟨(Nat.max_eq_right h.2.le).symm,
      fun hle => absurd h.2 (Nat.not_lt.mpr hle), fun _ => rfl⟩⟩
  · rename_i h
    refine ⟨e, rfl, fun _ => rfl, fun hkind => ?_⟩
    have hle : e'.pos ≤ e.pos := Nat.not_lt.mp fun hlt => h ⟨hkind, hlt⟩
    exact ⟨(Nat.max_eq_left hle).symm, fun _ => rfl, fun hlt => absurd hlt (Nat.not_lt.mpr hle)⟩

/-- **Literals and names have only the reserved words in common.**  A text is both exactly if it is
`null`, `NaN`, `INF`, or `true` or `false` in any case.  So one or more identifiers with dots
between them are read as a name unless they are a reserved word.  Where neither a literal nor a name
can be read, a domain error of the literal is the error of the token; otherwise that one of the two
errors is that got farther, and the literal's if both are at one position. -/
theorem parseToken_spec (options : LiteralOptions) (text : Text) :
    (((∃ l, parseLiteral options text = .ok l) ∧ ∃ n, parseName text = .ok n)
        ↔ text.IsReserved)
      ∧ (∀ segments, segments ≠ [] → (∀ s ∈ segments, s.IsIdentifier) →
          text = Text.join "." segments → ¬ text.IsReserved →
          parseToken options text = .ok ⟨.name (.ofSegments segments), "name"⟩)
      ∧ ∀ e e', parseLiteral options text = .error e → parseName text = .error e' →
          ∃ e'', parseToken options text = .error e''
            ∧ (e.kind = .failed .domain → e'' = e)
            ∧ (e.kind ≠ .failed .domain → e''.pos = max e.pos e'.pos ∧ (e'.pos ≤ e.pos → e'' = e)
                ∧ (e.pos < e'.pos → e'' = e')) :=
  ⟨isReserved_iff, fun _ => parseToken_of_segments, fun _ _ => parseToken_of_errors⟩

/-- A name may have a reserved word for a segment.  A day that is not in its month is a domain error
of the literal; where no literal begins, the error is at the dot that the name stops at. -/
theorem parseToken_spec_instances :
    parseToken ⟨false⟩ "nullable.NaN" = .ok ⟨.name (.qualified ["nullable", "NaN"]), "name"⟩
      ∧ (∃ e, parseToken ⟨false⟩ "2023-02-29" = .error e ∧ e.kind = .failed .domain ∧ e.pos = 8)
      ∧ ∃ e, parseToken ⟨false⟩ "a.1" = .error e ∧ e.pos = 1 := by
  obtain ⟨-, hname, -⟩ := parseToken_spec ⟨false⟩ "nullable.NaN"
  obtain ⟨-, -, hdomain⟩ := parseToken_spec ⟨false⟩ "2023-02-29"
  obtain ⟨-, -, hshape⟩ := parseToken_spec ⟨false⟩ "a.1"
  have hnullable : Text.IsIdentifier "nullable" :=
    Text.isIdentifier_of_all (by decide) (by decide +kernel)
  have hnan : Text.IsIdentifier "NaN" := Text.IsReserved.isIdentifier (.inr (.inl rfl))
  refine ⟨hname ["nullable", "NaN"] (by decide) (by simp [hnullable, hnan]) (by decide) (by decide),
    ?_, ?_⟩
  · obtain ⟨e, he, hkind, hpos⟩ : ∃ e, parseLiteral ⟨false⟩ "2023-02-29" = .error e
        ∧ e.kind = .failed .domain ∧ e.pos = 8 := ⟨_, rfl, rfl, rfl⟩
    obtain ⟨e', he'⟩ : ∃ e', parseName "2023-02-29" = .error e' :=
      exists_parseName_error fun h => absurd h.not_isDigit (by decide)
    obtain ⟨_, herror, heq, -⟩ := hdomain e e' he he'
    exact ⟨e, heq hkind ▸ herror, hkind, hpos⟩
  · obtain ⟨e, he, hkind, hpos⟩ : ∃ e, parseLiteral ⟨false⟩ "a.1" = .error e
        ∧ e.kind = .failed .shape ∧ e.pos = 0 := ⟨_, rfl, rfl, rfl⟩
    obtain ⟨e', he', hpos'⟩ : ∃ e', parseName "a.1" = .error e' ∧ e'.pos = 1 := by
      have ha : Text.IsIdentifier "a" :=
        Text.isIdentifier_of_all (by decide) (by decide +kernel)
      have hround :
          (preceded (char ".") identifier).run ".1" 0 = .fail (.shape 1 "identifier") := by
        decide +kernel
      have hreads : name.Reads (.identifier "a") "a" ".1" :=
        name_reads_iff.mpr ⟨["a"], by simp, by simpa using ha, rfl, rfl,
          Text.stopsIdentifier_point "1", _, hround⟩
      exact ⟨_, parseName_of_reads hreads (by decide), rfl⟩
    obtain ⟨e'', herror, -, hmax⟩ := hshape e e' he he'
    refine ⟨e'', herror, ?_⟩
    rw [(hmax (by rw [hkind]; decide)).1, hpos, hpos']
    rfl

end ODataToken
