import ODataToken.Proofs.Grammar.Position
import ODataToken.Proofs.Parser.Alternatives
import ODataToken.Token

/-!
# No alternative shadows another

Reading a whole text stops at the first alternative that succeeds on any part of it, so it matters
that none of them succeeds on a part of what a later one reads to the end.

`literalRank` guesses from a text alone which alternative is the one to read it: from its first unit
if that is a letter, and else from the unit after its digits.  Where durations need their keyword,
an alternative that succeeds on a part of a text has at least this rank, and one that reads the
whole text has exactly this rank.  From these two facts everything follows: at most one alternative
reads the whole text, and then it is the first to succeed.
-/

set_option autoImplicit false

namespace ODataToken

open CodeUnit (apostrophe hyphen point colon)

/-! ## The rank of a text -/

namespace Text

/-- The text without the signs that it begins with. -/
def unsigned (t : Text) : Text := t.dropWhile fun u => ("+-" : Text).contains u

/-- The text begins with the first group of a GUID and has as many hyphens as one. -/
def looksLikeGuid (t : Text) : Bool := (t.take 8).all CodeUnit.isHexDigit && 4 ≤ t.count hyphen

end Text

/-- The rank of a text that begins with digits, by the unit after them. -/
def numberRank (t : Text) : Option CodeUnit → Nat
  | none => 9
  | some u =>
    if u = hyphen then if t.any fun v => v.lower == 0x74 then 4 else 5
    else if u = colon then 6
    else 8

/-- The rank of a text that does not begin with digits, by its first unit. -/
def wordRank (u : CodeUnit) : Nat :=
  if u = 0x6E then 0
  else if u.lower = 0x64 then 1
  else if u.lower = 0x74 ∨ u.lower = 0x66 then 2
  else if u = apostrophe then 3
  else if u.lower = 0x62 then 10
  else 8

/-- The place in the list of the alternative that can read the text to its end, if any can. -/
def literalRank (t : Text) : Nat :=
  if t.looksLikeGuid then 7
  else
    match t.unsigned with
    | [] => 9
    | u :: w => if u.isDigit then numberRank t (Text.nextMark (u :: w)) else wordRank u

namespace Text

theorem unsigned_append {sign w : Text} (hsign : sign.IsSign)
    (hw : ∀ u ∈ w.head?, u ∉ Text.ofString "+-") : unsigned (sign ++ w) = w := by
  have hnone : unsigned w = w := by
    cases w with
    | nil => rfl
    | cons u w => exact List.dropWhile_cons_of_neg (by simpa using hw u rfl)
  rcases hsign with rfl | rfl | rfl <;> exact hnone

theorem nextMark_of_stopsAt {w : Text} (h : StopsAt CodeUnit.isDigit w) : nextMark w = w.head? := by
  cases w with
  | nil => rfl
  | cons u w => exact nextMark_cons (stopsAt_cons.mp h) w

/-! ### Texts that look like a GUID -/

/-- A unit among the first eight that is no hexadecimal digit rules a GUID out. -/
theorem looksLikeGuid_append {p q : Text} (h : ∃ u ∈ p.take 8, u.isHexDigit = false) :
    looksLikeGuid (p ++ q) = false := by
  obtain ⟨u, hu, hhex⟩ := h
  have hmem : u ∈ (p ++ q).take 8 := by
    rw [List.take_append]
    exact List.mem_append_left _ hu
  rw [looksLikeGuid, Bool.and_eq_false_iff]
  refine .inl (List.all_eq_false.mpr ⟨u, hmem, ?_⟩)
  rw [hhex]
  decide

/-- So do fewer than four hyphens. -/
theorem looksLikeGuid_of_count {t : Text} (h : t.count hyphen < 4) : looksLikeGuid t = false := by
  rw [looksLikeGuid, Bool.and_eq_false_iff]
  exact .inr (decide_eq_false (by omega))

theorem isHexDigit_lower (u : CodeUnit) : u.lower.isHexDigit = u.isHexDigit := by
  unfold CodeUnit.lower
  split
  · rename_i hu
    have hsum : (u + 0x20).toNat = (u.toNat + 32) % 65536 := rfl
    rw [Bool.eq_iff_iff]
    simp only [CodeUnit.isHexDigit, CodeUnit.isDigit, Bool.or_eq_true, Bool.and_eq_true,
      decide_eq_true_eq, UInt16.le_iff_toNat_le, hsum] at hu ⊢
    simp only [UInt16.reduceToNat] at hu ⊢
    omega
  · rfl

/-- A word with a letter among its first eight that is no hexadecimal digit rules a GUID out. -/
theorem looksLikeGuid_word {c r word : Text} (hc : c.lower = word)
    (hword : (word.take 8).all CodeUnit.isHexDigit = false) : looksLikeGuid (c ++ r) = false := by
  obtain ⟨x, hx, hhex⟩ := List.all_eq_false.mp hword
  rw [← hc, lower, ← List.map_take] at hx
  obtain ⟨u, hu, rfl⟩ := List.mem_map.mp hx
  rw [isHexDigit_lower, Bool.not_eq_true] at hhex
  exact looksLikeGuid_append ⟨u, hu, hhex⟩

theorem IsGuid.looksLikeGuid {t r : Text} (h : t.IsGuid) : (t ++ r).looksLikeGuid = true := by
  obtain ⟨g₁, g₂, g₃, g₄, g₅, rfl, ⟨hlen, hhex⟩, -⟩ := h
  rw [Text.looksLikeGuid, Bool.and_eq_true]
  constructor
  · rw [List.append_assoc, List.take_append_of_le_length (by omega), List.all_eq_true]
    exact fun u hu => hhex u (List.mem_of_mem_take hu)
  · simp only [List.count_append, List.count_cons_self, decide_eq_true_eq]
    omega

end Text

/-! ### The rank by the first units -/

theorem literalRank_number {sign d w : Text} (hsign : sign.IsSign) (hd : d.IsNumeral)
    (hw : Text.StopsAt CodeUnit.isDigit w)
    (hguid : Text.looksLikeGuid (sign ++ (d ++ w)) = false) :
    literalRank (sign ++ (d ++ w)) = numberRank (sign ++ (d ++ w)) w.head? := by
  have hunsigned : Text.unsigned (sign ++ (d ++ w)) = d ++ w :=
    Text.unsigned_append hsign fun u hu => ne_sign_of_isDigit (hd.isDigit_of_head? hu)
  obtain ⟨u, d', rfl⟩ := List.exists_cons_of_ne_nil hd.1
  have hmark : Text.nextMark (u :: (d' ++ w)) = w.head? := by
    rw [← List.cons_append, Text.nextMark_append hd.2, Text.nextMark_of_stopsAt hw]
  rw [literalRank, hguid, hunsigned]
  simp [hd.2 u List.mem_cons_self, hmark]

theorem literalRank_word {u : CodeUnit} {w : Text} (hsign : u ∉ Text.ofString "+-")
    (hdigit : u.isDigit = false) (hguid : Text.looksLikeGuid (u :: w) = false) :
    literalRank (u :: w) = wordRank u := by
  have hunsigned : Text.unsigned ([] ++ u :: w) = u :: w :=
    Text.unsigned_append (.inl rfl) (by rintro _ ⟨⟩; exact hsign)
  rw [List.nil_append] at hunsigned
  rw [literalRank, hguid, hunsigned]
  simp [hdigit]

/-- The rank of a text that begins with a word, by the first letter of the word. -/
theorem literalRank_of_lower {c r s : Text} {x : CodeUnit} (hc : c.lower = x :: s) (hx : 0x41 ≤ x)
    (hword : ((x :: s).take 8).all CodeUnit.isHexDigit = false) :
    ∃ u, (u = x ∨ u = x - 0x20) ∧ literalRank (c ++ r) = wordRank u := by
  have hguid : Text.looksLikeGuid (c ++ r) = false := Text.looksLikeGuid_word hc hword
  obtain ⟨u, c', rfl, hu, -⟩ := Text.exists_cons_of_lower_eq_cons hc
  have hlarge : ¬ u < 0x41 := by
    intro hlt
    rw [CodeUnit.lower_eq_self hlt] at hu
    exact UInt16.not_lt.mpr hx (hu ▸ hlt)
  refine ⟨u, CodeUnit.eq_or_eq_of_lower_eq hu, literalRank_word ?_ ?_ hguid⟩
  · intro hmem
    rcases mem_signs_iff.mp hmem with rfl | rfl
    · exact hlarge (by decide)
    · exact hlarge (by decide)
  · rw [Bool.eq_false_iff]
    intro hdigit
    simp only [CodeUnit.isDigit, Bool.and_eq_true, decide_eq_true_eq] at hdigit
    exact hlarge (UInt16.lt_of_le_of_lt hdigit.2 (by decide))

/-! ## The rank of what an alternative reads -/

namespace Grammar

open ODataToken.Parser Text

variable {a : Literal} {c r t : Text}

theorem rank_of_nullValue (h : nullValue.Reads a c r) : literalRank (c ++ r) = 0 := by
  obtain ⟨-, rfl⟩ := nullValue_reads_iff.mp h
  have hguid : looksLikeGuid (Text.ofString "null" ++ r) = false :=
    looksLikeGuid_append ⟨0x6E, by decide, by decide⟩
  exact literalRank_word (u := 0x6E) (by decide) (by decide) hguid

/-- Durations need their keyword here: the options ask for it, or the text does not begin with an
apostrophe. -/
def NeedsKeyword (options : LiteralOptions) (t : Text) : Prop :=
  options.requireDurationKeyword = true ∨ t.head? ≠ some apostrophe

theorem needsKeyword_strict (t : Text) : NeedsKeyword ⟨true⟩ t := .inl rfl

theorem rank_of_duration {options : LiteralOptions} (hneeds : NeedsKeyword options (c ++ r))
    (h : (duration options.requireDurationKeyword).Reads a c r) : literalRank (c ++ r) = 1 := by
  obtain ⟨mark, t, v, rfl, hmark | ⟨rfl, hfree⟩, -, -⟩ := duration_reads_iff.mp h
  · rw [List.append_assoc]
    obtain ⟨u, rfl | rfl, hrank⟩ := literalRank_of_lower hmark (by decide) (by decide)
    all_goals exact hrank
  · rcases hneeds with hneeds | hneeds
    · rw [hfree] at hneeds
      cases hneeds
    · exact absurd rfl hneeds

theorem rank_of_boolean (h : boolean.Reads a c r) : literalRank (c ++ r) = 2 := by
  obtain ⟨b, -, hword⟩ := boolean_reads_iff.mp h
  cases b
  all_goals
    obtain ⟨u, rfl | rfl, hrank⟩ := literalRank_of_lower hword (by decide) (by decide)
    all_goals exact hrank

theorem literalRank_of_apostrophe (h : t.head? = some apostrophe) : literalRank t = 3 := by
  cases t with
  | nil => cases h
  | cons u t =>
    obtain rfl := Option.some.inj h
    exact literalRank_word (by decide) (by decide)
      (looksLikeGuid_append (p := [apostrophe]) ⟨apostrophe, by decide, by decide⟩)

theorem rank_of_string (h : string.Reads a c r) : literalRank (c ++ r) = 3 := by
  obtain ⟨s, -, rfl, -⟩ := string_reads_iff.mp h
  exact literalRank_of_apostrophe rfl

theorem rank_of_binary (h : binary.Reads a c r) : literalRank (c ++ r) = 10 := by
  obtain ⟨mark, body, bytes, rfl, hmark, -⟩ := binary_reads_iff.mp h
  rw [List.append_assoc]
  obtain ⟨u, rfl | rfl, hrank⟩ := literalRank_of_lower hmark (by decide) (by decide)
  all_goals exact hrank

theorem rank_of_guid (h : guid.Reads a c r) : literalRank (c ++ r) = 7 := by
  rw [literalRank, (guid_reads_iff.mp h).2.looksLikeGuid, if_pos rfl]

theorem rank_of_time_isWritten {v : TimeOfDay} (h : v.IsWritten c) : literalRank (c ++ r) = 6 := by
  obtain ⟨hour, minute, rest, rfl, ⟨hlen, hdigits, -⟩, -⟩ := h
  have hguid : looksLikeGuid ((hour ++ [colon]) ++ ((minute ++ rest) ++ r)) = false := by
    refine looksLikeGuid_append ⟨colon, ?_, by decide⟩
    rw [List.take_of_length_le (by simp [hlen])]
    simp
  have hshape : hour ++ colon :: (minute ++ rest) ++ r
      = [] ++ (hour ++ colon :: (minute ++ rest ++ r)) := by
    simp
  rw [hshape]
  refine literalRank_number (.inl rfl) (hdigits.isNumeral hlen) (stopsAt_cons.mpr (by decide)) ?_
  simpa using hguid

theorem rank_of_time (h : time.Reads a c r) : literalRank (c ++ r) = 6 := by
  obtain ⟨v, -, hwritten, -⟩ := time_reads h
  exact rank_of_time_isWritten hwritten

/-- What begins with a date is a number with a hyphen after its digits. -/
theorem rank_of_date_isWritten {d : CalendarDate} (h : d.IsWritten c) :
    literalRank (c ++ r) = if (c ++ r).any fun u => u.lower == 0x74 then 4 else 5 := by
  obtain ⟨year, month, day, rfl, ⟨digits, hlen, hdigits, hyear⟩, -⟩ := h
  obtain ⟨sign, hsign, rfl, hsignlen⟩ : ∃ sign : Text, sign.IsSign ∧ year = sign ++ digits
      ∧ sign.length ≤ 1 := by
    rcases hyear with ⟨rfl, -⟩ | ⟨rfl, -⟩
    · exact ⟨[], .inl rfl, rfl, by decide⟩
    · exact ⟨[hyphen], .inr (.inr rfl), rfl, by decide⟩
  have hguid :
      looksLikeGuid ((sign ++ digits ++ [hyphen]) ++ (month ++ hyphen :: day ++ r)) = false := by
    refine looksLikeGuid_append ⟨hyphen, ?_, by decide⟩
    rw [List.take_of_length_le (by simp [hlen]; omega)]
    simp
  have hshape : sign ++ digits ++ hyphen :: (month ++ hyphen :: day) ++ r
      = sign ++ (digits ++ hyphen :: (month ++ hyphen :: day ++ r)) := by
    simp
  rw [hshape]
  refine literalRank_number hsign (hdigits.isNumeral hlen) (stopsAt_cons.mpr (by decide)) ?_
  simpa using hguid

theorem rank_of_dateTimeOffset (h : dateTimeOffset.Reads a c r) : literalRank (c ++ r) = 4 := by
  obtain ⟨v, -, ⟨date, time, offset, mark, rfl, hdate, hmark, -⟩, -⟩ := dateTimeOffset_reads h
  rw [List.append_assoc, rank_of_date_isWritten hdate, if_pos]
  simp [hmark]

theorem rank_of_date_le (h : date.Reads a c r) : literalRank (c ++ r) ≤ 5 := by
  obtain ⟨d, -, hwritten, -⟩ := date_reads_iff.mp h
  rw [rank_of_date_isWritten hwritten]
  split <;> decide

/-- The lower case of a digit is itself, and so nothing but a digit. -/
theorem lower_ne_of_isDigit {u x : CodeUnit} (h : u.isDigit = true) (hx : x.isDigit = false) :
    u.lower ≠ x := by
  have hdigit := h
  simp only [CodeUnit.isDigit, Bool.and_eq_true, decide_eq_true_eq] at h
  rw [CodeUnit.lower_eq_self (UInt16.lt_of_le_of_lt h.2 (by decide))]
  rintro rfl
  rw [hdigit] at hx
  cases hx

theorem rank_of_date (h : date.Reads a t []) : literalRank t = 5 := by
  obtain ⟨d, -, hwritten, -⟩ := date_reads_iff.mp h
  have hrank := rank_of_date_isWritten (r := []) hwritten
  rw [List.append_nil] at hrank
  rw [hrank, if_neg]
  -- a date consists of digits and hyphens
  obtain ⟨year, month, day, rfl, ⟨digits, -, hdigits, hyear⟩, ⟨-, hmonth, -⟩, ⟨-, hday, -⟩⟩ :=
    hwritten
  rw [List.any_eq_true]
  rintro ⟨u, hu, hlower⟩
  have hdigit (h : u.isDigit = true) : False :=
    lower_ne_of_isDigit (x := 0x74) h (by decide) (by simpa using hlower)
  have hhyphen : u ≠ hyphen := by rintro rfl; exact absurd hlower (by decide)
  have hyear' : u ∈ year → u.isDigit = true := by
    rcases hyear with ⟨rfl, -⟩ | ⟨rfl, -⟩
    · exact hdigits u
    · rintro (_ | ⟨_, hmem⟩)
      · exact absurd rfl hhyphen
      · exact hdigits u hmem
  simp only [List.mem_append, List.mem_cons, hhyphen, false_or] at hu
  rcases hu with hu | hu | hu
  · exact hdigit (hyear' hu)
  · exact hdigit (hmonth u hu)
  · exact hdigit (hday u hu)

/-! ### Numbers -/

theorem count_hyphen_of_isDigits {d : Text} (h : d.IsDigits) : d.count hyphen = 0 := by
  refine List.count_eq_zero.mpr fun hmem => ?_
  have := h _ hmem
  cases this

theorem count_hyphen_of_isSign {s : Text} (h : s.IsSign) : s.count hyphen ≤ 1 := by
  rcases h with rfl | rfl | rfl <;> decide

theorem count_hyphen_of_isExponent {e : Text} (h : e.IsExponent) : e.count hyphen ≤ 1 := by
  obtain ⟨mark, sign, digits, rfl, hmark, hsign, hdigits⟩ := h
  have hcount := count_hyphen_of_isSign hsign
  rcases hmark with rfl | rfl
  all_goals
    rw [List.count_cons_of_ne (by decide), List.count_append, count_hyphen_of_isDigits hdigits.2]
    omega

theorem count_hyphen_of_isFraction {f : Text} (h : f.IsFraction) : f.count hyphen ≤ 1 := by
  obtain ⟨digits, rest, rfl, hdigits, hrest⟩ := h
  rw [List.count_cons_of_ne (by decide), List.count_append, count_hyphen_of_isDigits hdigits.2]
  rcases hrest with hrest | rfl
  · have := count_hyphen_of_isExponent hrest
    omega
  · decide

/-- After its digits a decimal goes on with a mark that is neither a hyphen nor a colon. -/
theorem exists_mark_of_isFraction_or_isExponent {w : Text} (h : w.IsFraction ∨ w.IsExponent) :
    ∃ u w', w = u :: w' ∧ u.isDigit = false ∧ u ≠ hyphen ∧ u ≠ colon := by
  rcases h with ⟨digits, rest, rfl, -⟩ | ⟨mark, sign, digits, rfl, rfl | rfl, -⟩
  · exact ⟨_, _, rfl, by decide, by decide, by decide⟩
  · exact ⟨_, _, rfl, by decide, by decide, by decide⟩
  · exact ⟨_, _, rfl, by decide, by decide, by decide⟩

/-- What begins with a decimal or the name of a float has the rank of floats, unless it looks like a
GUID. -/
theorem rank_of_float_of_not_guid (h : float.Reads a c r)
    (hguid : looksLikeGuid (c ++ r) = false) : literalRank (c ++ r) = 8 := by
  rcases (float_reads h).2 with ⟨sign, whole, rest, rfl, hsign, hwhole, hrest⟩ | rfl | rfl | rfl
  · obtain ⟨u, w, rfl, hdigit, hhyphen, hcolon⟩ := exists_mark_of_isFraction_or_isExponent hrest
    have hshape : sign ++ (whole ++ u :: w) ++ r = sign ++ (whole ++ u :: (w ++ r)) := by simp
    rw [hshape] at hguid ⊢
    rw [literalRank_number hsign hwhole (stopsAt_cons.mpr hdigit) hguid]
    simp [numberRank, hhyphen, hcolon]
  · exact literalRank_word (u := 0x4E) (by decide) (by decide) hguid
  · exact literalRank_word (u := 0x49) (by decide) (by decide) hguid
  · have hunsigned : unsigned (Text.ofString "-INF" ++ r) = Text.ofString "INF" ++ r := by
      refine unsigned_append (w := Text.ofString "INF" ++ r) (.inr (.inr rfl)) ?_
      rintro _ ⟨⟩
      decide
    rw [literalRank, hguid, hunsigned]
    rfl

theorem rank_of_float_le (h : float.Reads a c r) : literalRank (c ++ r) ≤ 8 := by
  cases hguid : looksLikeGuid (c ++ r) with
  | false => exact Nat.le_of_eq (rank_of_float_of_not_guid h hguid)
  | true =>
    rw [literalRank, hguid, if_pos rfl]
    decide

theorem rank_of_float (h : float.Reads a t []) : literalRank t = 8 := by
  have hcount : t.count hyphen < 4 := by
    rcases (float_reads h).2 with ⟨sign, whole, rest, rfl, hsign, hwhole, hrest⟩ | rfl | rfl | rfl
    · have hrest' : rest.count hyphen ≤ 1 :=
        hrest.elim count_hyphen_of_isFraction count_hyphen_of_isExponent
      have hsign' := count_hyphen_of_isSign hsign
      rw [List.count_append, List.count_append, count_hyphen_of_isDigits hwhole.2]
      omega
    all_goals decide
  have hrank := rank_of_float_of_not_guid (r := []) h
  rw [List.append_nil] at hrank
  exact hrank (looksLikeGuid_of_count hcount)

theorem rank_of_integer_le (h : integer.Reads a c r) : literalRank (c ++ r) ≤ 9 := by
  obtain ⟨⟨sign, digits, rfl, hsign, hdigits⟩, hr, -⟩ := integer_reads_iff.mp h
  cases hguid : looksLikeGuid (sign ++ digits ++ r) with
  | true =>
    rw [literalRank, hguid, if_pos rfl]
    decide
  | false =>
    rw [List.append_assoc] at hguid ⊢
    rw [literalRank_number hsign hdigits hr hguid]
    unfold numberRank
    split
    · decide
    · split
      · split <;> decide
      · split <;> decide

/-- A numeral after an optional sign has the rank of integers, whatever its value is. -/
theorem literalRank_of_signedDigits {sign digits : Text} (hsign : sign.IsSign)
    (hdigits : digits.IsNumeral) : literalRank (sign ++ digits) = 9 := by
  have hcount : (sign ++ digits).count hyphen < 4 := by
    have := count_hyphen_of_isSign hsign
    rw [List.count_append, count_hyphen_of_isDigits hdigits.2]
    omega
  have hrank := literalRank_number (w := []) hsign hdigits (stopsAt_nil _)
  rw [List.append_nil] at hrank
  exact hrank (looksLikeGuid_of_count hcount)

theorem rank_of_integer (h : integer.Reads a t []) : literalRank t = 9 := by
  obtain ⟨⟨sign, digits, rfl, hsign, hdigits⟩, -⟩ := integer_reads_iff.mp h
  exact literalRank_of_signedDigits hsign hdigits

/-! ## The list of alternatives -/

/-- The alternatives when durations need their keyword. -/
abbrev strictAlternatives : Alternatives Literal := literalAlternatives ⟨true⟩

variable {options : LiteralOptions} {i j : Nat} {x y : Alternative Literal}

/-- What succeeds on a part of a text has at least the rank of the text. -/
theorem rank_le_of_reads (hneeds : NeedsKeyword options (c ++ r))
    (hx : (literalAlternatives options)[i]? = some x) (h : x.parser.Reads a c r) :
    literalRank (c ++ r) ≤ i := by
  rcases i with _ | _ | _ | _ | _ | _ | _ | _ | _ | _ | _ | i
  case succ.succ.succ.succ.succ.succ.succ.succ.succ.succ.succ => cases hx
  all_goals obtain rfl := Option.some.inj hx
  · exact Nat.le_of_eq (rank_of_nullValue h)
  · exact Nat.le_of_eq (rank_of_duration hneeds h)
  · exact Nat.le_of_eq (rank_of_boolean h)
  · exact Nat.le_of_eq (rank_of_string h)
  · exact Nat.le_of_eq (rank_of_dateTimeOffset h)
  · exact rank_of_date_le h
  · exact Nat.le_of_eq (rank_of_time h)
  · exact Nat.le_of_eq (rank_of_guid h)
  · exact rank_of_float_le h
  · exact rank_of_integer_le h
  · exact Nat.le_of_eq (rank_of_binary h)

/-- What reads a whole text has exactly the rank of the text. -/
theorem rank_of_reads (hneeds : NeedsKeyword options t)
    (hx : (literalAlternatives options)[i]? = some x) (h : x.parser.Reads a t []) :
    literalRank t = i := by
  have happend : t ++ [] = t := List.append_nil t
  rcases i with _ | _ | _ | _ | _ | _ | _ | _ | _ | _ | _ | i
  case succ.succ.succ.succ.succ.succ.succ.succ.succ.succ.succ => cases hx
  all_goals obtain rfl := Option.some.inj hx
  · exact happend ▸ rank_of_nullValue h
  · exact happend ▸ rank_of_duration (happend.symm ▸ hneeds) h
  · exact happend ▸ rank_of_boolean h
  · exact happend ▸ rank_of_string h
  · exact happend ▸ rank_of_dateTimeOffset h
  · exact rank_of_date h
  · exact happend ▸ rank_of_time h
  · exact happend ▸ rank_of_guid h
  · exact rank_of_float h
  · exact rank_of_integer h
  · exact happend ▸ rank_of_binary h

/-- Everything that is ranked before an alternative fails on what that alternative reads whole. -/
theorem refuses_of_lt (hneeds : NeedsKeyword options t)
    (hx : (literalAlternatives options)[i]? = some x)
    (hy : (literalAlternatives options)[j]? = some y) (hlt : i < j) (h : y.parser.Reads a t []) :
    x.parser.Refuses t := by
  have := plain_of_mem_literalAlternatives (List.mem_of_getElem? hx)
  rcases refuses_or_reads x.parser t with hrefuses | ⟨a', c, r, rfl, hreads⟩
  · exact hrefuses
  · have hle := rank_le_of_reads hneeds hx hreads
    have heq := rank_of_reads hneeds hy h
    omega

/-- The alternative that reads a whole text decides what the text is. -/
theorem parseLiteral_of_reads (hneeds : NeedsKeyword options t)
    (hx : (literalAlternatives options)[i]? = some x) (h : x.parser.Reads a t []) :
    parseLiteral options t = .ok ⟨a, x.name⟩ := by
  obtain ⟨hi, rfl⟩ := List.getElem?_eq_some_iff.mp hx
  refine Alternatives.parseComplete_eq_ok_iff.mpr
    ⟨(literalAlternatives options).take i, (literalAlternatives options)[i],
      (literalAlternatives options).drop (i + 1), ?_, fun b hb => ?_, h, rfl⟩
  · rw [← List.drop_eq_getElem_cons hi, List.take_append_drop]
  · obtain ⟨k, hk, rfl⟩ := List.mem_iff_getElem.mp hb
    rw [List.length_take] at hk
    have hget : (literalAlternatives options)[k]?
        = some ((literalAlternatives options).take i)[k] := by
      rw [List.getElem_take]
      exact List.getElem?_eq_getElem _
    exact refuses_of_lt hneeds hget hx (by omega) h

end Grammar

/-! ## The dispatcher -/

/-- The alternative, run at the start of a text, reads `value` and consumes all of it. -/
def Alternative.TakesWhole {α : Type} (x : Alternative α) (text : Text) (value : α) : Prop :=
  x.parser.run text 0 = .ok value text.length

open Grammar

/-- **When durations need their keyword, no alternative shadows another.**  At most one of the
eleven consumes a whole text.  If one does, all before it fail, and its value and name are what the
text reads as; and a text reads as nothing else. -/
theorem parseLiteral_exact (text : Text) :
    (∀ (i j : Nat) (x y : Alternative Literal) (v w : Literal), strictAlternatives[i]? = some x →
        strictAlternatives[j]? = some y → x.TakesWhole text v → y.TakesWhole text w → i = j)
      ∧ (∀ before x after v, strictAlternatives = before ++ x :: after → x.TakesWhole text v →
          (∀ b ∈ before, ∃ f, b.parser.run text 0 = .fail f)
            ∧ parseLiteral ⟨true⟩ text = .ok ⟨v, x.name⟩)
      ∧ ∀ found, parseLiteral ⟨true⟩ text = .ok found →
          ∃ x ∈ strictAlternatives, x.name = found.alternative ∧ x.TakesWhole text found.value := by
  refine ⟨?_, ?_, ?_⟩
  · intro i j x y v w hx hy hv hw
    have hi := rank_of_reads (needsKeyword_strict text) hx (Parser.reads_nil_iff.mpr hv)
    have hj := rank_of_reads (needsKeyword_strict text) hy (Parser.reads_nil_iff.mpr hw)
    omega
  · intro before x after v hlist hv
    have hx : strictAlternatives[before.length]? = some x := by
      rw [hlist, List.getElem?_append_right (Nat.le_refl _), Nat.sub_self]
      rfl
    have hreads := Parser.reads_nil_iff.mpr hv
    refine ⟨fun b hb => ?_, parseLiteral_of_reads (needsKeyword_strict text) hx hreads⟩
    obtain ⟨k, hk, rfl⟩ := List.mem_iff_getElem.mp hb
    have hget : strictAlternatives[k]? = some before[k] := by
      rw [hlist, List.getElem?_append_left hk, List.getElem?_eq_getElem hk]
    exact refuses_of_lt (needsKeyword_strict text) hget hx hk hreads
  · intro found h
    obtain ⟨before, x, after, hlist, -, hreads, hname⟩ := Alternatives.parseComplete_eq_ok_iff.mp h
    refine ⟨x, ?_, hname, Parser.reads_nil_iff.mp hreads⟩
    rw [strictAlternatives, hlist]
    simp

/-- The GUID alternative commits to this text and fails on its domain, and still it is a float. -/
theorem parseLiteral_exact_exponent :
    (∀ b ∈ strictAlternatives.take 8, ∃ f, b.parser.run "1234567e-5" 0 = .fail f)
      ∧ parseLiteral ⟨true⟩ "1234567e-5" = .ok ⟨.float (readFloat "1234567e-5"), "float"⟩ :=
  (parseLiteral_exact "1234567e-5").2.1 (strictAlternatives.take 8) ⟨"float", float⟩
    (strictAlternatives.drop 9) _ rfl rfl

end ODataToken
