import ODataToken.Proofs.Grammar.Dispatch
import ODataToken.Proofs.Grammar.Name

/-!
# Canonical texts read back

Reading undoes formatting.  A literal whose fields are in range has a canonical text that the
alternative of its kind reads to the end; since no alternative shadows another, that is what the
text reads as.

Conversely every literal that was read has its fields in range, so its canonical text reads as the
same literal, and formatting what was read is stable.  Strings need an argument of their own when
the keyword for durations is not required, for then a quoted text can be a duration; but a string
has only one spelling, and that is the one it was read from.
-/

set_option autoImplicit false

namespace ODataToken

open Grammar ODataToken.Parser
open CodeUnit (apostrophe)

/-! ## Literals in range -/

namespace Literal

/-- The fields of the literal are in the range that its kind allows. -/
def WellFormed : Literal → Prop
  | integer n => int64Min ≤ n ∧ n ≤ int64Max
  | guid t => t.IsGuid
  | date d => (-9999 ≤ d.year ∧ d.year ≤ 9999) ∧ d.IsValid
  | time t => t.IsValid
  | dateTimeOffset v => (-9999 ≤ v.date.year ∧ v.date.year ≤ 9999) ∧ v.IsValid
  | _ => True

/-- The literal is a float. -/
def IsFloat {ν : Type} : Literal ν → Prop
  | float _ => True
  | _ => False

/-- The name of the alternative that reads literals of this kind. -/
def alternative : Literal → Text
  | dateTimeOffset _ => "datetime"
  | l => l.kind

theorem equal_self {l : Literal} (h : ¬ l.IsFloat) : l.equal l = true := by
  cases l
  case float => exact absurd trivial h
  all_goals simp [equal, CalendarDate.equal, TimeOfDay.equal, DateTimeOffset.equal]

end Literal

/-! ## Reading canonical texts -/

theorem integer_reads_text {n : Int} (hmin : int64Min ≤ n) (hmax : n ≤ int64Max) :
    integer.Reads (.integer n) (Text.ofInt n) [] := by
  rw [integer_reads_iff, readInt_ofInt]
  refine ⟨?_, Text.stopsAt_nil _, hmin, hmax, rfl⟩
  unfold Text.ofInt
  split
  · exact ⟨"-", _, rfl, .inr (.inr rfl), Text.isNumeral_ofNat _⟩
  · exact ⟨[], _, rfl, .inl rfl, Text.isNumeral_ofNat _⟩

theorem dateTimeOffset_reads_text {v : DateTimeOffset}
    (hyear : -9999 ≤ v.date.year ∧ v.date.year ≤ 9999) (h : v.IsValid) :
    dateTimeOffset.Reads (.dateTimeOffset v) v.text [] := by
  have hT : Text.ofString "T" = [0x54] := by decide
  have htext : v.text = v.date.text ++ 0x54 :: (v.time.text ++ offsetText v.offsetMinutes) := by
    simp [DateTimeOffset.text, hT]
  rw [htext]
  exact dateTimeOffset_reads_of_isWritten (CalendarDate.isWritten_text hyear h.date) (by decide)
    (TimeOfDay.isWritten_text h.time) (isOffset_offsetText h.offset) h

theorem duration_reads_text (requireKeyword : Bool) (v : Duration) :
    (duration requireKeyword).Reads (.duration v) v.text [] := by
  obtain ⟨t, htext, ht⟩ := v.exists_text_eq
  exact duration_reads_iff.mpr ⟨"duration", t, v.nanoseconds, htext, .inl (by decide), ht, rfl⟩

theorem binary_reads_text (bytes : List UInt8) :
    binary.Reads (.binary bytes) (Literal.binary bytes).text [] := by
  refine binary_reads_iff.mpr ⟨"binary'", Base64Url.encode bytes, bytes, ?_, by decide,
    fun u hu => Base64Url.isBase64Url_of_mem_encode hu, Base64Url.decode_encode bytes, rfl⟩
  simp [Literal.text]

/-- The alternative of its kind reads the canonical text of a literal to the end. -/
theorem exists_alternative_reads_text (options : LiteralOptions) {l : Literal} (h : l.WellFormed)
    (hfloat : ¬ l.IsFloat) :
    ∃ (i : Nat) (x : Alternative Literal), (literalAlternatives options)[i]? = some x
      ∧ x.name = l.alternative ∧ x.parser.Reads l l.text [] ∧ (i = 3 → ∃ s, l = .string s) := by
  cases l with
  | null => exact ⟨0, _, rfl, rfl, nullValue_reads_iff.mpr ⟨rfl, rfl⟩, by simp⟩
  | boolean b =>
    refine ⟨2, _, rfl, rfl, boolean_reads_iff.mpr ⟨b, rfl, ?_⟩, by simp⟩
    cases b <;> decide
  | integer n => exact ⟨9, _, rfl, rfl, integer_reads_text h.1 h.2, by simp⟩
  | float x => exact absurd trivial hfloat
  | string s =>
    exact ⟨3, _, rfl, rfl, string_reads_iff.mpr ⟨s, rfl, rfl, by simp⟩, fun _ => ⟨s, rfl⟩⟩
  | guid t => exact ⟨7, _, rfl, rfl, guid_reads_iff.mpr ⟨rfl, h⟩, by simp⟩
  | date d =>
    exact ⟨5, _, rfl, rfl, date_reads_iff.mpr ⟨d, rfl, CalendarDate.isWritten_text h.1 h.2, h.2⟩,
      by simp⟩
  | time t =>
    exact ⟨6, _, rfl, rfl,
      time_reads_of_isWritten (TimeOfDay.isWritten_text h) h (Text.stopsAt_nil _), by simp⟩
  | dateTimeOffset v => exact ⟨4, _, rfl, rfl, dateTimeOffset_reads_text h.1 h.2, by simp⟩
  | duration v => exact ⟨1, _, rfl, rfl, duration_reads_text _ v, by simp⟩
  | binary bytes => exact ⟨10, _, rfl, rfl, binary_reads_text bytes, by simp⟩

theorem parseLiteral_canonical {options : LiteralOptions} {l : Literal} (h : l.WellFormed)
    (hfloat : ¬ l.IsFloat) (hneeds : NeedsKeyword options l.text) :
    parseLiteral options l.text = .ok ⟨l, l.alternative⟩ := by
  obtain ⟨i, x, hx, hname, hreads, -⟩ := exists_alternative_reads_text options h hfloat
  rw [parseLiteral_of_reads hneeds hx hreads, hname]

/-- **The canonical text of a literal reads as an equal literal**, for every literal but floats
whose fields are in range. -/
theorem parseLiteral_text (l : Literal) (h : l.WellFormed) (hfloat : ¬ l.IsFloat) :
    ∃ found, parseLiteral ⟨true⟩ l.text = .ok found ∧ found.value.equal l = true :=
  ⟨_, parseLiteral_canonical h hfloat (needsKeyword_strict _), l.equal_self hfloat⟩

/-- A leap day before the year zero, at the hour 24, and as far west of UTC as can be. -/
theorem parseLiteral_text_leap_day :
    let v : DateTimeOffset := ⟨⟨-44, 2, 29⟩, ⟨24, 0, 59, 120⟩, -1499⟩
    (Literal.dateTimeOffset v).text = "-0044-02-29T24:00:59.00000012-24:59"
      ∧ ∃ found, parseLiteral ⟨true⟩ (Literal.dateTimeOffset v).text = .ok found
          ∧ found.value.equal (.dateTimeOffset v) = true :=
  ⟨by decide, parseLiteral_text _ ⟨by decide, ⟨⟨by decide, by decide⟩,
    ⟨by decide, by decide, by decide, by decide⟩, by decide⟩⟩ id⟩

/-! ## What was read is in range -/

/-- **Whatever an alternative reads is a literal of its kind with fields in range**, and a string
and a GUID only have one spelling. -/
theorem wellFormed_of_reads {options : LiteralOptions} {x : Alternative Literal} {a : Literal}
    {c r : Text} (hx : x ∈ literalAlternatives options) (h : x.parser.Reads a c r) :
    a.WellFormed ∧ x.name = a.alternative ∧ ∀ s, a = .string s ∨ a = .guid s → c = a.text := by
  simp only [literalAlternatives, List.mem_cons, List.not_mem_nil, or_false] at hx
  rcases hx with rfl | rfl | rfl | rfl | rfl | rfl | rfl | rfl | rfl | rfl | rfl
  · obtain ⟨rfl, -⟩ := nullValue_reads_iff.mp h
    exact ⟨trivial, rfl, by simp⟩
  · obtain ⟨mark, t, v, -, -, -, rfl⟩ := duration_reads_iff.mp h
    exact ⟨trivial, rfl, by simp⟩
  · obtain ⟨b, rfl, -⟩ := boolean_reads_iff.mp h
    exact ⟨trivial, rfl, by simp⟩
  · obtain ⟨s, rfl, rfl, -⟩ := string_reads_iff.mp h
    exact ⟨trivial, rfl, fun _ _ => rfl⟩
  · obtain ⟨v, rfl, ⟨date, time, offset, mark, -, ⟨year, month, day, -, hyear, -⟩, -⟩, hvalid⟩ :=
      dateTimeOffset_reads h
    exact ⟨⟨hyear.bounds, hvalid⟩, rfl, by simp⟩
  · obtain ⟨d, rfl, ⟨year, month, day, -, hyear, -⟩, hvalid⟩ := date_reads_iff.mp h
    exact ⟨⟨hyear.bounds, hvalid⟩, rfl, by simp⟩
  · obtain ⟨t, rfl, -, hvalid⟩ := time_reads h
    exact ⟨hvalid, rfl, by simp⟩
  · obtain ⟨rfl, hguid⟩ := guid_reads_iff.mp h
    exact ⟨hguid, rfl, fun _ _ => rfl⟩
  · obtain ⟨v, rfl⟩ := (float_reads h).1
    exact ⟨trivial, rfl, by simp⟩
  · obtain ⟨-, -, hmin, hmax, rfl⟩ := integer_reads_iff.mp h
    exact ⟨⟨hmin, hmax⟩, rfl, by simp⟩
  · obtain ⟨mark, body, bytes, -, -, -, -, rfl⟩ := binary_reads_iff.mp h
    exact ⟨trivial, rfl, by simp⟩

/-- The canonical text of anything but a string does not begin with an apostrophe. -/
theorem needsKeyword_text (options : LiteralOptions) {l : Literal} (h : l.WellFormed)
    (hfloat : ¬ l.IsFloat) (hstring : ∀ s, l ≠ .string s) : NeedsKeyword options l.text := by
  right
  intro hquote
  obtain ⟨i, x, hx, -, hreads, hthird⟩ := exists_alternative_reads_text ⟨true⟩ h hfloat
  have hrank := rank_of_reads (needsKeyword_strict _) hx hreads
  rw [literalRank_of_apostrophe hquote] at hrank
  obtain ⟨s, rfl⟩ := hthird hrank.symm
  exact hstring s rfl

/-! ## Canonical texts of what was read -/

theorem parseLiteral_text_of_parseLiteral {options : LiteralOptions} {text : Text}
    {found : Attributed Literal} (h : parseLiteral options text = .ok found)
    (hfloat : ¬ found.value.IsFloat) : parseLiteral options found.value.text = .ok found := by
  obtain ⟨before, x, after, hlist, -, hreads, hname⟩ := Alternatives.parseComplete_eq_ok_iff.mp h
  have hx := List.mem_of_getElem? (Alternatives.getElem?_of_split hlist)
  obtain ⟨hwf, halternative, hstring⟩ := wellFormed_of_reads hx hreads
  by_cases hs : ∃ s, found.value = .string s
  · -- a string is read from its canonical text
    obtain ⟨s, hs⟩ := hs
    rw [← hstring s (.inl hs)]
    exact h
  · have hneeds : NeedsKeyword options found.value.text :=
      needsKeyword_text options hwf hfloat fun s hs' => hs ⟨s, hs'⟩
    rw [parseLiteral_canonical hwf hfloat hneeds, ← halternative, hname]

theorem text_of_parseName {text : Text} {found : Attributed Name}
    (h : parseName text = .ok found) : found.value.text = text := by
  obtain ⟨before, x, after, hlist, -, hreads, -⟩ := Alternatives.parseComplete_eq_ok_iff.mp h
  have hx := List.mem_of_getElem? (Alternatives.getElem?_of_split hlist)
  obtain rfl := List.mem_singleton.mp hx
  exact name_reads hreads

/-! ## Tokens -/

/-- A token is a literal, or else a name. -/
theorem parseToken_eq_ok_iff {options : LiteralOptions} {text : Text} {found : Attributed Token} :
    parseToken options text = .ok found
      ↔ (∃ l, parseLiteral options text = .ok l ∧ found = ⟨.literal l.value, l.alternative⟩)
        ∨ ∃ e n, parseLiteral options text = .error e ∧ parseName text = .ok n
            ∧ found = ⟨.name n.value, n.alternative⟩ := by
  unfold parseToken
  cases parseLiteral options text with
  | ok l => simp [eq_comm]
  | error e =>
    cases parseName text with
    | ok n => simp [eq_comm]
    | error e' =>
      dsimp only
      split <;> simp

namespace Token

/-- The canonical text of a token. -/
def text : Token → Text
  | literal l => l.text
  | name n => n.text

/-- The token is a float. -/
def IsFloat : Token → Prop
  | literal l => l.IsFloat
  | name _ => False

end Token

/-- **The canonical text of a token that was read reads as the same token, by the same
alternative**, under the options that it was read with.  So to format what was read a second time
changes nothing. -/
theorem parseToken_text (options : LiteralOptions) (text : Text) (found : Attributed Token)
    (h : parseToken options text = .ok found) (hfloat : ¬ found.value.IsFloat) :
    parseToken options found.value.text = .ok found
      ∧ ∀ again, parseToken options found.value.text = .ok again →
          again.value.text = found.value.text := by
  have hstable : parseToken options found.value.text = .ok found := by
    rcases parseToken_eq_ok_iff.mp h with ⟨l, hl, rfl⟩ | ⟨e, n, he, hn, rfl⟩
    · have hl' := parseLiteral_text_of_parseLiteral hl hfloat
      exact parseToken_eq_ok_iff.mpr (.inl ⟨l, hl', rfl⟩)
    · -- a name is its own canonical text, and that was no literal
      show parseToken options n.value.text = _
      rw [text_of_parseName hn]
      exact h
  refine ⟨hstable, fun again hagain => ?_⟩
  rw [hstable] at hagain
  rw [Except.ok.inj hagain]

/-- A bare duration with a redundant sign and idle zeros gets its keyword and its canonical form. -/
theorem parseToken_text_bare_duration :
    let found : Attributed Token := ⟨.literal (.duration ⟨86490500000000⟩), "duration"⟩
    parseToken ⟨false⟩ "'+p01dT000h90.5s'" = .ok found
      ∧ found.value.text = "duration'P1DT1M30.5S'"
      ∧ parseToken ⟨false⟩ found.value.text = .ok found :=
  ⟨rfl, by decide, (parseToken_text ⟨false⟩ "'+p01dT000h90.5s'" _ rfl id).1⟩

end ODataToken
