import Mathlib.Data.List.Nodup
import ODataToken.Proofs.Grammar.Failures
import ODataToken.Proofs.Parser.ShapeFailures
import ODataToken.Proofs.RoundTrip

/-!
# Which texts are numbers

Digits begin a year, an hour, the first group of a GUID, a float and an integer, and integers are
tried last of these.  What comes before them does not take digits away from them: none of it reads a
numeral or a part of it, and none of it fails on the domain there.  So an integer that is too large
is reported as such (`failsOnShape_of_signedDigits`), and not as a year with something left over.

`parseLiteral_number` says which texts are integers and floats, and of which value.
-/

set_option autoImplicit false

namespace ODataToken

open ODataToken.Parser Grammar
open CodeUnit (apostrophe hyphen)

/-! ## The texts of integers -/

/-- The text is a numeral after an optional sign, and denotes the integer. -/
def Text.Denotes (t : Text) (n : Int) : Prop :=
  ∃ sign digits : Text, t = sign ++ digits ∧ sign.IsSign ∧ digits.IsNumeral
    ∧ n = if sign = "-" then -(digits.toNat : Int) else digits.toNat

namespace Grammar

variable {sign digits t : Text} {n : Int} {options : LiteralOptions} {x : Alternative Literal}
  {i : Nat}

theorem readInt_signedDigits (hsign : sign.IsSign) (hdigits : digits.IsNumeral) :
    readInt (sign ++ digits) = if sign = "-" then -(digits.toNat : Int) else digits.toNat := by
  rcases hsign with rfl | rfl | rfl
  · rw [if_neg (by decide), List.nil_append, readInt_digits hdigits.2]
  · rw [if_neg (by decide)]
    rfl
  · rw [if_pos rfl]
    rfl

theorem denotes_iff :
    t.Denotes n
      ↔ (∃ sign digits : Text, t = sign ++ digits ∧ sign.IsSign ∧ digits.IsNumeral)
        ∧ n = readInt t := by
  constructor
  · rintro ⟨sign, digits, rfl, hsign, hdigits, rfl⟩
    exact ⟨⟨sign, digits, rfl, hsign, hdigits⟩, (readInt_signedDigits hsign hdigits).symm⟩
  · rintro ⟨⟨sign, digits, rfl, hsign, hdigits⟩, rfl⟩
    exact ⟨sign, digits, rfl, hsign, hdigits, readInt_signedDigits hsign hdigits⟩

/-- Behind the first unit of such a text there are only digits. -/
theorem isDigits_tail (hsign : sign.IsSign) (hdigits : digits.IsNumeral) :
    Text.IsDigits (sign ++ digits).tail := by
  rcases hsign with rfl | rfl | rfl
  · exact fun u hu => hdigits.2 u (List.mem_of_mem_tail hu)
  · exact hdigits.2
  · exact hdigits.2

theorem head_signedDigits (hsign : sign.IsSign) (hdigits : digits.IsNumeral) :
    ∀ u ∈ (sign ++ digits).head?, u ∈ Text.ofString "+-" ∨ u.isDigit = true := by
  intro u hu
  rcases hsign with rfl | rfl | rfl
  · exact .inr (hdigits.2 u (List.mem_of_head? hu))
  · cases hu
    exact .inl (by decide)
  · cases hu
    exact .inl (by decide)

/-! ## What else fails on the shape -/

theorem dateShape_failsOnShape (h : 5 < literalRank t) : dateShape.FailsOnShape t := by
  rw [← failsOnShape_map_iff (g := DateShape.toDate), dateShape_map_toDate]
  refine Refuses.failsOnShape ?_
  rcases refuses_or_reads plainDate t with hrefuses | ⟨d, c, r, rfl, hreads⟩
  · exact hrefuses
  · rw [rank_of_date_isWritten (plainDate_reads_iff.mp hreads)] at h
    split at h <;> omega

theorem timeShape_failsOnShape (h : literalRank t ≠ 6) : timeShape.FailsOnShape t := by
  rw [← failsOnShape_map_iff (g := TimeShape.fields), timeShape_map_fields]
  refine Refuses.failsOnShape ?_
  rcases refuses_or_reads plainTime t with hrefuses | ⟨d, c, r, rfl, hreads⟩
  · exact hrefuses
  · exact absurd (rank_of_time_isWritten (plainTime_reads hreads)) h

/-- A GUID is not committed before the hyphen behind its first group. -/
theorem guid_failsOnShape (hsign : sign.IsSign) (hdigits : digits.IsNumeral) :
    guid.FailsOnShape (sign ++ digits) := by
  have hgroup : (terminated (hexGroup 8) (char "-")).Refuses (sign ++ digits) := by
    rcases refuses_or_reads (terminated (hexGroup 8) (char "-")) (sign ++ digits) with
      hrefuses | ⟨v, c, r, heq, hreads⟩
    · exact hrefuses
    · obtain ⟨rfl, hlen, -⟩ := hexGroup_hyphen_reads_iff.mp hreads
      obtain ⟨u, v, rfl⟩ := List.exists_cons_of_length_eq_add_one hlen
      have htail := isDigits_tail hsign hdigits
      rw [heq] at htail
      have hhyphen : hyphen.isDigit = true := htail hyphen (by simp)
      cases hhyphen
  exact (failsOnShape_map_iff.mpr (hgroup.failsOnShape.seq _).recognize).label _

theorem binary_failsOnShape (h : ∀ u ∈ t.head?, u ∈ Text.ofString "+-" ∨ u.isDigit = true) :
    binary.FailsOnShape t := by
  refine ⟨_, binary_run_of_head fun u hu => ?_, rfl⟩
  rcases h u hu with hsign | hdigit
  · rcases mem_signs_iff.mp hsign with rfl | rfl <;> decide
  · exact lower_ne_of_isDigit hdigit (by decide)

theorem needsKeyword_of_head (options : LiteralOptions)
    (h : ∀ u ∈ t.head?, u ∈ Text.ofString "+-" ∨ u.isDigit = true) : NeedsKeyword options t := by
  refine .inr fun hhead => ?_
  rcases h apostrophe hhead with hsign | hdigit
  · exact absurd hsign (by decide)
  · cases hdigit

/-- **On a numeral after an optional sign, everything but integers fails on the shape.** -/
theorem failsOnShape_of_signedDigits (hsign : sign.IsSign) (hdigits : digits.IsNumeral)
    (hx : (literalAlternatives options)[i]? = some x) (hi : i ≠ 9) :
    x.parser.FailsOnShape (sign ++ digits) := by
  have hrank := literalRank_of_signedDigits hsign hdigits
  have hhead := head_signedDigits hsign hdigits
  -- what is ranked before integers does not read a part of it
  have hrefuses (hlt : i < 9) : x.parser.Refuses (sign ++ digits) := by
    have := plain_of_mem_literalAlternatives (List.mem_of_getElem? hx)
    rcases refuses_or_reads x.parser (sign ++ digits) with h | ⟨a, c, r, heq, hreads⟩
    · exact h
    · have hle := rank_le_of_reads (heq ▸ needsKeyword_of_head options hhead) hx hreads
      rw [← heq, hrank] at hle
      omega
  rcases i with _ | _ | _ | _ | _ | _ | _ | _ | _ | _ | _ | i
  case succ.succ.succ.succ.succ.succ.succ.succ.succ.succ.succ => cases hx
  all_goals obtain rfl := Option.some.inj hx
  · exact Refuses.failsOnShape (p := nullValue) (hrefuses (by decide))
  · exact Refuses.failsOnShape (p := duration _) (hrefuses (by decide))
  · exact Refuses.failsOnShape (p := boolean) (hrefuses (by decide))
  · exact Refuses.failsOnShape (p := string) (hrefuses (by decide))
  · exact (((dateShape_failsOnShape (by omega)).seq3 _ _).tryMap _).label _
  · exact (failsOnShape_map_iff.mpr ((dateShape_failsOnShape (by omega)).tryMap _)).label _
  · exact (failsOnShape_map_iff.mpr ((timeShape_failsOnShape (by omega)).tryMap _)).label _
  · exact guid_failsOnShape hsign hdigits
  · exact Refuses.failsOnShape (p := float) (hrefuses (by decide))
  · exact absurd rfl hi
  · exact binary_failsOnShape hhead

/-! ## Integers and floats as whole texts -/

/-- A numeral that does not fit into 64 bits is rejected, where it starts. -/
theorem integer_run_of_out_of_range (hsign : sign.IsSign) (hdigits : digits.IsNumeral)
    (h : readInt (sign ++ digits) < int64Min ∨ int64Max < readInt (sign ++ digits)) :
    integer.run (sign ++ digits) 0
      = .fail (.domain 0 "an integer between -9223372036854775808 and 9223372036854775807") := by
  have hreads : signedDigits.Reads (sign ++ digits) (sign ++ digits) [] :=
    signedDigits_reads_iff.mpr ⟨rfl, sign, digits, rfl, hsign, hdigits, Text.stopsAt_nil _⟩
  have hcheck : checkInteger (sign ++ digits) = .error (.overall
      "an integer between -9223372036854775808 and 9223372036854775807") := by
    rw [checkInteger, if_pos h]
    rfl
  rw [reads_nil_iff] at hreads
  simp only [integer, label, tryMap, hreads, Result.andThen_ok, hcheck]
  rfl

/-- The names of the alternatives are all different. -/
theorem eq_of_name_eq {y : Alternative Literal} (hx : x ∈ literalAlternatives options)
    (hy : y ∈ literalAlternatives options) (h : x.name = y.name) : x = y := by
  have hnodup : ((literalAlternatives options).map Alternative.name).Nodup := by
    show List.Nodup (["null", "duration", "boolean", "string", "datetime", "date", "time", "guid",
      "float", "integer", "binary"] : List Text)
    decide
  exact List.inj_on_of_nodup_map hnodup hx hy h

/-- A literal is read by the alternative of its kind. -/
theorem reads_of_parseLiteral {found : Attributed Literal}
    (hx : x ∈ literalAlternatives options) (h : parseLiteral options t = .ok found)
    (hname : found.value.alternative = x.name) : x.parser.Reads found.value t [] := by
  obtain ⟨before, y, after, hlist, -, hreads, -⟩ := Alternatives.parseComplete_eq_ok_iff.mp h
  have hy := List.mem_of_getElem? (Alternatives.getElem?_of_split hlist)
  rwa [eq_of_name_eq hx hy (hname.symm.trans (wellFormed_of_reads hy hreads).2.1.symm)]

end Grammar

/-- **Which texts are integers and floats.**  A numeral after an optional sign is an integer if its
value fits into 64 bits, and a failure on the domain at the start if it does not.  A decimal is a
float.  Nothing else is an integer, and nothing but the three names is a float. -/
theorem parseLiteral_number (options : LiteralOptions) (text : Text) :
    (∀ n, text.Denotes n →
        (-2 ^ 63 ≤ n ∧ n ≤ 2 ^ 63 - 1 →
          parseLiteral options text = .ok ⟨.integer n, "integer"⟩)
        ∧ (n < -2 ^ 63 ∨ 2 ^ 63 - 1 < n →
          parseLiteral options text = .error ⟨.failed .domain, text, 0,
            "an integer between -9223372036854775808 and 9223372036854775807", some "integer"⟩))
      ∧ (text.IsDecimal → parseLiteral options text = .ok ⟨.float (readFloat text), "float"⟩)
      ∧ (∀ found n, parseLiteral options text = .ok found → found.value = .integer n →
          text.Denotes n)
      ∧ ∀ found x, parseLiteral options text = .ok found → found.value = .float x →
          text.IsDecimal ∧ x = readFloat text
            ∨ text = Text.ofString "NaN" ∨ text = Text.ofString "INF"
            ∨ text = Text.ofString "-INF" := by
  rw [← int64Min_eq, ← int64Max_eq]
  have hfloat (h : text.IsDecimal) :
      parseLiteral options text = .ok ⟨.float (readFloat text), "float"⟩ := by
    have hneeds : NeedsKeyword options text := by
      obtain ⟨sign, whole, rest, rfl, hsign, hwhole, -⟩ := h
      refine needsKeyword_of_head options fun u hu => head_signedDigits hsign hwhole u ?_
      rw [← List.append_assoc, List.head?_append_of_ne_nil] at hu
      · exact hu
      · simp [hwhole.1]
    exact parseLiteral_of_reads (i := 8) hneeds rfl (float_reads_of_isDecimal h)
  refine ⟨fun n hn => ⟨?_, ?_⟩, hfloat, fun found n h hvalue => ?_, fun found x h hvalue => ?_⟩
  · rintro ⟨hmin, hmax⟩
    obtain ⟨hshape, rfl⟩ := denotes_iff.mp hn
    have hneeds : NeedsKeyword options text := by
      obtain ⟨sign, digits, rfl, hsign, hdigits⟩ := hshape
      exact needsKeyword_of_head options (head_signedDigits hsign hdigits)
    exact parseLiteral_of_reads (i := 9) hneeds rfl
      (integer_reads_iff.mpr ⟨hshape, Text.stopsAt_nil _, hmin, hmax, rfl⟩)
  · intro hrange
    obtain ⟨⟨sign, digits, rfl, hsign, hdigits⟩, rfl⟩ := denotes_iff.mp hn
    exact Alternatives.parseComplete_of_one_domain (i := 9) rfl
      (integer_run_of_out_of_range hsign hdigits hrange) rfl
      fun j x hx hj => failsOnShape_of_signedDigits hsign hdigits hx hj
  · have hreads := reads_of_parseLiteral (x := ⟨"integer", integer⟩) (by simp [literalAlternatives])
      h (by rw [hvalue]; rfl)
    rw [hvalue] at hreads
    obtain ⟨hshape, -, -, -, heq⟩ := integer_reads_iff.mp hreads
    exact denotes_iff.mpr ⟨hshape, Literal.integer.inj heq⟩
  · have hreads := reads_of_parseLiteral (x := ⟨"float", float⟩) (by simp [literalAlternatives])
      h (by rw [hvalue]; rfl)
    refine (float_reads hreads).2.imp_left fun hdecimal => ⟨hdecimal, ?_⟩
    rw [hfloat hdecimal] at h
    obtain rfl := Except.ok.inj h
    exact (Literal.float.inj hvalue).symm

/-- The first two texts begin like a year and like a GUID, and the second one commits the GUID. -/
theorem parseLiteral_number_eight_digits :
    Text.Denotes "12345678901234567890" 12345678901234567890
      ∧ parseLiteral ⟨false⟩ "12345678901234567890" = .error ⟨.failed .domain,
          "12345678901234567890", 0,
          "an integer between -9223372036854775808 and 9223372036854775807", some "integer"⟩
      ∧ Text.IsDecimal "12345678e-5"
      ∧ parseLiteral ⟨true⟩ "12345678e-5" = .ok ⟨.float (readFloat "12345678e-5"), "float"⟩
      ∧ Text.Denotes "-01" (-1)
      ∧ parseLiteral ⟨true⟩ "-01" = .ok ⟨.integer (-1), "integer"⟩ := by
  have hlarge : Text.Denotes "12345678901234567890" 12345678901234567890 :=
    ⟨[], "12345678901234567890", rfl, .inl rfl, ⟨by decide, List.all_eq_true.mp rfl⟩, rfl⟩
  have hdecimal : Text.IsDecimal "12345678e-5" :=
    ⟨[], "12345678", "e-5", rfl, .inl rfl, ⟨by decide, List.all_eq_true.mp rfl⟩,
      .inr ⟨_, "-", "5", rfl, .inl rfl, .inr (.inr rfl), by decide,
        List.all_eq_true.mp rfl⟩⟩
  have hrun : parseLiteral ⟨true⟩ "-01" = .ok ⟨.integer (-1), "integer"⟩ := rfl
  exact ⟨hlarge, ((parseLiteral_number ⟨false⟩ _).1 _ hlarge).2 (.inr (by decide)), hdecimal,
    (parseLiteral_number ⟨true⟩ _).2.1 hdecimal,
    (parseLiteral_number ⟨true⟩ _).2.2.1 _ _ hrun rfl, hrun⟩

end ODataToken
