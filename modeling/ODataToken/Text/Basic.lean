/-!
# Text as UTF-16 code units

Every position, column and length in this library counts UTF-16 code units, and an error snippet
may cut a surrogate pair in two.  So a text is a list of code units, paired or not, and not a
`String`.

## What is here

* `Text` is that list; string literals coerce to it through `Text.ofString`, and `Text.toString`
  shows it, with `U+FFFD` in the place of a surrogate that has no partner.
* `Text.codePoints` splits a text into its code points, each one a text of one or two units.  A
  surrogate without its partner is a code point of its own, so nothing is lost:
  `Text.flatten_codePoints`.  `Text.takeCodePoints` takes leading code points of a class, up to a
  limit, and `Text.takeCodePoints_none` and `Text.takeCodePoints_some` say which these are.
* `Text.ofNat`, `Text.ofInt` and `Text.toNat` write and read decimal digits; `Text.padStart`,
  `Text.padEnd` and `Text.trimEndZeros` put zeros at either end or take them away.
* `Text.quote` is the written form of a text as a JSON string.  It escapes what JSON requires, with
  the short escape where there is one, and also writes a surrogate that has no partner as a `\u`
  escape; every other unit stands for itself.

Lower-casing needs the tables of `ODataToken.Text.Lowercase` and is not here.  There is no
normalisation anywhere: two texts are the same when their units are.
-/

set_option autoImplicit false

namespace ODataToken

/-- One UTF-16 code unit. -/
abbrev CodeUnit := UInt16

/-- A text: UTF-16 code units in order.  Surrogates need not be paired. -/
abbrev Text := List CodeUnit

/-! ## Code units -/

namespace CodeUnit

/-- The first half of a surrogate pair. -/
def isHighSurrogate (u : CodeUnit) : Bool := 0xD800 ≤ u && u ≤ 0xDBFF

/-- The second half of a surrogate pair. -/
def isLowSurrogate (u : CodeUnit) : Bool := 0xDC00 ≤ u && u ≤ 0xDFFF

/-- The code point that a surrogate pair stands for. -/
def pairValue (high low : CodeUnit) : Nat :=
  0x10000 + (high.toNat - 0xD800) * 0x400 + (low.toNat - 0xDC00)

/-- The code unit of an ASCII character, for characters below `U+10000` generally. -/
def ofChar (c : Char) : CodeUnit := UInt16.ofNat c.toNat

end CodeUnit

namespace Text

/-! ## To and from strings -/

/-- The one or two code units of a code point. -/
def ofCodePoint (n : Nat) : Text :=
  if n < 0x10000 then [UInt16.ofNat n]
  else
    [UInt16.ofNat (0xD800 + (n - 0x10000) / 0x400), UInt16.ofNat (0xDC00 + (n - 0x10000) % 0x400)]

/-- The code units of a character. -/
def ofChar (c : Char) : Text := ofCodePoint c.toNat

/-- The UTF-16 form of a string. -/
def ofString (s : String) : Text := s.toList.flatMap ofChar

instance : Coe String Text := ⟨ofString⟩

/-! ## Code points -/

/-- The code points of a text, each as the text of its one or two units. -/
def codePoints : Text → List Text
  | [] => []
  | [u] => [[u]]
  | u :: v :: rest =>
    if u.isHighSurrogate && v.isLowSurrogate then [u, v] :: codePoints rest
    else [u] :: codePoints (v :: rest)

/-- Splitting into code points loses nothing. -/
theorem flatten_codePoints (t : Text) : t.codePoints.flatten = t := by
  fun_induction codePoints t with
  | case1 => rfl
  | case2 => rfl
  | case3 u v rest _ ih => simp [ih]
  | case4 u v rest _ ih => simp [ih]

/-- The first code point of a text, if there is one. -/
def firstCodePoint? : Text → Option Text
  | [] => none
  | [u] => some [u]
  | u :: v :: _ => if u.isHighSurrogate && v.isLowSurrogate then some [u, v] else some [u]

theorem head?_codePoints (t : Text) : t.codePoints.head? = t.firstCodePoint? := by
  unfold codePoints firstCodePoint?
  split
  · rfl
  · rfl
  · split <;> rfl

/-- The leading code points that satisfy `accepts`, no more than `limit` of them. -/
def takeCodePoints (accepts : Text → Bool) : Option Nat → Text → List Text
  | some 0, _ => []
  | _, [] => []
  | _, [u] => if accepts [u] then [[u]] else []
  | limit, u :: v :: rest =>
    if u.isHighSurrogate && v.isLowSurrogate then
      if accepts [u, v] then [u, v] :: takeCodePoints accepts (limit.map (· - 1)) rest else []
    else
      if accepts [u] then [u] :: takeCodePoints accepts (limit.map (· - 1)) (v :: rest) else []

/-- Without a limit, these are the code points before the first that does not satisfy the test. -/
theorem takeCodePoints_none (accepts : Text → Bool) (t : Text) :
    t.takeCodePoints accepts none = t.codePoints.takeWhile accepts := by
  fun_induction codePoints t with
  | case1 => rfl
  | case2 u => simp [takeCodePoints, List.takeWhile]; split <;> simp_all
  | case3 u v rest h ih => simp_all [takeCodePoints, List.takeWhile_cons]
  | case4 u v rest h ih => simp_all [takeCodePoints, List.takeWhile_cons]

/-- A limit cuts their list short. -/
theorem takeCodePoints_some (accepts : Text → Bool) (n : Nat) (t : Text) :
    t.takeCodePoints accepts (some n) = (t.codePoints.takeWhile accepts).take n := by
  fun_induction codePoints t generalizing n with
  | case1 => cases n <;> rfl
  | case2 u => cases n <;> simp [takeCodePoints, List.takeWhile_cons]; split <;> simp_all
  | case3 u v rest h ih =>
    cases n with
    | zero => simp [takeCodePoints]
    | succ n =>
      by_cases hp : accepts [u, v] = true <;> simp_all [takeCodePoints]
  | case4 u v rest h ih =>
    cases n with
    | zero => simp [takeCodePoints]
    | succ n => by_cases hp : accepts [u] = true <;> simp_all [takeCodePoints]

/-- The position is between the two halves of a surrogate pair. -/
def SplitsPair (t : Text) (pos : Nat) : Prop :=
  0 < pos ∧ (∃ u ∈ t[pos - 1]?, u.isHighSurrogate = true) ∧ ∃ u ∈ t[pos]?, u.isLowSurrogate = true

instance (t : Text) (pos : Nat) : Decidable (t.SplitsPair pos) :=
  inferInstanceAs (Decidable (_ ∧ _ ∧ _))

/-- The scalar value of a text that is exactly one code point.  A lone surrogate counts as the
code point of its own value. -/
def codePointValue? : Text → Option Nat
  | [u] => some u.toNat
  | [u, v] =>
    if u.isHighSurrogate && v.isLowSurrogate then some (CodeUnit.pairValue u v) else none
  | _ => none

/-- The character of one code point; a lone surrogate is no character and shows as `U+FFFD`. -/
def toChar (codePoint : Text) : Char :=
  match codePoint.codePointValue? with
  | some n => if n.isValidChar then Char.ofNat n else '\uFFFD'
  | none => '\uFFFD'

/-- The string that shows a text, with `U+FFFD` in the place of each lone surrogate. -/
def toString (t : Text) : String := String.ofList (t.codePoints.map toChar)

/-! ## Decimal digits -/

/-- The decimal digits of a natural number. -/
def ofNat (n : Nat) : Text := (Nat.toDigits 10 n).map CodeUnit.ofChar

/-- The decimal digits of an integer, after `-` if it is negative. -/
def ofInt (n : Int) : Text :=
  if n < 0 then "-" ++ ofNat n.natAbs else ofNat n.natAbs

/-- The number that a text of decimal digits denotes. -/
def toNat (t : Text) : Nat := t.foldl (fun n u => 10 * n + (u.toNat - 48)) 0

/-- The text with zeros in front, up to `width` units. -/
def padStart (width : Nat) (t : Text) : Text := t.leftpad width (CodeUnit.ofChar '0')

/-- The text with zeros behind, up to `width` units. -/
def padEnd (width : Nat) (t : Text) : Text := t.rightpad width (CodeUnit.ofChar '0')

/-- A text without the zeros at its end. -/
def trimEndZeros (t : Text) : Text :=
  (t.reverse.dropWhile (· == CodeUnit.ofChar '0')).reverse

/-! ## Joining and quoting -/

/-- The texts in order, with `sep` between neighbours. -/
def join (sep : Text) (ts : List Text) : Text := sep.intercalate ts

end Text

/-! ## Quoted text -/

namespace CodeUnit

/-- The lower-case hexadecimal digit of a number below 16. -/
def hexDigit (n : Nat) : CodeUnit :=
  if n < 10 then UInt16.ofNat (0x30 + n) else UInt16.ofNat (0x57 + n)

/-- The `\u` escape of a code unit, with four lower-case hexadecimal digits. -/
def unicodeEscape (u : CodeUnit) : Text :=
  let n := u.toNat
  "\\u" ++ [hexDigit (n / 0x1000), hexDigit (n / 0x100 % 16), hexDigit (n / 16 % 16),
    hexDigit (n % 16)]

/-- A code unit that is a code point of its own, as it stands between quotes. -/
def escape (u : CodeUnit) : Text :=
  if u == 0x22 then "\\\""
  else if u == 0x5C then "\\\\"
  else if u == 0x08 then "\\b"
  else if u == 0x09 then "\\t"
  else if u == 0x0A then "\\n"
  else if u == 0x0C then "\\f"
  else if u == 0x0D then "\\r"
  else if u < 0x20 || u.isHighSurrogate || u.isLowSurrogate then u.unicodeEscape
  else [u]

end CodeUnit

namespace Text

/-- A code point as it stands between quotes: a surrogate pair stands for itself. -/
def escapeCodePoint : Text → Text
  | [u] => u.escape
  | pair => pair

/-- The text between double quotes, escaped. -/
def quote (t : Text) : Text := "\"" ++ t.codePoints.flatMap escapeCodePoint ++ "\""

end Text

end ODataToken
