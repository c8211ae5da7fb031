import ODataToken.Text.Basic

/-!
# Floats and decimals

Floats are written by the shortest decimal that reads back, and read by rounding a decimal to the
nearest float.  Both directions are exact: they compute with whole numbers, of any size.

## What is here

* `Binary64` is the magnitude of a finite float as a whole number of halves, quarters and so on:
  `mantissa` times a power of two.  It comes with the shape of its rounding interval, the reals that
  are nearer to it than to any other float.
* `Binary64.shortest` takes the shortest of the decimals that round to a given float, and of these
  the nearest.  It looks for the coarsest power of ten that has a multiple in the rounding interval,
  so the multiple that it finds has the fewest digits.  Only the two multiples next to the value
  need a test, for if any lies in the interval then so does one of these.
* `Decimal.layout` writes a decimal positionally when its leading digit stands for a power of ten
  from `10 ^ -6` below `10 ^ 21`, and otherwise with an exponent that is always signed and never
  padded.  `floatNotation` writes a finite float this way; the sign of a zero is not written.
* `readInt` reads a whole number of any size and `readFraction` the digits after a point.
  `readFloat` takes a decimal apart into sign, digits, fraction and exponent and rounds it to the
  nearest float.  All are meant for texts of the shape that they read.

Nothing is computed with floats but their negation and comparison, so rounding happens in
`nearestFloat` only.
-/

set_option autoImplicit false

namespace ODataToken

/-- The magnitude `mantissa * 2 ^ exponent` of a finite float. -/
structure Binary64 where
  mantissa : Nat
  exponent : Int
  /-- The gap to the next float below is half the gap to the next one above. -/
  narrowBelow : Bool
  deriving DecidableEq, Repr

namespace Binary64

/-- The magnitude that the bits of a finite float stand for. -/
def ofBits (bits : UInt64) : Binary64 :=
  let biased := ((bits >>> 52) &&& 0x7FF).toNat
  let fraction := (bits &&& 0xFFFFFFFFFFFFF).toNat
  if biased = 0 then ⟨fraction, -1074, false⟩
  else ⟨Nat.pow 2 52 + fraction, (biased : Int) - 1075, fraction = 0 && 1 < biased⟩

/-- The magnitude of a finite float. -/
def ofFloat (x : Float) : Binary64 := ofBits x.toBits

variable (x : Binary64)

/-- Four times the lower end of the rounding interval, in units of `2 ^ exponent`. -/
def lowerEnd : Nat := if x.narrowBelow then 4 * x.mantissa - 1 else 4 * x.mantissa - 2

/-- Four times the upper end of the rounding interval, in units of `2 ^ exponent`. -/
def upperEnd : Nat := 4 * x.mantissa + 2

/-- The ends belong to the rounding interval when the mantissa is even. -/
def closedEnds : Bool := x.mantissa % 2 == 0

end Binary64

/-- The float is below zero, or is the negative zero. -/
def floatSign (x : Float) : Bool := x.toBits >>> 63 == 1

/-! ## The shortest decimal that reads back -/

/-- The decimal `digits * 10 ^ exponent`. -/
structure Decimal where
  digits : Nat
  exponent : Int
  deriving DecidableEq, Repr

namespace Binary64

/-- The multiple of `10 ^ e` to write for the value, if one lies in its rounding interval: the
nearer of the two neighbours, and of two equally near the even one. -/
def multiple? (x : Binary64) (e : Int) : Option Nat :=
  let scale := Nat.pow 2 (x.exponent - 2).toNat * Nat.pow 10 (-e).toNat
  let unit := Nat.pow 2 (2 - x.exponent).toNat * Nat.pow 10 e.toNat
  let value := 4 * x.mantissa * scale
  let below := value / unit
  let readsBack := fun (n : Nat) =>
    if x.closedEnds then x.lowerEnd * scale ≤ n * unit && n * unit ≤ x.upperEnd * scale
    else x.lowerEnd * scale < n * unit && n * unit < x.upperEnd * scale
  match readsBack below, readsBack (below + 1) with
  | false, false => none
  | true, false => some below
  | false, true => some (below + 1)
  | true, true =>
    match compare (2 * value) ((2 * below + 1) * unit) with
    | .lt => some below
    | .gt => some (below + 1)
    | .eq => some (if below % 2 = 0 then below else below + 1)

/-- The powers of ten that can be the unit of a shortest decimal, the coarsest first. -/
def exponents : List Int := (List.range 633).map fun (i : Nat) => 308 - (i : Int)

/-- The decimal with all the digits of the value. -/
def exact (x : Binary64) : Decimal :=
  ⟨x.mantissa * Nat.pow 2 x.exponent.toNat * Nat.pow 5 (-x.exponent).toNat, min 0 x.exponent⟩

/-- The shortest decimal that reads back as this value. -/
def shortest (x : Binary64) : Decimal :=
  (exponents.findSome? fun e => (x.multiple? e).map fun n => ⟨n, e⟩).getD x.exact

end Binary64

/-! ## Notation -/

/-- The text of a decimal.  A whole number has no point. -/
def Decimal.layout (d : Decimal) : Text :=
  let digits := Text.ofNat d.digits
  let point := (digits.length : Int) + d.exponent
  let zeros := fun (n : Int) => List.replicate n.toNat (CodeUnit.ofChar '0')
  if 0 ≤ d.exponent ∧ point ≤ 21 then digits ++ zeros d.exponent
  else if 0 < point ∧ point ≤ 21 then
    digits.take point.toNat ++ "." ++ digits.drop point.toNat
  else if -6 < point ∧ point ≤ 0 then "0." ++ zeros (-point) ++ digits
  else
    let fraction := digits.drop 1
    let mark : Text := if point - 1 < 0 then "e-" else "e+"
    digits.take 1 ++ (if fraction.isEmpty then [] else ("." : Text) ++ fraction) ++ mark
      ++ Text.ofNat (point - 1).natAbs

/-- The text of a finite float. -/
def floatNotation (x : Float) : Text :=
  let magnitude := Binary64.ofFloat x
  if magnitude.mantissa = 0 then "0"
  else (if floatSign x then ("-" : Text) else []) ++ magnitude.shortest.layout

example : floatNotation 0.1 = "0.1" := by decide +kernel
example : floatNotation 123456789012345680000 = "123456789012345680000" := by decide +kernel
example : floatNotation 1e21 = "1e+21" := by decide +kernel
example : floatNotation 0.0000012 = "0.0000012" := by decide +kernel
example : floatNotation (-1.5e-7) = "-1.5e-7" := by decide +kernel

/-! ## Reading -/

/-- An ASCII digit. -/
def CodeUnit.isDigit (u : CodeUnit) : Bool := 0x30 ≤ u && u ≤ 0x39

/-- A text after its sign, if it has one, and whether that sign is `-`. -/
def splitSign : Text → Bool × Text
  | [] => (false, [])
  | u :: rest =>
    if u == CodeUnit.ofChar '-' then (true, rest)
    else if u == CodeUnit.ofChar '+' then (false, rest)
    else (false, u :: rest)

/-- The integer that digits after an optional sign denote. -/
def readInt (t : Text) : Int :=
  let (negative, digits) := splitSign t
  if negative then -(Text.toNat digits : Int) else Text.toNat digits

/-- The fraction that some digits after a point denote, cut off or filled up to `places` digits, as
a whole number of units of the last of them. -/
def readFraction (places : Nat) (digits : Text) : Nat :=
  Text.toNat ((Text.padEnd places digits).take places)

/-- The float nearest to `digits * 10 ^ exponent`.  A value that is far too large or too small is
settled by its magnitude alone, without computing the power. -/
def nearestFloat (digits : Nat) (exponent : Int) : Float :=
  let magnitude := ((Nat.toDigits 10 digits).length : Int) + exponent
  if digits = 0 ∨ magnitude < -330 then 0
  else if 330 < magnitude then 1 / 0
  else Float.ofScientific digits (exponent < 0) exponent.natAbs

/-- The exponent at the start of a text, or zero. -/
def readExponent : Text → Int
  | [] => 0
  | mark :: rest =>
    if mark == CodeUnit.ofChar 'e' || mark == CodeUnit.ofChar 'E' then
      let (negative, digits) := splitSign rest
      let n : Int := Text.toNat (digits.takeWhile CodeUnit.isDigit)
      if negative then -n else n
    else 0

/-- The float that a decimal denotes. -/
def readFloat (t : Text) : Float :=
  let (negative, unsigned) := splitSign t
  let whole := unsigned.takeWhile CodeUnit.isDigit
  let rest := unsigned.dropWhile CodeUnit.isDigit
  let (fraction, rest) :=
    if rest.head? == some (CodeUnit.ofChar '.') then
      ((rest.drop 1).takeWhile CodeUnit.isDigit, (rest.drop 1).dropWhile CodeUnit.isDigit)
    else ([], rest)
  let x := nearestFloat (Text.toNat (whole ++ fraction)) (readExponent rest - fraction.length)
  if negative then -x else x

end ODataToken
