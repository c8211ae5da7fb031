import ODataToken.Text.Basic

/-!
# URL-safe base64

Bytes as text over the 64 characters `A`–`Z`, `a`–`z`, `0`–`9`, `-` and `_`, six bits each.

## What is here

* `Base64Url.encode` spells bytes out as six-bit numbers (`Base64Url.sextets`), fills the last one
  up with zero bits, and writes no padding.
* `Base64Url.decode` also takes padding that is complete or short.  It refuses padding in the wrong
  place or too much of it, a length that no bytes encode to, and bits in the last character that
  belong to no byte.
* `Base64Url.Fault` says what it refuses a text for.  When a text has several faults, the one that
  is tested first is reported, in the order of the list, and not the one that is farthest to the
  left.

The other alphabet, with `+` and `/`, is not read, and there are no line breaks in the text.  A text
is decoded as a whole, so a fault has no position: the parser that asks for it blames the place
where the bytes begin.
-/

set_option autoImplicit false

namespace ODataToken
namespace Base64Url

/-! ## The alphabet -/

/-- The character of a six-bit number. -/
def symbol (n : Nat) : CodeUnit :=
  if n < 26 then UInt16.ofNat (0x41 + n)
  else if n < 52 then UInt16.ofNat (0x61 + (n - 26))
  else if n < 62 then UInt16.ofNat (0x30 + (n - 52))
  else if n = 62 then CodeUnit.ofChar '-'
  else CodeUnit.ofChar '_'

/-- The six-bit number of a character. -/
def sextet? (u : CodeUnit) : Option Nat :=
  if 0x41 ≤ u && u ≤ 0x5A then some (u.toNat - 0x41)
  else if 0x61 ≤ u && u ≤ 0x7A then some (u.toNat - 0x61 + 26)
  else if 0x30 ≤ u && u ≤ 0x39 then some (u.toNat - 0x30 + 52)
  else if u == CodeUnit.ofChar '-' then some 62
  else if u == CodeUnit.ofChar '_' then some 63
  else none

/-! ## Encoding -/

/-- The six-bit numbers that spell out the bytes, the last one filled up with zero bits. -/
def sextets : List UInt8 → List Nat
  | [] => []
  | [a] => [a.toNat / 4, a.toNat % 4 * 16]
  | [a, b] => [a.toNat / 4, a.toNat % 4 * 16 + b.toNat / 16, b.toNat % 16 * 4]
  | a :: b :: c :: rest =>
    a.toNat / 4 :: (a.toNat % 4 * 16 + b.toNat / 16) :: (b.toNat % 16 * 4 + c.toNat / 64)
      :: c.toNat % 64 :: sextets rest

/-- The text of some bytes, without padding. -/
def encode (bytes : List UInt8) : Text := (sextets bytes).map symbol

/-! ## Decoding -/

/-- The bytes that six-bit numbers spell out.  Bits left over at the end are dropped. -/
def bytesOf : List Nat → List UInt8
  | a :: b :: c :: d :: rest =>
    UInt8.ofNat (a * 4 + b / 16) :: UInt8.ofNat (b % 16 * 16 + c / 4)
      :: UInt8.ofNat (c % 4 * 64 + d) :: bytesOf rest
  | [a, b, c] => [UInt8.ofNat (a * 4 + b / 16), UInt8.ofNat (b % 16 * 16 + c / 4)]
  | [a, b] => [UInt8.ofNat (a * 4 + b / 16)]
  | _ => []

/-- What is wrong with a text that encodes no bytes. -/
inductive Fault where
  /-- A character before the padding that is not in the alphabet. -/
  | foreignCharacter
  /-- Something else than padding after padding. -/
  | misplacedPadding
  /-- One character more than a multiple of four. -/
  | impossibleLength
  /-- Padding where none is due, or more than is due. -/
  | excessPadding
  /-- Bits of the last character that belong to no byte and are not zero. -/
  | trailingBits
  deriving DecidableEq, Repr

/-- What would have been right in the place of the fault. -/
def Fault.expected : Fault → Text
  | foreignCharacter => "base64url characters"
  | misplacedPadding => "padding only at the end of base64url data"
  | impossibleLength => "base64url data of a valid length"
  | excessPadding => "padding consistent with the base64url data length"
  | trailingBits => "zero trailing bits in base64url data"

/-- The padding character. -/
def pad : CodeUnit := CodeUnit.ofChar '='

/-- The bits of the last of `length` six-bit numbers that belong to no byte, all of them zero. -/
def noTrailingBits (values : List Nat) : Bool :=
  match values.length % 4, values.getLast? with
  | 2, some last => last % 16 == 0
  | 3, some last => last % 4 == 0
  | _, _ => true

/-- The bytes that a text encodes, with or without padding. -/
def decode (text : Text) : Except Fault (List UInt8) :=
  let data := text.takeWhile (· != pad)
  let padding := text.dropWhile (· != pad)
  let values := data.filterMap sextet?
  let rem := data.length % 4
  if data.any fun u => (sextet? u).isNone then .error .foreignCharacter
  else if padding.any (· != pad) then .error .misplacedPadding
  else if rem = 1 then .error .impossibleLength
  else if padding ≠ [] ∧ (rem = 0 ∨ 4 - rem < padding.length) then .error .excessPadding
  else if noTrailingBits values then .ok (bytesOf values)
  else .error .trailingBits

end Base64Url
end ODataToken
