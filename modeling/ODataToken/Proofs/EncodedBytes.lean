import Mathlib.Data.Nat.Bitwise
import ODataToken.Proofs.Base64Url

/-!
# The texts that encode some bytes

Five checks decide whether a text encodes bytes: of its characters, of the place of the padding, of
the length, of the amount of padding and of the bits left over at the end.  Together they leave the
encodings and nothing else, each with as much padding as is due or less (`decode_eq_ok_iff`).

What an encoding is, `IsEncoding` says bit by bit and without the groups of three bytes: the
characters stand for six-bit numbers, and the bits of these are the bits of the bytes, filled up
with zeros to a multiple of six.  There is one such text for all bytes, the one that `encode` writes
(`isEncoding_iff`), so bytes have no second spelling apart from padding.
-/

set_option autoImplicit false

namespace ODataToken
namespace Base64Url

/-! ## Bits -/

/-- The lowest `width` bits of a number, the most significant first. -/
def bits : Nat → Nat → List Bool
  | 0, _ => []
  | width + 1, n => n.testBit width :: bits width n

@[simp] theorem length_bits (width n : Nat) : (bits width n).length = width := by
  induction width with
  | zero => rfl
  | succ width ih => rw [bits, List.length_cons, ih]

theorem bits_eq_bits_iff {width m n : Nat} :
    bits width m = bits width n ↔ ∀ i < width, m.testBit i = n.testBit i := by
  induction width with
  | zero => simp [bits]
  | succ width ih =>
    rw [bits, bits, List.cons.injEq, ih]
    constructor
    · rintro ⟨htop, hlow⟩ i hi
      rcases Nat.lt_succ_iff_lt_or_eq.mp hi with hi | rfl
      · exact hlow i hi
      · exact htop
    · intro h
      exact ⟨h width (Nat.lt_succ_self width), fun i hi => h i (Nat.lt_succ_of_lt hi)⟩

/-- A number is told by its bits, if there is room for all of them. -/
theorem bits_injective {width m n : Nat} (hm : m < 2 ^ width) (hn : n < 2 ^ width)
    (h : bits width m = bits width n) : m = n := by
  refine Nat.eq_of_testBit_eq fun i => ?_
  rcases Nat.lt_or_ge i width with hi | hi
  · exact bits_eq_bits_iff.mp h i hi
  · have hpow : 2 ^ width ≤ 2 ^ i := Nat.pow_le_pow_right (by decide) hi
    rw [Nat.testBit_lt_two_pow (Nat.lt_of_lt_of_le hm hpow),
      Nat.testBit_lt_two_pow (Nat.lt_of_lt_of_le hn hpow)]

/-- The bits of a number that is put together from two are those of the two. -/
theorem bits_append (m n x : Nat) {y : Nat} (hy : y < 2 ^ n) :
    bits (m + n) (2 ^ n * x + y) = bits m x ++ bits n y := by
  induction m with
  | zero =>
    rw [Nat.zero_add, bits, List.nil_append, bits_eq_bits_iff]
    intro i hi
    rw [Nat.testBit_two_pow_mul_add x hy, if_pos hi]
  | succ m ih =>
    have htop : (2 ^ n * x + y).testBit (m + n) = x.testBit m := by
      rw [Nat.testBit_two_pow_mul_add x hy, if_neg (by omega), Nat.add_sub_cancel]
    rw [Nat.succ_add, bits, ih, htop, bits, List.cons_append]

/-- The bits of some bytes in order. -/
def byteBits (bytes : List UInt8) : List Bool := bytes.flatMap fun b => bits 8 b.toNat

/-- The bits of some six-bit numbers in order. -/
def sextetBits (values : List Nat) : List Bool := values.flatMap (bits 6)

theorem length_byteBits (bytes : List UInt8) : (byteBits bytes).length = 8 * bytes.length := by
  induction bytes with
  | nil => rfl
  | cons b bytes ih =>
    rw [byteBits, List.flatMap_cons, List.length_append, length_bits, ← byteBits, ih,
      List.length_cons]
    omega

theorem length_sextetBits (values : List Nat) : (sextetBits values).length = 6 * values.length := by
  induction values with
  | nil => rfl
  | cons n values ih =>
    rw [sextetBits, List.flatMap_cons, List.length_append, length_bits, ← sextetBits, ih,
      List.length_cons]
    omega

theorem sextetBits_injective {values values' : List Nat} (h : ∀ n ∈ values, n < 64)
    (h' : ∀ n ∈ values', n < 64) (heq : sextetBits values = sextetBits values') :
    values = values' := by
  induction values generalizing values' with
  | nil =>
    have hlen := congrArg List.length heq
    rw [length_sextetBits, length_sextetBits, List.length_nil] at hlen
    exact (List.length_eq_zero_iff.mp (by omega)).symm
  | cons n values ih =>
    cases values' with
    | nil =>
      have hlen := congrArg List.length heq
      rw [length_sextetBits, length_sextetBits, List.length_nil, List.length_cons] at hlen
      omega
    | cons n' values' =>
      rw [List.forall_mem_cons] at h h'
      obtain ⟨hhead, htail⟩ := List.append_inj heq (by rw [length_bits, length_bits])
      have hvalue : n = n' := bits_injective (show n < 2 ^ 6 from h.1) h'.1 hhead
      rw [hvalue, ih h.2 h'.2 htail]

/-! ## Encodings, bit by bit -/

/-- The alphabet, in which the character of a six-bit number has this number as its place. -/
def alphabet : Text := "ABCDEFGHIJKLMNOPQRSTUVWXYZabcdefghijklmnopqrstuvwxyz0123456789-_"

/-- The characters of the text stand for numbers whose bits are the bits of the bytes, followed by
fewer than six zeros. -/
def IsEncoding (text : Text) (bytes : List UInt8) : Prop :=
  ∃ (values : List Nat) (zeros : Nat), text.map some = values.map (fun n => alphabet[n]?)
    ∧ zeros < 6 ∧ sextetBits values = byteBits bytes ++ List.replicate zeros false

theorem length_alphabet : alphabet.length = 64 := by decide

theorem alphabet_getElem? {n : Nat} (h : n < 64) : alphabet[n]? = some (symbol n) := by
  have all : ∀ n ∈ List.range 64, alphabet[n]? = some (symbol n) := by decide
  exact all n (List.mem_range.mpr h)

/-- A text over the alphabet is the text of its numbers. -/
theorem map_some_eq_iff {text : Text} {values : List Nat} :
    text.map some = values.map (fun n => alphabet[n]?)
      ↔ (∀ n ∈ values, n < 64) ∧ text = values.map symbol := by
  constructor
  · intro h
    have hlt : ∀ n ∈ values, n < 64 := by
      intro n hn
      have hmem : alphabet[n]? ∈ text.map some := h ▸ List.mem_map_of_mem hn
      obtain ⟨u, -, hu⟩ := List.mem_map.mp hmem
      rw [← length_alphabet]
      exact (List.getElem?_eq_some_iff.mp hu.symm).1
    refine ⟨hlt, List.map_injective_iff.mpr (Option.some_injective _) ?_⟩
    rw [h, List.map_map]
    exact List.map_congr_left fun n hn => alphabet_getElem? (hlt n hn)
  · rintro ⟨hlt, rfl⟩
    rw [List.map_map]
    exact List.map_congr_left fun n hn => (alphabet_getElem? (hlt n hn)).symm

/-! ### The encoder -/

/-- The bits of a number, cut in front of the last `n` of them. -/
theorem bits_eq_append (m n x : Nat) :
    bits (m + n) x = bits m (x / 2 ^ n) ++ bits n (x % 2 ^ n) := by
  rw [← bits_append m n _ (Nat.mod_lt _ (Nat.two_pow_pos n)), Nat.div_add_mod]

/-- A six-bit number that takes its last two or four bits from another number. -/
theorem bits_six (a b : Nat) (hb : b < 256) :
    bits 6 (a % 4 * 16 + b / 16) = bits 2 (a % 4) ++ bits 4 (b / 16)
      ∧ bits 6 (a % 16 * 4 + b / 64) = bits 4 (a % 16) ++ bits 2 (b / 64) := by
  rw [Nat.mul_comm (a % 4), Nat.mul_comm (a % 16)]
  exact ⟨bits_append 2 4 (a % 4) (y := b / 16) (by omega),
    bits_append 4 2 (a % 16) (y := b / 64) (by omega)⟩

/-- **The six-bit numbers of some bytes have the bits of the bytes, and zeros behind them.** -/
theorem sextetBits_sextets (bytes : List UInt8) :
    sextetBits (sextets bytes)
      = byteBits bytes ++ List.replicate (2 * ((3 - bytes.length % 3) % 3)) false := by
  have cut62 (a : UInt8) : bits 8 a.toNat = bits 6 (a.toNat / 4) ++ bits 2 (a.toNat % 4) :=
    bits_eq_append 6 2 a.toNat
  have cut44 (a : UInt8) : bits 8 a.toNat = bits 4 (a.toNat / 16) ++ bits 4 (a.toNat % 16) :=
    bits_eq_append 4 4 a.toNat
  have cut26 (a : UInt8) : bits 8 a.toNat = bits 2 (a.toNat / 64) ++ bits 6 (a.toNat % 64) :=
    bits_eq_append 2 6 a.toNat
  fun_induction sextets bytes with
  | case1 => rfl
  | case2 a =>
    have hlow : bits 6 (a.toNat % 4 * 16) = bits 2 (a.toNat % 4) ++ List.replicate 4 false :=
      (bits_six a.toNat 0 (by decide)).1
    simp [sextetBits, byteBits, cut62, hlow]
  | case3 a b =>
    have hlow : bits 6 (b.toNat % 16 * 4) = bits 4 (b.toNat % 16) ++ List.replicate 2 false :=
      (bits_six b.toNat 0 (by decide)).2
    simp [sextetBits, byteBits, cut62 a, cut44 b, (bits_six a.toNat _ b.toNat_lt).1, hlow]
  | case4 a b c rest ih =>
    have hmod : (rest.length + 1 + 1 + 1) % 3 = rest.length % 3 := by omega
    rw [sextetBits, byteBits] at ih
    simp only [sextetBits, byteBits, List.flatMap_cons, List.length_cons, hmod, ih, cut62 a,
      cut44 b, cut26 c, (bits_six a.toNat _ b.toNat_lt).1, (bits_six b.toNat _ c.toNat_lt).2,
      List.append_assoc]

/-- **The encoder writes the one text that encodes the bytes.** -/
theorem isEncoding_iff {text : Text} {bytes : List UInt8} :
    IsEncoding text bytes ↔ text = encode bytes := by
  have hsextets := sextetBits_sextets bytes
  constructor
  · rintro ⟨values, zeros, htext, hzeros, hbits⟩
    obtain ⟨hlt, rfl⟩ := map_some_eq_iff.mp htext
    -- fewer than six zeros fill up a multiple of six in one way only
    have hlen := congrArg List.length hbits
    have hlen' := congrArg List.length hsextets
    rw [length_sextetBits, List.length_append, length_byteBits, List.length_replicate] at hlen hlen'
    obtain rfl : zeros = 2 * ((3 - bytes.length % 3) % 3) := by omega
    rw [encode, sextetBits_injective hlt lt_of_mem_sextets (hbits.trans hsextets.symm)]
  · rintro rfl
    refine ⟨sextets bytes, _, map_some_eq_iff.mpr ⟨lt_of_mem_sextets, rfl⟩, ?_, hsextets⟩
    omega

/-! ## What decodes -/

/-- Padding at the end is not part of the data. -/
theorem takeWhile_append_replicate_pad (s : Text) (k : Nat) :
    (s ++ List.replicate k pad).takeWhile (· != pad) = s.takeWhile (· != pad) := by
  rw [List.takeWhile_append]
  split
  · rename_i hall
    have hs : s.takeWhile (· != pad) = s := (List.takeWhile_prefix _).eq_of_length hall
    cases k <;> simp [hs, List.replicate_succ]
  · rfl

/-- The data of a text that decodes is the encoding of its bytes. -/
theorem takeWhile_of_decode {text : Text} {bytes : List UInt8} (h : decode text = .ok bytes) :
    text.takeWhile (· != pad) = encode bytes := by
  obtain ⟨k, -, rfl⟩ := decode_eq_ok_iff.mp h
  refine (takeWhile_append_pad (fun u hu => ?_) k).1
  obtain ⟨n, hn, rfl⟩ := exists_symbol_of_mem_encode hu
  exact symbol_ne_pad hn

/-- Bytes are told by their encoding. -/
theorem encode_injective {bytes bytes' : List UInt8} (h : encode bytes = encode bytes') :
    bytes = bytes' := by
  have hdecode := decode_encode bytes
  rw [h, decode_encode] at hdecode
  exact (Except.ok.inj hdecode).symm

/-- **The decoder accepts exactly the encodings, each with padding that is complete, short or
missing.**  Two texts that it accepts stand for the same bytes if and only if they differ in their
padding alone, and whatever is no encoding with such padding is refused. -/
theorem decode_exact (text : Text) :
    (∀ bytes, decode text = .ok bytes ↔
        ∃ s k, IsEncoding s bytes ∧ k ≤ (3 - bytes.length % 3) % 3
          ∧ text = s ++ List.replicate k pad)
      ∧ (∀ text' bytes bytes', decode text = .ok bytes → decode text' = .ok bytes' →
          (bytes = bytes' ↔
            ∃ s k k', text = s ++ List.replicate k pad ∧ text' = s ++ List.replicate k' pad))
      ∧ ((¬ ∃ bytes s k, IsEncoding s bytes ∧ k ≤ (3 - bytes.length % 3) % 3
            ∧ text = s ++ List.replicate k pad) ↔
          ∃ fault, decode text = .error fault) := by
  have haccepts (bytes : List UInt8) : decode text = .ok bytes ↔
      ∃ s k, IsEncoding s bytes ∧ k ≤ (3 - bytes.length % 3) % 3
        ∧ text = s ++ List.replicate k pad := by
    simp only [decode_eq_ok_iff, isEncoding_iff, exists_eq_left, exists_and_left]
  refine ⟨haccepts, ?_, ?_⟩
  · intro text' bytes bytes' h h'
    constructor
    · rintro rfl
      obtain ⟨k, -, htext⟩ := decode_eq_ok_iff.mp h
      obtain ⟨k', -, htext'⟩ := decode_eq_ok_iff.mp h'
      exact ⟨encode bytes, k, k', htext, htext'⟩
    · rintro ⟨s, k, k', rfl, rfl⟩
      have hdata := takeWhile_of_decode h
      have hdata' := takeWhile_of_decode h'
      rw [takeWhile_append_replicate_pad] at hdata hdata'
      exact encode_injective (hdata.symm.trans hdata')
  · simp only [← haccepts]
    cases decode text with
    | ok bytes => simp
    | error fault => simp

/-- One byte with all, some and none of its padding, and a third padding character too many. -/
theorem decode_exact_one_byte :
    decode "_w==" = .ok [255] ∧ decode "_w" = .ok [255]
      ∧ (∃ s k k', Text.ofString "_w==" = s ++ List.replicate k pad
          ∧ Text.ofString "_w" = s ++ List.replicate k' pad)
      ∧ decode "_w===" = .error .excessPadding := by
  have hpadded : decode "_w==" = .ok [255] := by decide
  have hbare : decode "_w" = .ok [255] := by decide
  exact ⟨hpadded, hbare, ((decode_exact "_w==").2.1 "_w" [255] [255] hpadded hbare).mp rfl,
    by decide⟩

end Base64Url
end ODataToken
