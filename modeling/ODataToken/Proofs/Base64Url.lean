import Mathlib.Data.List.Basic
import Mathlib.Data.List.TakeWhile
import ODataToken.Base64Url
import ODataToken.Proofs.CharClass

/-!
# Base64url text reads back

Decoding undoes encoding.  The alphabet and the six-bit numbers are inverse to each other, the
groups of four numbers spell out the groups of three bytes they came from, and what an encoding ends
with has the length and the zero bits that the decoder asks for.  Conversely numbers with such an
end are those of some bytes, so what decodes is an encoding, with padding or without.

* `Base64Url.decode_eq_ok_iff` — which texts decode to some bytes; `Base64Url.decode_encode` is the
  round trip.
* `Base64Url.isBase64Url_of_mem_encode` — an encoding consists of characters that a binary literal
  may hold.
-/

set_option autoImplicit false

namespace ODataToken
namespace Base64Url

/-! ## The alphabet -/

theorem sextet?_symbol {n : Nat} (h : n < 64) : sextet? (symbol n) = some n := by
  have all : ∀ n ∈ List.range 64, sextet? (symbol n) = some n := by decide
  exact all n (List.mem_range.mpr h)

/-- A character of the alphabet is the character of its number. -/
theorem symbol_of_sextet? {u : CodeUnit} {n : Nat} (h : sextet? u = some n) :
    n < 64 ∧ symbol n = u := by
  have hle (a b : CodeUnit) : a ≤ b ↔ a.toNat ≤ b.toNat := UInt16.le_iff_toNat_le
  have back {first : Nat} (hfirst : first ≤ u.toNat) :
      UInt16.ofNat (first + (u.toNat - first)) = u := by
    rw [Nat.add_sub_cancel' hfirst, UInt16.ofNat_toNat]
  simp only [sextet?, Bool.and_eq_true, decide_eq_true_eq, hle, UInt16.reduceToNat] at h
  split at h
  · rename_i hu
    cases h
    refine ⟨by omega, ?_⟩
    rw [symbol, if_pos (by omega), back hu.1]
  split at h
  · rename_i hu
    cases h
    refine ⟨by omega, ?_⟩
    rw [symbol, if_neg (by omega), if_pos (by omega), Nat.add_sub_cancel, back hu.1]
  split at h
  · rename_i hu
    cases h
    refine ⟨by omega, ?_⟩
    rw [symbol, if_neg (by omega), if_neg (by omega), if_pos (by omega), Nat.add_sub_cancel,
      back hu.1]
  split at h
  · rename_i hu
    cases h
    exact ⟨by decide, (beq_iff_eq.mp hu).symm⟩
  split at h
  · rename_i hu
    cases h
    exact ⟨by decide, (beq_iff_eq.mp hu).symm⟩
  · cases h

theorem isBase64Url_symbol {n : Nat} (h : n < 64) : (symbol n).isBase64Url = true := by
  have all : ∀ n ∈ List.range 64, (symbol n).isBase64Url = true := by decide
  exact all n (List.mem_range.mpr h)

theorem symbol_ne_pad {n : Nat} (h : n < 64) : symbol n ≠ pad := by
  intro hpad
  have := sextet?_symbol h
  rw [hpad] at this
  cases this

/-! ## Groups -/

theorem lt_of_mem_sextets {bytes : List UInt8} : ∀ n ∈ sextets bytes, n < 64 := by
  fun_induction sextets bytes with
  | case1 => simp
  | case2 a =>
    have ha : a.toNat < 256 := a.toNat_lt
    simp only [List.mem_cons, List.not_mem_nil, or_false]
    rintro n (rfl | rfl) <;> omega
  | case3 a b =>
    have ha : a.toNat < 256 := a.toNat_lt
    have hb : b.toNat < 256 := b.toNat_lt
    simp only [List.mem_cons, List.not_mem_nil, or_false]
    rintro n (rfl | rfl | rfl) <;> omega
  | case4 a b c rest ih =>
    have ha : a.toNat < 256 := a.toNat_lt
    have hb : b.toNat < 256 := b.toNat_lt
    have hc : c.toNat < 256 := c.toNat_lt
    simp only [List.mem_cons]
    rintro n (rfl | rfl | rfl | rfl | hn)
    iterate 4 omega
    exact ih n hn

/-- A byte is told by its value. -/
theorem ofNat_eq_of_eq_toNat {n : Nat} {a : UInt8} (h : n = a.toNat) : UInt8.ofNat n = a := by
  rw [h, UInt8.ofNat_toNat]

/-- The six-bit numbers of some bytes spell out these bytes. -/
theorem bytesOf_sextets (bytes : List UInt8) : bytesOf (sextets bytes) = bytes := by
  fun_induction sextets bytes with
  | case1 => rfl
  | case2 a =>
    have ha : a.toNat < 256 := a.toNat_lt
    have h1 : UInt8.ofNat (a.toNat / 4 * 4 + a.toNat % 4 * 16 / 16) = a :=
      ofNat_eq_of_eq_toNat (by omega)
    rw [bytesOf, h1]
  | case3 a b =>
    have ha : a.toNat < 256 := a.toNat_lt
    have hb : b.toNat < 256 := b.toNat_lt
    have h1 : UInt8.ofNat (a.toNat / 4 * 4 + (a.toNat % 4 * 16 + b.toNat / 16) / 16) = a :=
      ofNat_eq_of_eq_toNat (by omega)
    have h2 :
        UInt8.ofNat ((a.toNat % 4 * 16 + b.toNat / 16) % 16 * 16 + b.toNat % 16 * 4 / 4) = b :=
      ofNat_eq_of_eq_toNat (by omega)
    rw [bytesOf, h1, h2]
  | case4 a b c rest ih =>
    have ha : a.toNat < 256 := a.toNat_lt
    have hb : b.toNat < 256 := b.toNat_lt
    have hc : c.toNat < 256 := c.toNat_lt
    have h1 : UInt8.ofNat (a.toNat / 4 * 4 + (a.toNat % 4 * 16 + b.toNat / 16) / 16) = a :=
      ofNat_eq_of_eq_toNat (by omega)
    have h2 : UInt8.ofNat ((a.toNat % 4 * 16 + b.toNat / 16) % 16 * 16
        + (b.toNat % 16 * 4 + c.toNat / 64) / 4) = b := ofNat_eq_of_eq_toNat (by omega)
    have h3 : UInt8.ofNat ((b.toNat % 16 * 4 + c.toNat / 64) % 4 * 64 + c.toNat % 64) = c :=
      ofNat_eq_of_eq_toNat (by omega)
    rw [bytesOf, h1, h2, h3, ih]

/-- How many numbers spell some bytes: four for three, and one more than is left over. -/
theorem length_sextets (bytes : List UInt8) :
    3 * (sextets bytes).length = 4 * bytes.length + (3 - bytes.length % 3) % 3 := by
  fun_induction sextets bytes with
  | case1 => rfl
  | case2 a => rfl
  | case3 a b => rfl
  | case4 a b c rest ih =>
    simp only [List.length_cons]
    omega

/-- A full group does not matter for the bits at the end. -/
theorem noTrailingBits_cons_four (a b c d : Nat) (rest : List Nat) :
    noTrailingBits (a :: b :: c :: d :: rest) = noTrailingBits rest := by
  cases rest with
  | nil => simp [noTrailingBits]
  | cons x xs =>
    have hmod : (xs.length + 1 + 1 + 1 + 1 + 1) % 4 = (xs.length + 1) % 4 := by omega
    simp only [noTrailingBits, List.getLast?_cons_cons, List.length_cons, hmod]

/-- Six-bit numbers that end as those of some bytes do: no group has one number only, and the last
number of a short group ends with zero bits. -/
structure IsSextets (values : List Nat) : Prop where
  lt : ∀ n ∈ values, n < 64
  length : values.length % 4 ≠ 1
  bits : noTrailingBits values = true

theorem isSextets_sextets (bytes : List UInt8) : IsSextets (sextets bytes) where
  lt := lt_of_mem_sextets
  length := by
    have := length_sextets bytes
    omega
  bits := by
    fun_induction sextets bytes with
    | case1 => rfl
    | case2 a => exact beq_iff_eq.mpr (Nat.mul_mod_left _ _)
    | case3 a b => exact beq_iff_eq.mpr (Nat.mul_mod_left _ _)
    | case4 a b c rest ih => rw [noTrailingBits_cons_four, ih]

theorem toNat_ofNat_of_lt {n : Nat} (h : n < 256) : (UInt8.ofNat n).toNat = n := by
  rw [UInt8.toNat_ofNat', Nat.mod_eq_of_lt h]

/-- Six-bit numbers that end as those of some bytes do are the numbers of the bytes they spell. -/
theorem sextets_bytesOf {values : List Nat} (h : IsSextets values) :
    sextets (bytesOf values) = values := by
  obtain ⟨hlt, hlen, hbits⟩ := h
  fun_induction bytesOf values with
  | case1 a b c d rest ih =>
    simp only [List.forall_mem_cons] at hlt
    obtain ⟨ha, hb, hc, hd, hrest⟩ := hlt
    have h1 : (UInt8.ofNat (a * 4 + b / 16)).toNat = a * 4 + b / 16 :=
      toNat_ofNat_of_lt (by omega)
    have h2 : (UInt8.ofNat (b % 16 * 16 + c / 4)).toNat = b % 16 * 16 + c / 4 :=
      toNat_ofNat_of_lt (by omega)
    have h3 : (UInt8.ofNat (c % 4 * 64 + d)).toNat = c % 4 * 64 + d :=
      toNat_ofNat_of_lt (by omega)
    rw [List.length_cons, List.length_cons, List.length_cons, List.length_cons] at hlen
    rw [noTrailingBits_cons_four] at hbits
    rw [sextets, ih hrest (by omega) hbits, h1, h2, h3]
    simp only [List.cons.injEq, and_true]
    omega
  | case2 a b c =>
    simp only [List.forall_mem_cons] at hlt
    obtain ⟨ha, hb, hc, -⟩ := hlt
    have hlow : c % 4 = 0 := beq_iff_eq.mp hbits
    have h1 : (UInt8.ofNat (a * 4 + b / 16)).toNat = a * 4 + b / 16 :=
      toNat_ofNat_of_lt (by omega)
    have h2 : (UInt8.ofNat (b % 16 * 16 + c / 4)).toNat = b % 16 * 16 + c / 4 :=
      toNat_ofNat_of_lt (by omega)
    rw [sextets, h1, h2]
    simp only [List.cons.injEq, and_true]
    omega
  | case3 a b =>
    simp only [List.forall_mem_cons] at hlt
    obtain ⟨ha, hb, -⟩ := hlt
    have hlow : b % 16 = 0 := beq_iff_eq.mp hbits
    have h1 : (UInt8.ofNat (a * 4 + b / 16)).toNat = a * 4 + b / 16 :=
      toNat_ofNat_of_lt (by omega)
    rw [sextets, h1]
    simp only [List.cons.injEq, and_true]
    omega
  | case4 values hfour hthree htwo =>
    match values with
    | [] => rfl
    | [a] => exact absurd rfl hlen
    | [a, b] => exact absurd rfl (htwo a b)
    | [a, b, c] => exact absurd rfl (hthree a b c)
    | a :: b :: c :: d :: rest => exact absurd rfl (hfour a b c d rest)

/-! ## Texts -/

theorem exists_symbol_of_mem_encode {bytes : List UInt8} {u : CodeUnit} (h : u ∈ encode bytes) :
    ∃ n < 64, u = symbol n := by
  obtain ⟨n, hn, rfl⟩ := List.mem_map.mp h
  exact ⟨n, lt_of_mem_sextets n hn, rfl⟩

theorem isBase64Url_of_mem_encode {bytes : List UInt8} {u : CodeUnit} (h : u ∈ encode bytes) :
    u.isBase64Url = true := by
  obtain ⟨n, hn, rfl⟩ := exists_symbol_of_mem_encode h
  exact isBase64Url_symbol hn

theorem filterMap_sextet?_encode (bytes : List UInt8) :
    (encode bytes).filterMap sextet? = sextets bytes := by
  rw [encode, List.filterMap_map]
  calc (sextets bytes).filterMap (sextet? ∘ symbol)
      = (sextets bytes).filterMap some :=
        List.filterMap_congr fun n hn => sextet?_symbol (lt_of_mem_sextets n hn)
    _ = sextets bytes := List.filterMap_some

theorem length_encode (bytes : List UInt8) : (encode bytes).length = (sextets bytes).length :=
  List.length_map _

/-- Characters of the alphabet are the characters of their numbers. -/
theorem map_symbol_filterMap_sextet? {data : Text} (h : ∀ u ∈ data, (sextet? u).isSome = true) :
    (data.filterMap sextet?).map symbol = data
      ∧ (∀ n ∈ data.filterMap sextet?, n < 64) := by
  induction data with
  | nil => exact ⟨rfl, by simp⟩
  | cons u data ih =>
    obtain ⟨hhead, htail⟩ := List.forall_mem_cons.mp h
    obtain ⟨n, hn⟩ := Option.isSome_iff_exists.mp hhead
    obtain ⟨hlt, hsymbol⟩ := symbol_of_sextet? hn
    obtain ⟨hdata, hall⟩ := ih htail
    rw [List.filterMap_cons_some hn, List.map_cons, hsymbol, hdata]
    exact ⟨rfl, List.forall_mem_cons.mpr ⟨hlt, hall⟩⟩

/-- Where the data ends and the padding begins. -/
theorem takeWhile_append_pad {data : Text} (h : ∀ u ∈ data, u ≠ pad) (k : Nat) :
    (data ++ List.replicate k pad).takeWhile (· != pad) = data
      ∧ (data ++ List.replicate k pad).dropWhile (· != pad) = List.replicate k pad := by
  have hdata : ∀ u ∈ data, (u != pad) = true := fun u hu => bne_iff_ne.mpr (h u hu)
  rw [List.takeWhile_append_of_pos hdata, List.dropWhile_append_of_pos hdata]
  cases k with
  | zero => simp
  | succ k => simp [List.replicate_succ]

theorem decode_encode_append {bytes : List UInt8} {k : Nat}
    (hk : k ≤ (3 - bytes.length % 3) % 3) :
    decode (encode bytes ++ List.replicate k pad) = .ok bytes := by
  have hne : ∀ u ∈ encode bytes, u ≠ pad := by
    intro u hu
    obtain ⟨n, hn, rfl⟩ := exists_symbol_of_mem_encode hu
    exact symbol_ne_pad hn
  have hknown : ((encode bytes).any fun u => (sextet? u).isNone) = false := by
    rw [List.any_eq_false]
    intro u hu
    obtain ⟨n, hn, rfl⟩ := exists_symbol_of_mem_encode hu
    simp [sextet?_symbol hn]
  obtain ⟨htake, hdrop⟩ := takeWhile_append_pad hne k
  have hpadding : (List.replicate k pad).any (· != pad) = false := by
    rw [List.any_eq_false]
    intro u hu
    simp [List.eq_of_mem_replicate hu]
  have hlength := length_sextets bytes
  have hdue : ¬ (List.replicate k pad ≠ [] ∧ ((sextets bytes).length % 4 = 0
      ∨ 4 - (sextets bytes).length % 4 < (List.replicate k pad).length)) := by
    rw [Ne, List.replicate_eq_nil_iff, List.length_replicate]
    omega
  have hend := isSextets_sextets bytes
  simp only [decode, htake, hdrop, hknown, hpadding, filterMap_sextet?_encode, length_encode,
    if_neg hend.length, if_neg hdue, hend.bits, bytesOf_sextets]
  simp

/-- **The texts that decode to some bytes are their encoding and as much padding as is due, or
less.** -/
theorem decode_eq_ok_iff {text : Text} {bytes : List UInt8} :
    decode text = .ok bytes
      ↔ ∃ k ≤ (3 - bytes.length % 3) % 3, text = encode bytes ++ List.replicate k pad := by
  constructor
  · intro h
    have hsplit := List.takeWhile_append_dropWhile (p := (· != pad)) (l := text)
    rw [decode] at h
    generalize text.takeWhile (· != pad) = data at h hsplit
    generalize text.dropWhile (· != pad) = padding at h hsplit
    split at h
    · cases h
    rename_i hknown
    split at h
    · cases h
    rename_i hpadding
    split at h
    · cases h
    rename_i hlen
    split at h
    · cases h
    rename_i hdue
    split at h
    · rename_i hbits
      obtain rfl := Except.ok.inj h
      have hsymbols : ∀ u ∈ data, (sextet? u).isSome = true := by
        intro u hu
        rw [← Option.not_isNone, Bool.not_eq_true']
        exact Bool.eq_false_iff.mpr fun hnone => hknown (List.any_eq_true.mpr ⟨u, hu, hnone⟩)
      have hpads : ∀ u ∈ padding, u = pad := by
        intro u hu
        by_contra hne
        exact hpadding (List.any_eq_true.mpr ⟨u, hu, bne_iff_ne.mpr hne⟩)
      obtain ⟨hdata, hlt⟩ := map_symbol_filterMap_sextet? hsymbols
      generalize data.filterMap sextet? = values at hdata hlt hbits
      subst hdata
      rw [List.length_map] at hlen hdue
      have hvalues := sextets_bytesOf ⟨hlt, hlen, hbits⟩
      have hlength := length_sextets (bytesOf values)
      rw [hvalues] at hlength
      refine ⟨padding.length, ?_, ?_⟩
      · rw [not_and_or, not_not, not_or, ← List.length_eq_zero_iff] at hdue
        omega
      · rw [encode, hvalues, ← List.eq_replicate_iff.mpr ⟨rfl, hpads⟩, hsplit]
    · cases h
  · rintro ⟨k, hk, rfl⟩
    exact decode_encode_append hk

/-- **The encoding of some bytes decodes to these bytes.** -/
theorem decode_encode (bytes : List UInt8) : decode (encode bytes) = .ok bytes := by
  have h : decode (encode bytes ++ List.replicate 0 pad) = .ok bytes :=
    decode_encode_append (Nat.zero_le _)
  rwa [List.replicate_zero, List.append_nil] at h

end Base64Url
end ODataToken
