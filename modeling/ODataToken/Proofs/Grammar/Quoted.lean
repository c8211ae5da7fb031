import ODataToken.Grammar.Scalar
import ODataToken.Literal
import ODataToken.Proofs.Base64Url
import ODataToken.Proofs.Parser.Runs

/-!
# What strings and binary literals read

A string literal reads exactly the quoted form of a text, unless one more apostrophe follows: then
the closing apostrophe was the first half of a doubled one.  So a string has one spelling only.

A binary literal reads the word `binary'` in any case, characters of the base64url alphabet that
decode, and an apostrophe.
-/

set_option autoImplicit false

namespace ODataToken

/-! ## Doubled apostrophes -/

open CodeUnit (apostrophe)

namespace Text

/-- The text with every apostrophe doubled. -/
def doubleApostrophes (t : Text) : Text :=
  t.flatMap fun u => if u = apostrophe then [u, u] else [u]

theorem doubleApostrophes_append (s t : Text) :
    doubleApostrophes (s ++ t) = s.doubleApostrophes ++ t.doubleApostrophes :=
  List.flatMap_append

theorem doubleApostrophes_of_forall_ne {t : Text} (h : ∀ u ∈ t, (u != apostrophe) = true) :
    t.doubleApostrophes = t := by
  induction t with
  | nil => rfl
  | cons u t ih =>
    have hu : u ≠ apostrophe := bne_iff_ne.mp (h u List.mem_cons_self)
    rw [doubleApostrophes, List.flatMap_cons, if_neg hu]
    exact congrArg (u :: ·) (ih fun v hv => h v (List.mem_cons_of_mem u hv))

end Text

theorem apostropheQuoted_eq (t : Text) :
    apostropheQuoted t = apostrophe :: t.doubleApostrophes ++ [apostrophe] := rfl

namespace Grammar

open ODataToken.Parser Text

variable {v c r w : Text}

/-! ## Strings -/

theorem ne_apostrophe_ofUnits :
    CharClass.OfUnits (fun c => c != Text.ofString "'") (fun u => u != apostrophe) :=
  CharClass.ne_ofUnits (by decide)

instance : Plain stringPart := inferInstanceAs (Plain (alt _ _))

instance : ShapeOnly stringPart := inferInstanceAs (ShapeOnly (alt _ _))

theorem ofString_two_apostrophes : Text.ofString "''" = [apostrophe, apostrophe] := by decide

/-- A string goes on unless it is at its end: there an apostrophe stands alone, or nothing. -/
theorem stringPart_refuses_iff :
    stringPart.Refuses w ↔ w = [] ∨ ∃ r, w = apostrophe :: r ∧ r.head? ≠ some apostrophe := by
  rw [stringPart, alt_refuses_iff, replace_refuses_iff, literal_refuses_iff,
    ofString_two_apostrophes, takeWhile1_refuses_iff ne_apostrophe_ofUnits]
  cases w with
  | nil => simp [stopsAt_nil]
  | cons u r =>
    simp only [stopsAt_cons, List.cons_prefix_cons, List.cons.injEq, reduceCtorEq, false_or,
      bne_eq_false_iff_eq]
    constructor
    · rintro ⟨hpre, rfl⟩
      refine ⟨r, ⟨rfl, rfl⟩, fun hhead => hpre ⟨rfl, ?_⟩⟩
      obtain ⟨r', rfl⟩ := List.head?_eq_some_iff.mp hhead
      exact List.cons_prefix_cons.mpr ⟨rfl, List.nil_prefix⟩
    · rintro ⟨r', ⟨rfl, rfl⟩, hhead⟩
      refine ⟨fun hpre => hhead ?_, rfl⟩
      obtain ⟨t, rfl⟩ := hpre.2
      rfl

/-- What one round of a string stands for. -/
theorem stringPart_reads_iff :
    stringPart.Reads v c r
      ↔ v = [apostrophe] ∧ c = [apostrophe, apostrophe]
        ∨ v = c ∧ c ≠ [] ∧ (∀ u ∈ c, (u != apostrophe) = true)
          ∧ StopsAt (fun u => u != apostrophe) r := by
  rw [stringPart, alt_reads_iff, replace_reads_iff, replace_refuses_iff, literal_refuses_iff,
    ofString_two_apostrophes, takeWhile1_reads_iff ne_apostrophe_ofUnits]
  simp only [literal_reads_iff, exists_eq_left]
  refine or_congr_right (and_iff_right_of_imp ?_)
  rintro ⟨rfl, hne, hall, -⟩ hpre
  obtain ⟨u, c', rfl⟩ := List.exists_cons_of_ne_nil hne
  have hu := hall u List.mem_cons_self
  rw [List.cons_append, List.cons_prefix_cons] at hpre
  rw [← hpre.1] at hu
  cases hu

/-- The rounds of a string have consumed what they stand for with doubled apostrophes. -/
theorem many_stringPart_consumed {vs : List Text} (h : (many stringPart).Reads vs c r) :
    c = doubleApostrophes vs.flatten := by
  induction vs generalizing c with
  | nil =>
    obtain ⟨-, rfl, -⟩ | ⟨v, vs', d, e, hv, -⟩ := many_reads_cases h
    · rfl
    · cases hv
  | cons v vs ih =>
    obtain ⟨hv, -⟩ | ⟨v', vs', d, e, hv, rfl, -, hpart, hrest⟩ := many_reads_cases h
    · cases hv
    · obtain ⟨rfl, rfl⟩ := List.cons.inj hv
      rw [List.flatten_cons, doubleApostrophes_append, ih hrest]
      obtain ⟨rfl, rfl⟩ | ⟨rfl, -, hall, -⟩ := stringPart_reads_iff.mp hpart
      · rfl
      · rw [doubleApostrophes_of_forall_ne hall]

/-- A run without an apostrophe ends where the text that is doubled goes on with one. -/
theorem stopsAt_doubleApostrophes (hr : stringPart.Refuses r) {rest : Text}
    (hrest : StopsAt (fun u => u != apostrophe) rest) :
    StopsAt (fun u => u != apostrophe) (rest.doubleApostrophes ++ r) := by
  cases rest with
  | nil =>
    rcases stringPart_refuses_iff.mp hr with rfl | ⟨r', rfl, -⟩
    · exact stopsAt_nil _
    · exact stopsAt_cons.mpr (by simp)
  | cons u rest =>
    rw [stopsAt_cons] at hrest
    obtain rfl := bne_eq_false_iff_eq.mp hrest
    exact stopsAt_cons.mpr (by simp)

/-- Every text is what the rounds of a string stand for, in front of a text where they end. -/
theorem exists_many_stringPart_reads (hr : stringPart.Refuses r) (s : Text) :
    ∃ vs : List Text, vs.flatten = s ∧ (many stringPart).Reads vs s.doubleApostrophes r := by
  match s with
  | [] => exact ⟨[], rfl, many_reads_nil hr⟩
  | u :: s =>
    by_cases hu : u = apostrophe
    · subst hu
      obtain ⟨vs, hvs, hreads⟩ := exists_many_stringPart_reads hr s
      refine ⟨[apostrophe] :: vs, by rw [List.flatten_cons, hvs]; rfl, ?_⟩
      refine many_reads_cons (c := [apostrophe, apostrophe]) (by simp) ?_ hreads
      exact stringPart_reads_iff.mpr (.inl ⟨rfl, rfl⟩)
    · -- the longest run without an apostrophe is one round
      obtain ⟨run, rest, hsplit, hrun, hrest⟩ :=
        exists_run_append (fun u => u != apostrophe) (u :: s)
      have hne : run ≠ [] := by
        rintro rfl
        rw [List.nil_append] at hsplit
        rw [← hsplit, stopsAt_cons] at hrest
        exact hu (bne_eq_false_iff_eq.mp hrest)
      have hlen : rest.length < (u :: s).length := by
        have := List.length_pos_iff.mpr hne
        rw [hsplit, List.length_append]
        omega
      have hstop := stopsAt_doubleApostrophes hr hrest
      obtain ⟨vs, hvs, hreads⟩ := exists_many_stringPart_reads hr rest
      refine ⟨run :: vs, by rw [List.flatten_cons, hvs, hsplit], ?_⟩
      rw [hsplit, doubleApostrophes_append, doubleApostrophes_of_forall_ne hrun]
      exact many_reads_cons hne (stringPart_reads_iff.mpr (.inr ⟨rfl, hne, hrun, hstop⟩)) hreads
  termination_by s.length
  decreasing_by
    · exact Nat.lt_succ_self _
    · exact hlen

instance : Plain quotedString := inferInstanceAs (Plain (Parser.map _ _))

/-- **A quoted string reads exactly the quoted form of a text, unless another apostrophe
follows.** -/
theorem quotedString_reads_iff :
    quotedString.Reads v c r ↔ c = apostropheQuoted v ∧ r.head? ≠ some apostrophe := by
  rw [quotedString, map_reads_iff, between_eq]
  simp only [preceded_reads_iff, terminated_reads_iff]
  constructor
  · rintro ⟨vs, rfl, q, open_, d, rfl, hopen, q', e, close, rfl, hmany, hclose⟩
    obtain ⟨-, rfl⟩ := (char_reads_iff (u := apostrophe)).mp hopen
    obtain ⟨-, rfl⟩ := (char_reads_iff (u := apostrophe)).mp hclose
    refine ⟨?_, ?_⟩
    · rw [many_stringPart_consumed hmany]
      rfl
    · rcases many_reads_end hmany with hend | ⟨a, hend⟩
      · obtain hnil | ⟨r', hr', hhead⟩ := stringPart_refuses_iff.mp hend
        · cases hnil
        · obtain ⟨-, rfl⟩ := List.cons.inj hr'
          exact hhead
      · obtain ⟨-, h⟩ | ⟨-, hne, -⟩ := stringPart_reads_iff.mp hend
        · cases h
        · exact absurd rfl hne
  · rintro ⟨rfl, hr⟩
    have hend : stringPart.Refuses (apostrophe :: r) :=
      stringPart_refuses_iff.mpr (.inr ⟨r, rfl, hr⟩)
    obtain ⟨vs, rfl, hmany⟩ := exists_many_stringPart_reads hend v
    refine ⟨vs, rfl, [apostrophe], [apostrophe], _, apostropheQuoted_eq _,
      (char_reads_iff (u := apostrophe)).mpr ⟨rfl, rfl⟩, [apostrophe], _, [apostrophe], rfl, hmany,
      (char_reads_iff (u := apostrophe)).mpr ⟨rfl, rfl⟩⟩

instance : Plain string := inferInstanceAs (Plain (label _ _))

theorem string_reads_iff {a : Literal} :
    string.Reads a c r
      ↔ ∃ s, a = .string s ∧ c = apostropheQuoted s ∧ r.head? ≠ some apostrophe := by
  rw [string, label_reads_iff, map_reads_iff]
  simp only [quotedString_reads_iff, eq_comm]

/-! ## Bytes -/

instance : Plain base64Body := inferInstanceAs (Plain (terminated _ _))

theorem base64Body_reads_iff :
    base64Body.Reads v c r
      ↔ c = v ++ [apostrophe] ∧ ∀ u ∈ v, u.isBase64Url = true := by
  have hbody := CharClass.base64Url_ofSingleUnits.toOfUnits
  simp only [base64Body, terminated_reads_iff, label_reads_iff, takeWhile_reads_iff hbody]
  constructor
  · rintro ⟨q, v', close, rfl, ⟨rfl, hall, -⟩, hclose⟩
    obtain ⟨-, rfl⟩ := (char_reads_iff (u := apostrophe)).mp hclose
    exact ⟨rfl, hall⟩
  · rintro ⟨rfl, hall⟩
    exact ⟨[apostrophe], v, [apostrophe], rfl, ⟨rfl, hall, stopsAt_cons.mpr (by decide)⟩,
      (char_reads_iff (u := apostrophe)).mpr ⟨rfl, rfl⟩⟩

theorem checkBase64_eq_ok_iff {t : Text} {bytes : List UInt8} :
    checkBase64 t = .ok bytes ↔ Base64Url.decode t = .ok bytes := by
  unfold checkBase64
  cases Base64Url.decode t <;> simp [Except.mapError]

instance : Plain (base64Body.tryMap checkBase64) := by
  refine Plain.tryMap _ fun t f h => ?_
  unfold checkBase64 at h
  cases hd : Base64Url.decode t with
  | ok bytes => rw [hd] at h; cases h
  | error fault => rw [hd] at h; cases h; rfl

instance : Plain binary := inferInstanceAs (Plain (label _ _))

/-- **A binary literal reads the word in any case and base64url text up to the next apostrophe.** -/
theorem binary_reads_iff {a : Literal} :
    binary.Reads a c r
      ↔ ∃ mark body bytes, c = mark ++ (body ++ [apostrophe]) ∧ Text.lower mark = "binary'"
          ∧ (∀ u ∈ body, u.isBase64Url = true) ∧ Base64Url.decode body = .ok bytes
          ∧ a = .binary bytes := by
  have hplain : (Text.ofString "binary'").all CodeUnit.isPlain = true := by decide
  have hlower : (Text.ofString "binary'").lower = Text.ofString "binary'" := by decide
  simp only [binary, label_reads_iff, map_reads_iff, preceded_reads_iff, commit_reads_iff,
    tryMap_reads_iff, keyword_reads_iff hplain, hlower, base64Body_reads_iff,
    checkBase64_eq_ok_iff]
  constructor
  · rintro ⟨bytes, rfl, mark, _, d, rfl, ⟨rfl, hmark⟩, body, ⟨rfl, hall⟩, hdecode⟩
    exact ⟨mark, body, bytes, rfl, hmark, hall, hdecode, rfl⟩
  · rintro ⟨mark, body, bytes, rfl, hmark, hall, hdecode, rfl⟩
    exact ⟨bytes, rfl, mark, mark, _, rfl, ⟨rfl, hmark⟩, body, ⟨rfl, hall⟩, hdecode⟩

end Grammar
end ODataToken
