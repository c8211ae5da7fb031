import ODataToken.Proofs.Parser.Reads
import ODataToken.Proofs.Text.CodePoints
import ODataToken.Token

/-!
# What names read

A name is the text that it was read from: its identifiers with dots between them (`name_reads`).
An identifier is told by its code points, of one or two units each (`Text.IsIdentifier`), and a name
reads a list of identifiers with dots between them, as many as there are (`name_reads_iff`).

No half of a surrogate pair is an identifier character.  So an identifier does not end inside of
one, and its code points are the same whatever follows.
-/

set_option autoImplicit false

namespace ODataToken

/-! ## Separated items -/

namespace Parser

variable {α β : Type}

/-- The rounds after the first item repeat a separator and an item, if the separator never fails on
the domain. -/
theorem sepByFrom_eq (item : Parser α) (sep : Parser β) [ShapeOnly sep] (input : Text) (cur : Nat) :
    sepByFrom item sep input cur = manyFrom (preceded sep item) input cur := by
  fun_induction sepByFrom item sep input cur with
  | case1 cur f hsep =>
    rw [manyFrom, preceded_run, hsep]
    simp [ShapeOnly.kind_eq hsep]
  | case2 cur a mid hsep f hitem hf =>
    rw [manyFrom, preceded_run, hsep]
    simp [hitem, hf]
  | case3 cur a mid hsep f hitem hf =>
    rw [manyFrom, preceded_run, hsep]
    simp [hitem, hf]
  | case4 cur a mid hsep v next hitem hlt ih =>
    rw [manyFrom, preceded_run, hsep, ih]
    simp [hitem, hlt]
  | case5 cur a mid hsep v next hitem hlt =>
    rw [manyFrom, preceded_run, hsep]
    simp [hitem, hlt]

theorem sepBy1_eq (item : Parser α) (sep : Parser β) [ShapeOnly sep] :
    sepBy1 item sep = (item.seq (many (preceded sep item))).map fun x => x.1 :: x.2 := by
  unfold sepBy1 seq map many
  congr
  funext input pos
  dsimp only
  cases item.run input pos with
  | fail f => rfl
  | ok a mid =>
    simp only [Result.andThen_ok, sepByFrom_eq]
    cases manyFrom (preceded sep item) input mid <;> rfl

end Parser

/-! ## Code points of a class -/

namespace Parser

variable {accepts : CharClass} {expected v c r : Text}

theorem satisfy_reads_iff :
    (satisfy accepts expected).Reads v c r
      ↔ v = c ∧ (c ++ r).firstCodePoint? = some c ∧ accepts c = true := by
  simp only [Reads, satisfy, List.drop_zero, Nat.zero_add]
  cases hfirst : (c ++ r).firstCodePoint? with
  | none => simp
  | some d =>
    by_cases hd : accepts d = true
    · simp only [hd, if_true, Result.ok.injEq, Option.some.injEq]
      constructor
      · rintro ⟨rfl, hlen⟩
        have hc : d = c := by
          obtain ⟨t, ht⟩ := isPrefix_of_firstCodePoint? hfirst
          exact (List.append_inj ht hlen).1
        exact ⟨hc, hc, hc ▸ hd⟩
      · rintro ⟨rfl, rfl, -⟩
        exact ⟨rfl, rfl⟩
    · simp only [hd, Bool.false_eq_true, if_false, reduceCtorEq, Option.some.injEq, false_iff]
      rintro ⟨-, rfl, hc⟩
      exact hd hc

theorem takeWhile_reads_iff_codePoints :
    (takeWhile accepts).Reads v c r
      ↔ v = c ∧ ((c ++ r).codePoints.takeWhile accepts).flatten = c := by
  simp only [Reads, takeWhile, takeBetween, List.drop_zero, Nat.not_lt_zero, if_false,
    Text.takeCodePoints_none, Nat.zero_add, Result.ok.injEq]
  constructor
  · rintro ⟨rfl, hlen⟩
    have hpre : ((c ++ r).codePoints.takeWhile accepts).flatten
        ++ ((c ++ r).codePoints.dropWhile accepts).flatten = c ++ r := by
      rw [← List.flatten_append, List.takeWhile_append_dropWhile, Text.flatten_codePoints]
    have hc := (List.append_inj hpre hlen).1
    exact ⟨hc, hc⟩
  · rintro ⟨rfl, hc⟩
    rw [hc]
    exact ⟨rfl, rfl⟩

end Parser

/-! ## Identifiers -/

namespace CharClass

/-- A class given by ranges that leave the surrogates out holds no half of a surrogate pair. -/
theorem inRanges_of_isHighSurrogate {table : List (Nat × Nat)} {u : CodeUnit}
    (htable : ∀ range ∈ table, range.2 < 0xD800 ∨ 0xDFFF < range.1)
    (hu : u.isHighSurrogate = true) : inRanges table [u] = false := by
  simp only [CodeUnit.isHighSurrogate, Bool.and_eq_true, decide_eq_true_eq,
    UInt16.le_iff_toNat_le, UInt16.reduceToNat] at hu
  refine List.any_eq_false.mpr fun range hrange => ?_
  simp only [Bool.and_eq_true, decide_eq_true_eq, not_and, Nat.not_le]
  have := htable range hrange
  omega

/-- An identifier character that is one unit is no half of a surrogate pair. -/
theorem isHighSurrogate_of_identifierChar {u : CodeUnit} (h : identifierChar [u] = true) :
    u.isHighSurrogate = false := by
  by_contra hu
  rw [Bool.not_eq_false] at hu
  have halphabetic : alphabetic [u] = false :=
    inRanges_of_isHighSurrogate (by decide +kernel) hu
  have hnumber : number [u] = false := inRanges_of_isHighSurrogate (by decide +kernel) hu
  have hunderscore : (([u] : Text) == Text.ofString "_") = false := by
    refine beq_eq_false_iff_ne.mpr fun heq => ?_
    rw [show Text.ofString "_" = [CodeUnit.ofChar '_'] by decide, List.singleton_inj] at heq
    rw [heq] at hu
    cases hu
  rw [identifierChar, halphabetic, hnumber, hunderscore] at h
  cases h

theorem identifierChar_of_identifierLeading {c : Text} (h : identifierLeading c = true) :
    identifierChar c = true := by
  rw [identifierLeading] at h
  rw [identifierChar, h, Bool.true_or]

end CharClass

namespace Text

/-- One code point that an identifier may begin with, and then identifier characters. -/
def IsIdentifier (t : Text) : Prop :=
  ∃ c cs, t.codePoints = c :: cs ∧ CharClass.identifierLeading c = true
    ∧ ∀ d ∈ cs, CharClass.identifierChar d = true

/-- No identifier character stands at the start of the text. -/
def StopsIdentifier (r : Text) : Prop :=
  ∀ c ∈ r.firstCodePoint?, CharClass.identifierChar c = false

namespace IsIdentifier

variable {t : Text}

theorem identifierChar_of_mem (h : t.IsIdentifier) {c : Text} (hc : c ∈ t.codePoints) :
    CharClass.identifierChar c = true := by
  obtain ⟨d, ds, hcodePoints, hlead, hrest⟩ := h
  rw [hcodePoints] at hc
  rcases List.mem_cons.mp hc with rfl | hc
  · exact CharClass.identifierChar_of_identifierLeading hlead
  · exact hrest c hc

theorem ne_nil (h : t.IsIdentifier) : t ≠ [] := by
  rintro rfl
  obtain ⟨c, cs, hcodePoints, -⟩ := h
  cases hcodePoints

theorem endsWhole (h : t.IsIdentifier) : t.EndsWhole :=
  endsWhole_of_codePoints fun _ hu =>
    CharClass.isHighSurrogate_of_identifierChar (h.identifierChar_of_mem hu)

end IsIdentifier

theorem stopsIdentifier_nil : StopsIdentifier [] := by
  simp [StopsIdentifier, firstCodePoint?]

theorem StopsIdentifier.takeWhile_eq_nil {r : Text} (h : StopsIdentifier r) :
    r.codePoints.takeWhile CharClass.identifierChar = [] := by
  rw [StopsIdentifier, ← head?_codePoints] at h
  cases hr : r.codePoints with
  | nil => rfl
  | cons c cs =>
    rw [hr] at h
    exact List.takeWhile_cons_of_neg (by simp [h c rfl])

/-- A point ends an identifier. -/
theorem stopsIdentifier_point (r : Text) : StopsIdentifier (CodeUnit.point :: r) := by
  have hpoint : CharClass.identifierChar [CodeUnit.point] = false := by decide +kernel
  have hfirst : firstCodePoint? (CodeUnit.point :: r) = some [CodeUnit.point] := by
    cases r <;> rfl
  rw [StopsIdentifier, hfirst]
  rintro _ ⟨⟩
  exact hpoint

end Text

/-! ## The text of a name -/

namespace Name

theorem segments_ofSegments (ss : List Text) : (ofSegments ss).segments = ss := by
  unfold ofSegments
  split <;> rfl

end Name

theorem Text.join_cons (sep t : Text) (ts : List Text) :
    Text.join sep (t :: ts) = t ++ ts.flatMap (sep ++ ·) := by
  induction ts generalizing t with
  | nil => simp [Text.join]
  | cons s ts ih =>
    have := ih s
    simp only [Text.join] at this ⊢
    rw [List.intercalate_cons_cons, this]
    simp

namespace Grammar

open ODataToken.Parser

variable {c r : Text}

instance : Plain identifier := inferInstanceAs (Plain (recognize _))

instance : ShapeOnly identifier := inferInstanceAs (ShapeOnly (recognize _))

/-- **An identifier is read as far as its characters go.** -/
theorem identifier_reads_iff {v : Text} :
    identifier.Reads v c r ↔ v = c ∧ c.IsIdentifier ∧ r.StopsIdentifier := by
  rw [identifier, recognize_reads_iff]
  refine and_congr_right fun _ => ⟨?_, ?_⟩
  · rintro ⟨⟨a, b⟩, hseq⟩
    obtain ⟨d, e, rfl, hlead, hrest⟩ := seq_reads_iff.mp hseq
    obtain ⟨-, hfirst, hd⟩ := satisfy_reads_iff.mp hlead
    obtain ⟨-, he⟩ := takeWhile_reads_iff_codePoints.mp hrest
    have hsplit := (List.takeWhile_append_dropWhile (p := CharClass.identifierChar)
      (l := (e ++ r).codePoints)).symm
    have hwhole : (d ++ (e ++ r)).codePoints
        = (d :: (e ++ r).codePoints.takeWhile CharClass.identifierChar)
          ++ (e ++ r).codePoints.dropWhile CharClass.identifierChar := by
      rw [Text.codePoints_of_firstCodePoint? hfirst, List.cons_append, ← hsplit]
    obtain ⟨hbefore, hafter⟩ := Text.codePoints_flatten_of_eq_append hwhole
    rw [List.flatten_cons, he] at hbefore
    refine ⟨⟨d, _, hbefore, hd, fun x hx => List.mem_takeWhile_imp hx⟩, ?_⟩
    have hr : ((e ++ r).codePoints.dropWhile CharClass.identifierChar).flatten = r := by
      have hflat := congrArg List.flatten hsplit
      rw [Text.flatten_codePoints, List.flatten_append, he] at hflat
      exact (List.append_cancel_left hflat).symm
    rw [hr] at hafter
    intro x hx
    rw [← Text.head?_codePoints, hafter] at hx
    have := List.head?_dropWhile_not CharClass.identifierChar (e ++ r).codePoints
    rw [hx] at this
    simpa using this
  · rintro ⟨hidentifier, hstop⟩
    have hwhole : (c ++ r).codePoints = c.codePoints ++ r.codePoints :=
      Text.codePoints_append hidentifier.endsWhole
    obtain ⟨d, ds, hcodePoints, hd, hds⟩ := hidentifier
    obtain rfl : c = d ++ ds.flatten := by
      rw [← Text.flatten_codePoints c, hcodePoints, List.flatten_cons]
    rw [hcodePoints, List.append_assoc, List.cons_append] at hwhole
    have hfirst : (d ++ (ds.flatten ++ r)).firstCodePoint? = some d := by
      rw [← Text.head?_codePoints, hwhole, List.head?_cons]
    rw [Text.codePoints_of_firstCodePoint? hfirst] at hwhole
    have htaken : ((Text.codePoints (ds.flatten ++ r)).takeWhile CharClass.identifierChar).flatten
        = ds.flatten := by
      rw [(List.cons.inj hwhole).2, List.takeWhile_append_of_pos hds, hstop.takeWhile_eq_nil,
        List.append_nil]
    exact ⟨(d, ds.flatten), seq_reads_iff.mpr ⟨d, ds.flatten, rfl,
      satisfy_reads_iff.mpr ⟨rfl, hfirst, hd⟩, takeWhile_reads_iff_codePoints.mpr ⟨rfl, htaken⟩⟩⟩

/-! ## Names -/

/-- The rounds after the first identifier have read identifiers, with a dot in front of each. -/
theorem many_identifier_reads {vs : List Text}
    (h : (many (preceded (char ".") identifier)).Reads vs c r) :
    c = vs.flatMap (Text.ofString "." ++ ·) ∧ (∀ v ∈ vs, v.IsIdentifier)
      ∧ (vs ≠ [] → r.StopsIdentifier) := by
  induction vs generalizing c with
  | nil =>
    obtain ⟨-, rfl, -⟩ | ⟨v, vs', d, e, hv, -⟩ := many_reads_cases h
    · exact ⟨rfl, by simp, by simp⟩
    · cases hv
  | cons v vs ih =>
    obtain ⟨hv, -⟩ | ⟨v', vs', d, e, hv, rfl, -, hround, hrest⟩ := many_reads_cases h
    · cases hv
    · obtain ⟨rfl, rfl⟩ := List.cons.inj hv
      obtain ⟨_, _, t, rfl, hdot, ht⟩ := preceded_reads_iff.mp hround
      obtain ⟨-, rfl⟩ := (char_reads_iff (u := CodeUnit.point)).mp hdot
      obtain ⟨rfl, hidentifier, hstop⟩ := identifier_reads_iff.mp ht
      obtain ⟨rfl, hall, hend⟩ := ih hrest
      refine ⟨rfl, List.forall_mem_cons.mpr ⟨hidentifier, hall⟩, fun _ => ?_⟩
      cases vs with
      | nil => exact hstop
      | cons => exact hend (by simp)

/-- Identifiers with a dot in front of each end the identifier before them. -/
theorem stopsIdentifier_flatMap (hr : r.StopsIdentifier) (vs : List Text) :
    Text.StopsIdentifier (vs.flatMap (Text.ofString "." ++ ·) ++ r) := by
  cases vs with
  | nil => exact hr
  | cons v vs => exact Text.stopsIdentifier_point _

/-- Identifiers with a dot in front of each are read, in front of what cannot go on with them. -/
theorem exists_many_identifier_reads {vs : List Text} (hvs : ∀ v ∈ vs, v.IsIdentifier)
    (hstop : r.StopsIdentifier) (hend : (preceded (char ".") identifier).Refuses r) :
    (many (preceded (char ".") identifier)).Reads vs (vs.flatMap (Text.ofString "." ++ ·)) r := by
  induction vs with
  | nil => exact many_reads_nil hend
  | cons v vs ih =>
    obtain ⟨hv, hvs⟩ := List.forall_mem_cons.mp hvs
    refine many_reads_cons (c := Text.ofString "." ++ v) (by simp) ?_ (ih hvs)
    refine preceded_reads_iff.mpr ⟨_, _, v, rfl,
      (char_reads_iff (u := CodeUnit.point)).mpr ⟨rfl, rfl⟩,
      identifier_reads_iff.mpr ⟨rfl, hv, stopsIdentifier_flatMap hstop vs⟩⟩

/-- **A name is one or more identifiers with dots between them**, as many as there are. -/
theorem name_reads_iff {n : Name} :
    name.Reads n c r
      ↔ ∃ segments, segments ≠ [] ∧ (∀ s ∈ segments, s.IsIdentifier) ∧ n = .ofSegments segments
          ∧ c = Text.join "." segments ∧ r.StopsIdentifier
          ∧ (preceded (char ".") identifier).Refuses r := by
  rw [name, label_reads_iff, map_reads_iff, dottedIdentifiers, sepBy1_eq]
  constructor
  · rintro ⟨_, rfl, hlist⟩
    obtain ⟨⟨v, vs⟩, rfl, hseq⟩ := map_reads_iff.mp hlist
    obtain ⟨t, d, rfl, ht, hd⟩ := seq_reads_iff.mp hseq
    obtain ⟨rfl, hv, hstop⟩ := identifier_reads_iff.mp ht
    obtain ⟨rfl, hvs, hlast⟩ := many_identifier_reads hd
    have hround : ¬ ∃ a, (preceded (char ".") identifier).Reads a [] r := by
      rintro ⟨a, ha⟩
      obtain ⟨_, d, e, hnil, hdot, -⟩ := preceded_reads_iff.mp ha
      obtain ⟨-, rfl⟩ := (char_reads_iff (u := CodeUnit.point)).mp hdot
      cases hnil
    refine ⟨v :: vs, List.cons_ne_nil _ _, List.forall_mem_cons.mpr ⟨hv, hvs⟩, rfl,
      (Text.join_cons _ _ _).symm, ?_, (many_reads_end hd).resolve_right hround⟩
    cases vs with
    | nil => exact hstop
    | cons => exact hlast (by simp)
  · rintro ⟨segments, hne, hall, rfl, rfl, hstop, hend⟩
    obtain ⟨v, vs, rfl⟩ := List.exists_cons_of_ne_nil hne
    obtain ⟨hv, hvs⟩ := List.forall_mem_cons.mp hall
    refine ⟨v :: vs, rfl, map_reads_iff.mpr ⟨(v, vs), rfl, ?_⟩⟩
    refine seq_reads_iff.mpr
      ⟨v, _, Text.join_cons _ _ _, ?_, exists_many_identifier_reads hvs hstop hend⟩
    exact identifier_reads_iff.mpr ⟨rfl, hv, stopsIdentifier_flatMap hstop vs⟩

/-- **The text of a name is the text that it was read from.** -/
theorem name_reads {n : Name} (h : name.Reads n c r) : n.text = c := by
  obtain ⟨segments, -, -, rfl, rfl, -⟩ := name_reads_iff.mp h
  rw [Name.text, Name.segments_ofSegments]

end Grammar
end ODataToken
