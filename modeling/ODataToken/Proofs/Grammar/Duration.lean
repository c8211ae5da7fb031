import ODataToken.Grammar.Temporal
import ODataToken.Proofs.Duration
import ODataToken.Proofs.Parser.Runs

/-!
# What durations read

What a duration reads is a text of it, and every such text is read in front of what cannot go on
with it.  The numeral of a component is read before its unit is known; so whether a component is
there is decided by the unit after the digits, `Text.nextMark`.

Between apostrophes nothing can go on with a duration, and there a duration literal reads exactly
the texts of durations.
-/

set_option autoImplicit false

namespace ODataToken
namespace Grammar

open ODataToken.Parser Text Duration
open CodeUnit (apostrophe hyphen point)

variable {c r w : Text} {n : Nat}

/-! ## Components -/

instance : Plain digits := inferInstanceAs (Plain (takeWhile1 _ _))

instance : ShapeOnly digits := inferInstanceAs (ShapeOnly (takeWhile1 _ _))

instance (unit : Text) (k : Nat) : Plain (component unit k) :=
  inferInstanceAs (Plain (Parser.map _ _))

instance (unit : Text) (k : Nat) : ShapeOnly (component unit k) :=
  inferInstanceAs (ShapeOnly (Parser.map _ _))

instance : Plain seconds := inferInstanceAs (Plain (Parser.map _ _))

instance : ShapeOnly seconds := inferInstanceAs (ShapeOnly (Parser.map _ _))

instance : Plain timeComponents := inferInstanceAs (Plain (Parser.map _ _))

instance : ShapeOnly timeComponents := inferInstanceAs (ShapeOnly (Parser.map _ _))

instance : Plain durationValue := inferInstanceAs (Plain (Parser.map _ _))

theorem digits_reads_iff {v : Text} :
    digits.Reads v c r ↔ v = c ∧ c.IsNumeral ∧ StopsAt CodeUnit.isDigit r := by
  rw [digits, takeWhile1_reads_iff CharClass.digit_ofSingleUnits.toOfUnits]
  exact and_congr_right fun _ => ⟨fun ⟨hne, hall, hr⟩ => ⟨⟨hne, hall⟩, hr⟩,
    fun ⟨⟨hne, hall⟩, hr⟩ => ⟨hne, hall, hr⟩⟩

theorem digits_refuses_iff : digits.Refuses w ↔ StopsAt CodeUnit.isDigit w :=
  takeWhile1_refuses_iff CharClass.digit_ofSingleUnits.toOfUnits

/-- A letter of a unit: it stands for itself up to case, and it is no digit. -/
structure IsUnit (x : CodeUnit) : Prop where
  plain : x.isPlain = true
  lower : x.lower.isDigit = false

/-- The letter of a unit in either case is no digit. -/
theorem IsUnit.isDigit {x u : CodeUnit} (hx : IsUnit x) (hu : u.lower = x.lower) :
    u.isDigit = false := by
  rw [Bool.eq_false_iff]
  intro hdigit
  have hlt : u < 0x41 := by
    simp only [CodeUnit.isDigit, Bool.and_eq_true, decide_eq_true_eq] at hdigit
    exact UInt16.lt_of_le_of_lt hdigit.2 (by decide)
  have := hx.lower
  rw [← hu, CodeUnit.lower_eq_self hlt, hdigit] at this
  cases this

theorem component_reads_iff {x : CodeUnit} {k : Nat} (hx : IsUnit x) :
    (component [x] k).Reads n c r ↔ IsComponent x k c n := by
  simp only [component, map_reads_iff, terminated_reads_iff, digits_reads_iff,
    keyword_singleton_reads_iff hx.plain]
  constructor
  · rintro ⟨_, rfl, _, d, _, rfl, ⟨rfl, hd, -⟩, u, rfl, rfl, hu⟩
    exact ⟨_, u, rfl, hd, hu, rfl⟩
  · rintro ⟨d, u, rfl, hd, hu, rfl⟩
    exact ⟨d, rfl, [u], d, [u], rfl, ⟨rfl, hd, stopsAt_cons.mpr (hx.isDigit hu)⟩, u, rfl, rfl, hu⟩

/-- The unit after the digits that the text begins with is not the letter `x` in either case. -/
def MarkNot (x : CodeUnit) (w : Text) : Prop := ∀ u ∈ w.nextMark, u.lower ≠ x

/-- A component is not there if the digits are followed by something else than its letter. -/
theorem component_refuses {x : CodeUnit} {k : Nat} (hx : IsUnit x) (h : MarkNot x.lower w) :
    (component [x] k).Refuses w := by
  rcases refuses_or_reads (component [x] k) w with hw | ⟨n, c, r, rfl, hreads⟩
  · exact hw
  · obtain ⟨d, u, rfl, hd, hu, -⟩ := (component_reads_iff hx).mp hreads
    refine absurd hu (h u ?_)
    rw [List.append_assoc, nextMark_append hd.2]
    exact nextMark_cons (hx.isDigit hu) r

/-! ## Seconds -/

theorem isUnit_seconds : IsUnit 0x53 := ⟨by decide, by decide⟩

theorem seconds_reads_iff : seconds.Reads n c r ↔ IsSeconds c n := by
  have hS {v c r : Text} : (keyword "S").Reads v c r ↔ ∃ u, v = [u] ∧ c = [u] ∧ u.lower = 0x73 :=
    keyword_singleton_reads_iff (x := 0x53) (by decide)
  have hpoint {v c r : Text} : (char ".").Reads v c r ↔ v = [point] ∧ c = [point] :=
    char_reads_iff (u := point)
  simp only [seconds, map_reads_iff, Prod.exists, terminated_reads_iff, seq_reads_iff,
    optional_reads_iff, preceded_reads_iff, digits_reads_iff, hS, hpoint]
  constructor
  · rintro ⟨_, o, rfl, _, _, _, rfl, ⟨d, f, rfl, ⟨rfl, hd, -⟩, hf⟩, u, rfl, rfl, hu⟩
    rcases hf with ⟨_, rfl, _, _, fd, rfl, ⟨rfl, rfl⟩, rfl, hfd, -⟩ | ⟨rfl, rfl, -⟩
    · exact ⟨_, _, u, _, List.append_assoc _ _ _, hd, .inr ⟨_, rfl, hfd, rfl⟩, hu, rfl⟩
    · exact ⟨_, [], u, 0, List.append_assoc _ _ _, hd, .inl ⟨rfl, rfl⟩, hu, rfl⟩
  · rintro ⟨d, f, u, k, rfl, hd, hf, hu, rfl⟩
    have hstop : StopsAt CodeUnit.isDigit (u :: r) := stopsAt_cons.mpr (isUnit_seconds.isDigit hu)
    rcases hf with ⟨rfl, rfl⟩ | ⟨fd, rfl, hfd, rfl⟩
    · refine ⟨d, none, rfl, [u], d, [u], by simp, ⟨d, [], by simp, ⟨rfl, hd, hstop⟩,
        .inr ⟨rfl, rfl, ?_⟩⟩, u, rfl, rfl, hu⟩
      refine preceded_refuses_iff.mpr (.inl ((char_refuses_iff (u := point)).mpr ?_))
      intro hhead
      obtain rfl : u = point := Option.some.inj hhead
      cases hu
    · refine ⟨d, some fd, rfl, [u], d ++ point :: fd, [u], by simp, ⟨d, point :: fd, rfl,
        ⟨rfl, hd, stopsAt_cons.mpr (by decide)⟩, .inl ⟨fd, rfl, [point], [point], fd, rfl,
          ⟨rfl, rfl⟩, rfl, hfd, hstop⟩⟩, u, rfl, rfl, hu⟩

/-! ## Optional components -/

/-- A unit that a duration may go on with. -/
def continuesDuration (u : CodeUnit) : Bool :=
  u.isDigit || u == point || ("dhmst" : Text).contains u.lower

theorem stopsAt_isDigit_of_continuesDuration (h : StopsAt continuesDuration r) :
    StopsAt CodeUnit.isDigit r := by
  intro u hu
  have := h u hu
  simp only [continuesDuration, Bool.or_eq_false_iff] at this
  exact this.1.1

/-- What cannot go on with a duration does not begin with the mark of a component. -/
theorem lower_ne_of_continuesDuration (h : StopsAt continuesDuration r) {x : CodeUnit}
    (hx : x ∈ Text.ofString "dhmst") : ∀ u ∈ r.head?, u.lower ≠ x := by
  rintro u hu rfl
  have := h u hu
  rw [continuesDuration, List.contains_iff_mem.mpr hx, Bool.or_true] at this
  cases this

theorem markNot_of_continuesDuration (h : StopsAt continuesDuration r) {x : CodeUnit}
    (hx : x ∈ Text.ofString "dhmst") : MarkNot x r := by
  have hdigit := stopsAt_isDigit_of_continuesDuration h
  cases r with
  | nil => exact fun u hu => by cases hu
  | cons u r =>
    rw [MarkNot, nextMark_cons (stopsAt_cons.mp hdigit)]
    exact lower_ne_of_continuesDuration h hx

theorem isOptional_of_reads {p : Parser Nat} [ShapeOnly p] {P : Text → Nat → Prop} {o : Option Nat}
    (hp : ∀ n, p.Reads n c r → P c n) (h : (optional p).Reads o c r) :
    IsOptional P c (o.getD 0) := by
  rcases optional_reads_iff.mp h with ⟨n, rfl, hn⟩ | ⟨rfl, rfl, -⟩
  · exact .inl (hp n hn)
  · exact .inr ⟨rfl, rfl⟩

theorem exists_optional_reads {p : Parser Nat} [ShapeOnly p] {P : Text → Nat → Prop}
    (hp : P c n → p.Reads n c r) (hr : p.Refuses r) (h : IsOptional P c n) :
    ∃ o : Option Nat, o.getD 0 = n ∧ (optional p).Reads o c r := by
  rcases h with h | ⟨rfl, rfl⟩
  · exact ⟨some n, rfl, optional_reads_some_iff.mpr (hp h)⟩
  · exact ⟨none, rfl, optional_reads_none_iff.mpr ⟨rfl, hr⟩⟩

/-- A component in front brings in no other mark than its own. -/
theorem markNot_of_isComponent {x y : CodeUnit} {k : Nat} (hx : IsUnit x) (hne : x.lower ≠ y)
    (h : IsComponent x k c n) (w : Text) : MarkNot y (c ++ w) := by
  obtain ⟨d, u, rfl, hd, hu, -⟩ := h
  rw [MarkNot, List.append_assoc, nextMark_append hd.2]
  show ∀ v ∈ nextMark (u :: w), _
  rw [nextMark_cons (hx.isDigit hu)]
  rintro _ ⟨⟩
  rwa [hu]

theorem markNot_of_isSeconds {y : CodeUnit} (hne : 0x73 ≠ y) (hne' : point ≠ y)
    (h : IsSeconds c n) (w : Text) : MarkNot y (c ++ w) := by
  obtain ⟨d, f, u, k, rfl, hd, hf, hu, -⟩ := h
  rw [MarkNot, List.append_assoc, nextMark_append hd.2]
  rcases hf with ⟨rfl, -⟩ | ⟨fd, rfl, -, -⟩
  · show ∀ v ∈ nextMark (u :: w), _
    rw [nextMark_cons (isUnit_seconds.isDigit hu)]
    rintro _ ⟨⟩
    rwa [hu]
  · show ∀ v ∈ nextMark (point :: _), _
    rw [nextMark_cons (by decide)]
    rintro _ ⟨⟩
    exact hne'

theorem MarkNot.component {x y : CodeUnit} {k : Nat} (hx : IsUnit x) (hne : x.lower ≠ y)
    (h : IsOptional (IsComponent x k) c n) (hw : MarkNot y w) : MarkNot y (c ++ w) := by
  rcases h with h | ⟨rfl, -⟩
  · exact markNot_of_isComponent hx hne h w
  · exact hw

theorem MarkNot.seconds {y : CodeUnit} (hne : 0x73 ≠ y) (hne' : point ≠ y)
    (h : IsOptional IsSeconds c n) (hw : MarkNot y w) : MarkNot y (c ++ w) := by
  rcases h with h | ⟨rfl, -⟩
  · exact markNot_of_isSeconds hne hne' h w
  · exact hw

theorem seconds_refuses (h : StopsAt CodeUnit.isDigit w) : seconds.Refuses w := by
  rw [seconds, map_refuses_iff, terminated_refuses_iff, seq_refuses_iff, digits_refuses_iff]
  exact .inl (.inl h)

/-! ## The time part -/

theorem isUnit_hours : IsUnit 0x48 := ⟨by decide, by decide⟩

theorem isUnit_minutes : IsUnit 0x4D := ⟨by decide, by decide⟩

theorem isUnit_days : IsUnit 0x44 := ⟨by decide, by decide⟩

theorem timePart_mark_reads_iff {v : Text} :
    (keyword "T").Reads v c r ↔ ∃ u, v = [u] ∧ c = [u] ∧ u.lower = 0x74 :=
  keyword_singleton_reads_iff (x := 0x54) (by decide)

theorem timeComponents_reads (hreads : timeComponents.Reads n c r) : IsTimePart c n := by
  obtain ⟨⟨oh, om, os⟩, rfl, hparts⟩ := map_reads_iff.mp hreads
  obtain ⟨_, _, rest, rfl, hmark, hrest⟩ := preceded_reads_iff.mp hparts
  obtain ⟨mark, rfl, rfl, hlower⟩ := timePart_mark_reads_iff.mp hmark
  obtain ⟨h, m, s, rfl, hh, hm, hs⟩ := seq3_reads_iff.mp hrest
  exact ⟨mark, h, m, s, _, _, _, rfl, hlower,
    isOptional_of_reads (fun n => (component_reads_iff isUnit_hours).mp) hh,
    isOptional_of_reads (fun n => (component_reads_iff isUnit_minutes).mp) hm,
    isOptional_of_reads (fun n => seconds_reads_iff.mp) hs, rfl⟩

theorem timeComponents_reads_of (h : IsTimePart c n) (hr : StopsAt continuesDuration r) :
    timeComponents.Reads n c r := by
  obtain ⟨mark, h, m, s, nh, nm, ns, rfl, hmark, hh, hm, hs, rfl⟩ := h
  have hs_refuses : seconds.Refuses r := seconds_refuses (stopsAt_isDigit_of_continuesDuration hr)
  have hm_refuses : (component "M" nanosPerMinute).Refuses (s ++ r) :=
    component_refuses isUnit_minutes (.seconds (by decide) (by decide) hs
      (markNot_of_continuesDuration hr (by decide)))
  have hh_refuses : (component "H" nanosPerHour).Refuses (m ++ (s ++ r)) :=
    component_refuses isUnit_hours (.component isUnit_minutes (by decide) hm
      (.seconds (by decide) (by decide) hs (markNot_of_continuesDuration hr (by decide))))
  obtain ⟨os, rfl, hos⟩ := exists_optional_reads seconds_reads_iff.mpr hs_refuses hs
  obtain ⟨om, rfl, hom⟩ :=
    exists_optional_reads (component_reads_iff isUnit_minutes).mpr hm_refuses hm
  obtain ⟨oh, rfl, hoh⟩ :=
    exists_optional_reads (component_reads_iff isUnit_hours).mpr hh_refuses hh
  refine map_reads_iff.mpr ⟨(oh, om, os), rfl, preceded_reads_iff.mpr ⟨[mark], [mark], _, rfl,
    timePart_mark_reads_iff.mpr ⟨mark, rfl, rfl, hmark⟩, ?_⟩⟩
  exact seq3_reads_iff.mpr ⟨h, m, s, rfl, hoh, hom, hos⟩

/-- The letter that a time part begins with is no digit, so no days are read from it. -/
theorem days_refuses_of_isTimePart (h : IsTimePart c n) (w : Text) :
    (component "D" nanosPerDay).Refuses (c ++ w) := by
  obtain ⟨u, _, _, _, _, _, _, rfl, hu, -⟩ := h
  have hne : u.isDigit = false := IsUnit.isDigit (x := 0x74) ⟨by decide, by decide⟩ hu
  refine component_refuses isUnit_days ?_
  rw [MarkNot, List.cons_append, nextMark_cons hne]
  rintro _ ⟨⟩
  rw [hu]
  decide

/-! ## Durations -/

/-- What a duration has read is a text of it. -/
theorem durationValue_reads {v : Int} (hreads : durationValue.Reads v c r) :
    IsDurationText c v := by
  obtain ⟨⟨osign, od, ot⟩, hval, hparts⟩ := map_reads_iff.mp hreads
  obtain ⟨sign, _, t, rfl, hsign, hpd, ht⟩ := seq3_reads_iff.mp hparts
  obtain ⟨_, _, d, rfl, hmark, hd⟩ := preceded_reads_iff.mp hpd
  obtain ⟨mark, -, rfl, hlower⟩ := (keyword_singleton_reads_iff (x := 0x50) (by decide)).mp hmark
  obtain ⟨hissign, hminus⟩ := isSign_of_reads hsign
  refine ⟨sign, mark, d, t, od.getD 0, ot.getD 0, by simp, hissign, hlower,
    isOptional_of_reads (fun n => (component_reads_iff isUnit_days).mp) hd,
    isOptional_of_reads (fun n => timeComponents_reads) ht, ?_⟩
  rw [← hval]
  simp only [hminus]

/-- Every text of a duration is read, in front of what cannot go on with it. -/
theorem durationValue_reads_of {v : Int} (h : IsDurationText c v)
    (hr : StopsAt continuesDuration r) : durationValue.Reads v c r := by
  obtain ⟨sign, mark, d, t, days, time, rfl, hsign, hmark, hd, ht, rfl⟩ := h
  have ht_refuses : timeComponents.Refuses r := by
    refine map_refuses_iff.mpr (preceded_refuses_iff.mpr (.inl ?_))
    exact keyword_refuses_of_head (x := 0x54) (s := []) (by decide)
      (lower_ne_of_continuesDuration hr (by decide))
  have hd_refuses : (component "D" nanosPerDay).Refuses (t ++ r) := by
    rcases ht with ht | ⟨rfl, -⟩
    · exact days_refuses_of_isTimePart ht r
    · exact component_refuses isUnit_days (markNot_of_continuesDuration hr (by decide))
  have hsign_next : ∀ u ∈ (mark :: (d ++ (t ++ r))).head?, u ∉ Text.ofString "+-" := by
    rintro _ ⟨⟩ hmem
    rcases mem_signs_iff.mp hmem with rfl | rfl
    · exact absurd hmark (by decide)
    · exact absurd hmark (by decide)
  obtain ⟨osign, hosign, hminus⟩ := exists_optional_sign_reads hsign hsign_next
  obtain ⟨od, rfl, hod⟩ := exists_optional_reads (component_reads_iff isUnit_days).mpr hd_refuses hd
  obtain ⟨ot, rfl, hot⟩ :=
    exists_optional_reads (fun h => timeComponents_reads_of h hr) ht_refuses ht
  have hP : (keyword "P").Reads [mark] [mark] (d ++ (t ++ r)) :=
    (keyword_singleton_reads_iff (x := 0x50) (by decide)).mpr ⟨mark, rfl, rfl, hmark⟩
  have hpd : (preceded (keyword "P") (optional (component "D" nanosPerDay))).Reads od (mark :: d)
      (t ++ r) := preceded_reads_iff.mpr ⟨[mark], [mark], d, rfl, hP, hod⟩
  refine map_reads_iff.mpr ⟨(osign, od, ot), ?_, seq3_reads_iff.mpr
    ⟨sign, mark :: d, t, by simp, by simpa using hosign, hpd, hot⟩⟩
  simp only [hminus]

/-! ## Duration literals -/

instance : Plain quotedDuration := by
  unfold quotedDuration
  infer_instance

/-- Between apostrophes, exactly the texts of durations are read. -/
theorem quotedDuration_reads_iff {v : Int} :
    quotedDuration.Reads v c r
      ↔ ∃ t, c = apostrophe :: (t ++ [apostrophe]) ∧ IsDurationText t v := by
  have hquote {v c r : Text} : (char "'").Reads v c r ↔ v = [apostrophe] ∧ c = [apostrophe] :=
    char_reads_iff (u := apostrophe)
  simp only [quotedDuration, between_eq, preceded_reads_iff, terminated_reads_iff, hquote]
  constructor
  · rintro ⟨_, _, _, rfl, ⟨rfl, rfl⟩, _, t, _, rfl, ht, rfl, rfl⟩
    exact ⟨t, rfl, durationValue_reads ht⟩
  · rintro ⟨t, rfl, ht⟩
    exact ⟨[apostrophe], [apostrophe], _, rfl, ⟨rfl, rfl⟩, [apostrophe], t, [apostrophe], rfl,
      durationValue_reads_of ht (stopsAt_cons.mpr (by decide)), rfl, rfl⟩

instance (requireKeyword : Bool) : Plain (duration requireKeyword) := by
  cases requireKeyword
  · exact inferInstanceAs (Plain (label (Parser.map _ (preceded (optional _) _)) _))
  · exact inferInstanceAs (Plain (label (Parser.map _ (preceded _ _)) _))

/-- **A duration literal reads the keyword in any case, unless it can be left away and is, and then
the text of a duration between apostrophes.** -/
theorem duration_reads_iff {requireKeyword : Bool} {a : Literal} :
    (duration requireKeyword).Reads a c r
      ↔ ∃ (mark t : Text) (v : Int), c = mark ++ apostrophe :: (t ++ [apostrophe])
          ∧ (mark.lower = "duration" ∨ mark = [] ∧ requireKeyword = false)
          ∧ IsDurationText t v ∧ a = .duration ⟨v⟩ := by
  have hplain : (Text.ofString "duration").all CodeUnit.isPlain = true := by decide
  have hword : (Text.ofString "duration").lower = "duration" := by decide
  have hkeyword {v c r : Text} :
      (keyword "duration").Reads v c r ↔ v = c ∧ c.lower = "duration" := by
    rw [keyword_reads_iff hplain, hword]
  cases requireKeyword with
  | true =>
    simp only [duration, if_true, label_reads_iff, map_reads_iff, preceded_reads_iff, hkeyword,
      quotedDuration_reads_iff]
    constructor
    · rintro ⟨v, rfl, _, mark, _, rfl, ⟨rfl, hmark⟩, t, rfl, ht⟩
      exact ⟨_, t, v, rfl, .inl hmark, ht, rfl⟩
    · rintro ⟨mark, t, v, rfl, hmark | ⟨-, h⟩, ht, rfl⟩
      · exact ⟨v, rfl, mark, mark, _, rfl, ⟨rfl, hmark⟩, t, rfl, ht⟩
      · cases h
  | false =>
    simp only [duration, Bool.false_eq_true, if_false, label_reads_iff, map_reads_iff,
      preceded_reads_iff, optional_reads_iff, hkeyword, quotedDuration_reads_iff]
    constructor
    · rintro ⟨v, rfl, o, mark, _, rfl, ⟨_, rfl, rfl, hmark⟩ | ⟨rfl, rfl, -⟩, t, rfl, ht⟩
      · exact ⟨_, t, v, rfl, .inl hmark, ht, rfl⟩
      · exact ⟨[], t, v, rfl, .inr ⟨rfl, trivial⟩, ht, rfl⟩
    · rintro ⟨mark, t, v, rfl, hmark | ⟨rfl, -⟩, ht, rfl⟩
      · exact ⟨v, rfl, some mark, mark, _, rfl, .inl ⟨mark, rfl, rfl, hmark⟩, t, rfl, ht⟩
      · refine ⟨v, rfl, none, [], _, rfl, .inr ⟨rfl, rfl, ?_⟩, t, rfl, ht⟩
        refine keyword_refuses_of_head (x := 0x64) (s := Text.ofString "uration") hplain ?_
        rintro _ ⟨⟩
        decide

end Grammar
end ODataToken
