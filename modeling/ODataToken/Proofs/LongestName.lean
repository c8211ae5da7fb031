import ODataToken.Proofs.Grammar.LongestDuration
import ODataToken.Proofs.Parser.ErrorSelection
import ODataToken.Proofs.ReservedWords
import ODataToken.Proofs.RoundTrip

/-!
# Names are read exactly, and as far as they go

A whole text is read as a name if it is identifiers with dots between them, and the name gives it
back (`parseName_exact`).  A text that is no name begins with one or it does not.  If it does, the
error stands where the longest such beginning ends: the reader goes on as long as a dot and an
identifier follow, and gives back a dot that no identifier follows.

That it stops at the longest one, and not at some other, needs a cut of the text: what the reader
refuses behind a name it refuses behind it in every shorter text as well, so a longer name at the
start of the text would be read in two ways (`isLongestPrefix_of_name_reads`).  A shorter text may
end inside a surrogate pair, and the half that is left is no identifier character.
-/

set_option autoImplicit false

namespace ODataToken

open ODataToken.Parser
open CodeUnit (point)

/-! ## Beginnings of identifiers -/

namespace Text

variable {t w x r : Text}

/-- The first code point of a text, taken by itself, is one code point. -/
theorem codePoints_firstCodePoint (h : (t ++ w).firstCodePoint? = some t) : t.codePoints = [t] := by
  have hcut := firstCodePoint?_of_isPrefix h List.nil_prefix
  have hcodePoints := codePoints_of_firstCodePoint? hcut
  rwa [List.append_nil] at hcodePoints

/-- Where no identifier character stands, none stands if the text is cut off somewhere. -/
theorem StopsIdentifier.of_isPrefix (h : StopsIdentifier r) (hx : x <+: r) : StopsIdentifier x := by
  intro d hd
  by_contra hchar
  rw [Bool.not_eq_false] at hchar
  obtain ⟨s, rfl⟩ := hx
  obtain ⟨y, rfl⟩ := isPrefix_of_firstCodePoint? hd
  -- the code point is whole, so that it is also the first one of the longer text
  have hwhole : EndsWhole d := by
    refine endsWhole_of_codePoints fun u hu => ?_
    rw [codePoints_firstCodePoint hd, List.mem_singleton] at hu
    exact CharClass.isHighSurrogate_of_identifierChar (hu ▸ hchar)
  have hfirst : (d ++ y ++ s).firstCodePoint? = some d := by
    rw [List.append_assoc, ← head?_codePoints, codePoints_append hwhole,
      codePoints_firstCodePoint hd]
    rfl
  rw [h d hfirst] at hchar
  cases hchar

theorem IsIdentifier.exists_firstCodePoint (h : t.IsIdentifier) (x : Text) :
    ∃ c, (t ++ x).firstCodePoint? = some c ∧ CharClass.identifierLeading c = true := by
  have hwhole : (t ++ x).codePoints = t.codePoints ++ x.codePoints := codePoints_append h.endsWhole
  obtain ⟨c, cs, hcodePoints, hlead, -⟩ := h
  refine ⟨c, ?_, hlead⟩
  rw [← head?_codePoints, hwhole, hcodePoints]
  rfl

end Text

/-! ## What the readers refuse -/

namespace Grammar

open Text

variable {c r w : Text}

theorem satisfy_refuses_iff {accepts : CharClass} {expected : Text} :
    (satisfy accepts expected).Refuses w ↔ ∀ c ∈ w.firstCodePoint?, accepts c = false := by
  simp only [Refuses, satisfy, List.drop_zero]
  cases w.firstCodePoint? with
  | none => simp
  | some c => by_cases hc : accepts c = true <;> simp [hc]

theorem satisfy_run_of_refuses {accepts : CharClass} {expected : Text}
    (h : (satisfy accepts expected).Refuses w) :
    (satisfy accepts expected).run w 0 = .fail (.shape 0 expected) := by
  obtain ⟨f, hf⟩ := h
  rw [hf]
  simp only [satisfy] at hf
  split at hf
  · split at hf
    · cases hf
    · exact hf.symm
  · exact hf.symm

/-- The first character decides whether an identifier is there. -/
theorem identifier_run_eq_fail_iff {f : Failure} :
    identifier.run w 0 = .fail f
      ↔ (satisfy CharClass.identifierLeading "identifier").run w 0 = .fail f := by
  constructor
  · intro hf
    obtain hseq | ⟨_, _, -, hrest⟩ := Result.andThen_eq_fail_iff.mp hf
    · obtain hlead | ⟨_, mid, -, hrest⟩ := Result.andThen_eq_fail_iff.mp hseq
      · exact hlead
      · simp [takeWhile, takeBetween] at hrest
    · cases hrest
  · intro hlead
    simp [identifier, recognize, seq, hlead]

theorem identifier_refuses_iff : identifier.Refuses w ↔ ∀ c : Text, c <+: w → ¬ c.IsIdentifier := by
  constructor
  · rintro hrefuses t ⟨x, rfl⟩ ht
    obtain ⟨f, hf⟩ := hrefuses
    obtain ⟨c, hfirst, hlead⟩ := ht.exists_firstCodePoint x
    rw [satisfy_refuses_iff.mp ⟨f, identifier_run_eq_fail_iff.mp hf⟩ c hfirst] at hlead
    cases hlead
  · intro hnone
    refine (refuses_or_reads identifier w).resolve_right ?_
    rintro ⟨a, c, r, rfl, hreads⟩
    obtain ⟨-, hc, -⟩ := identifier_reads_iff.mp hreads
    exact hnone c (List.prefix_append c r) hc

/-- The reader of names goes no further where no dot with an identifier follows. -/
theorem dottedIdentifier_refuses_iff :
    (preceded (char ".") identifier).Refuses r
      ↔ ∀ s : Text, (point :: s) <+: r → ¬ s.IsIdentifier := by
  have hdot {v c r : Text} : (char ".").Reads v c r ↔ v = [point] ∧ c = [point] :=
    char_reads_iff (u := point)
  have hdot' : (char ".").Refuses r ↔ r.head? ≠ some point := char_refuses_iff (u := point)
  rw [preceded_refuses_iff, hdot']
  constructor
  · rintro (hhead | ⟨_, _, r, rfl, hdot'', hrefuses⟩) s hs
    · obtain ⟨t, rfl⟩ := hs
      exact absurd rfl hhead
    · obtain ⟨-, rfl⟩ := hdot.mp hdot''
      exact identifier_refuses_iff.mp hrefuses s ((List.prefix_cons_inj point).mp hs)
  · intro hnone
    by_cases hhead : r.head? = some point
    · obtain ⟨r, rfl⟩ := List.head?_eq_some_iff.mp hhead
      refine .inr ⟨[point], [point], r, rfl, hdot.mpr ⟨rfl, rfl⟩, identifier_refuses_iff.mpr ?_⟩
      exact fun s hs => hnone s ((List.prefix_cons_inj point).mpr hs)
    · exact .inl hhead

/-- What is expected where no name begins is a name. -/
theorem name_run_of_refuses (h : identifier.Refuses w) :
    name.run w 0 = .fail (.shape 0 "name") := by
  obtain ⟨f, hf⟩ := h
  have hidentifier : identifier.run w 0 = .fail (.shape 0 "identifier") :=
    identifier_run_eq_fail_iff.mpr
      (satisfy_run_of_refuses ⟨f, identifier_run_eq_fail_iff.mp hf⟩)
  have hlist : (dottedIdentifiers.map Name.ofSegments).run w 0 = .fail (.shape 0 "identifier") := by
    simp [dottedIdentifiers, sepBy1, Parser.map, hidentifier]
  simp [name, label, hlist]

/-- A name is there where an identifier is: what follows that can only end the name. -/
theorem name_refuses_iff : name.Refuses w ↔ identifier.Refuses w := by
  constructor
  · rintro ⟨f, hf⟩
    cases hlist : dottedIdentifiers.run w 0 with
    | ok segments stop => simp [name, label, Parser.map, hlist] at hf
    | fail g =>
      rw [dottedIdentifiers, sepBy1_run] at hlist
      cases hfirst : identifier.run w 0 with
      | fail g => exact ⟨g, hfirst⟩
      | ok value next =>
        rw [hfirst, Result.andThen_ok, Result.map_eq_fail_iff, sepByFrom_eq] at hlist
        exact absurd hlist (manyFrom_ne_fail _)
  · exact fun h => ⟨_, name_run_of_refuses h⟩

/-- **A name is read as far as it goes**: no longer one stands at the start of the text. -/
theorem isLongestPrefix_of_name_reads {n : Name} (h : name.Reads n c r) :
    IsLongestPrefix IsDottedName c (c ++ r) := by
  obtain ⟨segments, hne, hall, rfl, rfl, hstop, hend⟩ := name_reads_iff.mp h
  refine ⟨List.prefix_append _ _, ⟨segments, hne, hall, rfl⟩, fun c' hc' hname => ?_⟩
  by_contra hlt
  obtain ⟨x, rfl⟩ := List.prefix_of_prefix_length_le (List.prefix_append _ r) hc' (by omega)
  have hx : x <+: r := (List.prefix_append_right_inj _).mp hc'
  -- both names are read at the start of the longer one
  have hshort : name.Reads (.ofSegments segments) (join "." segments) x := by
    refine name_reads_iff.mpr ⟨segments, hne, hall, rfl, rfl, hstop.of_isPrefix hx, ?_⟩
    rw [dottedIdentifier_refuses_iff] at hend ⊢
    exact fun s hs => hend s (hs.trans hx)
  obtain ⟨segments', hne', hall', heq⟩ := hname
  have hlong : name.Reads (.ofSegments segments') (join "." segments ++ x) [] :=
    name_reads_iff.mpr ⟨segments', hne', hall', rfl, heq, stopsIdentifier_nil, _, rfl⟩
  obtain ⟨-, hsame, -⟩ := hshort.unique hlong (List.append_nil _).symm
  exact hlt (hsame ▸ le_rfl)

end Grammar

/-! ## Whole texts -/

open Text Grammar

variable {text : Text} {segments : List Text} {n : Name}

theorem Name.ofSegments?_eq_ok_iff :
    Name.ofSegments? segments = .ok n ↔ segments ≠ [] ∧ n = .ofSegments segments := by
  unfold Name.ofSegments?
  split
  · rename_i hempty
    simp [List.isEmpty_iff.mp hempty]
  · rename_i hne
    rw [List.isEmpty_iff] at hne
    exact ⟨fun h => ⟨hne, (Except.ok.inj h).symm⟩, fun h => congrArg _ h.2.symm⟩

/-- The segments of a name that is read can be told from it. -/
theorem exists_ofSegments?_parseName_iff :
    (∃ n, Name.ofSegments? segments = .ok n ∧ parseName text = .ok ⟨n, "name"⟩)
      ↔ segments ≠ [] ∧ (∀ s ∈ segments, s.IsIdentifier) ∧ text = join "." segments := by
  simp only [Name.ofSegments?_eq_ok_iff, parseName_eq_ok_iff]
  constructor
  · rintro ⟨_, ⟨-, rfl⟩, segments', hne, hall, htext, hsame⟩
    have hname := congrArg (fun found => found.value.segments) hsame
    simp only [Name.segments_ofSegments] at hname
    exact hname ▸ ⟨hne, hall, htext⟩
  · rintro ⟨hne, hall, htext⟩
    exact ⟨_, ⟨hne, rfl⟩, segments, hne, hall, htext, rfl⟩

theorem parseName_text (hall : ∀ s ∈ segments, s.IsIdentifier)
    (hn : Name.ofSegments? segments = .ok n) : parseName n.text = .ok ⟨n, "name"⟩ := by
  obtain ⟨hne, rfl⟩ := Name.ofSegments?_eq_ok_iff.mp hn
  rw [Name.text, Name.segments_ofSegments]
  exact parseName_eq_ok_iff.mpr ⟨segments, hne, hall, rfl, rfl⟩

theorem parseName_of_no_identifier (h : ∀ c : Text, c <+: text → ¬ c.IsIdentifier) :
    parseName text = .error ⟨.failed .shape, text, 0, "name", some "name"⟩ := by
  have hrun := name_run_of_refuses (identifier_refuses_iff.mpr h)
  have hall : Alternatives.AllFail text nameAlternatives [⟨"name", .shape 0 "name"⟩] :=
    .cons ⟨rfl, hrun⟩ .nil
  exact Alternatives.parseComplete_of_allFail hall

/-- The error of a text that begins with an identifier stands behind the longest name there. -/
theorem exists_longestPrefix_of_parseName {e : ParseError} {i : Text} (hi : i <+: text)
    (hidentifier : i.IsIdentifier) (herror : parseName text = .error e) :
    ∃ c, IsLongestPrefix IsDottedName c text
      ∧ e = ⟨.trailingInput, text, c.length, "end of input", some "name"⟩ := by
  rcases refuses_or_reads name text with hrefuses | ⟨n, c, r, rfl, hreads⟩
  · exact absurd hidentifier (identifier_refuses_iff.mp (name_refuses_iff.mp hrefuses) i hi)
  · have hr : r ≠ [] := by
      rintro rfl
      obtain ⟨segments, hne, hall, -, rfl, -⟩ := name_reads_iff.mp hreads
      rw [List.append_nil, parseName_eq_ok_iff.mpr ⟨segments, hne, hall, rfl, rfl⟩] at herror
      cases herror
    rw [parseName_of_reads hreads hr] at herror
    exact ⟨c, isLongestPrefix_of_name_reads hreads, (Except.error.inj herror).symm⟩

/-- **Names are read exactly, and the reading can be undone.**  A text is read as the name with some
segments if these are identifiers, at least one, and the text is they with dots between them.  So
the text of a name that was read is the text it was read from, and every name that is built from
identifiers is read from its text.  A text that begins with no identifier fails on its shape at the
start; any other one that is no name is left over behind the longest name that it begins with. -/
theorem parseName_exact (text : Text) :
    (∀ segments, (∃ n, Name.ofSegments? segments = .ok n ∧ parseName text = .ok ⟨n, "name"⟩)
        ↔ segments ≠ [] ∧ (∀ s ∈ segments, s.IsIdentifier) ∧ text = join "." segments)
      ∧ (∀ found, parseName text = .ok found → found.value.text = text)
      ∧ (∀ segments n, (∀ s ∈ segments, s.IsIdentifier) → Name.ofSegments? segments = .ok n →
          parseName n.text = .ok ⟨n, "name"⟩)
      ∧ ((∀ c : Text, c <+: text → ¬ c.IsIdentifier) →
          parseName text = .error ⟨.failed .shape, text, 0, "name", some "name"⟩)
      ∧ ∀ (i : Text) (e : ParseError), i <+: text → i.IsIdentifier → parseName text = .error e →
          ∃ c, IsLongestPrefix IsDottedName c text
            ∧ e = ⟨.trailingInput, text, c.length, "end of input", some "name"⟩ :=
  ⟨fun _ => exists_ofSegments?_parseName_iff, fun _ => text_of_parseName,
    fun _ _ => parseName_text, parseName_of_no_identifier,
    fun _ _ => exists_longestPrefix_of_parseName⟩

/-- An identifier may be a code point of two units.  A doubled dot ends the name in front of it, and
a digit begins none. -/
theorem parseName_exact_instances :
    parseName "𝒜.b" = .ok ⟨.qualified ["𝒜", "b"], "name"⟩
      ∧ parseName "1st" = .error ⟨.failed .shape, "1st", 0, "name", some "name"⟩
      ∧ IsLongestPrefix IsDottedName "a.b" "a.b..c" := by
  obtain ⟨-, -, hname, -⟩ := parseName_exact "𝒜.b"
  obtain ⟨-, -, -, hnone, -⟩ := parseName_exact "1st"
  obtain ⟨-, -, -, -, hlongest⟩ := parseName_exact "a.b..c"
  have hletter : IsIdentifier "𝒜" := ⟨"𝒜", [], by rfl, by decide +kernel, by simp⟩
  have ha : IsIdentifier "a" := isIdentifier_of_all (by decide) (by decide +kernel)
  have hb : IsIdentifier "b" := isIdentifier_of_all (by decide) (by decide +kernel)
  have hdigit : identifier.run "1st" 0 = .fail (.shape 0 "identifier") := by decide +kernel
  have herror : parseName "a.b..c"
      = .error ⟨.trailingInput, "a.b..c", 3, "end of input", some "name"⟩ := by decide +kernel
  have htext : Name.text (.qualified ["𝒜", "b"]) = "𝒜.b" := by rfl
  have hqualified := hname ["𝒜", "b"] (.qualified ["𝒜", "b"]) (by simp [hletter, hb]) rfl
  rw [htext] at hqualified
  refine ⟨hqualified, hnone (identifier_refuses_iff.mp ⟨_, hdigit⟩), ?_⟩
  obtain ⟨c, hc, he⟩ := hlongest "a" _ (by decide) ha herror
  have hlen : 3 = c.length := congrArg ParseError.pos he
  obtain rfl : c = "a.b" := by
    rw [List.prefix_iff_eq_take.mp hc.1, ← hlen]
    rfl
  exact hc

end ODataToken
