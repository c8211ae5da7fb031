import ODataToken.Proofs.Grammar.Failures
import ODataToken.Proofs.Parser.Checks
import ODataToken.Proofs.Parser.FailureMerge

/-!
# Committed literals

Eight hexadecimal digits with a hyphen behind them begin a GUID, and `binary'` in any case begins a
binary literal.  From there on the token is of this kind or it is malformed: whatever is missing,
and however deep inside the literal, is a failure on the domain at the place where it is missing.

For a GUID that place depends on how far its groups are in order.  `GroupFault` describes the first
thing that is not, along the list of the lengths that the groups must have, and the failure of the
groups is found by the same recursion (`hexGroups_run_of_refuses`).

A text that begins in one of these ways is therefore never rejected for its shape, whatever the
other kinds of literal make of it: a failure on the domain outranks theirs
(`Alternatives.kind_ne_shape`).
-/

set_option autoImplicit false

namespace ODataToken

open CodeUnit (apostrophe hyphen)

/-! ## The first fault of hexadecimal groups -/

namespace Text

instance (n : Nat) (t : Text) : Decidable (IsHexGroup n t) :=
  decidable_of_iff (t.length = n ∧ t.all CodeUnit.isHexDigit = true) (by rw [List.all_eq_true]; rfl)

/-- Of groups that must have these many hexadecimal digits, with hyphens between them, the first
thing that is missing at the start of a text: at which place, and what is expected there. -/
inductive GroupFault : List Nat → Text → Nat → Text → Prop
  /-- The first group does not have its digits. -/
  | digits {n : Nat} {ns : List Nat} {w : Text} (hgroup : ¬ IsHexGroup n (w.take n)) :
      GroupFault (n :: ns) w 0 (Text.ofNat n ++ " hex digits")
  /-- The first group is there, and no hyphen in front of the next. -/
  | hyphen {n : Nat} {ns : List Nat} {w : Text} (hgroup : IsHexGroup n (w.take n)) (hns : ns ≠ [])
      (hhyphen : w[n]? ≠ some hyphen) : GroupFault (n :: ns) w n (Text.quote "-")
  /-- The first group and its hyphen are there, and something is missing further on. -/
  | later {n : Nat} {ns : List Nat} {w : Text} {k : Nat} {expected : Text}
      (hgroup : IsHexGroup n (w.take n)) (hhyphen : w[n]? = some hyphen)
      (hlater : GroupFault ns (w.drop (n + 1)) k expected) :
      GroupFault (n :: ns) w (n + 1 + k) expected

/-- Only one thing is the first. -/
theorem GroupFault.unique {ns : List Nat} {w : Text} {k k' : Nat} {expected expected' : Text}
    (h : GroupFault ns w k expected) (h' : GroupFault ns w k' expected') :
    k = k' ∧ expected = expected' := by
  induction h generalizing k' with
  | digits hgroup =>
    cases h' with
    | digits => exact ⟨rfl, rfl⟩
    | hyphen hgroup' => exact absurd hgroup' hgroup
    | later hgroup' => exact absurd hgroup' hgroup
  | hyphen hgroup _ hhyphen =>
    cases h' with
    | digits hgroup' => exact absurd hgroup hgroup'
    | hyphen => exact ⟨rfl, rfl⟩
    | later _ hhyphen' => exact absurd hhyphen' hhyphen
  | later hgroup hhyphen _ ih =>
    cases h' with
    | digits hgroup' => exact absurd hgroup hgroup'
    | hyphen _ _ hhyphen' => exact absurd hhyphen hhyphen'
    | later _ _ hlater' =>
      obtain ⟨rfl, rfl⟩ := ih hlater'
      exact ⟨rfl, rfl⟩

theorem IsHexGroup.take_append {n : Nat} {g : Text} (h : g.IsHexGroup n) (r : Text) :
    (g ++ r).take n = g := by
  rw [← h.1, List.take_left]

theorem IsHexGroup.getElem?_append {n : Nat} {g : Text} (h : g.IsHexGroup n) (r : Text) :
    (g ++ r)[n]? = r.head? := by
  rw [← h.1, ← List.head?_drop, List.drop_left]

theorem IsHexGroup.drop_append {n : Nat} {g : Text} (h : g.IsHexGroup n) (u : CodeUnit) (r : Text) :
    (g ++ u :: r).drop (n + 1) = r := by
  rw [← h.1, ← List.drop_drop, List.drop_left, List.drop_one, List.tail_cons]

theorem IsGuid.length_eq {t : Text} (h : t.IsGuid) : t.length = 36 := by
  obtain ⟨g₁, g₂, g₃, g₄, g₅, rfl, h₁, h₂, h₃, h₄, h₅⟩ := h
  simp [h₁.1, h₂.1, h₃.1, h₄.1, h₅.1]

end Text

namespace Grammar

open ODataToken.Parser Text

variable {g r w : Text} {n m l pos : Nat}

/-- Groups of `m` hexadecimal digits, `n` of them with a hyphen behind each, and one of `l`. -/
def hexGroups (n m l : Nat) : Parser (List Text × Text) :=
  seq (count (terminated (hexGroup m) (char "-")) n) (hexGroup l)

instance : Plain (hexGroups n m l) := inferInstanceAs (Plain (seq _ _))

theorem hexGroups_zero : hexGroups 0 m l = (hexGroup l).map fun g => ([], g) := rfl

theorem hexGroups_succ :
    hexGroups (n + 1) m l
      = ((terminated (hexGroup m) (char "-")).seq (hexGroups n m l)).map
          fun x => (x.1 :: x.2.1, x.2.2) := by
  refine ext_run fun input pos => ?_
  rw [hexGroups, hexGroups, count_succ_eq]
  simp only [seq, Parser.map]
  cases (terminated (hexGroup m) (char "-")).run input pos with
  | fail f => rfl
  | ok g mid =>
    simp only [Result.andThen_ok]
    cases (count (terminated (hexGroup m) (char "-")) n).run input mid with
    | fail f => rfl
    | ok gs next =>
      simp only [Result.andThen_ok, Result.map_ok]
      cases (hexGroup l).run input next <;> rfl

theorem hexGroup_run_of_refuses (h : (hexGroup n).Refuses w) :
    (hexGroup n).run w 0 = .fail (.shape 0 (Text.ofNat n ++ " hex digits"))
      ∧ ¬ IsHexGroup n (w.take n) := by
  refine ⟨?_, fun hgroup => ?_⟩
  · obtain ⟨f, hf⟩ := h
    rw [hf]
    simp only [hexGroup, takeExactly, takeBetween] at hf
    split at hf <;> cases hf
    rfl
  · have hreads : (hexGroup n).Reads (w.take n) (w.take n) (w.drop n) :=
      hexGroup_reads_iff.mpr ⟨rfl, hgroup⟩
    have hnot := not_refuses_of_reads hreads
    rw [List.take_append_drop] at hnot
    exact hnot h

/-- Groups that are not all there fail at the first fault, on the shape. -/
theorem hexGroups_run_of_refuses (h : (hexGroups n m l).Refuses w) :
    ∃ k expected, GroupFault (List.replicate n m ++ [l]) w k expected
      ∧ (hexGroups n m l).run w 0 = .fail (.shape k expected) := by
  induction n generalizing w with
  | zero =>
    rw [hexGroups_zero] at h ⊢
    obtain ⟨hrun, hgroup⟩ := hexGroup_run_of_refuses (map_refuses_iff.mp h)
    exact ⟨0, _, .digits hgroup, Result.map_eq_fail_iff.mpr hrun⟩
  | succ n ih =>
    rw [hexGroups_succ, map_refuses_iff, seq_refuses_iff, terminated_refuses_iff] at h
    rw [hexGroups_succ]
    rcases h with (hgroup | ⟨g, _, r, rfl, hg, hhyphen⟩) | ⟨v, c, r, rfl, hc, hrest⟩
    · obtain ⟨hrun, hgroup⟩ := hexGroup_run_of_refuses hgroup
      have hmissing : (terminated (hexGroup m) (char "-")).run w 0 = _ :=
        Result.map_eq_fail_iff.mpr (seq_run_of_fail hrun)
      exact ⟨0, _, .digits hgroup, Result.map_eq_fail_iff.mpr (seq_run_of_fail hmissing)⟩
    · obtain ⟨rfl, hg'⟩ := hexGroup_reads_iff.mp hg
      have hhead : r.head? ≠ some hyphen := char_refuses_iff.mp hhyphen
      have hmark : (char "-").run r 0 = .fail (.shape 0 (Text.quote "-")) := by
        rw [ofString_hyphen, char_run_zero, if_neg hhead]
      have hmissing : (terminated (hexGroup m) (char "-")).run (g ++ r) 0 = _ :=
        Result.map_eq_fail_iff.mpr (seq_run_of_reads hg hmark)
      rw [hg'.1] at hmissing
      have hfault : GroupFault (m :: (List.replicate n m ++ [l])) (g ++ r) m (Text.quote "-") :=
        .hyphen (by rwa [hg'.take_append]) (by simp) (by rwa [hg'.getElem?_append])
      exact ⟨m, _, hfault, Result.map_eq_fail_iff.mpr (seq_run_of_fail hmissing)⟩
    · obtain ⟨rfl, hg⟩ := hexGroup_hyphen_reads_iff.mp hc
      obtain ⟨k, expected, hfault, hrun⟩ := ih hrest
      have hmissing := seq_run_of_reads hc hrun
      rw [List.length_append, hg.1] at hmissing
      rw [List.append_assoc] at hmissing ⊢
      have hlater : GroupFault (m :: (List.replicate n m ++ [l])) (v ++ hyphen :: r) (m + 1 + k)
          expected :=
        .later (by rwa [hg.take_append]) (hg.getElem?_append _) (by rwa [hg.drop_append])
      exact ⟨m + 1 + k, expected, hlater, Result.map_eq_fail_iff.mpr hmissing⟩

/-- A GUID that is begun and is none fails on the domain at the first fault of its later groups. -/
theorem guid_run_of_refuses (hg : g.IsHexGroup 8) (h : guid.Refuses (g ++ hyphen :: r)) :
    ∃ k expected, GroupFault [4, 4, 4, 12] r k expected
      ∧ guid.run (g ++ hyphen :: r) 0 = .fail (.domain (9 + k) expected) := by
  have hfirst : (terminated (hexGroup 8) (char "-")).Reads g (g ++ [hyphen]) r :=
    hexGroup_hyphen_reads_iff.mpr ⟨rfl, hg⟩
  have hlater : (hexGroups 3 4 12).Refuses r := by
    refine (refuses_or_reads (hexGroups 3 4 12) r).resolve_right ?_
    rintro ⟨x, c, r, rfl, hreads⟩
    have hwhole : guid.Reads (.guid (g ++ [hyphen] ++ c)) (g ++ [hyphen] ++ c) r :=
      label_reads_iff.mpr (map_reads_iff.mpr ⟨_, rfl, recognize_reads_iff.mpr ⟨rfl, (g, x),
        seq_reads_iff.mpr ⟨g ++ [hyphen], c, rfl, hfirst, commit_reads_iff.mpr hreads⟩⟩⟩)
    exact not_refuses_of_reads hwhole (by simpa using h)
  obtain ⟨k, expected, hfault, hrun⟩ := hexGroups_run_of_refuses hlater
  have hfail := seq_run_of_reads hfirst (commit_run_of_fail hrun)
  rw [List.length_append, hg.1, List.append_assoc] at hfail
  exact ⟨k, expected, hfault,
    label_run_of_domain (Result.map_eq_fail_iff.mpr (recognize_run_of_fail hfail)) rfl⟩

/-! ## Binary literals -/

theorem length_of_lower {mark : Text} (hmark : mark.lower = "binary'") : mark.length = 7 := by
  rw [← length_lower, hmark]
  rfl

/-- Behind its mark a binary literal fails on the domain where its body fails. -/
theorem binary_run_of_body {mark : Text} {f : Failure} (hmark : mark.lower = "binary'")
    (hbody : (base64Body.tryMap checkBase64).run r 0 = .fail f) :
    binary.run (mark ++ r) 0 = .fail (.domain (7 + f.pos) f.expected) := by
  have hkeyword : (keyword "binary'").Reads mark mark r :=
    (keyword_reads_iff (by decide)).mpr ⟨rfl, hmark⟩
  have hfail := seq_run_of_reads hkeyword (commit_run_of_fail hbody)
  rw [length_of_lower hmark] at hfail
  exact label_run_of_domain (Result.map_eq_fail_iff.mpr (Result.map_eq_fail_iff.mpr hfail)) rfl

/-- The body of a binary literal that its closing apostrophe does not follow. -/
theorem base64Body_run_of_head {body rest : Text} (hbody : ∀ u ∈ body, u.isBase64Url = true)
    (hrest : StopsAt CodeUnit.isBase64Url rest) (hhead : rest.head? ≠ some apostrophe) :
    (base64Body.tryMap checkBase64).run (body ++ rest) 0
      = .fail (.shape body.length "a base64url character or closing \"'\"") := by
  have hreads : (takeWhile CharClass.base64Url).Reads body body rest :=
    (takeWhile_reads_iff CharClass.base64Url_ofSingleUnits.toOfUnits).mpr ⟨rfl, hbody, hrest⟩
  have hclose := apostrophe_run_of_head hhead
  rw [← ofString_apostrophe] at hclose
  refine tryMap_run_of_fail (Result.map_eq_fail_iff.mpr ?_)
  exact seq_run_of_reads hreads (label_run_of_fail hclose)

/-- The body of a binary literal that encodes no bytes. -/
theorem base64Body_run_of_decode {body : Text} {fault : Base64Url.Fault}
    (hbody : ∀ u ∈ body, u.isBase64Url = true) (hfault : Base64Url.decode body = .error fault)
    (rest : Text) :
    (base64Body.tryMap checkBase64).run (body ++ apostrophe :: rest) 0
      = .fail (.domain 0 fault.expected) := by
  have hreads : base64Body.Reads body (body ++ [apostrophe]) rest :=
    base64Body_reads_iff.mpr ⟨rfl, hbody⟩
  have hcheck : checkBase64 body = .error (.overall fault.expected) := by
    rw [checkBase64, hfault]
    rfl
  rw [Reads, List.append_assoc] at hreads
  exact tryMap_run_of_error hreads hcheck

/-! ## Beginnings -/

/-- Eight hexadecimal digits and a hyphen stand at a position. -/
def BeginsGuid (input : Text) (pos : Nat) : Prop :=
  IsHexGroup 8 (input.extract pos (pos + 8)) ∧ input[pos + 8]? = some hyphen

/-- The mark of binary literals stands at a position, in any case. -/
def BeginsBinary (input : Text) (pos : Nat) : Prop :=
  Text.lower (input.extract pos (pos + 7)) = "binary'"

instance (input : Text) (pos : Nat) : Decidable (BeginsGuid input pos) :=
  inferInstanceAs (Decidable (_ ∧ _))

instance (input : Text) (pos : Nat) : Decidable (BeginsBinary input pos) :=
  inferInstanceAs (Decidable (_ = _))

variable {input : Text}

/-- What begins like a GUID is one, or its later groups have a fault and the first one is to
blame. -/
theorem guid_run_of_begins (h : BeginsGuid input pos) :
    (IsGuid (input.extract pos (pos + 36))
        ∧ guid.run input pos = .ok (.guid (input.extract pos (pos + 36))) (pos + 36))
      ∨ ∃ k expected, GroupFault [4, 4, 4, 12] (input.drop (pos + 9)) k expected
          ∧ guid.run input pos = .fail (.domain (pos + 9 + k) expected) := by
  obtain ⟨hgroup, hhyphen⟩ := h
  obtain ⟨hlt, heq⟩ := List.getElem?_eq_some_iff.mp hhyphen
  have hsplit : input.drop pos
      = input.extract pos (pos + 8) ++ hyphen :: input.drop (pos + 9) := by
    rw [← extract_append_drop (Nat.le_add_right pos 8), List.drop_eq_getElem_cons hlt, heq]
  by_cases hrefuses : guid.Refuses (input.drop pos)
  · rw [hsplit] at hrefuses
    obtain ⟨k, expected, hfault, hrun⟩ := guid_run_of_refuses hgroup hrefuses
    refine .inr ⟨k, expected, hfault, ?_⟩
    rw [Plain.run_eq, hsplit, hrun, Result.shift_fail, Nat.add_assoc]
  · obtain ⟨a, stop, hrun⟩ := exists_run_eq_ok_iff.mpr hrefuses
    have hne (a : Literal) (r : Text) : ¬ guid.Reads a [] r := by
      intro hreads
      obtain ⟨-, hguid⟩ := guid_reads_iff.mp hreads
      cases hguid.length_eq
    obtain ⟨hpos, hstop, hreads⟩ := (run_eq_ok_iff_extract (hne a)).mp hrun
    obtain ⟨rfl, hguid⟩ := guid_reads_iff.mp hreads
    have hlen := hguid.length_eq
    rw [List.extract_eq_take_drop, List.length_take, List.length_drop] at hlen
    obtain rfl : stop = pos + 36 := by omega
    exact .inl ⟨hguid, hrun⟩

/-- What begins like a binary literal goes on with characters of the alphabet.  Where they stop an
apostrophe is missing, or they are the body: then it encodes bytes, or its fault is to blame at its
start. -/
theorem binary_run_of_begins {body : Text} {stop : Nat} (h : BeginsBinary input pos)
    (hbody : body = (input.drop (pos + 7)).takeWhile CodeUnit.isBase64Url)
    (hstop : stop = pos + 7 + body.length) :
    (input[stop]? ≠ some apostrophe → binary.run input pos
        = .fail (.domain stop "a base64url character or closing \"'\""))
      ∧ (input[stop]? = some apostrophe → binary.run input pos
        = match Base64Url.decode body with
          | .ok bytes => .ok (.binary bytes) (stop + 1)
          | .error fault => .fail (.domain (pos + 7) fault.expected)) := by
  have hsplit : input.extract pos (pos + 7) ++ input.drop (pos + 7) = input.drop pos :=
    extract_append_drop (Nat.le_add_right pos 7)
  obtain ⟨rest, hrest⟩ := takeWhile_isPrefix CodeUnit.isBase64Url (input.drop (pos + 7))
  rw [← hbody] at hrest
  obtain ⟨hall, hends⟩ := takeWhile_append_eq_iff.mp (hrest ▸ hbody.symm)
  have hhead : input[stop]? = rest.head? := by
    rw [hstop, ← List.head?_drop, ← List.drop_drop, ← hrest, List.drop_left]
  rw [hhead]
  refine ⟨fun hopen => ?_, fun hclosed => ?_⟩
  · have hrun := binary_run_of_body h (base64Body_run_of_head hall hends hopen)
    rw [Plain.run_eq, ← hsplit, ← hrest, hrun, Result.shift_fail, hstop, Nat.add_assoc]
  · obtain ⟨rest, rfl⟩ := List.head?_eq_some_iff.mp hclosed
    cases hdecode : Base64Url.decode body with
    | ok bytes =>
      have hreads : binary.Reads (.binary bytes)
          (input.extract pos (pos + 7) ++ (body ++ [apostrophe])) rest :=
        binary_reads_iff.mpr ⟨_, body, bytes, rfl, h, hall, hdecode, rfl⟩
      refine run_eq_ok_iff_reads.mpr ⟨_, rest, ?_, ?_, hreads⟩
      · rw [← hsplit, ← hrest]
        simp
      · simp only [List.length_append, length_of_lower h, List.length_singleton]
        omega
    | error fault =>
      have hrun := binary_run_of_body h (base64Body_run_of_decode hall hdecode rest)
      rw [Plain.run_eq, ← hsplit, ← hrest, hrun, Result.shift_fail]
      rfl

theorem kind_of_begins_guid {f : Failure} (h : BeginsGuid input pos)
    (hf : guid.run input pos = .fail f) : f.kind = .domain := by
  rcases guid_run_of_begins h with ⟨-, hok⟩ | ⟨k, expected, -, hfail⟩
  · cases hf.symm.trans hok
  · cases hf.symm.trans hfail
    rfl

theorem kind_of_begins_binary {f : Failure} (h : BeginsBinary input pos)
    (hf : binary.run input pos = .fail f) : f.kind = .domain := by
  obtain ⟨hopen, hclosed⟩ := binary_run_of_begins h rfl rfl
  by_cases hhead : input[pos + 7 + ((input.drop (pos + 7)).takeWhile CodeUnit.isBase64Url).length]?
      = some apostrophe
  · have hrun := hf.symm.trans (hclosed hhead)
    split at hrun
    · cases hrun
    · cases hrun
      rfl
  · cases hf.symm.trans (hopen hhead)
    rfl

end Grammar

/-! ## Errors of whole texts -/

/-- **If one of the alternatives does not fail on the shape, the error is none of the shape.** -/
theorem Alternatives.kind_ne_shape {α : Type} {alternatives : Alternatives α} {x : Alternative α}
    {input : Text} {e : ParseError} (hx : x ∈ alternatives)
    (hdomain : ∀ f, x.parser.run input 0 = .fail f → f.kind = .domain)
    (herror : alternatives.parseComplete input = .error e) : e.kind ≠ .failed .shape := by
  have hselects := selects_parseComplete alternatives input
  rw [herror] at hselects
  cases hselects with
  | domain => simp
  | trailingInput => simp
  | shape hall hshape =>
    -- all alternatives have failed, this one as well
    obtain ⟨a, ha, hrun⟩ := hall.exists_mem_failures hx
    cases (hshape a ha).symm.trans (hdomain _ hrun)
  | nothing hlist =>
    rw [hlist] at hx
    cases hx

open Grammar Text

/-- **GUIDs and binary literals are committed by how they begin.**  Behind eight hexadecimal digits
and a hyphen there is a GUID, or a failure on the domain at the first thing that its later groups
lack.  Behind `binary'` the characters of the alphabet end at an apostrophe, or it is missing there;
what they are does encode bytes, or the failure stands at their start and expects what the decoder
does.  So no text that begins in one of these ways is rejected for its shape. -/
theorem committed_literals :
    (∀ input pos, BeginsGuid input pos →
        (IsGuid (input.extract pos (pos + 36))
            ∧ guid.run input pos = .ok (.guid (input.extract pos (pos + 36))) (pos + 36))
          ∨ ∃ k expected, GroupFault [4, 4, 4, 12] (input.drop (pos + 9)) k expected
              ∧ guid.run input pos = .fail (.domain (pos + 9 + k) expected))
      ∧ (∀ input pos body stop, BeginsBinary input pos →
          body = (input.drop (pos + 7)).takeWhile CodeUnit.isBase64Url →
          stop = pos + 7 + body.length →
          (input[stop]? ≠ some apostrophe → binary.run input pos
              = .fail (.domain stop "a base64url character or closing \"'\""))
            ∧ (input[stop]? = some apostrophe → binary.run input pos
              = match Base64Url.decode body with
                | .ok bytes => .ok (.binary bytes) (stop + 1)
                | .error fault => .fail (.domain (pos + 7) fault.expected)))
      ∧ ∀ options text e, BeginsGuid text 0 ∨ BeginsBinary text 0 →
          parseLiteral options text = .error e → e.kind ≠ .failed .shape := by
  refine ⟨fun _ _ => guid_run_of_begins, fun _ _ _ _ => binary_run_of_begins, ?_⟩
  rintro options text e (hbegins | hbegins) herror
  · have hmem : ⟨"guid", guid⟩ ∈ literalAlternatives options := by simp [literalAlternatives]
    exact Alternatives.kind_ne_shape hmem (fun f => kind_of_begins_guid hbegins) herror
  · have hmem : ⟨"binary", binary⟩ ∈ literalAlternatives options := by simp [literalAlternatives]
    exact Alternatives.kind_ne_shape hmem (fun f => kind_of_begins_binary hbegins) herror

/-- The third group of the first text has a letter that is no digit.  The body of the second ends at
a blank, and that of the third encodes no bytes.  None of these texts is rejected for its shape. -/
theorem committed_literals_instances :
    guid.run "id=01234567-89ab-cdeg-0123-456789abcdef" 3 = .fail (.domain 17 "4 hex digits")
      ∧ binary.run "BINARY'QQ '" 0
        = .fail (.domain 9 "a base64url character or closing \"'\"")
      ∧ binary.run "binary'Q'" 0 = .fail (.domain 7 "base64url data of a valid length")
      ∧ ∃ e, parseLiteral ⟨false⟩ "binary'Q'" = .error e ∧ e.kind ≠ .failed .shape := by
  obtain ⟨hguid, hbinary, hkind⟩ := committed_literals
  have hbegins : BeginsBinary "binary'Q'" 0 := by decide
  refine ⟨?_, ?_, ?_, ?_⟩
  · have hfault : GroupFault [4, 4, 4, 12] "89ab-cdeg-0123-456789abcdef" 5 "4 hex digits" :=
      .later (by decide) (by decide) (.digits (by decide))
    rcases hguid "id=01234567-89ab-cdeg-0123-456789abcdef" 3 (by decide) with
      ⟨-, hok⟩ | ⟨k, expected, hfault', hfail⟩
    · cases hok
    · obtain ⟨rfl, rfl⟩ := hfault.unique hfault'
      exact hfail
  · exact (hbinary "BINARY'QQ '" 0 "QQ" 9 (by decide) (by decide) (by decide)).1 (by decide)
  · exact (hbinary "binary'Q'" 0 "Q" 8 hbegins (by decide) (by decide)).2 (by decide)
  · obtain ⟨e, he⟩ : ∃ e, parseLiteral ⟨false⟩ "binary'Q'" = .error e := ⟨_, rfl⟩
    exact ⟨e, he, hkind ⟨false⟩ _ e (.inr hbegins) he⟩

end ODataToken
