import ODataToken.Proofs.Grammar.Failures

/-!
# Strings are read exactly from their quoted form

What stands between the apostrophes of a string is read in rounds that never go back: a doubled
apostrophe, or a run of everything else.  So a run of apostrophes is paired off from the left, and
whether it has an odd or an even number of them decides where the string ends, or that it does not
end at all.

`Text.QuotedAt` describes the outcome without the rounds: the quoted form of a text stands at a
position, and no further apostrophe follows.  A string is read there, and only there
(`quotedString_decodes`).
-/

set_option autoImplicit false

namespace ODataToken

open CodeUnit (apostrophe)

/-- Between the two positions stands `s` with its apostrophes doubled, between apostrophes, and no
further apostrophe follows. -/
structure Text.QuotedAt (input : Text) (pos stop : Nat) (s : Text) : Prop where
  stop_le : stop ≤ input.length
  extract_eq : input.extract pos stop = apostrophe :: (s.doubleApostrophes ++ [apostrophe])
  free : input[stop]? ≠ some apostrophe

namespace Grammar

open ODataToken.Parser

variable {input s s' : Text} {pos stop stop' : Nat}

theorem quotedString_run_eq_ok_iff :
    quotedString.run input pos = .ok s stop ↔ input.QuotedAt pos stop s := by
  have hne (r : Text) : ¬ quotedString.Reads s [] r := by
    rw [quotedString_reads_iff, apostropheQuoted_eq]
    simp
  rw [run_eq_ok_iff_extract hne, quotedString_reads_iff, apostropheQuoted_eq, List.head?_drop]
  constructor
  · rintro ⟨-, hstop, hextract, hfree⟩
    exact ⟨hstop, hextract, hfree⟩
  · rintro ⟨hstop, hextract, hfree⟩
    have hpos : pos ≤ stop := by
      have hlen := congrArg List.length hextract
      rw [List.extract_eq_take_drop, List.length_take, List.length_cons] at hlen
      omega
    exact ⟨hpos, hstop, hextract, hfree⟩

/-- A text has one quoted form at a position at most. -/
theorem quotedAt_unique (h : input.QuotedAt pos stop s) (h' : input.QuotedAt pos stop' s') :
    s = s' ∧ stop = stop' := by
  rw [← quotedString_run_eq_ok_iff] at h h'
  rw [h, Result.ok.injEq] at h'
  exact h'

/-- Where no quoted form stands, the opening apostrophe is missing, or the closing one is. -/
theorem quotedString_run_of_not_quotedAt (h : ¬ ∃ s stop, input.QuotedAt pos stop s) :
    quotedString.run input pos
      = .fail (.shape (if input[pos]? = some apostrophe then input.length else pos)
          (Text.quote "'")) := by
  have hrefuses : quotedString.Refuses (input.drop pos) := by
    by_contra hreads
    obtain ⟨s, stop, hrun⟩ := exists_run_eq_ok_iff.mpr hreads
    exact h ⟨s, stop, quotedString_run_eq_ok_iff.mp hrun⟩
  rw [Plain.run_eq]
  by_cases hopen : input[pos]? = some apostrophe
  · obtain ⟨hlt, heq⟩ := List.getElem?_eq_some_iff.mp hopen
    have hdrop : input.drop pos = apostrophe :: input.drop (pos + 1) := by
      rw [List.drop_eq_getElem_cons hlt, heq]
    have hlen : pos + ((input.drop (pos + 1)).length + 1) = input.length := by
      rw [List.length_drop]
      omega
    rw [hdrop] at hrefuses ⊢
    rw [quotedString_run_of_refuses hrefuses, if_pos hopen, Result.shift_fail, hlen,
      Text.ofString_apostrophe]
  · have hhead : (input.drop pos).head? ≠ some apostrophe := by rwa [List.head?_drop]
    rw [quotedString_run_of_head hhead, if_neg hopen, Result.shift_fail, Nat.add_zero,
      Text.ofString_apostrophe]

/-- **A string is read exactly where its quoted form stands, and as far as that goes.**  It is the
only one whose quoted form stands there.  Where there is none, the closing apostrophe is missing at
the end of the input if there is an opening one, and else the opening one is missing. -/
theorem quotedString_decodes (input : Text) (pos : Nat) :
    (∀ s stop, quotedString.run input pos = .ok s stop ↔ input.QuotedAt pos stop s)
      ∧ (∀ s s' stop stop', input.QuotedAt pos stop s → input.QuotedAt pos stop' s' →
          s = s' ∧ stop = stop')
      ∧ ((¬ ∃ s stop, input.QuotedAt pos stop s) →
          quotedString.run input pos
            = .fail (.shape (if input[pos]? = some apostrophe then input.length else pos)
                (Text.quote "'"))) :=
  ⟨fun _ _ => quotedString_run_eq_ok_iff, fun _ _ _ _ => quotedAt_unique,
    quotedString_run_of_not_quotedAt⟩

/-- The last of three apostrophes closes the string, and of two there is none that would. -/
theorem quotedString_decodes_parity :
    Text.QuotedAt "eq 'O''Neil''' or" 3 14 "O'Neil'"
      ∧ quotedString.run "eq 'O''Neil''' or" 3 = .ok "O'Neil'" 14
      ∧ (¬ ∃ s stop, Text.QuotedAt "eq 'O''Neil'' or" 3 stop s)
      ∧ quotedString.run "eq 'O''Neil'' or" 3 = .fail (.shape 16 (Text.quote "'")) := by
  obtain ⟨hiff, -, -⟩ := quotedString_decodes "eq 'O''Neil''' or" 3
  obtain ⟨hopen, -, hfail⟩ := quotedString_decodes "eq 'O''Neil'' or" 3
  have hquoted : Text.QuotedAt "eq 'O''Neil''' or" 3 14 "O'Neil'" :=
    ⟨by decide, by decide, by decide⟩
  have hnone : ¬ ∃ s stop, Text.QuotedAt "eq 'O''Neil'' or" 3 stop s := by
    have hrun : quotedString.run "eq 'O''Neil'' or" 3 = .fail (.shape 16 (Text.quote "'")) := by
      decide +kernel
    rintro ⟨s, stop, h⟩
    rw [(hopen s stop).mpr h] at hrun
    cases hrun
  exact ⟨hquoted, (hiff _ _).mpr hquoted, hnone, hfail hnone⟩

end Grammar
end ODataToken
