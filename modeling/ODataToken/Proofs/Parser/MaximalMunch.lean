import ODataToken.Proofs.Parser.Plain
import ODataToken.Proofs.Text.CodePoints

/-!
# Runs of characters are taken whole and counted by code points

A run of characters has two reasons to stop, the limit and the first code point outside the class,
and it counts in other units than it moves in: a code point moves it by one unit or by two.
`takeBetween_run_spec` says where it stops.  With `r` the number of leading code points of the
class, it takes `min r most` of them, if these are enough, and its value is the part of the input
that they make up.

That the count is right needs no look at the surrogates.  That the parser does not come to stand
between two of them does: behind a code point there is never the second half of a pair
(`Text.not_splitsPair_of_firstCodePoint?`), whatever the place where reading began.
-/

set_option autoImplicit false

namespace ODataToken

namespace Text

variable {t c : Text} {pos : Nat} {before after : List Text}

/-! ## Positions inside a surrogate pair -/

/-- A code point ends behind the second half of a pair, or in front of no second half. -/
theorem not_splitsPair_of_firstCodePoint? (h : firstCodePoint? (t.drop pos) = some c) :
    ¬ t.SplitsPair (pos + c.length) := by
  rintro ⟨-, ⟨high, hbefore, hhigh⟩, low, hbehind, hlow⟩
  have hunit (j : Nat) : (t.drop pos)[j]? = t[pos + j]? := List.getElem?_drop
  unfold firstCodePoint? at h
  split at h
  · cases h
  · rename_i u hdrop
    obtain rfl := Option.some.inj h
    have hnone := hunit 1
    rw [hdrop] at hnone
    cases hnone.trans hbehind
  · rename_i u v rest hdrop
    rw [hdrop] at hunit
    split at h
    · rename_i huv
      obtain rfl := Option.some.inj h
      obtain rfl : v = high := Option.some.inj ((hunit 1).trans hbefore)
      rw [Bool.and_eq_true] at huv
      rw [isHighSurrogate_of_isLowSurrogate huv.2] at hhigh
      cases hhigh
    · rename_i huv
      obtain rfl := Option.some.inj h
      obtain rfl : u = high := Option.some.inj ((hunit 0).trans hbefore)
      obtain rfl : v = low := Option.some.inj ((hunit 1).trans hbehind)
      exact huv (by rw [hhigh, hlow]; rfl)

/-! ## Behind some of the code points -/

/-- Some leading code points stand in front of the others. -/
theorem drop_eq_of_codePoints (h : codePoints (t.drop pos) = before ++ after) :
    List.drop pos t = before.flatten ++ after.flatten := by
  rw [← List.flatten_append, ← h, flatten_codePoints]

theorem codePoints_drop (h : codePoints (t.drop pos) = before ++ after) :
    codePoints (t.drop (pos + before.flatten.length)) = after := by
  rw [← List.drop_drop, drop_eq_of_codePoints h, List.drop_left]
  exact (codePoints_flatten_of_eq_append h).2

theorem extract_of_codePoints (h : codePoints (t.drop pos) = before ++ after) :
    t.extract pos (pos + before.flatten.length) = before.flatten := by
  rw [List.extract_eq_take_drop, drop_eq_of_codePoints h, Nat.add_sub_cancel_left, List.take_left]

/-- Some leading code points end inside the input. -/
theorem length_le_of_codePoints (h : codePoints (t.drop pos) = before ++ after)
    (hpos : pos ≤ t.length) : pos + before.flatten.length ≤ t.length := by
  have hdrop := congrArg List.length (drop_eq_of_codePoints h)
  rw [List.length_drop, List.length_append] at hdrop
  omega

/-- **Reading whole code points never stops inside a pair,** unless it began there and read none. -/
theorem not_splitsPair_of_codePoints (h : codePoints (t.drop pos) = before ++ after)
    (hpos : ¬ t.SplitsPair pos) : ¬ t.SplitsPair (pos + before.flatten.length) := by
  rcases List.eq_nil_or_concat before with rfl | ⟨start, c, rfl⟩
  · simpa using hpos
  · rw [List.concat_eq_append, List.append_assoc] at h
    have hlast := codePoints_drop h
    have hfirst : firstCodePoint? (t.drop (pos + start.flatten.length)) = some c := by
      rw [← head?_codePoints, hlast]
      rfl
    have hend := not_splitsPair_of_firstCodePoint? hfirst
    simpa [Nat.add_assoc] using hend

/-- Behind all the leading code points of a class there is none of the class. -/
theorem not_accepts_of_firstCodePoint? {accepts : Text → Bool}
    (h : firstCodePoint?
        (t.drop (pos + ((codePoints (t.drop pos)).takeWhile accepts).flatten.length))
      = some c) : accepts c = false := by
  have hcut : codePoints (t.drop pos) = (codePoints (t.drop pos)).takeWhile accepts
      ++ (codePoints (t.drop pos)).dropWhile accepts := List.takeWhile_append_dropWhile.symm
  rw [← head?_codePoints, codePoints_drop hcut] at h
  have hhead := List.head?_dropWhile_not accepts (codePoints (t.drop pos))
  rwa [h] at hhead

/-- Leading code points of a class, as many as there are or as the limit allows. -/
theorem takeCodePoints_eq_take (accepts : Text → Bool) (most : Option Nat) (t : Text) :
    t.takeCodePoints accepts most
      = (t.codePoints.takeWhile accepts).take
          (most.elim (t.codePoints.takeWhile accepts).length
            (min (t.codePoints.takeWhile accepts).length)) := by
  cases most with
  | none => rw [takeCodePoints_none, Option.elim_none, List.take_length]
  | some n =>
    rw [takeCodePoints_some, Option.elim_some, Nat.min_comm, ← List.take_take, List.take_length]

end Text

namespace Parser

open Text

/-! ## Where a run stops -/

variable {accepts : CharClass} {least : Nat} {most : Option Nat} {expected input : Text} {pos : Nat}

theorem takeBetween_run_of_le (h : least ≤ (takeCodePoints accepts most (input.drop pos)).length) :
    (takeBetween accepts least most expected).run input pos
      = .ok (takeCodePoints accepts most (input.drop pos)).flatten
          (pos + (takeCodePoints accepts most (input.drop pos)).flatten.length) := by
  simp only [takeBetween, Nat.not_lt.mpr h, if_false]

theorem takeBetween_run_of_lt (h : (takeCodePoints accepts most (input.drop pos)).length < least) :
    (takeBetween accepts least most expected).run input pos = .fail (.shape pos expected) := by
  simp only [takeBetween, h, if_true]

/-- **Runs of characters are taken whole, up to the limit.**  Of the leading code points of the
class as many are taken as the limit allows.  If these are enough, the value is the part of the
input that they make up, the parser stops behind them, and the limit is reached or no further code
point of the class follows; else the parser fails where it started.  A parser that starts outside a
surrogate pair stops outside one. -/
theorem takeBetween_run_spec (accepts : CharClass) (least : Nat) (most : Option Nat)
    (expected input : Text) (pos : Nat) (hpos : pos ≤ input.length) :
    let leading := (codePoints (input.drop pos)).takeWhile accepts
    let n := most.elim leading.length (min leading.length)
    let stop := pos + (leading.take n).flatten.length
    ((∃ value stop, (takeBetween accepts least most expected).run input pos = .ok value stop)
        ↔ least ≤ n)
      ∧ (least ≤ n → (takeBetween accepts least most expected).run input pos
          = .ok (input.extract pos stop) stop)
      ∧ (n < least → (takeBetween accepts least most expected).run input pos
          = .fail (.shape pos expected))
      ∧ (leading.take n).length = n ∧ input.extract pos stop = (leading.take n).flatten
      ∧ stop ≤ input.length
      ∧ (most = some n ∨ ∀ c, firstCodePoint? (input.drop stop) = some c → accepts c = false)
      ∧ (¬ input.SplitsPair pos → ¬ input.SplitsPair stop) := by
  intro leading n stop
  have htaken : takeCodePoints accepts most (input.drop pos) = leading.take n :=
    takeCodePoints_eq_take accepts most _
  have hn : n ≤ leading.length := by
    cases most with
    | none => exact Nat.le_refl _
    | some m => exact Nat.min_le_left _ _
  have hlength : (leading.take n).length = n := by rw [List.length_take, Nat.min_eq_left hn]
  have hcut : codePoints (input.drop pos)
      = leading.take n ++ (leading.drop n ++ (codePoints (input.drop pos)).dropWhile accepts) := by
    rw [← List.append_assoc, List.take_append_drop, List.takeWhile_append_dropWhile]
  have hextract : input.extract pos stop = (leading.take n).flatten := extract_of_codePoints hcut
  have hok (h : least ≤ n) : (takeBetween accepts least most expected).run input pos
      = .ok (input.extract pos stop) stop := by
    rw [takeBetween_run_of_le (by rwa [htaken, hlength]), htaken, hextract]
  have hfail (h : n < least) : (takeBetween accepts least most expected).run input pos
      = .fail (.shape pos expected) := takeBetween_run_of_lt (by rwa [htaken, hlength])
  refine ⟨⟨fun ⟨value, last, hrun⟩ => ?_, fun h => ⟨_, _, hok h⟩⟩, hok, hfail, hlength, hextract,
    length_le_of_codePoints hcut hpos, ?_, not_splitsPair_of_codePoints hcut⟩
  · by_contra hlt
    cases (hfail (Nat.lt_of_not_le hlt)).symm.trans hrun
  -- Either the limit cut the leading code points short, or all of them were taken.
  · rcases hn.lt_or_eq with hshort | hall
    · cases most with
      | none => exact absurd hshort (Nat.lt_irrefl _)
      | some m =>
        have hm : n = min leading.length m := rfl
        exact .inl (congrArg some (by omega))
    · refine .inr fun c hc => ?_
      have hbehind : firstCodePoint? (input.drop (pos + leading.flatten.length)) = some c := by
        simpa only [stop, hall, List.take_length] using hc
      exact not_accepts_of_firstCodePoint? hbehind

/-- Two of three code points are taken, one of them a surrogate pair, and of one code point too few
none is. -/
theorem takeBetween_run_spec_pair :
    (takeBetween (fun c => c != ",") 1 (some 2) "no comma").run "a😀bc,d" 1 = .ok "😀b" 4
      ∧ ¬ Text.SplitsPair "a😀bc,d" 1 ∧ Text.SplitsPair "a😀bc,d" 2 ∧ ¬ Text.SplitsPair "a😀bc,d" 4
      ∧ (takeBetween (fun c => c != ",") 2 none "no comma").run "a😀,d" 1
          = .fail (.shape 1 "no comma") := by
  have hstart : ¬ Text.SplitsPair "a😀bc,d" 1 := by decide
  obtain ⟨-, hok, -, -, -, -, -, hwhole⟩ :=
    takeBetween_run_spec (fun c => c != ",") 1 (some 2) "no comma" "a😀bc,d" 1 (by decide)
  obtain ⟨-, -, hfail, -⟩ :=
    takeBetween_run_spec (fun c => c != ",") 2 none "no comma" "a😀,d" 1 (by decide)
  exact ⟨hok (by decide), hstart, by decide, hwhole hstart, hfail (by decide)⟩

end Parser
end ODataToken
