import Mathlib.Data.Prod.Lex
import ODataToken.Parser.Error

/-!
# Locations say where an error is

The location of a position comes from a walk over the units before it, with two counters of which a
line feed sets one back.  `ofPos_of_split` says what the counters come to, whatever the number of
lines: the line is told by the line feeds before the position, and the column by the units behind
the last of them.

From that a position can be read off its location again (`toPos_ofPos`), so no two positions of an
input share one, and later positions have later locations, line before column
(`key_ofPos_lt_key_ofPos`).  Positions behind the end of the input have the location of the end.
-/

set_option autoImplicit false

namespace ODataToken

namespace CodeUnit

/-- The code unit that begins a new line. -/
abbrev lineFeed : CodeUnit := ofChar '\n'

end CodeUnit

open CodeUnit (lineFeed)

namespace Location

variable {input t head tail : Text} {pos pos' : Nat} {l : Location} {u : CodeUnit}

/-! ## What the walk comes to -/

/-- Units that begin no new line are counted in the column. -/
theorem foldl_advance_of_not_mem (h : lineFeed ∉ t) :
    t.foldl advance l = ⟨l.line, l.column + t.length⟩ := by
  induction t generalizing l with
  | nil => rfl
  | cons u t ih =>
    obtain ⟨hu, ht⟩ := not_or.mp (mt List.mem_cons.mpr h)
    rw [List.foldl_cons, ih ht, advance, if_neg (Ne.symm hu), List.length_cons]
    simp only [Location.mk.injEq, true_and]
    omega

/-- Line feeds are counted in the line. -/
theorem line_foldl_advance : (t.foldl advance l).line = l.line + t.count lineFeed := by
  induction t generalizing l with
  | nil => rfl
  | cons u t ih =>
    rw [List.foldl_cons, ih, List.count_cons, advance]
    by_cases hu : u = lineFeed
    · simp only [hu, if_true, beq_self_eq_true]
      omega
    · simp only [hu, if_false, beq_iff_eq, Nat.add_zero]

theorem ofPos_of_not_mem (h : lineFeed ∉ input.take pos) :
    ofPos input pos = ⟨1, (input.take pos).length + 1⟩ := by
  rw [ofPos, foldl_advance_of_not_mem h, start, Nat.add_comm]

theorem ofPos_of_split (h : input.take pos = head ++ lineFeed :: tail) (htail : lineFeed ∉ tail) :
    ofPos input pos = ⟨(input.take pos).count lineFeed + 1, tail.length + 1⟩ := by
  rw [ofPos, h, List.foldl_append, List.foldl_cons, foldl_advance_of_not_mem htail, advance,
    if_pos rfl, line_foldl_advance, List.count_append, List.count_cons_self,
    List.count_eq_zero_of_not_mem htail, start]
  simp only [Location.mk.injEq]
  omega

/-- A text with a line feed has a last one. -/
theorem exists_split_of_mem (h : lineFeed ∈ t) :
    ∃ head tail, t = head ++ lineFeed :: tail ∧ lineFeed ∉ tail := by
  obtain ⟨after, before, hsplit, hafter⟩ := List.eq_append_cons_of_mem (List.mem_reverse.mpr h)
  refine ⟨before.reverse, after.reverse, ?_, by simpa using hafter⟩
  simpa using congrArg List.reverse hsplit

theorem line_ofPos : (ofPos input pos).line = (input.take pos).count lineFeed + 1 := by
  rw [ofPos, line_foldl_advance, start, Nat.add_comm]

/-! ## Back to the position -/

/-- Where the line begins in front of which there are `k` line feeds. -/
def lineStart : Text → Nat → Nat
  | _, 0 => 0
  | [], _ + 1 => 0
  | u :: rest, k + 1 => lineStart rest (if u = lineFeed then k else k + 1) + 1

/-- The position with this location, if there is one. -/
def toPos (input : Text) (l : Location) : Nat := lineStart input (l.line - 1) + (l.column - 1)

/-- A line begins behind the line feed before it. -/
theorem lineStart_split :
    lineStart (head ++ lineFeed :: tail) (head.count lineFeed + 1) = head.length + 1 := by
  induction head with
  | nil => simp [lineStart]
  | cons u head ih =>
    rw [List.cons_append, lineStart, List.count_cons, List.length_cons]
    by_cases hu : u = lineFeed
    · simp only [hu, if_true, beq_self_eq_true, ih]
    · simp only [hu, if_false, beq_iff_eq, Nat.add_zero, ih]

/-- **A position can be recovered from its location.** -/
theorem toPos_ofPos (h : pos ≤ input.length) : toPos input (ofPos input pos) = pos := by
  have hlength : (input.take pos).length = pos := List.length_take_of_le h
  by_cases hmem : lineFeed ∈ input.take pos
  · obtain ⟨head, tail, hsplit, htail⟩ := exists_split_of_mem hmem
    have hinput : input = head ++ lineFeed :: (tail ++ input.drop pos) := by
      conv_lhs => rw [← List.take_append_drop pos input, hsplit]
      simp
    have hcount : (input.take pos).count lineFeed = head.count lineFeed + 1 := by
      rw [hsplit, List.count_append, List.count_cons_self, List.count_eq_zero_of_not_mem htail]
    have hstart : lineStart input (head.count lineFeed + 1) = head.length + 1 := by
      conv_lhs => rw [hinput]
      exact lineStart_split
    rw [hsplit, List.length_append, List.length_cons] at hlength
    rw [ofPos_of_split hsplit htail, toPos, hcount]
    simp only [Nat.add_sub_cancel, hstart]
    omega
  · rw [ofPos_of_not_mem hmem, toPos, hlength]
    simp [lineStart]

/-! ## The order of locations -/

/-- Locations are ordered by line, and in one line by column. -/
def key (l : Location) : ℕ ×ₗ ℕ := toLex (l.line, l.column)

/-- Every unit moves the location on. -/
theorem key_lt_key_advance (l : Location) (u : CodeUnit) : l.key < (l.advance u).key := by
  rw [key, key, Prod.Lex.toLex_lt_toLex, advance]
  split
  · exact .inl (Nat.lt_succ_self _)
  · exact .inr ⟨rfl, Nat.lt_succ_self _⟩

theorem ofPos_succ (h : input[pos]? = some u) :
    ofPos input (pos + 1) = (ofPos input pos).advance u := by
  rw [ofPos, ofPos, List.take_add_one, h, List.foldl_append]
  rfl

/-- **Later positions have later locations.** -/
theorem key_ofPos_lt_key_ofPos (hlt : pos < pos') (hle : pos' ≤ input.length) :
    (ofPos input pos).key < (ofPos input pos').key := by
  induction pos', hlt using Nat.le_induction with
  | base =>
    rw [ofPos_succ (List.getElem?_eq_getElem hle)]
    exact key_lt_key_advance _ _
  | succ pos' _ ih =>
    rw [ofPos_succ (List.getElem?_eq_getElem hle)]
    exact (ih (Nat.le_of_succ_le hle)).trans (key_lt_key_advance _ _)

end Location

/-! ## The location of an error -/

/-- **Errors are located faithfully.**  With `c` the position of the error, or the end of the input
if that comes first, the line is one more than the line feeds before `c`, and the column one more
than the units behind the last of them, or than `c` if there is none.  Inside the input the position
can be recovered from the input and the location, so errors at different positions have different
locations, and of two errors the later one has the later location. -/
theorem ParseError.location_spec (e : ParseError) :
    e.location.line = (e.input.take (min e.pos e.input.length)).count lineFeed + 1
      ∧ (∀ head tail, e.input.take (min e.pos e.input.length) = head ++ lineFeed :: tail →
          lineFeed ∉ tail → e.location.column = tail.length + 1)
      ∧ (lineFeed ∉ e.input.take (min e.pos e.input.length) →
          e.location.column = min e.pos e.input.length + 1)
      ∧ (e.pos ≤ e.input.length → Location.toPos e.input e.location = e.pos)
      ∧ (∀ e' : ParseError, e'.input = e.input → e.pos ≤ e.input.length →
          e'.pos ≤ e.input.length → e'.location = e.location → e'.pos = e.pos)
      ∧ ∀ e' : ParseError, e'.input = e.input → e.pos < e'.pos → e'.pos ≤ e.input.length →
          e.location.key < e'.location.key := by
  have htake : e.input.take (min e.pos e.input.length) = e.input.take e.pos := by
    rw [← List.take_take, List.take_length]
  rw [htake]
  refine ⟨Location.line_ofPos, fun head tail hsplit htail => ?_, fun hmem => ?_,
    Location.toPos_ofPos, fun e' hinput hpos hpos' hloc => ?_, fun e' hinput hlt hle => ?_⟩
  · rw [location, Location.ofPos_of_split hsplit htail]
  · rw [location, Location.ofPos_of_not_mem hmem, List.length_take]
  · have hback := Location.toPos_ofPos hpos
    have hback' := Location.toPos_ofPos (hinput ▸ hpos' : e'.pos ≤ e'.input.length)
    have hsame : Location.ofPos e'.input e'.pos = Location.ofPos e.input e.pos := hloc
    rw [hsame, hinput, hback] at hback'
    exact hback'.symm
  · rw [location, location, hinput]
    exact Location.key_ofPos_lt_key_ofPos hlt hle

/-- An error in the second of four lines, and one at the beginning of the third. -/
theorem ParseError.location_spec_lines :
    (ParseError.mk .trailingInput "ab\ncd\n\ne" 4 "x" none).location = ⟨2, 2⟩
      ∧ Location.toPos "ab\ncd\n\ne" ⟨2, 2⟩ = 4
      ∧ (ParseError.mk (.failed .shape) "ab\ncd\n\ne" 6 "y" none).location = ⟨3, 1⟩
      ∧ Location.key ⟨2, 2⟩ < Location.key ⟨3, 1⟩ := by
  obtain ⟨hline, hcolumn, -, hback, -, hlater⟩ :=
    ParseError.location_spec ⟨.trailingInput, "ab\ncd\n\ne", 4, "x", none⟩
  have hlocation : (ParseError.mk .trailingInput "ab\ncd\n\ne" 4 "x" none).location = ⟨2, 2⟩ :=
    congrArg₂ Location.mk hline (hcolumn "ab" "c" (by decide) (by decide))
  have hthird : (ParseError.mk (.failed .shape) "ab\ncd\n\ne" 6 "y" none).location = ⟨3, 1⟩ := by
    decide
  have hposition := hback (by decide)
  have hkey := hlater ⟨.failed .shape, "ab\ncd\n\ne", 6, "y", none⟩ rfl (by decide) (by decide)
  rw [hlocation] at hposition hkey
  rw [hthird] at hkey
  exact ⟨hlocation, hposition, hthird, hkey⟩

end ODataToken
