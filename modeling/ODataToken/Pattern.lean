import ODataToken.Text.Basic

/-!
# Regular expressions and patterns

What a parser can be given to match at a position.

## What is here

* `Regex` is a regular expression as an engine runs it: a function that says where the match ends
  that is preferred from a start.  Nothing is known of it but that a match lies between its start
  and the end of the input, so it stands for every expression, with look-ahead, look-behind and
  back-references.  `Regex.exec?` is the match at a position.  An expression that takes the input as
  code points **starts one unit early when the position is inside a surrogate pair**
  (`Regex.startOf`); one that takes it as units starts at the position.
* `Pattern` is a small language of regular expressions over code units: classes, greedy runs of a
  class, sequence, ordered choice, an optional part and the start of a line.  `Pattern.ends` lists
  the positions at which a pattern can end, the preferred one first: a run prefers to be long, a
  choice its left side, an optional part to be there.  The first of them is the match, as for a
  matcher that backtracks.
* `Pattern.source` writes a pattern in the usual notation, and `Pattern.regex` is the expression
  that it is.

The grammars need the one pattern of decimal numbers.  Flags other than the one for code points are
part of the function: what they change is where a match ends.
-/

set_option autoImplicit false

namespace ODataToken

/-! ## Regular expressions -/

/-- A regular expression, as far as an engine shows what it is. -/
structure Regex where
  /-- The expression in the usual notation. -/
  source : Text
  /-- The input is taken as code points. -/
  unicode : Bool
  /-- Where the preferred one of the matches ends that start at a position. -/
  matchEnd? : Text → Nat → Option Nat
  within : ∀ {input start stop}, start ≤ input.length → matchEnd? input start = some stop →
    start ≤ stop ∧ stop ≤ input.length

namespace Regex

variable (r : Regex)

/-- Where a match at `pos` starts: in front of a surrogate pair that `pos` splits, if the input is
taken as code points. -/
def startOf (input : Text) (pos : Nat) : Nat :=
  if r.unicode = true ∧ input.SplitsPair pos then pos - 1 else pos

/-- The text that is matched at a position.  Nothing matches beyond the end of the input. -/
def exec? (input : Text) (pos : Nat) : Option Text :=
  if pos ≤ input.length then
    (r.matchEnd? input (r.startOf input pos)).map fun stop =>
      input.extract (r.startOf input pos) stop
  else none

end Regex

/-! ## Classes of code units -/

/-- A class of code units: one unit, or the units of some closed ranges. -/
inductive UnitClass where
  | one (u : CodeUnit)
  | ranges (items : List (CodeUnit × CodeUnit))
  deriving DecidableEq, Repr

namespace UnitClass

/-- Is the unit in the class? -/
def mem (u : CodeUnit) : UnitClass → Bool
  | one v => u == v
  | ranges items => items.any fun (first, last) => first ≤ u && u ≤ last

/-- The ASCII letter of the other case; every other unit is left as it is. -/
def otherCase (u : CodeUnit) : CodeUnit :=
  if 0x41 ≤ u && u ≤ 0x5A then u + 0x20
  else if 0x61 ≤ u && u ≤ 0x7A then u - 0x20
  else u

/-- Is the unit in the class, or its other case if case is ignored? -/
def accepts (ignoreCase : Bool) (c : UnitClass) (u : CodeUnit) : Bool :=
  c.mem u || (ignoreCase && c.mem (otherCase u))

/-- The units that stand for something else in a pattern and are written after a backslash. -/
def special : Text := "\\^$.|?*+()[]/\x7b\x7d"

/-- A class in the usual notation. -/
def source : UnitClass → Text
  | one u => if special.contains u then "\\" ++ [u] else [u]
  | ranges items =>
    let item := fun (r : CodeUnit × CodeUnit) => if r.1 = r.2 then [r.1] else r.1 :: "-" ++ [r.2]
    "[" ++ items.flatMap item ++ "]"

end UnitClass

/-! ## Patterns -/

/-- A regular pattern over code units. -/
inductive Pattern where
  /-- One unit of a class. -/
  | unit (c : UnitClass)
  /-- As many units of a class as there are, and not fewer than `atLeast`. -/
  | run (c : UnitClass) (atLeast : Nat)
  /-- One pattern after the other. -/
  | seq (p q : Pattern)
  /-- The left pattern, or else the right one. -/
  | alt (p q : Pattern)
  /-- The pattern, or else nothing. -/
  | opt (p : Pattern)
  /-- Nothing, at the start of a line. -/
  | lineStart
  /-- The pattern, without regard to the case of ASCII letters. -/
  | ignoringCase (p : Pattern)
  deriving DecidableEq, Repr

namespace Pattern

/-- The units that end a line. -/
def isLineEnd (u : CodeUnit) : Bool := u == 0x0A || u == 0x0D || u == 0x2028 || u == 0x2029

/-- A position is at the start of a line if it is the first or follows the end of a line. -/
def atLineStart (input : Text) (pos : Nat) : Bool :=
  pos == 0 || (input[pos - 1]?).any isLineEnd

/-- The positions at which the pattern can end when it starts at `pos`, in order of preference. -/
def ends (input : Text) (ignoreCase : Bool) : Pattern → Nat → List Nat
  | unit c, pos => if (input[pos]?).any (c.accepts ignoreCase) then [pos + 1] else []
  | run c atLeast, pos =>
    let length := ((input.drop pos).takeWhile (c.accepts ignoreCase)).length
    (List.range' (pos + atLeast) (length + 1 - atLeast)).reverse
  | seq p q, pos => (p.ends input ignoreCase pos).flatMap (q.ends input ignoreCase)
  | alt p q, pos => p.ends input ignoreCase pos ++ q.ends input ignoreCase pos
  | opt p, pos => p.ends input ignoreCase pos ++ [pos]
  | lineStart, pos => if atLineStart input pos then [pos] else []
  | ignoringCase p, pos => p.ends input true pos

/-- A pattern ends no earlier than it starts, and inside the input. -/
theorem within_of_mem_ends {p : Pattern} {ignoreCase : Bool} {input : Text} {pos stop : Nat}
    (hpos : pos ≤ input.length) (h : stop ∈ p.ends input ignoreCase pos) :
    pos ≤ stop ∧ stop ≤ input.length := by
  induction p generalizing ignoreCase pos stop with
  | unit c =>
    rw [ends] at h
    split at h
    · rename_i hany
      obtain ⟨u, hu, -⟩ := (Option.any_eq_true _ _).mp hany
      obtain ⟨hlt, -⟩ := List.getElem?_eq_some_iff.mp hu
      rw [List.mem_singleton.mp h]
      exact ⟨Nat.le_succ pos, hlt⟩
    · cases h
  | run c atLeast =>
    have hlength := (List.takeWhile_prefix (l := input.drop pos) (c.accepts ignoreCase)).length_le
    rw [List.length_drop] at hlength
    simp only [ends, List.mem_reverse, List.mem_range'_1] at h
    omega
  | seq p q ihp ihq =>
    obtain ⟨mid, hp, hq⟩ := List.mem_flatMap.mp h
    have hmid := ihp hpos hp
    have hstop := ihq hmid.2 hq
    exact ⟨Nat.le_trans hmid.1 hstop.1, hstop.2⟩
  | alt p q ihp ihq => exact (List.mem_append.mp h).elim (ihp hpos) (ihq hpos)
  | opt p ih =>
    refine (List.mem_append.mp h).elim (ih hpos) fun hnone => ?_
    rw [List.mem_singleton.mp hnone]
    exact ⟨Nat.le_refl pos, hpos⟩
  | lineStart =>
    rw [ends] at h
    split at h
    · rw [List.mem_singleton.mp h]
      exact ⟨Nat.le_refl pos, hpos⟩
    · cases h
  | ignoringCase p ih => exact ih hpos h

/-- Where the match that starts at `pos` ends.  Nothing matches beyond the end of the text. -/
def matchEnd? (p : Pattern) (input : Text) (pos : Nat) : Option Nat :=
  if pos ≤ input.length then (p.ends input false pos).head? else none

theorem within_of_matchEnd? {p : Pattern} {input : Text} {pos stop : Nat}
    (h : p.matchEnd? input pos = some stop) : pos ≤ stop ∧ stop ≤ input.length := by
  unfold matchEnd? at h
  split at h
  · rename_i hpos
    exact within_of_mem_ends hpos (List.mem_of_head? h)
  · cases h

/-- A repeat count in the usual notation. -/
def repeatSource : Nat → Text
  | 0 => "*"
  | 1 => "+"
  | n => "\x7b" ++ Text.ofNat n ++ ",\x7d"

/-- The pattern in the usual notation. -/
def source : Pattern → Text
  | unit c => c.source
  | run c atLeast => c.source ++ repeatSource atLeast
  | seq p q => p.source ++ q.source
  | alt p q => "(?:" ++ p.source ++ "|" ++ q.source ++ ")"
  | opt (unit c) => c.source ++ "?"
  | opt p => "(?:" ++ p.source ++ ")?"
  | lineStart => "^"
  | ignoringCase p => p.source

/-- The regular expression that a pattern is, over code units. -/
def regex (p : Pattern) : Regex where
  source := p.source
  unicode := false
  matchEnd? := p.matchEnd?
  within _ := within_of_matchEnd?

end Pattern

end ODataToken
