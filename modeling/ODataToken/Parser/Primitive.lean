import ODataToken.CharClass
import ODataToken.Parser.Basic
import ODataToken.Pattern
import ODataToken.Text.Basic
import ODataToken.Text.Lowercase

/-!
# Primitive parsers

The parsers that look at the input.

## What is here

* **Fixed texts**: `literal` takes a text as it is, `keyword` without regard to case.
* **Single characters**: `char` and `oneOf` take one code unit, `satisfy` one code point.
* **Runs**: `takeBetween` takes as many code points of a class as there are, within limits;
  `takeExactly`, `takeWhile` and `takeWhile1` are special cases.
* **Regular expressions**: `regex` takes what a regular expression matches, `pattern` what a pattern
  does.

Each of them fails where it started, and its value is the text as it stands in the input.  Each
looks at the input from its position on only, with the exception of regular expressions, which may
look back.  All of them end inside the input but for one case: an expression over code points that
starts inside a surrogate pair matches from one unit before, and ends that unit further on than the
match.

An error names what was expected by its text in quotes, by the text that is given for it, or by the
notation of the expression.
-/

set_option autoImplicit false

namespace ODataToken
namespace Parser

/-! ## Fixed texts -/

/-- Exactly the text `s`. -/
def literal (s : Text) : Parser Text where
  run input pos :=
    if s.isPrefixOf (input.drop pos) then .ok s (pos + s.length)
    else .fail (.shape pos s.quote)

/-- The text `s` without regard to case.  The value is the text as written in the input. -/
def keyword (s : Text) : Parser Text where
  run input pos :=
    let written : Text := (input.drop pos).take s.length
    if written.length = s.length ∧ written.equalsIgnoringCase s then .ok written (pos + s.length)
    else .fail (.shape pos s.quote)

/-! ## Single characters -/

/-- The code unit that `c` consists of.  A `c` of any other length than one never matches. -/
def char (c : Text) : Parser Text where
  run input pos :=
    match input[pos]? with
    | some u => if c = [u] then .ok c (pos + 1) else .fail (.shape pos c.quote)
    | none => .fail (.shape pos c.quote)

/-- One of the code units of `units`.  The expectation lists their code points. -/
def oneOf (units : Text) : Parser Text where
  run input pos :=
    let expected := Text.join " or " (units.codePoints.map Text.quote)
    match input[pos]? with
    | some u => if units.contains u then .ok [u] (pos + 1) else .fail (.shape pos expected)
    | none => .fail (.shape pos expected)

/-- One code point of a class. -/
def satisfy (accepts : CharClass) (expected : Text) : Parser Text where
  run input pos :=
    match Text.firstCodePoint? (input.drop pos) with
    | some c => if accepts c then .ok c (pos + c.length) else .fail (.shape pos expected)
    | none => .fail (.shape pos expected)

/-! ## Runs of characters -/

/-- As many code points of a class as there are, up to `most`, and not fewer than `least`. -/
def takeBetween (accepts : CharClass) (least : Nat) (most : Option Nat) (expected : Text) :
    Parser Text where
  run input pos :=
    let taken := Text.takeCodePoints accepts most (input.drop pos)
    if taken.length < least then .fail (.shape pos expected)
    else .ok taken.flatten (pos + taken.flatten.length)

/-- Exactly `n` code points of a class. -/
def takeExactly (accepts : CharClass) (n : Nat) (expected : Text) : Parser Text :=
  takeBetween accepts n (some n) expected

/-- As many code points of a class as there are, perhaps none. -/
def takeWhile (accepts : CharClass) : Parser Text := takeBetween accepts 0 none []

/-- As many code points of a class as there are, and at least one. -/
def takeWhile1 (accepts : CharClass) (expected : Text) : Parser Text :=
  takeBetween accepts 1 none expected

/-! ## Regular expressions -/

/-- What a regular expression matches at the position.  The parser goes on by the length of the
match from the position, wherever the match started. -/
def regex (r : Regex) (expected : Text) : Parser Text where
  run input pos :=
    match r.exec? input pos with
    | some t => .ok t (pos + t.length)
    | none => .fail (.shape pos expected)

/-- A regular expression, which on failure is expected by its notation. -/
def regexBySource (r : Regex) : Parser Text := regex r ("/" ++ r.source ++ "/")

/-- The preferred match of a pattern. -/
def pattern (p : Pattern) (expected : Text) : Parser Text := regex p.regex expected

theorem pattern_run (p : Pattern) (expected input : Text) (pos : Nat) :
    (pattern p expected).run input pos =
      match p.matchEnd? input pos with
      | some stop => .ok (input.extract pos stop) stop
      | none => .fail (.shape pos expected) := by
  have hstart : p.regex.startOf input pos = pos := if_neg (by simp [Pattern.regex])
  simp only [pattern, regex, Regex.exec?, hstart]
  by_cases hpos : pos ≤ input.length
  · rw [if_pos hpos]
    cases hstop : p.matchEnd? input pos with
    | none => simp [Pattern.regex, hstop]
    | some stop =>
      have hwithin := Pattern.within_of_matchEnd? hstop
      have hlength : pos + min (stop - pos) (input.length - pos) = stop := by omega
      simp [Pattern.regex, hstop, hlength]
  · simp [hpos, Pattern.matchEnd?]

end Parser
end ODataToken
