import ODataToken.Proofs.Grammar.Calendar
import ODataToken.Proofs.Grammar.Duration
import ODataToken.Proofs.Grammar.Position
import ODataToken.Proofs.Grammar.Quoted
import ODataToken.Proofs.Grammar.Scalar
import ODataToken.Proofs.Parser.Delimited
import ODataToken.Token

/-!
# Literals that end at a delimiter

No literal but a string holds a space, a closing parenthesis or a comma.  So every parser of the
literal grammar but the one for strings does in front of a delimiter what it does at the end of the
input: `Grammar.delimited_of_getElem?`.

The words, marks and classes that literals consist of come first, and the parsers follow in the
order in which they build on each other.
-/

set_option autoImplicit false

namespace ODataToken
namespace Grammar

open ODataToken.Parser

/-! ## Words, marks and classes -/

instance : Delimited (literal "null") := .literal (by decide)

instance : Delimited (keyword "true") := .keyword (by decide) (by decide)

instance : Delimited (keyword "false") := .keyword (by decide) (by decide)

instance : Delimited (keyword "binary'") := .keyword (by decide) (by decide)

instance : Delimited (keyword "duration") := .keyword (by decide) (by decide)

instance : Delimited (keyword "P") := .keyword (by decide) (by decide)

instance : Delimited (keyword "D") := .keyword (by decide) (by decide)

instance : Delimited (keyword "T") := .keyword (by decide) (by decide)

instance : Delimited (keyword "H") := .keyword (by decide) (by decide)

instance : Delimited (keyword "M") := .keyword (by decide) (by decide)

instance : Delimited (keyword "S") := .keyword (by decide) (by decide)

instance : Delimited (keyword "Z") := .keyword (by decide) (by decide)

instance : Delimited (char "'") := Delimited.char (u := CodeUnit.apostrophe) (by decide)

instance : Delimited (char "-") := Delimited.char (u := CodeUnit.hyphen) (by decide)

instance : Delimited (char ".") := Delimited.char (u := CodeUnit.point) (by decide)

instance : Delimited (char ":") := Delimited.char (u := CodeUnit.colon) (by decide)

instance : Delimited (oneOf "+-") := .oneOf (by decide)

instance (least : Nat) (most : Option Nat) (expected : Text) :
    Delimited (takeBetween CharClass.digit least most expected) :=
  .takeBetween CharClass.digit_ofSingleUnits (by decide) least most expected

instance (least : Nat) (most : Option Nat) (expected : Text) :
    Delimited (takeBetween CharClass.hexDigit least most expected) :=
  .takeBetween CharClass.hexDigit_ofSingleUnits (by decide) least most expected

instance (least : Nat) (most : Option Nat) (expected : Text) :
    Delimited (takeBetween CharClass.base64Url least most expected) :=
  .takeBetween CharClass.base64Url_ofSingleUnits (by decide) least most expected

instance (expected : Text) : Delimited (pattern decimalPattern expected) :=
  .pattern expected (by decide)

/-! ## Keywords and durations -/

instance : Delimited nullValue := inferInstanceAs (Delimited (Parser.replace _ _))

instance : Delimited boolean := inferInstanceAs (Delimited (label _ _))

instance : Delimited digits := inferInstanceAs (Delimited (takeBetween _ _ _ _))

instance (unit : Text) (nanosPerUnit : Nat) [Delimited (keyword unit)] :
    Delimited (component unit nanosPerUnit) :=
  inferInstanceAs (Delimited (Parser.map _ _))

instance : Delimited seconds := inferInstanceAs (Delimited (Parser.map _ _))

instance : Delimited timeComponents := inferInstanceAs (Delimited (Parser.map _ _))

instance : Delimited durationValue := inferInstanceAs (Delimited (Parser.map _ _))

instance : Delimited quotedDuration := inferInstanceAs (Delimited (between _ _ _))

instance (requireKeyword : Bool) : Delimited (duration requireKeyword) := by
  cases requireKeyword
  · exact inferInstanceAs (Delimited (label (Parser.map _ (preceded (optional _) _)) _))
  · exact inferInstanceAs (Delimited (label (Parser.map _ (preceded _ _)) _))

/-! ## Dates and times -/

instance (n : Nat) (expected : Text) : Delimited (takeExactly CharClass.digit n expected) :=
  inferInstanceAs (Delimited (takeBetween _ _ _ _))

instance : Delimited year := inferInstanceAs (Delimited (Parser.map _ _))

instance (what : Text) : Delimited (field what) := inferInstanceAs (Delimited (spanned _))

instance : Delimited fractionalSeconds := inferInstanceAs (Delimited (Parser.map _ _))

instance : Delimited dateShape := inferInstanceAs (Delimited (Parser.map _ _))

instance : Delimited timeShape := inferInstanceAs (Delimited (Parser.map _ _))

instance : Delimited offsetShape := inferInstanceAs (Delimited (alt _ _))

instance : Delimited date :=
  inferInstanceAs (Delimited (label (Parser.map _ (tryMap dateShape _)) _))

instance : Delimited time :=
  inferInstanceAs (Delimited (label (Parser.map _ (tryMap timeShape _)) _))

instance : Delimited dateTimeOffset := inferInstanceAs (Delimited (label _ _))

/-! ## Numbers, GUIDs and bytes -/

instance : Delimited signedDigits :=
  inferInstanceAs (Delimited (recognize (seq _ (takeBetween _ _ _ _))))

instance : Delimited integer := inferInstanceAs (Delimited (label _ _))

instance : Delimited float := by
  have hnames : ∀ name ∈ (["NaN", "INF", "-INF"] : List String),
      noDelimiter (Text.ofString name).contains = true := by decide
  have : Delimited (choice floatForms) := by
    refine .choice (forall_mem_floatForms inferInstance fun name hname x => ?_)
    have := Delimited.literal (hnames name hname)
    infer_instance
  exact inferInstanceAs (Delimited (label (choice floatForms) _))

instance (n : Nat) : Delimited (hexGroup n) := inferInstanceAs (Delimited (takeBetween _ _ _ _))

instance : Delimited guid := inferInstanceAs (Delimited (label _ _))

instance : Delimited base64Body :=
  inferInstanceAs (Delimited (terminated (takeBetween _ _ _ _) _))

instance : Delimited binary := inferInstanceAs (Delimited (label _ _))

/-! ## The list of alternatives -/

/-- **Every alternative but the one for strings ends at a delimiter.** -/
theorem delimited_of_getElem? {options : LiteralOptions} {i : Nat} {x : Alternative Literal}
    (hx : (literalAlternatives options)[i]? = some x) (hi : i ≠ 3) : Delimited x.parser := by
  rcases i with _ | _ | _ | _ | _ | _ | _ | _ | _ | _ | _ | i
  case succ.succ.succ.succ.succ.succ.succ.succ.succ.succ.succ => cases hx
  case succ.succ.succ.zero => exact absurd rfl hi
  all_goals
    obtain rfl := Option.some.inj hx
    dsimp only
    infer_instance

end Grammar
end ODataToken
