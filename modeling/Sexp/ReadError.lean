import Sexp.Diagnostic
import Sexp.Numeral.Integer

set_option autoImplicit false
set_option relaxedAutoImplicit false

/-!
# What can be wrong with a source

A defect of a source ends the reading of it for good. An integer that is too long to convert is no
defect, be it a numeral of the source or a limit that a report has to name: whatever needs the
conversion is refused, and nothing is ended.
-/

namespace Sexp

/-- A defect of a source, with the text and the position that a report of it cites. -/
inductive Defect where
  | malformed (message text : String) (position : Position)
  | strayClosing (position : Position)
  | integerOutOfRange (text : String) (position : Position)
  /-- A list lies deeper than the chosen limit allows. -/
  | tooDeep (context : String) (position : Position)
  /-- A list lies deeper than any limit allows. -/
  | beyondCapacity (context : String) (position : Position)
  /-- The source ends within a list, the innermost of which begins at a position. -/
  | unfinished (position : Position)
deriving DecidableEq

namespace Defect

/-- The most characters of a numeral that a report cites. -/
def excerptLength : Nat := 40

/-- A text, cut and marked as such if it is long. -/
def excerpt (text : String) : String :=
  if text.length ≤ excerptLength then text
  else String.ofList (text.toList.take excerptLength) ++ "..."

/-- How a report names the limit on nesting. A limit with too many digits cannot be named. -/
def depthContext? : Option Int → Option String
  | some limit =>
    (Numeral.write? limit).map fun digits => "Lists may be nested at most " ++ digits ++ " deep"
  | none => some "Nesting exceeds the interpreter's recursion limit"

/-- The report of too deep a list, whose parenthesis is at a position. -/
def depthDiagnostic (context : String) (position : Position) : Diagnostic :=
  Diagnostic.located
    { category := .structural
      message := "maximum nesting depth exceeded"
      text := some "("
      context := some context }
    position

def diagnostic : Defect → Diagnostic
  | malformed message text position =>
    Diagnostic.located { category := .lexical, message, text := some text } position
  | strayClosing position =>
    Diagnostic.located
      { category := .syntactic
        message := "unexpected ')'"
        text := some ")"
        expected := some "a string, symbol, number or '('" }
      position
  | integerOutOfRange text position =>
    Diagnostic.located
      { category := .syntactic
        message := "integer out of range"
        text := some (excerpt text)
        expected := some ("an integer between " ++ toString Numeral.leastInteger ++ " and "
          ++ toString Numeral.greatestInteger) }
      position
  | tooDeep context position | beyondCapacity context position => depthDiagnostic context position
  | unfinished position =>
    Diagnostic.located
      { category := .structural
        message := "unfinished list"
        text := some "("
        expected := some "')' to close the list"
        suggestion := some "Add the missing closing parenthesis" }
      position

end Defect

inductive ReadError where
  | defect (d : Defect)
  /-- An integer has too many digits for a conversion. -/
  | overlongInteger (conversion : Numeral.Conversion)
deriving DecidableEq

/-- The words in which an error is reported, without details. -/
def ReadError.message : ReadError → String
  | defect d => d.diagnostic.message
  | overlongInteger conversion =>
    let length := match conversion with
      | .reading digits => ": value has " ++ toString digits ++ " digits"
      | .writing => ""
    "Exceeds the limit (" ++ toString Numeral.conversionLimit ++
      " digits) for integer string conversion" ++ length ++
      "; use sys.set_int_max_str_digits() to increase the limit"

end Sexp
