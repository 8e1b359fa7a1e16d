import Sexp.Lexeme
import Sexp.Lexeme.Gap
import Sexp.Proofs.Text.Longest

set_option autoImplicit false
set_option relaxedAutoImplicit false

/-!
# The grammar of lexemes

The classes of texts that make up a source, said without a scanner: gaps, numbers, symbols and the
bodies of strings. `Grammar.Reads` says which kind, text and message a read has to give when a
certain text is left after the gap.
-/

namespace Sexp.Grammar

open Text (Longest)

/-- Separators and comments in any order. -/
inductive IsGap : List Char → Prop
  | nil : IsGap []
  | separator {c : Char} {cs : List Char} : isSeparator c = true → IsGap cs → IsGap (c :: cs)
  /-- A comment goes up to a line feed, which is not part of it. -/
  | comment {note cs : List Char} : '\n' ∉ note → IsGap cs → IsGap (';' :: (note ++ cs))

/-- A gap whose comments are all ended by a line feed. -/
inductive IsClosedGap : List Char → Prop
  | nil : IsClosedGap []
  | separator {c : Char} {cs : List Char} :
      isSeparator c = true → IsClosedGap cs → IsClosedGap (c :: cs)
  | comment {note cs : List Char} :
      '\n' ∉ note → IsClosedGap cs → IsClosedGap (';' :: (note ++ '\n' :: cs))

inductive IsSign : List Char → Prop
  | absent : IsSign []
  | plus : IsSign ['+']
  | minus : IsSign ['-']

/-- One digit or more. -/
structure IsDigits (cs : List Char) : Prop where
  ne_nil : cs ≠ []
  all : ∀ c ∈ cs, isDigit c = true

def StartsWithDigit (cs : List Char) : Prop := ∃ d rest, cs = d :: rest ∧ isDigit d = true

/-- An optional sign and digits. -/
inductive IsInteger : List Char → Prop
  | mk {sign digits : List Char} : IsSign sign → IsDigits digits → IsInteger (sign ++ digits)

/-- A number up to the end of its fraction: an integer, a point and digits, or only the last two. -/
inductive IsPointed : List Char → Prop
  | inner {whole fraction : List Char} :
      IsInteger whole → IsDigits fraction → IsPointed (whole ++ '.' :: fraction)
  | leading {fraction : List Char} : IsDigits fraction → IsPointed ('.' :: fraction)

/-- The marker of an exponent, an optional sign and digits, which may be missing. -/
inductive IsExponent : List Char → Prop
  | mk {marker : Char} {sign digits : List Char} : marker = 'e' ∨ marker = 'E' → IsSign sign →
      (∀ c ∈ digits, isDigit c = true) → IsExponent (marker :: (sign ++ digits))

/-- A number with a point, an exponent or both. -/
inductive IsFloat : List Char → Prop
  | pointed {number : List Char} : IsPointed number → IsFloat number
  | pointedExponent {number exponent : List Char} :
      IsPointed number → IsExponent exponent → IsFloat (number ++ exponent)
  | wholeExponent {whole exponent : List Char} :
      IsInteger whole → IsExponent exponent → IsFloat (whole ++ exponent)

def IsNumber (cs : List Char) : Prop := IsInteger cs ∨ IsFloat cs

/-- A text that begins as a number does, be it well-formed or not. -/
inductive StartsNumber : List Char → Prop
  | digit {c : Char} {rest : List Char} : isDigit c = true → StartsNumber (c :: rest)
  | signed {c d : Char} {rest : List Char} :
      c = '+' ∨ c = '-' → isDigit d = true → StartsNumber (c :: d :: rest)
  | pointed {d : Char} {rest : List Char} : isDigit d = true → StartsNumber ('.' :: d :: rest)

/-- The text begins with an integer and a point that no digit follows; `front` goes through the
point. -/
def LacksFraction (text front : List Char) : Prop :=
  ∃ whole rest, IsInteger whole ∧ ¬ StartsWithDigit rest ∧
    text = whole ++ '.' :: rest ∧ front = whole ++ ['.']

/-- The text begins with a number up to its fraction and a second point; `front` goes through that
point. -/
def HasSecondPoint (text front : List Char) : Prop :=
  ∃ number rest, IsPointed number ∧ text = number ++ '.' :: rest ∧ front = number ++ ['.']

/-- The body of a string: a double quote or a backslash stands in it only behind a backslash. -/
inductive IsBody : List Char → Prop
  | nil : IsBody []
  | plain {c : Char} {cs : List Char} : c ≠ '"' → c ≠ '\\' → IsBody cs → IsBody (c :: cs)
  | escaped {c : Char} {cs : List Char} : IsBody cs → IsBody ('\\' :: c :: cs)

/-- A character that begins a symbol, and characters with which it goes on. -/
inductive IsSymbol : List Char → Prop
  | mk {c : Char} {cs : List Char} :
      isSymbolStart c = true → (∀ d ∈ cs, isSymbolChar d = true) → IsSymbol (c :: cs)

/-- What a read gives for a text that begins as a number does: kind, text and message. -/
inductive NumberReads (text : List Char) : TokenKind → List Char → Option String → Prop
  | lacksFraction {front : List Char} : LacksFraction text front →
      NumberReads text .error front (some "digits expected")
  | secondPoint {front : List Char} : HasSecondPoint text front →
      NumberReads text .error front (some "unexpected '.' in number")
  | integer {front : List Char} : (∀ broken, ¬ LacksFraction text broken) →
      (∀ broken, ¬ HasSecondPoint text broken) → Longest IsNumber text front → IsInteger front →
      NumberReads text .integer front none
  | float {front : List Char} : (∀ broken, ¬ LacksFraction text broken) →
      (∀ broken, ¬ HasSecondPoint text broken) → Longest IsNumber text front → IsFloat front →
      NumberReads text .float front none

/-- What a read gives when a text is left after the gap: kind, text and message. -/
inductive Reads : List Char → TokenKind → List Char → Option String → Prop
  | finish : Reads [] .empty [] none
  | opening {rest : List Char} : Reads ('(' :: rest) .opening [] none
  | closing {rest : List Char} : Reads (')' :: rest) .closing [] none
  | string {body rest : List Char} : IsBody body →
      Reads ('"' :: (body ++ '"' :: rest)) .string body none
  /-- No double quote ends the body. -/
  | unterminated {rest : List Char} :
      (∀ body tail, IsBody body → rest ≠ body ++ '"' :: tail) →
      Reads ('"' :: rest) .error rest (some "unexpected end in string")
  | number {text front : List Char} {kind : TokenKind} {message : Option String} :
      StartsNumber text → NumberReads text kind front message → Reads text kind front message
  | symbol {c : Char} {rest name : List Char} : ¬ StartsNumber (c :: rest) →
      isSymbolStart c = true → Longest IsSymbol (c :: rest) name →
      Reads (c :: rest) .symbol name none
  /-- Nothing begins with this character. -/
  | stray {c : Char} {rest : List Char} : c ≠ '(' → c ≠ ')' → c ≠ '"' →
      ¬ StartsNumber (c :: rest) → isSymbolStart c = false →
      Reads (c :: rest) .error [] (some ("unexpected character '" ++ c.toString ++ "'"))

end Sexp.Grammar
