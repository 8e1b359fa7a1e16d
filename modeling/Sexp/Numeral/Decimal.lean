import Sexp.Numeral.Integer

set_option autoImplicit false
set_option relaxedAutoImplicit false

/-!
# Values of float numerals

The text of a float token is made a literal, which has digits in its exponent if it has one. A
literal denotes a sign and a decimal number, and stands for the double nearest to it. The sign is
kept apart, for zero has two. A decimal is brought to lowest terms before it is rounded, which keeps
its powers of ten small.
-/

namespace Sexp

/-- The number `digits * 10 ^ exponent` with a sign. -/
structure Decimal where
  negative : Bool
  digits : Nat
  exponent : Int
deriving DecidableEq

namespace Decimal

/-- Moves the zeros at the end of `digits` into the exponent. -/
def lowestTerms (digits : Nat) (exponent : Int) : Nat × Int :=
  if h : digits = 0 then (0, 0)
  else if digits % 10 = 0 then lowestTerms (digits / 10) (exponent + 1)
  else (digits, exponent)
termination_by digits

/-- The double nearest to a decimal, a tie going to the even one. -/
def toFloat (d : Decimal) : Float :=
  let (digits, exponent) := lowestTerms d.digits d.exponent
  let magnitude := Float.ofModel (Float.Model.ofScientific digits exponent)
  if d.negative then -magnitude else magnitude

/-- Splits off digits with at most one point: those before the point, those behind it, and the rest.
-/
def splitMantissa (cs : List Char) : List Char × List Char × List Char :=
  match Number.splitDigits cs with
  | (whole, '.' :: rest) => (whole, Number.splitDigits rest)
  | (whole, rest) => (whole, [], rest)

/-- The exponent that a literal ends with: a marker, an optional sign and digits, or nothing. -/
def exponent? : List Char → Option Int
  | [] => some 0
  | c :: cs =>
    let (sign, digits) := Number.splitSign cs
    if (c = 'e' ∨ c = 'E') ∧ digits ≠ [] ∧ digits.all isDigit then
      some (Numeral.signedValue sign digits)
    else none

/-- The decimal that a literal denotes: an optional sign, digits with at most one point, and an
exponent. Other texts are no literals. -/
def ofLiteral? (cs : List Char) : Option Decimal :=
  let (sign, rest) := Number.splitSign cs
  let (whole, fraction, rest) := splitMantissa rest
  if whole ++ fraction = [] then none
  else
    (exponent? rest).map fun exponent =>
      { negative := sign = ['-']
        digits := Numeral.digitsValue (whole ++ fraction)
        exponent := exponent - fraction.length }

/-- The literal that the text of a float token stands for. Signs at its end and a marker before them
are left out: an exponent without digits is none. -/
def literal? (cs : List Char) : Option (List Char) :=
  match cs.reverse.dropWhile fun c => c = '+' ∨ c = '-' with
  | [] => none
  | c :: front => some (if c = 'e' ∨ c = 'E' then front.reverse else cs)

def ofText? (cs : List Char) : Option Decimal := (literal? cs).bind ofLiteral?

/-- The decimal that the text of a float token denotes. Every such text has one, so that nothing else
is given in its place. -/
def ofText (cs : List Char) : Decimal := (ofText? cs).getD ⟨false, 0, 0⟩

end Decimal

end Sexp
