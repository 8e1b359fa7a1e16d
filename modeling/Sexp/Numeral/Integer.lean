import Sexp.Lexeme.Number

set_option autoImplicit false
set_option relaxedAutoImplicit false

/-!
# Values of integer numerals

Integers are those of 64 bits with a sign. A numeral with more significant digits than any of them
is refused before its value is computed; a numeral that is long only by its leading zeros has a
value, but no more digits are converted than a fixed number. The same number limits the numerals
that are written.
-/

namespace Sexp.Numeral

/-- The least integer that a source can spell. -/
def leastInteger : Int := -9223372036854775808

/-- The greatest integer that a source can spell. -/
def greatestInteger : Int := 9223372036854775807

/-- No integer between the bounds has more digits without leading zeros. -/
def significantLimit : Nat := 19

/-- The most digits, leading zeros among them, that are converted from or to a numeral. -/
def conversionLimit : Nat := 4300

/-- A conversion that is refused because of the number of digits. -/
inductive Conversion where
  /-- From a numeral with so many digits. -/
  | reading (digits : Nat)
  /-- To a numeral. -/
  | writing
deriving DecidableEq

inductive IntegerReading where
  | value (n : Int)
  | outOfRange
  /-- The integer has few significant digits but too many digits to convert. -/
  | overlong (digits : Nat)
deriving DecidableEq

def digitsValue (cs : List Char) : Nat := Nat.ofDigitChars 10 cs 0

/-- The integer that a sign, perhaps empty, and digits denote. -/
def signedValue (sign digits : List Char) : Int :=
  if sign = ['-'] then -(digitsValue digits : Int) else digitsValue digits

def readInteger (cs : List Char) : IntegerReading :=
  let (sign, digits) := Number.splitSign cs
  if (digits.dropWhile (· = '0')).length ≤ significantLimit then
    if conversionLimit < digits.length then .overlong digits.length
    else
      let n := signedValue sign digits
      if leastInteger ≤ n ∧ n ≤ greatestInteger then .value n else .outOfRange
  else .outOfRange

/-- The numeral of an integer, unless it has too many digits. The sign is no digit. -/
def write? (n : Int) : Option String :=
  if conversionLimit < (Nat.toDigits 10 n.natAbs).length then none else some (toString n)

end Sexp.Numeral
