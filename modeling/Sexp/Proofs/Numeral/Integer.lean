import Mathlib.Algebra.Order.Ring.Nat
import Mathlib.Tactic.Ring
import Sexp.Numeral.Integer
import Sexp.Proofs.Lexeme.Number

set_option autoImplicit false
set_option relaxedAutoImplicit false

/-!
# Which integer numerals have a value

A numeral is taken if it is short enough to be converted and its value lies between the bounds. The
number of significant digits decides about the error of all others: more than nineteen of them make
a value that is out of range.
-/

namespace Sexp.Numeral

open Grammar
open Number (splitSign)

/-- The digits of a numeral, without its sign. -/
def digitsOf (cs : List Char) : List Char := (splitSign cs).2

/-- The digits of a numeral from the first one on that is not zero. -/
def significantOf (cs : List Char) : List Char := (digitsOf cs).dropWhile (· = '0')

/-- The integer that a numeral denotes, of whatever size. -/
def valueOf (cs : List Char) : Int := signedValue (splitSign cs).1 (digitsOf cs)

/-- A numeral that is taken. -/
structure Fits (cs : List Char) : Prop where
  convertible : (digitsOf cs).length ≤ 4300
  -- The bounds are those of 64 bits: `-2 ^ 63` and `2 ^ 63 - 1`.
  least_le : leastInteger ≤ valueOf cs
  le_greatest : valueOf cs ≤ greatestInteger

/-- A numeral with too many digits to convert, of which few are significant. -/
structure Overlong (cs : List Char) : Prop where
  not_convertible : 4300 < (digitsOf cs).length
  significant : (significantOf cs).length ≤ 19

theorem digitsValue_dropWhile_zero (digits : List Char) :
    digitsValue (digits.dropWhile (· = '0')) = digitsValue digits := by
  induction digits with
  | nil => rfl
  | cons d digits ih =>
    by_cases zero : d = '0'
    · subst zero
      rw [List.dropWhile_cons_of_pos (by simp), ih, digitsValue, digitsValue,
        Nat.ofDigitChars_cons]
      rfl
    · rw [List.dropWhile_cons_of_neg (by simpa using zero)]

private theorem one_le_of_isDigit {d : Char} (digit : isDigit d = true) (nonzero : d ≠ '0') :
    1 ≤ d.toNat - '0'.toNat := by
  have least : '0'.toNat ≤ d.toNat := by
    simp only [isDigit, Char.isDigit, Bool.and_eq_true, decide_eq_true_eq] at digit
    exact digit.1
  have differ : d.toNat ≠ '0'.toNat := fun same => nonzero (Char.toNat_inj.mp same)
  omega

theorem digitsValue_cons (d : Char) (digits : List Char) :
    digitsValue (d :: digits) =
      10 ^ digits.length * (d.toNat - '0'.toNat) + digitsValue digits := by
  rw [digitsValue, Nat.ofDigitChars_cons, Nat.ofDigitChars_eq_ofDigitChars_zero, Nat.mul_zero,
    Nat.zero_add]
  rfl

theorem pow_le_digitsValue {d : Char} {digits : List Char} (digit : isDigit d = true)
    (nonzero : d ≠ '0') : 10 ^ digits.length ≤ digitsValue (d :: digits) := by
  have positive := one_le_of_isDigit digit nonzero
  rw [digitsValue_cons]
  exact Nat.le_trans (Nat.le_mul_of_pos_right _ positive) (Nat.le_add_right _ _)

theorem pow_le_of_significant {cs : List Char} (all : ∀ c ∈ digitsOf cs, isDigit c = true)
    (many : 19 < (significantOf cs).length) : 10 ^ 19 ≤ digitsValue (digitsOf cs) := by
  have stop := List.head?_dropWhile_not (· = '0') (digitsOf cs)
  have within := List.dropWhile_sublist (· = '0') (l := digitsOf cs)
  rw [← digitsValue_dropWhile_zero]
  change 19 < ((digitsOf cs).dropWhile (· = '0')).length at many
  cases significant : (digitsOf cs).dropWhile (· = '0') with
  | nil => simp [significant] at many
  | cons d digits =>
    rw [significant] at stop within many
    have nonzero : d ≠ '0' := by simpa using stop
    have digit : isDigit d = true := all d (within.subset (by simp))
    have longer : 19 ≤ digits.length := by
      simp only [List.length_cons] at many
      omega
    exact Nat.le_trans (Nat.pow_le_pow_right (by decide) longer)
      (pow_le_digitsValue digit nonzero)

theorem all_digitsOf {cs : List Char} (isInteger : IsInteger cs) :
    ∀ c ∈ digitsOf cs, isDigit c = true := by
  cases isInteger with
  | @mk sign digits isSign isDigits =>
    have starts : StartsWithDigit (digits ++ []) := Number.startsWithDigit_append isDigits
    rw [List.append_nil] at starts
    rw [digitsOf, Number.splitSign_append_of_digit isSign starts]
    exact isDigits.all

/-- A numeral whose value lies between the bounds has few significant digits. -/
theorem significant_le_of_bounds {cs : List Char} (isInteger : IsInteger cs)
    (least_le : leastInteger ≤ valueOf cs) (le_greatest : valueOf cs ≤ greatestInteger) :
    (significantOf cs).length ≤ 19 := by
  by_contra many
  have large := pow_le_of_significant (all_digitsOf isInteger) (Nat.lt_of_not_le many)
  have power : (10 : Nat) ^ 19 = 10000000000000000000 := rfl
  unfold valueOf signedValue leastInteger at least_le
  unfold valueOf signedValue greatestInteger at le_greatest
  by_cases negative : (splitSign cs).1 = ['-']
  · rw [if_pos negative] at least_le
    omega
  · rw [if_neg negative] at le_greatest
    omega

theorem readInteger_eq (cs : List Char) :
    readInteger cs =
      if (significantOf cs).length ≤ 19 then
        if 4300 < (digitsOf cs).length then .overlong (digitsOf cs).length
        else if leastInteger ≤ valueOf cs ∧ valueOf cs ≤ greatestInteger then .value (valueOf cs)
        else .outOfRange
      else .outOfRange := rfl

theorem readInteger_of_fits {cs : List Char} (isInteger : IsInteger cs) (fits : Fits cs) :
    readInteger cs = .value (valueOf cs) := by
  have significant := significant_le_of_bounds isInteger fits.least_le fits.le_greatest
  rw [readInteger_eq, if_pos significant, if_neg (Nat.not_lt.mpr fits.convertible),
    if_pos ⟨fits.least_le, fits.le_greatest⟩]

theorem fits_of_readInteger {cs : List Char} {n : Int} (read : readInteger cs = .value n) :
    valueOf cs = n ∧ Fits cs := by
  rw [readInteger_eq] at read
  split at read
  · split at read
    · cases read
    · rename_i convertible
      split at read
      · rename_i within
        exact ⟨IntegerReading.value.inj read, Nat.not_lt.mp convertible, within.1, within.2⟩
      · cases read
  · cases read

theorem readInteger_of_overlong {cs : List Char} (overlong : Overlong cs) :
    readInteger cs = .overlong (digitsOf cs).length := by
  rw [readInteger_eq, if_pos overlong.significant, if_pos overlong.not_convertible]

theorem readInteger_eq_overlong_iff {cs : List Char} {digits : Nat} :
    readInteger cs = .overlong digits ↔ Overlong cs ∧ digits = (digitsOf cs).length := by
  constructor
  · intro read
    rw [readInteger_eq] at read
    split at read
    · rename_i significant
      split at read
      · rename_i long
        exact ⟨⟨long, significant⟩, (IntegerReading.overlong.inj read).symm⟩
      · split at read <;> cases read
    · cases read
  · rintro ⟨overlong, rfl⟩
    exact readInteger_of_overlong overlong

theorem readInteger_of_not_fits {cs : List Char} (notFits : ¬ Fits cs)
    (notOverlong : ¬ Overlong cs) : readInteger cs = .outOfRange := by
  rw [readInteger_eq]
  split
  · rename_i significant
    have convertible : ¬ 4300 < (digitsOf cs).length := fun long => notOverlong ⟨long, significant⟩
    rw [if_neg convertible, if_neg]
    rintro ⟨least_le, le_greatest⟩
    exact notFits ⟨Nat.not_lt.mp convertible, least_le, le_greatest⟩
  · rfl

section Places

variable {cs digits : List Char} {v : Int}

/-- The number that digits denote, each counted by the place where it stands. -/
def placeValue : List Char → Nat
  | [] => 0
  | d :: ds => (d.toNat - '0'.toNat) * 10 ^ ds.length + placeValue ds

/-- The integer that digits with an optional sign denote. -/
inductive Means : List Char → Int → Prop
  | unsigned {digits : List Char} : IsDigits digits → Means digits (placeValue digits)
  | plus {digits : List Char} : IsDigits digits → Means ('+' :: digits) (placeValue digits)
  | minus {digits : List Char} : IsDigits digits → Means ('-' :: digits) (-(placeValue digits : Int))

theorem digitsValue_eq_placeValue (digits : List Char) :
    digitsValue digits = placeValue digits := by
  induction digits with
  | nil => rfl
  | cons d digits ih => rw [digitsValue_cons, ih, Nat.mul_comm, placeValue]

private theorem valueOf_append {sign : List Char} (isSign : IsSign sign)
    (isDigits : IsDigits digits) :
    valueOf (sign ++ digits) =
      if sign = ['-'] then -(placeValue digits : Int) else placeValue digits := by
  have starts : StartsWithDigit (digits ++ []) := Number.startsWithDigit_append isDigits
  rw [List.append_nil] at starts
  rw [valueOf, digitsOf, Number.splitSign_append_of_digit isSign starts, signedValue,
    digitsValue_eq_placeValue]

theorem Means.eq_valueOf (means : Means cs v) : v = valueOf cs := by
  cases means with
  | unsigned isDigits => exact (valueOf_append .absent isDigits).symm
  | plus isDigits => exact (valueOf_append .plus isDigits).symm
  | minus isDigits => exact (valueOf_append .minus isDigits).symm

theorem means_valueOf (isInteger : IsInteger cs) : Means cs (valueOf cs) := by
  cases isInteger with
  | mk isSign isDigits =>
    rw [valueOf_append isSign isDigits]
    cases isSign with
    | absent => exact .unsigned isDigits
    | plus => exact .plus isDigits
    | minus => exact .minus isDigits

theorem placeValue_append (front back : List Char) :
    placeValue (front ++ back) = placeValue front * 10 ^ back.length + placeValue back := by
  induction front with
  | nil => simp [placeValue]
  | cons d front ih =>
    rw [List.cons_append, placeValue, placeValue, ih, List.length_append]
    ring

end Places

/-- The shortest numeral of an integer. -/
def numeral (n : Int) : List Char := (if n < 0 then ['-'] else []) ++ Nat.toDigits 10 n.natAbs

private theorem isSign_numeral (n : Int) : IsSign (if n < 0 then ['-'] else []) := by
  split
  · exact .minus
  · exact .absent

private theorem isDigits_toDigits (n : Nat) : IsDigits (Nat.toDigits 10 n) := by
  refine ⟨Nat.toDigits_ne_nil, ?_⟩
  intro c member
  exact Nat.isDigit_of_mem_toDigits (by decide) (by decide) member

theorem isInteger_numeral (n : Int) : IsInteger (numeral n) :=
  .mk (isSign_numeral n) (isDigits_toDigits n.natAbs)

private theorem splitSign_numeral (n : Int) :
    splitSign (numeral n) = (if n < 0 then ['-'] else [], Nat.toDigits 10 n.natAbs) := by
  have starts : StartsWithDigit (Nat.toDigits 10 n.natAbs ++ []) :=
    Number.startsWithDigit_append (isDigits_toDigits n.natAbs)
  rw [List.append_nil] at starts
  exact Number.splitSign_append_of_digit (isSign_numeral n) starts

theorem valueOf_numeral (n : Int) : valueOf (numeral n) = n := by
  have value : digitsValue (Nat.toDigits 10 n.natAbs) = n.natAbs := Nat.ofDigitChars_ten_toDigits
  rw [valueOf, digitsOf, splitSign_numeral, signedValue, value]
  by_cases negative : n < 0
  · rw [if_pos negative, if_pos rfl]
    omega
  · rw [if_neg negative, if_neg (List.cons_ne_nil _ _).symm]
    omega

theorem length_digitsOf_numeral {n : Int} (least_le : leastInteger ≤ n)
    (le_greatest : n ≤ greatestInteger) : (digitsOf (numeral n)).length ≤ 4300 := by
  have few : (Nat.toDigits 10 n.natAbs).length ≤ 19 := by
    rw [Nat.length_toDigits_le_iff (by decide) (by decide)]
    unfold leastInteger at least_le
    unfold greatestInteger at le_greatest
    omega
  rw [digitsOf, splitSign_numeral]
  exact Nat.le_trans few (by decide)

/-- An integer of few enough digits to be written. -/
def Writable (n : Int) : Prop := n.natAbs < 10 ^ conversionLimit

theorem write?_eq {n : Int} :
    (Writable n → write? n = some (toString n)) ∧ (¬ Writable n → write? n = none) := by
  have length : (Nat.toDigits 10 n.natAbs).length ≤ conversionLimit ↔ Writable n :=
    Nat.length_toDigits_le_iff (by decide) (by decide)
  rw [write?, ← length]
  exact ⟨fun few => if_neg (Nat.not_lt.mpr few), fun many => if_pos (Nat.lt_of_not_le many)⟩

theorem write?_eq_none_iff {n : Int} : write? n = none ↔ ¬ Writable n := by
  refine ⟨?_, write?_eq.2⟩
  intro refused writable
  rw [write?_eq.1 writable] at refused
  cases refused

theorem writable_of_lt_pow {n : Int} (digits : Nat) (small : n.natAbs < 10 ^ digits)
    (few : digits ≤ conversionLimit) : Writable n :=
  Nat.lt_of_lt_of_le small (Nat.pow_le_pow_right (by decide) few)

theorem writable_neg_iff {n : Int} : Writable (-n) ↔ Writable n := by
  rw [Writable, Writable, Int.natAbs_neg]

private theorem not_natAbs_pow_lt (n : Nat) : ¬ ((10 : Int) ^ n).natAbs < 10 ^ n := by
  rw [Int.natAbs_pow]
  exact Nat.lt_irrefl _

theorem not_writable_pow : ¬ Writable (10 ^ conversionLimit) := not_natAbs_pow_lt conversionLimit

end Sexp.Numeral
