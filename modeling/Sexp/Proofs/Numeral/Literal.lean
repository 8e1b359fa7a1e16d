import Mathlib.Algebra.Order.Field.Rat
import Mathlib.Tactic.FieldSimp
import Sexp.Numeral.Decimal
import Sexp.Proofs.Numeral.Integer

set_option autoImplicit false
set_option relaxedAutoImplicit false

/-!
# What float numerals denote

A literal denotes a sign and a rational number, read off its digits by the places where they stand.
`literalMeans_iff` says that a decimal is found for just the texts that are literals, and that it is
the number denoted. The text of every float token denotes a sign and a number, too
(`exists_textMeans_of_isFloat`), and it is made a literal that denotes the same
(`TextMeans.literal`).
-/

namespace Sexp.Decimal

open Grammar
open Numeral (Means placeValue)
open Number (splitSign splitDigits)

/-- The number of a decimal, without its sign. -/
def magnitude (d : Decimal) : ℚ := d.digits * 10 ^ d.exponent

/-- The number that digits denote, with at most one point among them or at an end of them. -/
inductive MantissaMeans : List Char → ℚ → Prop
  | whole {digits : List Char} : IsDigits digits → MantissaMeans digits (placeValue digits)
  | pointed {whole fraction : List Char} : (∀ c ∈ whole, isDigit c = true) →
      (∀ c ∈ fraction, isDigit c = true) → whole ++ fraction ≠ [] →
      MantissaMeans (whole ++ '.' :: fraction)
        (placeValue whole + placeValue fraction / 10 ^ fraction.length)

/-- The integer that an exponent denotes, or zero if there is none. -/
inductive ExponentMeans : List Char → ℤ → Prop
  | absent : ExponentMeans [] 0
  | present {marker : Char} {cs : List Char} {k : ℤ} : marker = 'e' ∨ marker = 'E' → Means cs k →
      ExponentMeans (marker :: cs) k

/-- What an exponent denotes that may lack its digits: a marker alone, or with a sign, is zero. -/
inductive OpenExponentMeans : List Char → ℤ → Prop
  | closed {cs : List Char} {k : ℤ} : ExponentMeans cs k → OpenExponentMeans cs k
  | lacking {marker : Char} {sign : List Char} : marker = 'e' ∨ marker = 'E' → IsSign sign →
      OpenExponentMeans (marker :: sign) 0

/-- A sign and the magnitude of what follows it: digits, and an exponent that says by which power of
ten they count. -/
inductive SignedMeans (exponentMeans : List Char → ℤ → Prop) : List Char → Bool → ℚ → Prop
  | mk {sign mantissa exponent : List Char} {m : ℚ} {k : ℤ} : IsSign sign →
      MantissaMeans mantissa m → exponentMeans exponent k →
      SignedMeans exponentMeans (sign ++ (mantissa ++ exponent)) (sign = ['-']) (m * 10 ^ k)

/-- The text is a literal, and denotes a sign and a magnitude. -/
abbrev LiteralMeans : List Char → Bool → ℚ → Prop := SignedMeans ExponentMeans

/-- The text of a float token denotes a sign and a magnitude. -/
abbrev TextMeans : List Char → Bool → ℚ → Prop := SignedMeans OpenExponentMeans

variable {cs mantissa exponent : List Char} {m q : ℚ} {k : ℤ} {negative : Bool}

private theorem exists_splitSign (means : Means cs k) :
    ∃ sign digits, splitSign cs = (sign, digits) ∧ IsDigits digits ∧
      Numeral.signedValue sign digits = k := by
  have digitsOnly {digits : List Char} (isDigits : IsDigits digits) :
      splitSign digits = ([], digits) := by
    have starts : StartsWithDigit (digits ++ []) := Number.startsWithDigit_append isDigits
    rw [List.append_nil] at starts
    exact Number.splitSign_append_of_digit .absent starts
  cases means with
  | unsigned isDigits =>
    refine ⟨[], _, digitsOnly isDigits, isDigits, ?_⟩
    rw [Numeral.signedValue, Numeral.digitsValue_eq_placeValue]
    rfl
  | @plus digits isDigits =>
    refine ⟨['+'], digits, rfl, isDigits, ?_⟩
    rw [Numeral.signedValue, Numeral.digitsValue_eq_placeValue]
    rfl
  | @minus digits isDigits =>
    refine ⟨['-'], digits, rfl, isDigits, ?_⟩
    rw [Numeral.signedValue, Numeral.digitsValue_eq_placeValue, if_pos rfl]

private theorem means_of_digits {digits : List Char} (isDigits : IsDigits digits)
    (split : (splitSign cs).2 = digits) :
    Means cs (Numeral.signedValue (splitSign cs).1 digits) := by
  have parts := Number.splitSign_append cs
  have isInteger : IsInteger cs := by
    rw [split] at parts
    exact parts ▸ .mk (Number.isSign_splitSign cs) isDigits
  rw [← split]
  exact Numeral.means_valueOf isInteger

theorem exponentMeans_iff : ExponentMeans cs k ↔ exponent? cs = some k := by
  constructor
  · intro means
    cases means with
    | absent => rfl
    | @present marker cs k isMarker means =>
      obtain ⟨sign, digits, split, isDigits, value⟩ := exists_splitSign means
      have formed : (marker = 'e' ∨ marker = 'E') ∧ digits ≠ [] ∧ digits.all isDigit = true :=
        ⟨isMarker, isDigits.ne_nil, List.all_eq_true.mpr isDigits.all⟩
      simp only [exponent?, split, if_pos formed, value]
  · intro found
    cases cs with
    | nil =>
      cases found
      exact .absent
    | cons marker cs =>
      simp only [exponent?] at found
      split at found
      · rename_i formed
        obtain ⟨isMarker, present, all⟩ := formed
        cases found
        exact .present isMarker (means_of_digits ⟨present, List.all_eq_true.mp all⟩ rfl)
      · cases found

private theorem ExponentMeans.stop (means : ExponentMeans exponent k) :
    ¬ StartsWithDigit exponent ∧ ∀ tail, exponent ≠ '.' :: tail := by
  cases means with
  | absent =>
    refine ⟨?_, nofun⟩
    rintro ⟨_, _, same, _⟩
    cases same
  | present isMarker _ =>
    constructor
    · apply Number.not_startsWithDigit_cons
      rcases isMarker with rfl | rfl <;> rfl
    · rintro tail same
      obtain ⟨rfl, -⟩ := List.cons.inj same
      rcases isMarker with other | other <;> exact absurd other (by decide)

private theorem pointed_value (whole fraction : List Char) :
    (placeValue whole + placeValue fraction / 10 ^ fraction.length : ℚ) =
      placeValue (whole ++ fraction) / 10 ^ fraction.length := by
  rw [Numeral.placeValue_append]
  push_cast
  field_simp

private theorem splitMantissa_append (means : MantissaMeans mantissa m)
    (noDigit : ¬ StartsWithDigit exponent) (noPoint : ∀ tail, exponent ≠ '.' :: tail) :
    ∃ whole fraction, splitMantissa (mantissa ++ exponent) = (whole, fraction, exponent) ∧
      whole ++ fraction ≠ [] ∧
      m = placeValue (whole ++ fraction) / 10 ^ fraction.length := by
  have ended := Number.splitDigits_of_stop noDigit
  cases means with
  | whole isDigits =>
    refine ⟨mantissa, [], ?_, ?_, ?_⟩
    · rw [splitMantissa, Number.splitDigits_append_of_all isDigits.all, ended, List.append_nil]
      split
      · rename_i point
        exact absurd (Prod.mk.inj point).2 (noPoint _)
      · rename_i same
        rw [← (Prod.mk.inj same).1, ← (Prod.mk.inj same).2]
    · rw [List.append_nil]
      exact isDigits.ne_nil
    · rw [List.append_nil, List.length_nil, pow_zero, div_one]
  | @pointed whole fraction allWhole allFraction present =>
    refine ⟨whole, fraction, ?_, present, pointed_value whole fraction⟩
    have point : splitDigits ('.' :: (fraction ++ exponent)) = ([], '.' :: (fraction ++ exponent)) :=
      Number.splitDigits_of_stop (Number.not_startsWithDigit_cons (by decide))
    rw [List.append_assoc, List.cons_append, splitMantissa,
      Number.splitDigits_append_of_all allWhole, point, List.append_nil]
    simp only [Number.splitDigits_append_of_all allFraction, ended, List.append_nil]

private theorem mantissaMeans_of_split {whole fraction rest : List Char}
    (split : splitMantissa cs = (whole, fraction, rest)) (present : whole ++ fraction ≠ []) :
    ∃ mantissa, cs = mantissa ++ rest ∧
      MantissaMeans mantissa (placeValue (whole ++ fraction) / 10 ^ fraction.length) := by
  have parts := Number.splitDigits_append cs
  have all := Number.all_splitDigits cs
  rw [splitMantissa] at split
  split at split
  · rename_i whole' rest' run
    rw [run] at parts all
    have parts' := Number.splitDigits_append rest'
    have all' := Number.all_splitDigits rest'
    generalize splitDigits rest' = pieces at split parts' all'
    cases split
    refine ⟨whole ++ '.' :: fraction, ?_, ?_⟩
    · rw [List.append_assoc, List.cons_append, parts']
      exact parts.symm
    · rw [← pointed_value]
      exact .pointed all all' present
  · rename_i whole' rest' run
    rw [run] at parts all
    cases split
    rw [List.append_nil] at present
    refine ⟨whole, parts.symm, ?_⟩
    rw [List.append_nil, List.length_nil, pow_zero, div_one]
    exact .whole ⟨present, all⟩

private theorem MantissaMeans.head (means : MantissaMeans mantissa m) :
    ∀ c ∈ (mantissa ++ exponent).head?, ¬ (c = '+' ∨ c = '-') := by
  have digit {c : Char} (isDigit : isDigit c = true) : ¬ (c = '+' ∨ c = '-') := by
    rintro (rfl | rfl) <;> exact absurd isDigit (by decide)
  intro c head
  cases means with
  | whole isDigits =>
    obtain ⟨d, digits, rfl⟩ := List.exists_cons_of_ne_nil isDigits.ne_nil
    obtain rfl := Option.some.inj head
    exact digit (isDigits.all d List.mem_cons_self)
  | @pointed whole fraction all _ _ =>
    cases whole with
    | nil =>
      obtain rfl := Option.some.inj head
      decide
    | cons d whole =>
      obtain rfl := Option.some.inj head
      exact digit (all d List.mem_cons_self)

private theorem magnitude_eq (negative : Bool) (digits : List Char) (k : ℤ) (places : ℕ) :
    magnitude ⟨negative, Numeral.digitsValue digits, k - places⟩ =
      placeValue digits / 10 ^ places * 10 ^ k := by
  rw [magnitude, Numeral.digitsValue_eq_placeValue, zpow_sub₀ (by norm_num), zpow_natCast]
  ring

/-- A decimal is found for just the texts that are literals, and it is the number they denote. -/
theorem literalMeans_iff :
    LiteralMeans cs negative q ↔
      ∃ d, ofLiteral? cs = some d ∧ d.negative = negative ∧ d.magnitude = q := by
  constructor
  · intro means
    cases means with
    | @mk sign mantissa exponent m k isSign mantissaMeans exponentMeans =>
      obtain ⟨noDigit, noPoint⟩ := exponentMeans.stop
      obtain ⟨whole, fraction, split, present, rfl⟩ :=
        splitMantissa_append mantissaMeans noDigit noPoint
      have signed : splitSign (sign ++ (mantissa ++ exponent)) = (sign, mantissa ++ exponent) :=
        Number.splitSign_append_of_head isSign mantissaMeans.head
      have found := exponentMeans_iff.mp exponentMeans
      refine ⟨⟨sign = ['-'], Numeral.digitsValue (whole ++ fraction), k - fraction.length⟩, ?_, rfl,
        magnitude_eq _ _ _ _⟩
      simp only [ofLiteral?, signed, split, found, if_neg present, Option.map_some]
  · rintro ⟨d, found, rfl, rfl⟩
    have parts := Number.splitSign_append cs
    have isSign := Number.isSign_splitSign cs
    rcases signed : splitSign cs with ⟨sign, rest⟩
    rcases split : splitMantissa rest with ⟨whole, fraction, exponent⟩
    rw [signed] at parts isSign
    simp only [ofLiteral?, signed, split] at found
    by_cases empty : whole ++ fraction = []
    · rw [if_pos empty] at found
      cases found
    · rw [if_neg empty] at found
      obtain ⟨k, exponentFound, rfl⟩ := Option.map_eq_some_iff.mp found
      obtain ⟨mantissa, rfl, mantissaMeans⟩ := mantissaMeans_of_split split empty
      rw [magnitude_eq, ← parts]
      exact .mk isSign mantissaMeans (exponentMeans_iff.mpr exponentFound)

theorem LiteralMeans.unique {negative' : Bool} {q' : ℚ} (means : LiteralMeans cs negative q)
    (means' : LiteralMeans cs negative' q') : negative' = negative ∧ q' = q := by
  obtain ⟨d, found, rfl, rfl⟩ := literalMeans_iff.mp means
  obtain ⟨d', found', rfl, rfl⟩ := literalMeans_iff.mp means'
  rw [found] at found'
  cases found'
  exact ⟨rfl, rfl⟩

/-- The text ends neither with a sign nor with a marker. -/
private def EndsClosed (cs : List Char) : Prop :=
  ∃ front c, cs = front ++ [c] ∧ ¬ (c = '+' ∨ c = '-') ∧ ¬ (c = 'e' ∨ c = 'E')

private theorem EndsClosed.append (front : List Char) (closed : EndsClosed cs) :
    EndsClosed (front ++ cs) := by
  obtain ⟨front', c, rfl, noSign, noMarker⟩ := closed
  exact ⟨front ++ front', c, (List.append_assoc _ _ _).symm, noSign, noMarker⟩

private theorem endsClosed_of_all (present : cs ≠ []) (all : ∀ c ∈ cs, isDigit c = true) :
    EndsClosed cs := by
  obtain ⟨front, c, rfl⟩ := List.eq_nil_or_concat cs |>.resolve_left present
  have digit := all c (by simp)
  refine ⟨front, c, List.concat_eq_append, ?_, ?_⟩ <;>
    rintro (rfl | rfl) <;> exact absurd digit (by decide)

private theorem MantissaMeans.endsClosed (means : MantissaMeans mantissa m) :
    EndsClosed mantissa := by
  cases means with
  | whole isDigits => exact endsClosed_of_all isDigits.ne_nil isDigits.all
  | @pointed whole fraction _ all _ =>
    by_cases empty : fraction = []
    · subst empty
      exact ⟨whole, '.', rfl, by decide, by decide⟩
    · rw [List.append_cons]
      exact (endsClosed_of_all empty all).append _

private theorem ExponentMeans.endsClosed (means : ExponentMeans exponent k)
    (present : exponent ≠ []) : EndsClosed exponent := by
  cases means with
  | absent => exact absurd rfl present
  | @present marker cs k _ means =>
    cases means with
    | unsigned isDigits => exact (endsClosed_of_all isDigits.ne_nil isDigits.all).append [marker]
    | plus isDigits => exact (endsClosed_of_all isDigits.ne_nil isDigits.all).append [marker, '+']
    | minus isDigits => exact (endsClosed_of_all isDigits.ne_nil isDigits.all).append [marker, '-']

private theorem literal?_of_endsClosed (closed : EndsClosed cs) : literal? cs = some cs := by
  obtain ⟨front, c, rfl, noSign, noMarker⟩ := closed
  simp only [literal?, List.reverse_append, List.reverse_singleton, List.singleton_append]
  rw [List.dropWhile_cons_of_neg (by simpa using noSign)]
  simp only [if_neg noMarker]

private theorem literal?_of_marker {front sign : List Char} {marker : Char}
    (isMarker : marker = 'e' ∨ marker = 'E') (isSign : IsSign sign) :
    literal? (front ++ marker :: sign) = some front := by
  rcases isMarker with rfl | rfl <;> cases isSign <;> simp [literal?]

theorem TextMeans.literal (means : TextMeans cs negative q) :
    ∃ literal, literal? cs = some literal ∧ LiteralMeans literal negative q := by
  cases means with
  | @mk sign mantissa exponent m k isSign mantissaMeans exponentMeans =>
    cases exponentMeans with
    | closed exponentMeans =>
      refine ⟨_, literal?_of_endsClosed (.append _ ?_), .mk isSign mantissaMeans exponentMeans⟩
      by_cases absent : exponent = []
      · rw [absent, List.append_nil]
        exact mantissaMeans.endsClosed
      · exact (exponentMeans.endsClosed absent).append _
    | @lacking marker sign' isMarker isSign' =>
      refine ⟨sign ++ (mantissa ++ []), ?_, .mk isSign mantissaMeans .absent⟩
      rw [List.append_nil, ← List.append_assoc]
      exact literal?_of_marker isMarker isSign'

theorem TextMeans.decimal (means : TextMeans cs negative q) :
    ∃ d, ofText? cs = some d ∧ d.negative = negative ∧ d.magnitude = q := by
  obtain ⟨literal, made, literalMeans⟩ := means.literal
  rw [ofText?, made]
  exact literalMeans_iff.mp literalMeans

theorem TextMeans.unique {negative' : Bool} {q' : ℚ} (means : TextMeans cs negative q)
    (means' : TextMeans cs negative' q') : negative' = negative ∧ q' = q := by
  obtain ⟨literal, made, literalMeans⟩ := means.literal
  obtain ⟨literal', made', literalMeans'⟩ := means'.literal
  rw [made] at made'
  cases made'
  exact literalMeans.unique literalMeans'

/-- The text is an optional sign and digits with at most one point. -/
private def IsSigned (cs : List Char) : Prop :=
  ∃ sign mantissa m, cs = sign ++ mantissa ∧ IsSign sign ∧ MantissaMeans mantissa m

private theorem isSigned_of_isInteger (isInteger : IsInteger cs) : IsSigned cs := by
  cases isInteger with
  | mk isSign isDigits => exact ⟨_, _, _, rfl, isSign, .whole isDigits⟩

private theorem isSigned_of_isPointed (isPointed : IsPointed cs) : IsSigned cs := by
  cases isPointed with
  | @inner whole fraction isInteger isDigits =>
    cases isInteger with
    | @mk sign digits isSign isDigits' =>
      have present := List.append_ne_nil_of_left_ne_nil isDigits'.ne_nil fraction
      exact ⟨sign, _, _, List.append_assoc _ _ _, isSign,
        .pointed isDigits'.all isDigits.all present⟩
  | @leading fraction isDigits =>
    exact ⟨[], _, _, rfl, .absent,
      @MantissaMeans.pointed [] fraction nofun isDigits.all isDigits.ne_nil⟩

private theorem exists_openExponent (isExponent : IsExponent exponent) :
    ∃ k, OpenExponentMeans exponent k := by
  cases isExponent with
  | @mk marker sign digits isMarker isSign all =>
    by_cases empty : digits = []
    · subst empty
      rw [List.append_nil]
      exact ⟨0, .lacking isMarker isSign⟩
    · exact ⟨_, .closed (.present isMarker (Numeral.means_valueOf (.mk isSign ⟨empty, all⟩)))⟩

private theorem exists_textMeans {front : List Char}
    (isExponent : exponent = [] ∨ IsExponent exponent) (isSigned : IsSigned front) :
    ∃ negative q, TextMeans (front ++ exponent) negative q := by
  have means : ∃ k, OpenExponentMeans exponent k := by
    rcases isExponent with rfl | isExponent
    · exact ⟨0, .closed .absent⟩
    · exact exists_openExponent isExponent
  obtain ⟨k, exponentMeans⟩ := means
  obtain ⟨sign, mantissa, m, rfl, isSign, mantissaMeans⟩ := isSigned
  rw [List.append_assoc]
  exact ⟨_, _, .mk isSign mantissaMeans exponentMeans⟩

theorem exists_textMeans_of_isFloat (isFloat : IsFloat cs) :
    ∃ negative q, TextMeans cs negative q := by
  cases isFloat with
  | pointed isPointed =>
    have means := exists_textMeans (.inl rfl) (isSigned_of_isPointed isPointed)
    rwa [List.append_nil] at means
  | pointedExponent isPointed isExponent =>
    exact exists_textMeans (.inr isExponent) (isSigned_of_isPointed isPointed)
  | wholeExponent isInteger isExponent =>
    exact exists_textMeans (.inr isExponent) (isSigned_of_isInteger isInteger)

end Sexp.Decimal
