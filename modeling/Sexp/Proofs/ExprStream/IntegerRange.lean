import Mathlib.Tactic.NormNum
import Sexp.Proofs.ExprStream.Refusal
import Sexp.Proofs.ExprStream.Run

set_option autoImplicit false
set_option relaxedAutoImplicit false

/-!
# Integers of 64 bits

Whether an integer is taken is found out by counting its digits before its value is computed.
`integer_read_or_refused` says that the count makes no difference: what is taken are the integers
between the bounds, with the value that their digits have by the places where they stand.
-/

namespace Sexp

open Grammar

namespace Numeral

variable {v : Int}

theorem bounds_iff : leastInteger ≤ v ∧ v ≤ greatestInteger ↔ -2 ^ 63 ≤ v ∧ v ≤ 2 ^ 63 - 1 := by
  norm_num [leastInteger, greatestInteger]

end Numeral

open Numeral

section

variable {t : Token}

private theorem not_overlong {cs : List Char}
    (short : (digitsOf cs).length ≤ 4300 ∨ 19 < (significantOf cs).length) : ¬ Overlong cs := by
  rintro ⟨long, few⟩
  omega

variable [Capacity]

private theorem ofToken_of_within (kind : t.kind = .integer) (isInteger : IsInteger t.text.toList)
    (short : (digitsOf t.text.toList).length ≤ 4300 ∨ 19 < (significantOf t.text.toList).length)
    (within : leastInteger ≤ valueOf t.text.toList ∧ valueOf t.text.toList ≤ greatestInteger)
    (maxDepth : Option Int) (lists : List OpenList) :
    Step.ofToken maxDepth lists t = Step.place (.integer (valueOf t.text.toList)) lists := by
  -- A value between the bounds has few significant digits, so the text is short as well.
  have few := significant_le_of_bounds isInteger within.1 within.2
  have fits : Fits t.text.toList := ⟨short.resolve_right (Nat.not_lt.mpr few), within.1, within.2⟩
  simp only [Step.ofToken, kind, readInteger_of_fits isInteger fits]

private theorem refuse_of_not_within (kind : t.kind = .integer)
    (short : (digitsOf t.text.toList).length ≤ 4300 ∨ 19 < (significantOf t.text.toList).length)
    (outside : ¬ (leastInteger ≤ valueOf t.text.toList ∧ valueOf t.text.toList ≤ greatestInteger))
    (maxDepth : Option Int) (lists : List OpenList) :
    ∃ d, Step.ofToken maxDepth lists t = .refuse (.defect d) ∧
      d.diagnostic = Diagnostic.located
        { category := .syntactic
          message := "integer out of range"
          text := some (Defect.excerpt t.text)
          expected := some "an integer between -9223372036854775808 and 9223372036854775807" }
        t.position := by
  have unfit : ¬ Fits t.text.toList := fun fits => outside ⟨fits.least_le, fits.le_greatest⟩
  obtain ⟨error, refused, blames⟩ : ∃ error, Step.ofToken maxDepth lists t = .refuse error ∧
      Blames maxDepth [] t error := refuse_unfit kind unfit
  cases blames with
  | @outOfRange d _ _ report => exact ⟨d, refused, report⟩
  | overlong _ overlong => exact absurd overlong (not_overlong short)
  | malformed other | strayClosing other | tooDeep other | unnamed other | unfinished other =>
    rw [kind] at other
    cases other

end

/-- An integer token of a source has one value by the places of its digits. Unless it has more than
4300 digits of which few count, it is read as an integer with this value if that lies within 64 bits,
whatever lists are open, and else it is refused as out of range, at its position and with its text,
of which only the first forty characters are cited. -/
theorem integer_read_or_refused [Capacity] (tokens : TokenStream)
    (kind : tokens.read.1.kind = .integer)
    (short : (digitsOf tokens.read.1.text.toList).length ≤ 4300 ∨
      19 < (significantOf tokens.read.1.text.toList).length) :
    ∃ v, Means tokens.read.1.text.toList v ∧ (∀ w, Means tokens.read.1.text.toList w → w = v) ∧
      ∀ (s : ExprStream) (lists : List OpenList), s.lookahead = tokens.read.1 →
        (-2 ^ 63 ≤ v ∧ v ≤ 2 ^ 63 - 1 →
          s.readFrom lists =
            match lists with
            | [] => (.ok (some (.integer v)), s.advance)
            | l :: ls => s.advance.readFrom ({ l with items := .integer v :: l.items } :: ls)) ∧
        (¬ (-2 ^ 63 ≤ v ∧ v ≤ 2 ^ 63 - 1) →
          ∃ d, (s.readFrom lists).1 = .error (.defect d) ∧
            d.diagnostic = Diagnostic.located
              { category := .syntactic
                message := "integer out of range"
                text := some (
                  if s.lookahead.text.length ≤ 40 then s.lookahead.text
                  else String.ofList (s.lookahead.text.toList.take 40) ++ "...")
                expected := some
                  "an integer between -9223372036854775808 and 9223372036854775807" }
              s.lookahead.position) := by
  have isInteger := TokenStream.isInteger_read kind
  refine ⟨_, means_valueOf isInteger, fun w means => means.eq_valueOf, ?_⟩
  intro s lists ahead
  rw [← ahead] at kind short isInteger
  rw [← ahead, ← bounds_iff]
  constructor
  · intro within
    have taken := ofToken_of_within kind isInteger short within s.maxDepth lists
    rw [ExprStream.readFrom_eq, taken]
    cases lists <;> rfl
  · intro outside
    obtain ⟨d, refused, report⟩ := refuse_of_not_within kind short outside s.maxDepth lists
    refine ⟨d, ?_, report⟩
    rw [ExprStream.readFrom_eq, refused]

/-- The least integer is read in spite of its leading zeros, and of a power of ten that is too large
forty digits are cited. -/
theorem least_integer_read_and_power_refused :
    let least := "-009223372036854775808"
    let power := "100000000000000000000000000000000000000000000"
    ((TokenStream.ofSource least).read.1.kind = .integer ∧
      (digitsOf (TokenStream.ofSource least).read.1.text.toList).length ≤ 4300 ∧
      (parse least none).result = .ok (some (.integer (-2 ^ 63)))) ∧
    (TokenStream.ofSource power).read.1.kind = .integer ∧
      19 < (significantOf (TokenStream.ofSource power).read.1.text.toList).length ∧
      ∃ d, (parse power none).result = .error (.defect d) ∧
        d.diagnostic.text = some "1000000000000000000000000000000000000000..." := by
  intro least power
  have kind : (TokenStream.ofSource least).read.1.kind = .integer := by decide +kernel
  have kind' : (TokenStream.ofSource power).read.1.kind = .integer := by decide +kernel
  have short : (digitsOf (TokenStream.ofSource least).read.1.text.toList).length ≤ 4300 := by
    decide +kernel
  have short' : 19 < (significantOf (TokenStream.ofSource power).read.1.text.toList).length := by
    decide +kernel
  obtain ⟨v, -, unique, reads⟩ := integer_read_or_refused _ kind (.inl short)
  obtain ⟨w, -, unique', reads'⟩ := integer_read_or_refused _ kind' (.inr short')
  have text : (TokenStream.ofSource least).read.1.text.toList =
      '-' :: "009223372036854775808".toList := by decide +kernel
  have text' : (TokenStream.ofSource power).read.1.text.toList = power.toList := by decide +kernel
  have places : placeValue "009223372036854775808".toList = 2 ^ 63 := by decide +kernel
  have places' : placeValue power.toList = 10 ^ 44 := by decide +kernel
  have digits : IsDigits "009223372036854775808".toList :=
    ⟨by decide +kernel, List.all_eq_true.mp (by decide +kernel)⟩
  have digits' : IsDigits power.toList :=
    ⟨by decide +kernel, List.all_eq_true.mp (by decide +kernel)⟩
  have value : v = -2 ^ 63 := by
    rw [text] at unique
    rw [← unique _ (.minus digits), places]
    norm_num
  have value' : w = 10 ^ 44 := by
    rw [text'] at unique'
    rw [← unique' _ (.unsigned digits'), places']
    norm_num
  refine ⟨⟨kind, short, ?_⟩, kind', short', ?_⟩
  · have taken := (reads (.ofSource least none) [] rfl).1 (by rw [value]; decide)
    rw [value] at taken
    exact congrArg Prod.fst taken
  · obtain ⟨d, refused, report⟩ := (reads' (.ofSource power none) [] rfl).2 (by rw [value']; decide)
    refine ⟨d, refused, ?_⟩
    rw [report]
    decide +kernel

end Sexp
