import Sexp.Proofs.ExprStream.Run
import Sexp.Proofs.Numeral.Conversion

set_option autoImplicit false
set_option relaxedAutoImplicit false

/-!
# Floats and the numbers they stand for

The text of a float token is made a literal before it is converted. `float_read_as_rounded` says that
nothing is lost by this: the literal denotes what the text does, and the double that is read is the
one this number is rounded to.
-/

namespace Sexp

open Decimal Double

private theorem ofToken_of_means [Capacity] {t : Token} {d : Decimal} (kind : t.kind = .float)
    (means : TextMeans t.text.toList d.negative d.magnitude) (maxDepth : Option Int)
    (lists : List OpenList) : Step.ofToken maxDepth lists t = Step.place (.float d.toFloat) lists := by
  obtain ⟨d', found, sign, number⟩ := means.decimal
  have decimal : ofText t.text.toList = d' := by rw [ofText, found, Option.getD_some]
  simp only [Step.ofToken, kind, decimal, toFloat_eq sign number]

/-- The text of a float token denotes one sign and one number, an exponent without digits being zero,
and it is made a literal that denotes just these. A decimal is found for the literal, whose double is
the one that the number is rounded to, and not a NaN. Every float token whose text denotes this sign
and this number is read as this double, whatever lists are open. -/
theorem float_read_as_rounded [Capacity] (tokens : TokenStream)
    (kind : tokens.read.1.kind = .float) :
    ∃ literal negative q d, literal? tokens.read.1.text.toList = some literal ∧
      (∀ n r, TextMeans tokens.read.1.text.toList n r ↔ n = negative ∧ r = q) ∧
      (∀ n r, LiteralMeans literal n r ↔ n = negative ∧ r = q) ∧
      ofLiteral? literal = some d ∧
      Rounds (signOf negative) q d.toFloat.toModel.unpack ∧ d.toFloat.isNaN = false ∧
      ∀ (s : ExprStream) (lists : List OpenList), s.lookahead.kind = .float →
        TextMeans s.lookahead.text.toList negative q →
        s.readFrom lists =
          match lists with
          | [] => (.ok (some (.float d.toFloat)), s.advance)
          | l :: ls => s.advance.readFrom ({ l with items := .float d.toFloat :: l.items } :: ls) := by
  obtain ⟨negative, q, means⟩ := exists_textMeans_of_isFloat (TokenStream.isFloat_read kind)
  obtain ⟨literal, made, literalMeans⟩ := means.literal
  obtain ⟨d, found, rfl, rfl⟩ := literalMeans_iff.mp literalMeans
  have rounds := rounds_toFloat d
  refine ⟨literal, d.negative, d.magnitude, d, made, ?_, ?_, found, rounds, rounds.isNaN_eq_false, ?_⟩
  · intro n r
    constructor
    · exact means.unique
    · rintro ⟨rfl, rfl⟩
      exact means
  · intro n r
    constructor
    · exact literalMeans.unique
    · rintro ⟨rfl, rfl⟩
      exact literalMeans
  · intro s lists kind' means'
    have taken := ofToken_of_means kind' means' s.maxDepth lists
    rw [ExprStream.readFrom_eq, taken]
    cases lists <;> rfl

/-- An exponent without digits changes nothing, and neither do zeros for which an exponent makes up.
-/
theorem open_exponent_and_zeros_read :
    (TokenStream.ofSource "-1.5e+").read.1.kind = .float ∧
      (TokenStream.ofSource "-150E-002").read.1.kind = .float ∧
      ∃ double, (parse "-1.5e+" none).result = .ok (some (.float double)) ∧
        (parse "-150E-002" none).result = .ok (some (.float double)) ∧
        Rounds .negative (3 / 2) double.toModel.unpack ∧ double.isNaN = false := by
  have kind : (TokenStream.ofSource "-1.5e+").read.1.kind = .float := by decide +kernel
  have kind' : (TokenStream.ofSource "-150E-002").read.1.kind = .float := by decide +kernel
  have made : literal? (TokenStream.ofSource "-1.5e+").read.1.text.toList =
      some "-1.5".toList := by decide +kernel
  have made' : literal? (TokenStream.ofSource "-150E-002").read.1.text.toList =
      some "-150E-002".toList := by decide +kernel
  have means : LiteralMeans "-1.5".toList true (3 / 2) :=
    literalMeans_iff.mpr ⟨⟨true, 15, -1⟩, by decide +kernel, rfl, by norm_num [magnitude]⟩
  have means' : LiteralMeans "-150E-002".toList true (3 / 2) :=
    literalMeans_iff.mpr ⟨⟨true, 150, -2⟩, by decide +kernel, rfl, by norm_num [magnitude]⟩
  obtain ⟨literal, negative, q, d, found, denotes, denotes₁, -, rounds, number, reads⟩ :=
    float_read_as_rounded _ kind
  obtain ⟨literal', _, _, _, found', denotes', denotes₁', -⟩ := float_read_as_rounded _ kind'
  obtain rfl := Option.some.inj (made.symm.trans found)
  obtain rfl := Option.some.inj (made'.symm.trans found')
  obtain ⟨rfl, rfl⟩ := (denotes₁ _ _).mp means
  have textMeans := (denotes _ _).mpr ⟨rfl, rfl⟩
  have textMeans' := (denotes' _ _).mpr ((denotes₁' _ _).mp means')
  refine ⟨kind, kind', d.toFloat, ?_, ?_, rounds, number⟩
  · exact congrArg Prod.fst (reads (.ofSource "-1.5e+" none) [] kind textMeans)
  · exact congrArg Prod.fst (reads (.ofSource "-150E-002" none) [] kind' textMeans')

end Sexp
