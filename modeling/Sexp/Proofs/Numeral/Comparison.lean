import Mathlib
import Sexp.Proofs.Numeral.Double

set_option autoImplicit false
set_option relaxedAutoImplicit false

/-!
# Comparison of doubles

A double stands for a number or for one of the two infinities, unless it is not a number.
`beq_iff_number` says that two doubles are equal as `==` tells if they stand for the same. So the two
zeros are equal, and what is not a number equals nothing.
-/

namespace Sexp.Double

open Float.Model (UnpackedFloat Format)
open Float.Model.UnpackedFloat

variable {sign sign' : Sign} {m : ℕ} {e : ℤ} {q q' : ℚ} {x y : Float}

/-- The numbers and the two infinities. -/
inductive Extended where
  | finite (q : ℚ)
  | infinity (sign : Sign)

def signed : Sign → ℚ → ℚ
  | .positive, q => q
  | .negative, q => -q

/-- What a double stands for, if it is a number. -/
def numberOf : UnpackedFloat → Option Extended
  | .notANumber => none
  | .infinity sign => some (.infinity sign)
  | .zero _ => some (.finite 0)
  | .finite sign m e _ => some (.finite (signed sign (value m e)))

def number? (x : Float) : Option Extended := numberOf x.toModel.unpack

theorem number?_eq_none_iff : number? x = none ↔ x.isNaN = true := by
  show numberOf x.toModel.unpack = none ↔ x.toModel.unpack.isNaN = true
  cases x.toModel.unpack with
  | notANumber => exact iff_of_true rfl rfl
  | infinity _ | zero _ | finite _ _ _ _ => exact iff_of_false nofun nofun

/-- The mantissa is canonical, if there is one. -/
private def Canonical : UnpackedFloat → Prop
  | .finite _ m e _ => IsCanonical m e
  | _ => True

private theorem canonical_unpack (x : Float) : Canonical x.toModel.unpack := by
  show Canonical (unpack Format.binary64 x.toModel.toBits.toBitVec)
  generalize x.toModel.toBits.toBitVec = bits
  have bias : Format.binary64.exponentBias = 1023 := rfl
  have few : (@unpackMantissa Format.binary64 bits).toNat < 2 ^ 52 := BitVec.isLt _
  unfold unpack
  simp only [bias]
  split
  · split <;> exact trivial
  · split
    · rename_i subnormal
      split
      · exact trivial
      · rw [subnormal]
        exact ⟨by omega, le_rfl, fun above => absurd above (lt_irrefl _)⟩
    · rename_i normal
      have stored : (@unpackExponent Format.binary64 bits).toNat ≠ 0 :=
        fun zero => normal (BitVec.eq_of_toNat_eq zero)
      have first : (1#1).toNat <<< Format.binary64.mantissaBitsWithoutImplicit = 2 ^ 52 := rfl
      have mantissa : (1#1 ++ @unpackMantissa Format.binary64 bits).toNat =
          2 ^ 52 + (@unpackMantissa Format.binary64 bits).toNat := by
        rw [BitVec.toNat_append, ← Nat.shiftLeft_add_eq_or_of_lt (BitVec.isLt _), first]
      refine ⟨by omega, ?_, fun _ => by omega⟩
      push_cast
      omega

private theorem value_pos (positive : 0 < m) : 0 < value m e :=
  mul_pos (Nat.cast_pos.mpr positive) (zpow_pos (by norm_num) e)

private theorem signed_ne_zero (positive : 0 < q) : signed sign q ≠ 0 := by
  cases sign with
  | positive => exact positive.ne'
  | negative => exact neg_ne_zero.mpr positive.ne'

private theorem signed_inj (positive : 0 < q) (positive' : 0 < q')
    (same : signed sign q = signed sign' q') : sign = sign' ∧ q = q' := by
  cases sign <;> cases sign' <;> simp only [signed] at same
  · exact ⟨rfl, neg_inj.mp same⟩
  · linarith
  · linarith
  · exact ⟨rfl, same⟩

private theorem eq_or_zeros_of_numberOf {f f' : UnpackedFloat} {number : Extended}
    (canonical : Canonical f) (canonical' : Canonical f') (found : numberOf f = some number)
    (found' : numberOf f' = some number) :
    f = f' ∨ (∃ sign, f = .zero sign) ∧ ∃ sign, f' = .zero sign := by
  rw [← found'] at found
  cases f with
  | notANumber =>
    rw [← found] at found'
    cases found'
  | infinity sign =>
    cases f' with
    | infinity sign' =>
      cases found
      exact .inl rfl
    | _ => cases found
  | zero sign =>
    cases f' with
    | zero sign' => exact .inr ⟨⟨sign, rfl⟩, ⟨sign', rfl⟩⟩
    | finite sign' m' e' positive' =>
      injection found with found
      injection found with same
      exact absurd same.symm (signed_ne_zero (value_pos positive'))
    | _ => cases found
  | finite sign m e positive =>
    cases f' with
    | zero sign' =>
      injection found with found
      injection found with same
      exact absurd same (signed_ne_zero (value_pos positive))
    | finite sign' m' e' positive' =>
      injection found with found
      injection found with same
      obtain ⟨rfl, values⟩ := signed_inj (value_pos positive) (value_pos positive') same
      obtain ⟨rfl, rfl⟩ := IsCanonical.unique canonical canonical' values
      exact .inl rfl
    | _ => cases found

private theorem beq_zeros (sign sign' : Sign) :
    (UnpackedFloat.zero sign).beq (UnpackedFloat.zero sign') = true := by
  cases sign <;> cases sign' <;> rfl

/-- Two doubles are equal if they are numbers, and the same number. -/
theorem beq_iff_number : (x == y) = true ↔ ∃ n, number? x = some n ∧ number? y = some n := by
  have canonical := canonical_unpack x
  have canonical' := canonical_unpack y
  show x.toModel.unpack.beq y.toModel.unpack = true ↔
    ∃ n, numberOf x.toModel.unpack = some n ∧ numberOf y.toModel.unpack = some n
  generalize x.toModel.unpack = f, y.toModel.unpack = f' at canonical canonical' ⊢
  constructor
  · intro equal
    obtain ⟨number, -, same⟩ := (beq_iff_ne_notANumber_and_eq f f').mp equal
    rcases same with rfl | ⟨rfl, rfl⟩ | ⟨rfl, rfl⟩
    · cases f with
      | notANumber => exact absurd rfl number
      | infinity _ | zero _ | finite _ _ _ _ => exact ⟨_, rfl, rfl⟩
    · exact ⟨.finite 0, rfl, rfl⟩
    · exact ⟨.finite 0, rfl, rfl⟩
  · rintro ⟨n, found, found'⟩
    rcases eq_or_zeros_of_numberOf canonical canonical' found found' with
      rfl | ⟨⟨sign, rfl⟩, ⟨sign', rfl⟩⟩
    · have number : f ≠ .notANumber := by
        rintro rfl
        cases found
      exact (beq_iff_ne_notANumber_and_eq f f).mpr ⟨number, number, .inl rfl⟩
    · exact beq_zeros sign sign'

end Sexp.Double
