import Mathlib
import Sexp.Proofs.Numeral.Double

set_option autoImplicit false
set_option relaxedAutoImplicit false

/-!
# Rounding of long mantissas

Conversions to doubles end by rounding a mantissa of many bits to 53 of them, where two further bits
stand for all that have been cut off, and by storing the result in 64 bits.
`rounds_roundWithAccuracy` says that this gives the double that `Rounds` asks for.
-/

namespace Sexp.Double

open Float.Model (UnpackedFloat Format totalExponent)
open Float.Model.UnpackedFloat

/-- A number lies at a mantissa, or behind it as its two further bits say: less than one half, one
half, or more. -/
def Holds (x : ℚ) : ExtendedMantissa → Prop
  | ⟨m, false, false⟩ => x = m
  | ⟨m, false, true⟩ => m < x ∧ x < m + 1 / 2
  | ⟨m, true, false⟩ => x = m + 1 / 2
  | ⟨m, true, true⟩ => m + 1 / 2 < x ∧ x < m + 1

namespace Holds

variable {x : ℚ} {em : ExtendedMantissa}

theorem bounds (holds : Holds x em) : em.mantissa ≤ x ∧ x < em.mantissa + 1 := by
  obtain ⟨m, roundBit, stickyBit⟩ := em
  cases roundBit <;> cases stickyBit <;> simp only [Holds] at holds ⊢ <;> constructor <;> linarith

theorem shiftRightOne (holds : Holds x em) : Holds (x / 2) em.shiftRightOne := by
  obtain ⟨m, roundBit, stickyBit⟩ := em
  have whole : (m : ℚ) = 2 * (m / 2 : ℕ) + (m % 2 : ℕ) := by
    exact_mod_cast (Nat.div_add_mod m 2).symm
  have one : ((1 : ℕ) != 0) = true := rfl
  rcases Nat.mod_two_eq_zero_or_one m with bit | bit <;> rw [bit] at whole <;>
    cases roundBit <;> cases stickyBit <;>
    simp only [Holds, ExtendedMantissa.shiftRightOne, bit, bne_self_eq_false, one, Bool.or_false,
      Bool.or_true, Nat.cast_zero, Nat.cast_one] at holds whole ⊢ <;>
    first | linarith | (constructor <;> linarith)

theorem shiftRight (holds : Holds x em) (n : ℕ) : Holds (x / 2 ^ n) (em >>> n) := by
  induction n with
  | zero =>
    rw [pow_zero, div_one]
    exact holds
  | succ n ih =>
    have shifted := ih.shiftRightOne
    rw [div_div, ← pow_succ] at shifted
    exact shifted

theorem rounded (holds : Holds x em) :
    |(em.roundedMantissa : ℚ) - x| ≤ 1 / 2 ∧
      (|(em.roundedMantissa : ℚ) - x| = 1 / 2 → em.roundedMantissa % 2 = 0) := by
  obtain ⟨m, roundBit, stickyBit⟩ := em
  cases roundBit with
  | false =>
    -- Less than one half is dropped.
    have near : |(m : ℚ) - x| < 1 / 2 := by
      rw [abs_lt]
      cases stickyBit <;> simp only [Holds] at holds <;> constructor <;> linarith
    cases stickyBit <;> exact ⟨near.le, fun tie => absurd tie near.ne⟩
  | true =>
    cases stickyBit with
    | false =>
      have near : |((m + m % 2 : ℕ) : ℚ) - x| ≤ 1 / 2 := by
        simp only [Holds] at holds
        rcases Nat.mod_two_eq_zero_or_one m with bit | bit <;> rw [bit, abs_le] <;> push_cast <;>
          constructor <;> linarith
      have even : (m + m % 2) % 2 = 0 := by omega
      exact ⟨near, fun _ => even⟩
    | true =>
      have near : |((m + 1 : ℕ) : ℚ) - x| < 1 / 2 := by
        simp only [Holds] at holds
        push_cast
        rw [abs_lt]
        constructor <;> linarith
      exact ⟨near.le, fun tie => absurd tie near.ne⟩

theorem rounded_bounds (em : ExtendedMantissa) :
    em.mantissa ≤ em.roundedMantissa ∧ em.roundedMantissa ≤ em.mantissa + 1 := by
  obtain ⟨m, roundBit, stickyBit⟩ := em
  cases roundBit <;> cases stickyBit <;>
    simp only [ExtendedMantissa.roundedMantissa, ExtendedMantissa.accuracy,
      Accuracy.roundToNearestEven] <;> omega

end Holds

theorem mantissa_shiftRight (em : ExtendedMantissa) (n : ℕ) :
    (em >>> n).mantissa = em.mantissa / 2 ^ n := by
  induction n with
  | zero => exact (Nat.div_one _).symm
  | succ n ih =>
    have step : (em >>> (n + 1)).mantissa = (em >>> n).mantissa / 2 := rfl
    rw [step, ih, Nat.div_div_eq_div_mul, pow_succ]

/-- A mantissa and an exponent with a sign; a mantissa of zero makes a zero. -/
def ofParts (sign : Sign) (m : ℕ) (e : ℤ) : UnpackedFloat :=
  if h : m = 0 then .zero sign else .finite sign m e (Nat.pos_of_ne_zero h)

variable {sign : Sign} {m : ℕ} {e : ℤ} {accuracy : Accuracy} {x q : ℚ} {f : UnpackedFloat}

theorem targetExponent_eq (m : ℕ) (e : ℤ) :
    Format.binary64.targetExponent (totalExponent m e) = max (m.log2 + e - 52) (-1074) := by
  have bits : (Format.binary64.mantissaBits : ℤ) = 53 := rfl
  have least : Format.binary64.minExponent = -1074 := rfl
  rw [Format.targetExponent, totalExponent, bits, least]
  congr 1
  ring

private theorem shift_few (few : m < 2 ^ 53) (least : -1074 ≤ e) :
    shiftToTargetExponent Format.binary64 m e .exact = (⟨m, false, false⟩, e) := by
  have log : m.log2 ≤ 52 := by
    rcases Nat.eq_zero_or_pos m with rfl | positive
    · decide
    · exact Nat.le_of_lt_succ ((Nat.log2_lt positive.ne').mpr few)
  have none : (max (m.log2 + e - 52) (-1074) - e).toNat = 0 := by omega
  simp only [shiftToTargetExponent, shiftToExponent, targetExponent_eq, none]
  exact Prod.ext rfl (Int.add_zero e)

private theorem shift_carry (least : -1074 ≤ e) :
    shiftToTargetExponent Format.binary64 (2 ^ 53) e .exact = (⟨2 ^ 52, false, false⟩, e + 1) := by
  have one : (max ((2 ^ 53).log2 + e - 52) (-1074) - e).toNat = 1 := by
    rw [Nat.log2_two_pow]
    omega
  simp only [shiftToTargetExponent, shiftToExponent, targetExponent_eq, one]
  rfl

private theorem roundWithAccuracy_of_shift {kept : ExtendedMantissa} {m' : ℕ} {e' e'' : ℤ}
    (first : shiftToTargetExponent Format.binary64 m e accuracy = (kept, e'))
    (second : shiftToTargetExponent Format.binary64 kept.roundedMantissa e' .exact =
      (⟨m', false, false⟩, e'')) :
    roundWithAccuracy Format.binary64 sign m e accuracy = ofParts sign m' e'' := by
  simp only [roundWithAccuracy, first, second, ofParts]

private theorem mantissa_ofMantissaAndAccuracy :
    (ExtendedMantissa.ofMantissaAndAccuracy m accuracy).mantissa = m := by
  cases accuracy with
  | exact => rfl
  | inexact order => cases order <;> rfl

private theorem div_pow_lt {k : ℕ} (log : m.log2 ≤ 52 + k) : m / 2 ^ k < 2 ^ 53 := by
  rw [Nat.div_lt_iff_lt_mul (Nat.two_pow_pos k), ← pow_add]
  exact Nat.lt_of_lt_of_le Nat.lt_log2_self (Nat.pow_le_pow_right (by decide) (by omega))

private theorem le_div_pow {k : ℕ} (log : m.log2 = 52 + k) : 2 ^ 52 ≤ m / 2 ^ k := by
  rw [Nat.le_div_iff_mul_le (Nat.two_pow_pos k), ← pow_add, ← log]
  apply Nat.log2_self_le
  rintro rfl
  rw [Nat.log2_zero] at log
  omega

/-- A mantissa that is long enough is rounded to the nearest number of 53 bits. -/
theorem roundWithAccuracy_eq (holds : Holds x (.ofMantissaAndAccuracy m accuracy))
    (enough : 52 ≤ m.log2 ∨ e ≤ -1074) :
    ∃ m' e', roundWithAccuracy Format.binary64 sign m e accuracy = ofParts sign m' e' ∧
      IsCanonical m' e' ∧ Nearest (x * 2 ^ e) m' e' := by
  let k := (max (m.log2 + e - 52) (-1074) - e).toNat
  let kept := ExtendedMantissa.ofMantissaAndAccuracy m accuracy >>> k
  have target : e + k = max (m.log2 + e - 52) (-1074) := by omega
  have first : shiftToTargetExponent Format.binary64 m e accuracy = (kept, e + k) := by
    simp only [shiftToTargetExponent, shiftToExponent, targetExponent_eq]
    rfl
  have mantissa : kept.mantissa = m / 2 ^ k := by
    rw [mantissa_shiftRight, mantissa_ofMantissaAndAccuracy]
  have few : m / 2 ^ k < 2 ^ 53 := div_pow_lt (by omega)
  have used : -1074 < e + k → 2 ^ 52 ≤ m / 2 ^ k := fun above => le_div_pow (by omega)
  have held : Holds (x / 2 ^ k) kept := holds.shiftRight k
  have scaled : x * 2 ^ e = x / 2 ^ k * 2 ^ (e + k) := by
    rw [zpow_add₀ (by norm_num), zpow_natCast]
    field_simp
  have nearest : Nearest (x * 2 ^ e) kept.roundedMantissa (e + k) := by
    obtain ⟨half, tie⟩ := held.rounded
    rw [scaled]
    apply nearest_of_grid half tie
    intro above
    have least := used above
    rw [← mantissa] at least
    have least' : (2 : ℚ) ^ 52 ≤ kept.mantissa := by exact_mod_cast least
    exact least'.trans held.bounds.1
  obtain ⟨lower, upper⟩ := Holds.rounded_bounds kept
  rw [mantissa] at lower upper
  rcases (show kept.roundedMantissa ≤ 2 ^ 53 by omega).lt_or_eq with less | carry
  · refine ⟨kept.roundedMantissa, e + k, ?_, ⟨less, by omega, ?_⟩, nearest⟩
    · exact roundWithAccuracy_of_shift first (shift_few less (by omega))
    · exact fun above => (used above).trans lower
  · rw [carry] at nearest
    refine ⟨2 ^ 52, e + k + 1, ?_, ⟨by decide, by omega, fun _ => le_rfl⟩, nearest.carry⟩
    apply roundWithAccuracy_of_shift first
    rw [carry]
    exact shift_carry (by omega)

private theorem unpack_normal {biased : ℕ} (positive : 0 < m) (used : 2 ^ 52 ≤ m) (few : m < 2 ^ 53)
    (least : 1 ≤ biased) (greatest : biased ≤ 2046) :
    unpack Format.binary64
        (packComponents Format.binary64 sign (BitVec.ofNat 11 biased) (BitVec.ofNat 52 m)) =
      .finite sign m (biased - 1075) positive := by
  have exponent : (BitVec.ofNat 11 biased).toNat = biased := by
    rw [BitVec.toNat_ofNat, Nat.mod_eq_of_lt (by omega)]
  have finite : BitVec.ofNat 11 biased ≠ -1#11 := by
    intro same
    rw [same] at exponent
    simp only [BitVec.toNat_neg, BitVec.toNat_ofNat] at exponent
    omega
  have normal : BitVec.ofNat 11 biased ≠ 0#11 := by
    intro same
    rw [same, BitVec.toNat_ofNat] at exponent
    omega
  have mantissa : (1#1 ++ BitVec.ofNat 52 m).toNat = m := by
    rw [BitVec.toNat_append, ← Nat.shiftLeft_add_eq_or_of_lt (BitVec.isLt _), BitVec.toNat_ofNat,
      BitVec.toNat_ofNat, Nat.shiftLeft_eq]
    omega
  have bias : Format.binary64.exponentBias = 1023 := rfl
  simp only [unpack, unpackSign_packComponents, unpackExponent_packComponents,
    unpackMantissa_packComponents, Sign.ofBitVec_toBitVec, if_neg finite, if_neg normal, mantissa,
    bias, exponent]
  rfl

private theorem unpack_subnormal (positive : 0 < m) (few : m < 2 ^ 52) :
    unpack Format.binary64 (packComponents Format.binary64 sign 0#11 (BitVec.ofNat 52 m)) =
      .finite sign m (-1074) positive := by
  have mantissa : (BitVec.ofNat 52 m).toNat = m := by
    rw [BitVec.toNat_ofNat, Nat.mod_eq_of_lt few]
  have present : BitVec.ofNat 52 m ≠ 0#52 := by
    intro none
    rw [none] at mantissa
    exact positive.ne mantissa
  have finite : (0#11) ≠ -1#11 := by decide
  have bias : Format.binary64.exponentBias = 1023 := rfl
  simp only [unpack, unpackSign_packComponents, unpackExponent_packComponents,
    unpackMantissa_packComponents, Sign.ofBitVec_toBitVec, if_neg finite, dif_neg present, mantissa,
    bias, if_pos]
  rfl

private theorem unpack_pack_of_isFinite (positive : 0 < m) (finite : IsFinite m e) :
    (Float.Model.pack (.finite sign m e positive)).unpack = .finite sign m e positive := by
  have bias : Format.binary64.exponentBias = 1023 := rfl
  have bits : Format.binary64.mantissaBits = 53 := rfl
  have least := finite.least_le
  have greatest := finite.le_greatest
  have inRange : ¬ 2 ^ 11 ≤ (e + 1023 + 52).toNat + 1 := by omega
  change unpack Format.binary64 (pack Format.binary64 (.finite sign m e positive)) = _
  by_cases used : 2 ^ 52 ≤ m
  · have log : m.log2 + 1 = 53 := by
      rw [(Nat.log2_eq_iff positive.ne').mpr ⟨used, finite.lt⟩]
    have exponent : ((e + 1023 + 52).toNat : ℤ) - 1075 = e := by omega
    simp only [pack, bias, bits, log, Nat.cast_ofNat, if_neg inRange, if_pos]
    rw [unpack_normal positive used finite.lt (by omega) (by omega)]
    simp only [exponent]
  · have log : ¬ m.log2 + 1 = 53 := by
      have few := (Nat.log2_lt positive.ne').mpr (Nat.lt_of_not_le used)
      omega
    obtain rfl : e = -1074 := by
      by_contra above
      exact used (finite.normal (by omega))
    simp only [pack, bias, bits, Nat.cast_ofNat, if_neg inRange, if_neg log]
    exact unpack_subnormal positive (Nat.lt_of_not_le used)

theorem Rounds.unpack_pack (rounds : Rounds sign q f) : (Float.Model.pack f).unpack = f := by
  cases rounds with
  | infinity _ => cases sign <;> rfl
  | zero _ _ => cases sign <;> rfl
  | finite positive _ isFinite _ => exact unpack_pack_of_isFinite positive isFinite

private theorem pack_of_beyond (positive : 0 < m) (beyond : 972 ≤ e) :
    (Float.Model.pack (.finite sign m e positive)).unpack = .infinity sign := by
  have bias : Format.binary64.exponentBias = 1023 := rfl
  have outOfRange : 2 ^ 11 ≤ (e + 1023 + 52).toNat + 1 := by omega
  change unpack Format.binary64 (pack Format.binary64 (.finite sign m e positive)) = _
  simp only [pack, bias, Nat.cast_ofNat, if_pos outOfRange]
  cases sign <;> rfl

theorem rounds_of_nearest (canonical : IsCanonical m e) (nearest : Nearest q m e) :
    Rounds sign q (Float.Model.pack (ofParts sign m e)).unpack := by
  by_cases none : m = 0
  · subst none
    obtain rfl : e = -1074 := by
      by_contra other
      have least := canonical.least_le
      exact absurd (canonical.normal (by omega)) (by decide)
    have rounds : Rounds sign q (.zero sign) :=
      .zero (nearest.lt_overflow (by decide) (by decide)) nearest
    rw [ofParts, dif_pos rfl, rounds.unpack_pack]
    exact rounds
  · have positive := Nat.pos_of_ne_zero none
    rw [ofParts, dif_neg none]
    rcases le_or_gt e 971 with within | beyond
    · have rounds : Rounds sign q (.finite sign m e positive) :=
        .finite positive (nearest.lt_overflow canonical.lt within) ⟨canonical, within⟩ nearest
      rw [rounds.unpack_pack]
      exact rounds
    · rw [pack_of_beyond positive (by omega)]
      exact .infinity (nearest.overflow_le (canonical.normal (by omega)) (by omega))

theorem rounds_roundWithAccuracy (holds : Holds x (.ofMantissaAndAccuracy m accuracy))
    (enough : 52 ≤ m.log2 ∨ e ≤ -1074) :
    Rounds sign (x * 2 ^ e)
      (Float.Model.pack (roundWithAccuracy Format.binary64 sign m e accuracy)).unpack := by
  obtain ⟨m', e', rounded, canonical, nearest⟩ := roundWithAccuracy_eq holds enough
  rw [rounded]
  exact rounds_of_nearest canonical nearest

end Sexp.Double
