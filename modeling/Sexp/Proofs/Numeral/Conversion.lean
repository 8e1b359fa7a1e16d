import Sexp.Proofs.Numeral.Literal
import Sexp.Proofs.Numeral.Rounding

set_option autoImplicit false
set_option relaxedAutoImplicit false

/-!
# Decimals as doubles

The double of a decimal is the one that its number is rounded to (`Decimal.rounds_toFloat`). So it
depends on the sign and on the number only, not on the digits and the exponent that make it
(`Decimal.toFloat_eq`).
-/

namespace Sexp.Double

open Float.Model (UnpackedFloat Format totalExponent)
open Float.Model.UnpackedFloat

variable {sign : Sign} {m : ℕ} {q : ℚ} {f : UnpackedFloat}

private theorem holds_div (n : ℕ) {d : ℕ} (positive : 0 < d) :
    Holds (n / d) (.ofMantissaAndAccuracy (n / d) (accuracyOfFraction (n % d) d)) := by
  have divisor : (0 : ℚ) < d := by exact_mod_cast positive
  have parts : (n : ℚ) / d = (n / d : ℕ) + ((n % d : ℕ) : ℚ) / d := by
    have whole : (n : ℚ) = d * (n / d : ℕ) + (n % d : ℕ) := by
      exact_mod_cast (Nat.div_add_mod n d).symm
    conv_lhs => rw [whole]
    field_simp
  have less : ((n % d : ℕ) : ℚ) < d := by exact_mod_cast Nat.mod_lt n positive
  rw [parts]
  generalize n % d = r at less ⊢
  by_cases none : r = 0
  · rw [none, accuracyOfFraction, if_pos rfl, Nat.cast_zero, zero_div, add_zero]
    rfl
  · have some : (0 : ℚ) < r / d := div_pos (by exact_mod_cast Nat.pos_of_ne_zero none) divisor
    have below : (r : ℚ) / d < 1 := (div_lt_one divisor).mpr less
    rw [accuracyOfFraction, if_neg none]
    cases order : compare (2 * r) d with
    | lt =>
      have half : (2 : ℚ) * r < d := by exact_mod_cast Nat.compare_eq_lt.mp order
      have side : (r : ℚ) / d < 1 / 2 := by
        rw [div_lt_iff₀ divisor]
        linarith
      exact ⟨by linarith, by linarith⟩
    | eq =>
      have half : (2 : ℚ) * r = d := by exact_mod_cast Nat.compare_eq_eq.mp order
      have side : (r : ℚ) / d = 1 / 2 := by
        rw [div_eq_iff divisor.ne']
        linarith
      simp only [ExtendedMantissa.ofMantissaAndAccuracy, Holds, side]
    | gt =>
      have half : (d : ℚ) < 2 * r := by exact_mod_cast Nat.compare_eq_gt.mp order
      have side : 1 / 2 < (r : ℚ) / d := by
        rw [lt_div_iff₀ divisor]
        linarith
      exact ⟨by linarith, by linarith⟩

private theorem enough_of_div {d k : ℕ} (positive : 0 < m) (divisor : 0 < d)
    (shift : 53 + d.log2 ≤ m.log2 + k) : 52 ≤ (m <<< k / d).log2 := by
  have lower : 2 ^ (53 + d.log2) ≤ m * 2 ^ k :=
    calc 2 ^ (53 + d.log2) ≤ 2 ^ (m.log2 + k) := Nat.pow_le_pow_right (by decide) shift
      _ = 2 ^ m.log2 * 2 ^ k := pow_add _ _ _
      _ ≤ m * 2 ^ k := Nat.mul_le_mul_right _ (Nat.log2_self_le positive.ne')
  have upper : 2 ^ 52 * d ≤ 2 ^ (53 + d.log2) :=
    calc 2 ^ 52 * d ≤ 2 ^ 52 * 2 ^ (d.log2 + 1) := Nat.mul_le_mul_left _ Nat.lt_log2_self.le
      _ = 2 ^ (53 + d.log2) := by
        rw [← pow_add]
        congr 1
        omega
  have quotient : 2 ^ 52 ≤ m <<< k / d := by
    rw [Nat.shiftLeft_eq, Nat.le_div_iff_mul_le divisor]
    exact upper.trans lower
  exact (Nat.le_log2 (by omega)).mpr quotient

private theorem rounds_div (positive : 0 < m) {d : ℕ} (divisor : 0 < d) :
    Rounds .positive (m / d) (Float.Model.pack (div Format.binary64
      (.finite .positive m 0 positive) (.finite .positive d 0 divisor))).unpack := by
  let T : ℤ := min 0 (max ((m.log2 : ℤ) - d.log2 - 53) (-1074))
  let k := (-T).toNat
  have exponent : T = -k := by omega
  have target : Format.binary64.targetExponent (totalExponent m 0 - totalExponent d 0) =
      max ((m.log2 : ℤ) - d.log2 - 53) (-1074) := by
    have bits : (Format.binary64.mantissaBits : ℤ) = 53 := rfl
    have least : Format.binary64.minExponent = -1074 := rfl
    rw [Format.targetExponent, totalExponent, totalExponent, bits, least]
    congr 1
    ring
  have result : div Format.binary64 (.finite .positive m 0 positive)
      (.finite .positive d 0 divisor) = roundWithAccuracy Format.binary64 .positive
        (m <<< k / d) T (accuracyOfFraction (m <<< k % d) d) := by
    simp only [div, divCore, target, sub_zero, zero_sub]
    rfl
  have enough : 52 ≤ (m <<< k / d).log2 ∨ T ≤ -1074 := by
    rcases le_or_gt T (-1074) with least | above
    · exact .inr least
    · exact .inl (enough_of_div positive divisor (by omega))
  have scaled : (m : ℚ) / d = (m <<< k : ℕ) / d * 2 ^ T := by
    rw [exponent, zpow_neg, zpow_natCast, Nat.shiftLeft_eq]
    push_cast
    field_simp
  rw [result, scaled]
  exact rounds_roundWithAccuracy (holds_div _ divisor) enough

private theorem rounds_mul (positive : 0 < m <<< 53) {n : ℕ} (factor : 0 < n) :
    Rounds .positive (m * n) (Float.Model.pack (mul Format.binary64
      (.finite .positive (m <<< 53) (-53) positive) (.finite .positive n 0 factor))).unpack := by
  have product : 2 ^ 52 ≤ m <<< 53 * n := by
    rw [Nat.shiftLeft_eq] at positive ⊢
    have some : 1 ≤ m * n := Nat.mul_pos (Nat.pos_of_mul_pos_right positive) factor
    rw [Nat.mul_right_comm]
    omega
  have scaled : (m * n : ℚ) = (m <<< 53 * n : ℕ) * 2 ^ (-53 + 0 : ℤ) := by
    rw [add_zero, zpow_neg, Nat.shiftLeft_eq]
    push_cast
    field_simp
  rw [scaled]
  exact rounds_roundWithAccuracy rfl (.inl ((Nat.le_log2 (by omega)).mpr product))

private theorem rounds_zero (nonneg : 0 ≤ q) (little : q ≤ 2 ^ (-1075 : ℤ)) :
    Rounds sign q (.zero sign) := by
  have scaled : q = q * 2 ^ (1074 : ℤ) * 2 ^ (-1074 : ℤ) := by
    rw [mul_assoc, ← zpow_add₀ (by norm_num), add_neg_cancel, zpow_zero, mul_one]
  have half : |((0 : ℕ) : ℚ) - q * 2 ^ (1074 : ℤ)| ≤ 1 / 2 := by
    rw [Nat.cast_zero, zero_sub, abs_neg, abs_of_nonneg (by positivity)]
    calc q * 2 ^ (1074 : ℤ) ≤ 2 ^ (-1075 : ℤ) * 2 ^ (1074 : ℤ) :=
          mul_le_mul_of_nonneg_right little (by positivity)
      _ = 1 / 2 := by
        rw [← zpow_add₀ (by norm_num)]
        norm_num
  have nearest : Nearest q 0 (-1074) := by
    rw [scaled]
    exact nearest_of_grid half (fun _ => rfl) (fun above => absurd above (lt_irrefl _))
  exact .zero (nearest.lt_overflow (by decide) (by decide)) nearest

variable {digits : ℕ} {k : ℤ}

private theorem overflow_le_of_large (positive : 0 < digits) (large : 2048 < k) :
    overflow ≤ digits * 10 ^ k := by
  have atLeast : (1 : ℚ) ≤ digits := by exact_mod_cast positive
  calc overflow ≤ 2 ^ 1024 := sub_le_self _ (by positivity)
    _ ≤ 10 ^ 1024 := pow_le_pow_left₀ (by norm_num) (by norm_num) _
    _ = 10 ^ (1024 : ℤ) := (zpow_ofNat _ _).symm
    _ ≤ 10 ^ k := zpow_le_zpow_right₀ (by norm_num) (by omega)
    _ ≤ digits * 10 ^ k := le_mul_of_one_le_left (by positivity) atLeast

private theorem le_of_small (small : k < -(2048 + digits.log2)) :
    (digits * 10 ^ k : ℚ) ≤ 2 ^ (-1075 : ℤ) := by
  have base : (10 : ℚ) ^ k ≤ 2 ^ k := by
    obtain ⟨n, rfl⟩ := Int.exists_eq_neg_ofNat (by omega : k ≤ 0)
    rw [zpow_neg, zpow_neg, zpow_natCast, zpow_natCast]
    exact inv_anti₀ (by positivity) (pow_le_pow_left₀ (by norm_num) (by norm_num) _)
  have bits : (digits : ℚ) ≤ 2 ^ (digits.log2 + 1) := by
    exact_mod_cast (Nat.lt_log2_self (n := digits)).le
  calc (digits * 10 ^ k : ℚ) ≤ 2 ^ (digits.log2 + 1) * 2 ^ k :=
        mul_le_mul bits base (by positivity) (by positivity)
    _ = 2 ^ ((digits.log2 + 1 : ℕ) + k) := by rw [zpow_add₀ (by norm_num), zpow_natCast]
    _ ≤ 2 ^ (-1075 : ℤ) := zpow_le_zpow_right₀ (by norm_num) (by omega)

theorem rounds_ofScientific (digits : ℕ) (k : ℤ) :
    Rounds .positive (digits * 10 ^ k) (Float.Model.ofScientific digits k).unpack := by
  have stored {f : UnpackedFloat} (rounds : Rounds .positive (digits * 10 ^ k) f) :
      Rounds .positive (digits * 10 ^ k) (Float.Model.pack f).unpack := by
    rw [rounds.unpack_pack]
    exact rounds
  have capacity : (2 : ℤ) ^ Format.binary64.exponentBits = 2048 := rfl
  rw [Float.Model.ofScientific, ofScientific, capacity]
  split
  · rename_i none
    apply stored
    rw [none, Nat.cast_zero, zero_mul]
    exact rounds_zero le_rfl (by positivity)
  rename_i some
  have positive := Nat.pos_of_ne_zero some
  split
  · rename_i large
    exact stored (.infinity (overflow_le_of_large positive large))
  rename_i within
  split
  · rename_i small
    exact stored (rounds_zero (by positivity) (le_of_small small))
  split
  · rename_i whole
    obtain ⟨n, rfl⟩ := Int.eq_ofNat_of_zero_le whole
    have power : ((10 ^ n : ℕ) : ℚ) = 10 ^ (n : ℤ) := by
      rw [zpow_natCast]
      norm_cast
    rw [← power]
    exact rounds_mul _ _
  · rename_i fraction
    obtain ⟨n, rfl⟩ := Int.exists_eq_neg_ofNat (by omega : k ≤ 0)
    have power : (digits * 10 ^ (-n : ℤ) : ℚ) = digits / (10 ^ n : ℕ) := by
      rw [zpow_neg, zpow_natCast, div_eq_mul_inv]
      norm_cast
    rw [power]
    simp only [neg_neg, Int.toNat_natCast]
    exact rounds_div _ _

theorem Rounds.neg (rounds : Rounds sign q f) : Rounds (-sign) q f.neg := by
  cases rounds with
  | infinity large => exact .infinity large
  | zero within nearest => exact .zero within nearest
  | finite positive within finite nearest => exact .finite positive within finite nearest

theorem Rounds.isNaN_eq_false (rounds : Rounds sign q f) : f.isNaN = false := by
  cases rounds <;> rfl

end Sexp.Double

namespace Sexp.Decimal

open Double (Rounds)
open Float.Model.UnpackedFloat (Sign unpack_inj_of_valid)

private theorem value_lowestTerms (digits : ℕ) (k : ℤ) :
    ((lowestTerms digits k).1 * 10 ^ (lowestTerms digits k).2 : ℚ) = digits * 10 ^ k := by
  fun_induction lowestTerms digits k with
  | case1 _ => simp
  | case2 digits k _ last ih =>
    have tens : (digits : ℚ) = 10 * (digits / 10 : ℕ) := by
      exact_mod_cast (Nat.mul_div_cancel' (Nat.dvd_of_mod_eq_zero last)).symm
    rw [ih, tens, zpow_add_one₀ (by norm_num)]
    ring
  | case3 => rfl

/-- The sign of a number, which zero has as well. -/
def signOf (negative : Bool) : Sign := if negative then .negative else .positive

/-- The double of a decimal is the one that its number is rounded to. -/
theorem rounds_toFloat (d : Decimal) :
    Rounds (signOf d.negative) d.magnitude d.toFloat.toModel.unpack := by
  have rounds := Double.rounds_ofScientific (lowestTerms d.digits d.exponent).1
    (lowestTerms d.digits d.exponent).2
  rw [value_lowestTerms] at rounds
  cases sign : d.negative with
  | false =>
    simp only [toFloat, sign]
    exact rounds
  | true =>
    have negated := rounds.neg
    rw [← negated.unpack_pack] at negated
    simp only [toFloat, sign]
    exact negated

theorem toFloat_eq {d d' : Decimal} (sign : d.negative = d'.negative)
    (number : d.magnitude = d'.magnitude) : d.toFloat = d'.toFloat := by
  have rounds := rounds_toFloat d'
  rw [← sign, ← number] at rounds
  have bits := (unpack_inj_of_valid d.toFloat.toModel.valid d'.toFloat.toModel.valid).mp
    ((rounds_toFloat d).unique rounds)
  exact Float.toBits_inj.mp (UInt64.toBitVec_inj.mp bits)

end Sexp.Decimal
