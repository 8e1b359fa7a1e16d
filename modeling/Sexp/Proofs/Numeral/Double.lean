import Mathlib.Algebra.Order.Field.Rat
import Mathlib.Algebra.Order.Field.Power
import Mathlib.Tactic.FieldSimp
import Mathlib.Tactic.Linarith
import Mathlib.Tactic.Positivity
import Mathlib.Tactic.Ring

set_option autoImplicit false
set_option relaxedAutoImplicit false

/-!
# Rounding to doubles

A finite double is a mantissa of at most 53 bits times a power of two. `Rounds` says which double a
number is rounded to: the nearest one, a tie going to the even mantissa, or an infinity for numbers
that are too large. There is no more than one (`Rounds.unique`).
-/

namespace Sexp.Double

open Float.Model (UnpackedFloat Format)
open Float.Model.UnpackedFloat

/-- The number that a mantissa and an exponent make. -/
def value (m : ℕ) (e : ℤ) : ℚ := m * 2 ^ e

/-- A mantissa of 53 bits, with the first bit set unless the exponent is the least one. -/
structure IsCanonical (m : ℕ) (e : ℤ) : Prop where
  lt : m < 2 ^ 53
  least_le : -1074 ≤ e
  normal : -1074 < e → 2 ^ 52 ≤ m

/-- The mantissa and the exponent of a finite double. -/
structure IsFinite (m : ℕ) (e : ℤ) : Prop extends IsCanonical m e where
  le_greatest : e ≤ 971

/-- Every other number of 53 bits is farther from `q`, or it is as far and the mantissa is even. -/
def Nearest (q : ℚ) (m : ℕ) (e : ℤ) : Prop :=
  ∀ m' e', m' < 2 ^ 53 → -1074 ≤ e' → value m' e' ≠ value m e →
    |value m e - q| < |value m' e' - q| ∨ |value m e - q| = |value m' e' - q| ∧ m % 2 = 0

/-- From here on numbers are rounded to an infinity: halfway from the greatest finite double to the
number that would come next. -/
def overflow : ℚ := 2 ^ 1024 - 2 ^ 970

/-- The double that a number `q`, not negative, is rounded to. -/
inductive Rounds (sign : Sign) (q : ℚ) : UnpackedFloat → Prop
  | infinity : overflow ≤ q → Rounds sign q (.infinity sign)
  | zero : q < overflow → Nearest q 0 (-1074) → Rounds sign q (.zero sign)
  | finite {m : ℕ} {e : ℤ} (positive : 0 < m) : q < overflow → IsFinite m e → Nearest q m e →
      Rounds sign q (.finite sign m e positive)

variable {q z : ℚ} {m m' r : ℕ} {e e' T : ℤ}

theorem value_eq_mul (finer : T ≤ e) : value m e = (m * 2 ^ (e - T).toNat : ℕ) * 2 ^ T := by
  have exponent : e = ((e - T).toNat : ℤ) + T := by omega
  have power : (2 : ℚ) ^ e = 2 ^ (e - T).toNat * 2 ^ T := by
    conv_lhs => rw [exponent]
    rw [zpow_add₀ (by norm_num), zpow_natCast]
  rw [value, power]
  push_cast
  ring

private theorem abs_sub_scaled (a : ℚ) : |a * 2 ^ T - z * 2 ^ T| = |a - z| * 2 ^ T := by
  rw [← sub_mul, abs_mul, abs_of_pos (zpow_pos (by norm_num) T : (0 : ℚ) < 2 ^ T)]

private theorem nearer_of_le_half {n : ℕ} (half : |(r : ℚ) - z| ≤ 1 / 2)
    (tie : |(r : ℚ) - z| = 1 / 2 → r % 2 = 0) (other : n ≠ r) :
    |(r : ℚ) - z| < |(n : ℚ) - z| ∨ |(r : ℚ) - z| = |(n : ℚ) - z| ∧ r % 2 = 0 := by
  have apart : (1 : ℚ) ≤ |(n : ℚ) - r| := by
    have distinct : (1 : ℤ) ≤ |(n : ℤ) - r| := Int.one_le_abs (by omega)
    exact_mod_cast distinct
  have triangle : |(n : ℚ) - r| ≤ |(n : ℚ) - z| + |(r : ℚ) - z| := by
    rw [abs_sub_comm (r : ℚ) z]
    exact abs_sub_le _ _ _
  rcases half.lt_or_eq with less | same
  · left
    linarith
  · rcases lt_or_eq_of_le (by linarith : |(r : ℚ) - z| ≤ |(n : ℚ) - z|) with less | same'
    · exact .inl less
    · exact .inr ⟨same', tie same⟩

private theorem value_lt_of_finer (few : m < 2 ^ 53) (finer : e < T) :
    value m e < 2 ^ 52 * 2 ^ T := by
  have step : (2 : ℚ) ^ e ≤ 2 ^ (T - 1) := zpow_le_zpow_right₀ (by norm_num) (by omega)
  have half : (2 : ℚ) ^ T = 2 ^ (T - 1) * 2 := by
    rw [← zpow_add_one₀ (by norm_num), Int.sub_add_cancel]
  have bits : (m : ℚ) < 2 ^ 53 := by exact_mod_cast few
  have unit : (0 : ℚ) < 2 ^ e := zpow_pos (by norm_num) e
  calc value m e < 2 ^ 53 * 2 ^ e := mul_lt_mul_of_pos_right bits unit
    _ ≤ 2 ^ 53 * 2 ^ (T - 1) := mul_le_mul_of_nonneg_left step (by norm_num)
    _ = 2 ^ 52 * 2 ^ T := by
      rw [half]
      ring

/-- An integer within one half of `z` makes the number of 53 bits that is nearest to `z * 2 ^ T`,
provided that all 53 bits are used or that no finer grid is left. -/
theorem nearest_of_grid (half : |(r : ℚ) - z| ≤ 1 / 2) (tie : |(r : ℚ) - z| = 1 / 2 → r % 2 = 0)
    (large : -1074 < T → 2 ^ 52 ≤ z) : Nearest (z * 2 ^ T) r T := by
  have unit : (0 : ℚ) < 2 ^ T := zpow_pos (by norm_num) T
  intro m e few least other
  rcases le_or_gt T e with coarser | finer
  · rw [value_eq_mul coarser] at other ⊢
    generalize m * 2 ^ (e - T).toNat = n at other ⊢
    rw [value] at other ⊢
    have distinct : n ≠ r := by
      rintro rfl
      exact other rfl
    rw [abs_sub_scaled, abs_sub_scaled]
    rcases nearer_of_le_half half tie distinct with less | ⟨same, even⟩
    · exact .inl (mul_lt_mul_of_pos_right less unit)
    · exact .inr ⟨by rw [same], even⟩
  · -- The least number that uses all bits is between the other one and `z * 2 ^ T`.
    have below := value_lt_of_finer few finer
    have used := large (by omega)
    have between : |(r : ℚ) - z| ≤ z - 2 ^ 52 := by
      have least : |((2 ^ 52 : ℕ) : ℚ) - z| = z - 2 ^ 52 := by
        rw [abs_sub_comm, abs_of_nonneg] <;> push_cast
        · rfl
        · linarith
      rw [← least]
      by_cases same : 2 ^ 52 = r
      · rw [same]
      · rcases nearer_of_le_half half tie same with less | ⟨equal, -⟩
        · exact less.le
        · exact equal.le
    left
    calc |value r T - z * 2 ^ T| = |(r : ℚ) - z| * 2 ^ T := abs_sub_scaled _
      _ ≤ (z - 2 ^ 52) * 2 ^ T := mul_le_mul_of_nonneg_right between unit.le
      _ = z * 2 ^ T - 2 ^ 52 * 2 ^ T := sub_mul _ _ _
      _ < z * 2 ^ T - value m e := sub_lt_sub_left below _
      _ ≤ |value m e - z * 2 ^ T| := by
        rw [abs_sub_comm]
        exact le_abs_self _

theorem Nearest.carry (nearest : Nearest q (2 ^ 53) T) : Nearest q (2 ^ 52) (T + 1) := by
  have same : value (2 ^ 53) T = value (2 ^ 52) (T + 1) := by
    rw [value, value, zpow_add_one₀ (by norm_num)]
    push_cast
    ring
  intro m e few least other
  rw [← same] at other ⊢
  rcases nearest m e few least other with less | ⟨equal, -⟩
  · exact .inl less
  · exact .inr ⟨equal, by decide⟩

/-- The step between the greatest finite doubles, halved. -/
private def halfStep : ℚ := 2 ^ 970

private theorem halfStep_pos : 0 < halfStep := by
  unfold halfStep
  positivity

private theorem overflow_eq : overflow = (2 ^ 54 - 1) * halfStep := by
  have powers : (2 : ℚ) ^ 1024 = 2 ^ 54 * 2 ^ 970 := by rw [← pow_add]
  rw [overflow, halfStep, powers, sub_mul, one_mul]

private theorem value_greatest : value (2 ^ 53 - 1) 971 = overflow - halfStep := by
  have power : (2 : ℚ) ^ (971 : ℤ) = 2 * halfStep := by
    rw [halfStep, ← pow_succ']
    exact zpow_natCast 2 971
  rw [value, power, overflow_eq]
  push_cast
  ring

private theorem value_next : value (2 ^ 52) 972 = overflow + halfStep := by
  have power : (2 : ℚ) ^ (972 : ℤ) = 2 ^ 2 * halfStep := by
    rw [halfStep, ← pow_add]
    exact zpow_natCast 2 972
  rw [value, power, overflow_eq]
  push_cast
  ring

private theorem value_le_greatest (few : m < 2 ^ 53) (within : e ≤ 971) :
    value m e ≤ overflow - halfStep := by
  have step : (2 : ℚ) ^ e ≤ 2 ^ (971 : ℤ) := zpow_le_zpow_right₀ (by norm_num) within
  have bits : (m : ℚ) ≤ (2 ^ 53 - 1 : ℕ) := by exact_mod_cast Nat.le_sub_one_of_lt few
  rw [← value_greatest]
  exact mul_le_mul bits step (zpow_pos (by norm_num) e).le (Nat.cast_nonneg _)

private theorem next_le_value (used : 2 ^ 52 ≤ m) (beyond : 972 ≤ e) :
    overflow + halfStep ≤ value m e := by
  have step : (2 : ℚ) ^ (972 : ℤ) ≤ 2 ^ e := zpow_le_zpow_right₀ (by norm_num) beyond
  have bits : ((2 ^ 52 : ℕ) : ℚ) ≤ m := by exact_mod_cast used
  rw [← value_next]
  exact mul_le_mul bits step (zpow_pos (by norm_num) _).le (Nat.cast_nonneg _)

private theorem odd_of_value_greatest (few : m < 2 ^ 53) (within : e ≤ 971)
    (same : value m e = value (2 ^ 53 - 1) 971) : m % 2 = 1 := by
  have unit : (2 : ℚ) ^ e ≠ 0 := (zpow_pos (by norm_num) e).ne'
  rw [value_eq_mul within, value] at same
  have mantissa : m = (2 ^ 53 - 1) * 2 ^ (971 - e).toNat := by
    exact_mod_cast mul_right_cancel₀ unit same
  rcases Nat.eq_zero_or_pos (971 - e).toNat with none | some
  · rw [mantissa, none]
    rfl
  · have double : 2 ^ 1 ≤ 2 ^ (971 - e).toNat := Nat.pow_le_pow_right (by decide) some
    omega

theorem Nearest.lt_overflow (nearest : Nearest q m e) (few : m < 2 ^ 53) (within : e ≤ 971) :
    q < overflow := by
  by_contra above
  have step := halfStep_pos
  have below := value_le_greatest few within
  have far : |value m e - q| = q - value m e := by
    rw [abs_sub_comm, abs_of_nonneg (by linarith)]
  have next : |overflow + halfStep - q| ≤ q - value m e := by
    rw [abs_le]
    constructor <;> linarith
  have other : value (2 ^ 52) 972 ≠ value m e := by
    rw [value_next]
    exact (by linarith : value m e < overflow + halfStep).ne'
  rcases nearest _ _ (by decide) (by decide) other with less | ⟨equal, even⟩
  · rw [value_next, far] at less
    exact absurd next (not_le.mpr less)
  · -- Halfway between the two the tie would go to the next number, whose mantissa is even.
    rw [value_next, far] at equal
    have greatest : value m e = value (2 ^ 53 - 1) 971 := by
      rw [value_greatest]
      rcases abs_cases (overflow + halfStep - q) with ⟨same, _⟩ | ⟨same, _⟩ <;> linarith
    have odd := odd_of_value_greatest few within greatest
    omega

theorem Nearest.overflow_le (nearest : Nearest q m e) (used : 2 ^ 52 ≤ m) (beyond : 972 ≤ e) :
    overflow ≤ q := by
  by_contra below
  have step := halfStep_pos
  have above := next_le_value used beyond
  have far : |value m e - q| = value m e - q := abs_of_nonneg (by linarith)
  have greatest : |overflow - halfStep - q| < value m e - q := by
    rw [abs_lt]
    constructor <;> linarith
  have other : value (2 ^ 53 - 1) 971 ≠ value m e := by
    rw [value_greatest]
    exact (by linarith : overflow - halfStep < value m e).ne
  rcases nearest _ _ (by decide) (by decide) other with less | ⟨equal, -⟩
  · rw [value_greatest, far] at less
    exact absurd greatest (not_lt.mpr less.le)
  · rw [value_greatest, far] at equal
    exact absurd greatest (not_lt.mpr equal.le)

private theorem IsCanonical.value_lt (canonical : IsCanonical m e) (canonical' : IsCanonical m' e')
    (less : e < e') : value m e < value m' e' := by
  have used : (2 : ℚ) ^ 52 ≤ m' := by
    exact_mod_cast canonical'.normal (canonical.least_le.trans_lt less)
  calc value m e < 2 ^ 52 * 2 ^ e' := value_lt_of_finer canonical.lt less
    _ ≤ value m' e' := mul_le_mul_of_nonneg_right used (zpow_pos (by norm_num) e').le

theorem IsCanonical.unique (canonical : IsCanonical m e) (canonical' : IsCanonical m' e')
    (same : value m e = value m' e') : m = m' ∧ e = e' := by
  obtain less | rfl | greater := lt_trichotomy e e'
  · exact absurd same (canonical.value_lt canonical' less).ne
  · have unit : (2 : ℚ) ^ e ≠ 0 := (zpow_pos (by norm_num) e).ne'
    exact ⟨by exact_mod_cast mul_right_cancel₀ unit same, rfl⟩
  · exact absurd same (canonical'.value_lt canonical greater).ne'

private theorem Nearest.not_lt_of_tie (nearest : Nearest q m e) (canonical : IsCanonical m e)
    (canonical' : IsCanonical m' e') (even : m % 2 = 0) (even' : m' % 2 = 0)
    (tie : |value m e - q| = |value m' e' - q|) : ¬ value m e < value m' e' := by
  intro less
  have unit : (0 : ℚ) < 2 ^ e := zpow_pos (by norm_num) e
  have finer : e ≤ e' := by
    by_contra coarser
    exact less.not_gt (canonical'.value_lt canonical (Int.not_le.mp coarser))
  have middle : value m e - q = -(value m' e' - q) := by
    refine (abs_eq_abs.mp tie).resolve_left fun same => ?_
    exact less.ne (sub_left_injective same)
  rw [value_eq_mul finer] at less middle
  have evenMultiple : m' * 2 ^ (e' - e).toNat % 2 = 0 := by
    rw [Nat.mul_mod, even', Nat.zero_mul]
  generalize m' * 2 ^ (e' - e).toNat = n at less middle evenMultiple
  have above : m < n := by exact_mod_cast lt_of_mul_lt_mul_right less unit.le
  have between : ((m + 1 : ℕ) : ℚ) < n := by exact_mod_cast (by omega : m + 1 < n)
  have next : value (m + 1) e = value m e + 2 ^ e := by
    rw [value, value]
    push_cast
    ring
  have below : value (m + 1) e < n * 2 ^ e := mul_lt_mul_of_pos_right between unit
  have nearer : |value (m + 1) e - q| < |value m e - q| := by
    have half : |value m e - q| = q - value m e := by
      rw [abs_sub_comm, abs_of_nonneg (by linarith)]
    rw [half, abs_lt]
    constructor <;> linarith
  have few := canonical.lt
  rcases nearest (m + 1) e (by omega) canonical.least_le (by linarith) with less | ⟨equal, -⟩
  · exact less.not_gt nearer
  · exact nearer.ne' equal

private theorem Nearest.unique (nearest : Nearest q m e) (nearest' : Nearest q m' e')
    (canonical : IsCanonical m e) (canonical' : IsCanonical m' e') : m = m' ∧ e = e' := by
  apply canonical.unique canonical'
  by_contra other
  -- Neither is nearer than the other, so there is a tie, and both mantissas are even.
  rcases nearest m' e' canonical'.lt canonical'.least_le (Ne.symm other) with less | ⟨tie, even⟩ <;>
    rcases nearest' m e canonical.lt canonical.least_le other with less' | ⟨tie', even'⟩
  · exact less.not_gt less'
  · exact less.ne' tie'
  · exact less'.ne' tie
  · rcases lt_or_gt_of_ne other with below | above
    · exact nearest.not_lt_of_tie canonical canonical' even even' tie below
    · exact nearest'.not_lt_of_tie canonical' canonical even' even tie' above

/-- A number is rounded to one double only. -/
theorem Rounds.unique {sign : Sign} {f f' : UnpackedFloat} (rounds : Rounds sign q f)
    (rounds' : Rounds sign q f') : f = f' := by
  have zero : IsCanonical 0 (-1074) := ⟨by decide, le_rfl, fun above => absurd above (lt_irrefl _)⟩
  cases rounds with
  | infinity large =>
    cases rounds' with
    | infinity => rfl
    | zero within | finite _ within => exact absurd large (not_le.mpr within)
  | zero within nearest =>
    cases rounds' with
    | infinity large => exact absurd large (not_le.mpr within)
    | zero => rfl
    | finite positive _ finite nearest' =>
      exact absurd (nearest.unique nearest' zero finite.toIsCanonical).1 positive.ne
  | finite positive within finite nearest =>
    cases rounds' with
    | infinity large => exact absurd large (not_le.mpr within)
    | zero _ nearest' =>
      exact absurd (nearest'.unique nearest zero finite.toIsCanonical).1 positive.ne
    | finite _ _ finite' nearest' =>
      obtain ⟨rfl, rfl⟩ := nearest.unique nearest' finite.toIsCanonical finite'.toIsCanonical
      rfl

end Sexp.Double
