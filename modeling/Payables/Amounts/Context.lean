import Payables.Amounts.Decimals

namespace Payables

section Bounds

/-- Rounding is off by less than one. -/
theorem abs_roundHalfEven_sub_lt (value : ℚ) : |(roundHalfEven value : ℚ) - value| < 1 := by
  have low := le_roundHalfEven (Int.floor_le value)
  have high := roundHalfEven_le (Int.le_ceil value)
  have below := Int.lt_floor_add_one value
  have above := Int.ceil_lt_add_one value
  have lowCast : (⌊value⌋ : ℚ) ≤ roundHalfEven value := by exact_mod_cast low
  have highCast : (roundHalfEven value : ℚ) ≤ ⌈value⌉ := by exact_mod_cast high
  rw [abs_lt]
  constructor <;> linarith

theorem abs_roundHalfEven_le {value : ℚ} {bound : ℤ} (within : |value| ≤ bound) : |(roundHalfEven value : ℚ)| ≤ bound := by
  obtain ⟨low, high⟩ := abs_le.mp within
  have most := roundHalfEven_le high
  have least : -bound ≤ roundHalfEven value := le_roundHalfEven (by push_cast; exact low)
  rw [abs_le]
  constructor
  · exact_mod_cast least
  · exact_mod_cast most

/-- The context changes a result by less than one part in `10 ^ 27`. -/
theorem abs_contextRound_sub_le (value : ℚ) : |contextRound value - value| ≤ |value| / 10 ^ 27 := by
  rcases eq_or_ne value 0 with rfl | nonzero
  · simp
  have unit := contextUnit_pos value
  have off := abs_roundHalfEven_sub_lt (value / (10 : ℚ) ^ (Int.log 10 |value| - 27))
  have scaled : contextRound value - value = (roundHalfEven (value / (10 : ℚ) ^ (Int.log 10 |value| - 27)) -
      value / (10 : ℚ) ^ (Int.log 10 |value| - 27)) * (10 : ℚ) ^ (Int.log 10 |value| - 27) := by
    rw [sub_mul, div_mul_cancel₀ _ unit.ne', contextRound]
  have log : (10 : ℚ) ^ Int.log 10 |value| ≤ |value| := by
    exact_mod_cast Int.zpow_log_le_self (b := 10) (by norm_num) (abs_pos.mpr nonzero)
  have split : (10 : ℚ) ^ (Int.log 10 |value| - 27) = 10 ^ Int.log 10 |value| / 10 ^ 27 := by
    rw [zpow_sub₀ (by norm_num)]
    norm_cast
  calc |contextRound value - value|
      ≤ 1 * (10 : ℚ) ^ (Int.log 10 |value| - 27) := by
        rw [scaled, abs_mul, abs_of_pos unit]
        exact mul_le_mul_of_nonneg_right off.le unit.le
    _ ≤ |value| / 10 ^ 27 := by
        rw [one_mul, split]
        exact div_le_div_of_nonneg_right log (by positivity)

/-- What is a whole number of units of a place with at most 28 digits passes through. -/
theorem contextRound_of_units {units : ℤ} {place : ℤ} (digits : |units| < 10 ^ 28) :
    contextRound (units * (10 : ℚ) ^ place) = units * (10 : ℚ) ^ place := by
  rw [contextRound_scale]
  congr 1
  rcases eq_or_ne units 0 with rfl | nonzero
  · simp
  have positive : (0 : ℚ) < |(units : ℚ)| := abs_pos.mpr (by exact_mod_cast nonzero)
  have log : Int.log 10 |(units : ℚ)| < 28 := by
    refine (Int.lt_zpow_iff_log_lt (by norm_num) positive).mp ?_
    exact_mod_cast digits
  obtain ⟨finer, exponent⟩ := Int.eq_ofNat_of_zero_le (by omega : 0 ≤ 27 - Int.log 10 |(units : ℚ)|)
  have whole : (units : ℚ) / (10 : ℚ) ^ (Int.log 10 |(units : ℚ)| - 27) = ((units * 10 ^ finer : ℤ) : ℚ) := by
    have negated : Int.log 10 |(units : ℚ)| - 27 = -(finer : ℤ) := by omega
    rw [negated, zpow_neg, div_inv_eq_mul, zpow_natCast]
    push_cast
    ring
  have unit := contextUnit_pos (units : ℚ)
  simp only [contextRound]
  rw [whole, roundHalfEven_intCast, ← whole, div_mul_cancel₀ _ unit.ne']

/-- Rounding does not pass a power of ten. -/
theorem abs_contextRound_le_zpow {value : ℚ} {power : ℤ} (within : |value| ≤ 10 ^ power) :
    |contextRound value| ≤ (10 : ℚ) ^ power := by
  rcases eq_or_ne value 0 with rfl | nonzero
  · rw [contextRound_zero, abs_zero]
    positivity
  have positive := abs_pos.mpr nonzero
  have unit := contextUnit_pos value
  have base : (0 : ℚ) < 10 := by norm_num
  have log : Int.log 10 |value| ≤ power := by
    have low : (10 : ℚ) ^ Int.log 10 |value| ≤ |value| := by
      exact_mod_cast Int.zpow_log_le_self (b := 10) (by norm_num) positive
    exact (zpow_le_zpow_iff_right₀ (by norm_num)).mp (low.trans within)
  obtain ⟨finer, exponent⟩ := Int.eq_ofNat_of_zero_le (by omega : 0 ≤ power - (Int.log 10 |value| - 27))
  have bound : (10 : ℚ) ^ power = ((10 ^ finer : ℤ) : ℚ) * (10 : ℚ) ^ (Int.log 10 |value| - 27) := by
    push_cast
    rw [← zpow_natCast, ← zpow_add₀ base.ne']
    congr 1
    omega
  have scaled : |value / (10 : ℚ) ^ (Int.log 10 |value| - 27)| ≤ ((10 ^ finer : ℤ) : ℚ) := by
    rw [abs_div, abs_of_pos unit, div_le_iff₀ unit, ← bound]
    exact within
  calc |contextRound value|
      = |(roundHalfEven (value / (10 : ℚ) ^ (Int.log 10 |value| - 27)) : ℚ)| * (10 : ℚ) ^ (Int.log 10 |value| - 27) := by
        rw [contextRound, abs_mul, abs_of_pos unit]
    _ ≤ ((10 ^ finer : ℤ) : ℚ) * (10 : ℚ) ^ (Int.log 10 |value| - 27) :=
        mul_le_mul_of_nonneg_right (abs_roundHalfEven_le scaled) unit.le
    _ = 10 ^ power := bound.symm

end Bounds

end Payables
