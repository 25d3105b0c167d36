import Mathlib

namespace Payables.Lib

variable {K : Type*} [Field K] [LinearOrder K] [IsStrictOrderedRing K] [FloorRing K]

/-- The nearest integer, a half away from zero. -/
def roundHalfAway (x : K) : ℤ := if 0 ≤ x then ⌊x + 1 / 2⌋ else -⌊-x + 1 / 2⌋

omit [IsStrictOrderedRing K] in
theorem roundHalfAway_of_nonneg {x : K} (nonneg : 0 ≤ x) : roundHalfAway x = ⌊x + 1 / 2⌋ := if_pos nonneg

omit [IsStrictOrderedRing K] in
theorem roundHalfAway_of_neg {x : K} (neg : x < 0) : roundHalfAway x = -⌊-x + 1 / 2⌋ := if_neg (not_le.mpr neg)

@[simp]
theorem roundHalfAway_intCast (n : ℤ) : roundHalfAway (n : K) = n := by
  have half : ⌊(1 / 2 : K)⌋ = 0 := by
    rw [Int.floor_eq_iff]
    norm_num
  rcases le_or_gt 0 (n : K) with nonneg | neg
  · rw [roundHalfAway_of_nonneg nonneg, Int.floor_intCast_add, half, add_zero]
  · have flipped := Int.floor_intCast_add (-n) (1 / 2 : K)
    rw [Int.cast_neg] at flipped
    rw [roundHalfAway_of_neg neg, flipped, half]
    omega

theorem roundHalfAway_neg (x : K) : roundHalfAway (-x) = -roundHalfAway x := by
  rcases lt_trichotomy x 0 with neg | zero | pos
  · rw [roundHalfAway_of_neg neg, roundHalfAway_of_nonneg (neg_nonneg.mpr neg.le), neg_neg]
  · have round := roundHalfAway_intCast (K := K) 0
    rw [Int.cast_zero] at round
    rw [zero, neg_zero, round, neg_zero]
  · rw [roundHalfAway_of_nonneg pos.le, roundHalfAway_of_neg (neg_neg_of_pos pos), neg_neg]

theorem roundHalfAway_eq_of_near {x : K} {n : ℤ} (near : |x - n| < 1 / 2) : roundHalfAway x = n := by
  obtain ⟨low, high⟩ := abs_lt.mp near
  rcases le_or_gt 0 x with nonneg | neg
  · rw [roundHalfAway_of_nonneg nonneg, Int.floor_eq_iff]
    exact ⟨by linarith, by linarith⟩
  · have flipped : ⌊-x + 1 / 2⌋ = -n := by
      rw [Int.floor_eq_iff]
      push_cast
      exact ⟨by linarith, by linarith⟩
    rw [roundHalfAway_of_neg neg, flipped, neg_neg]

theorem roundHalfAway_mono : Monotone (roundHalfAway : K → ℤ) := by
  intro x y le
  rcases le_or_gt 0 x with nonneg | neg
  · rw [roundHalfAway_of_nonneg nonneg, roundHalfAway_of_nonneg (nonneg.trans le)]
    exact Int.floor_mono (by linarith)
  · rw [roundHalfAway_of_neg neg]
    have low : 0 ≤ ⌊-x + 1 / 2⌋ := Int.floor_nonneg.mpr (by linarith)
    rcases le_or_gt 0 y with nonneg | negY
    · rw [roundHalfAway_of_nonneg nonneg]
      have high : 0 ≤ ⌊y + 1 / 2⌋ := Int.floor_nonneg.mpr (by linarith)
      omega
    · rw [roundHalfAway_of_neg negY]
      exact neg_le_neg (Int.floor_mono (by linarith))

/-- Rounding does not leave an interval with integral ends. -/
theorem abs_roundHalfAway_le {x : K} {bound : ℤ} (within : |x| ≤ bound) : |roundHalfAway x| ≤ bound := by
  have low : roundHalfAway ((-bound : ℤ) : K) ≤ roundHalfAway x :=
    roundHalfAway_mono (by rw [Int.cast_neg]; exact (abs_le.mp within).1)
  have high : roundHalfAway x ≤ roundHalfAway ((bound : ℤ) : K) := roundHalfAway_mono (abs_le.mp within).2
  rw [roundHalfAway_intCast] at low high
  exact abs_le.mpr ⟨low, high⟩

/-- A number rounds to less than a bound exactly if it is more than a half below it. -/
theorem abs_roundHalfAway_lt_iff {x : K} {bound : ℤ} : |roundHalfAway x| < bound ↔ |x| < bound - 1 / 2 := by
  have positive {y : K} (nonneg : 0 ≤ y) : |roundHalfAway y| < bound ↔ |y| < bound - 1 / 2 := by
    have floor : 0 ≤ ⌊y + 1 / 2⌋ := Int.floor_nonneg.mpr (by linarith)
    rw [roundHalfAway_of_nonneg nonneg, abs_of_nonneg floor, abs_of_nonneg nonneg, Int.floor_lt, lt_sub_iff_add_lt]
  rcases le_total 0 x with nonneg | nonpos
  · exact positive nonneg
  · have flipped := positive (neg_nonneg.mpr nonpos)
    rwa [roundHalfAway_neg, abs_neg, abs_neg] at flipped

theorem le_abs_roundHalfAway {x : K} {bound : ℤ} (wide : bound ≤ |x|) : bound ≤ |roundHalfAway x| := by
  rcases le_abs.mp wide with above | below
  · have rounded := roundHalfAway_mono above
    rw [roundHalfAway_intCast] at rounded
    exact le_abs.mpr (.inl rounded)
  · have rounded : roundHalfAway x ≤ roundHalfAway ((-bound : ℤ) : K) :=
      roundHalfAway_mono (by rw [Int.cast_neg]; linarith)
    rw [roundHalfAway_intCast] at rounded
    exact le_abs.mpr (.inr (by omega))

/-- How much may be taken off a nonnegative number before it rounds to less: what it has above the last
half. -/
theorem roundHalfAway_sub_eq_iff {x c : K} (nonneg : 0 ≤ c) (below : c ≤ x) :
    roundHalfAway (x - c) = roundHalfAway x ↔ c ≤ Int.fract (x + 1 / 2) := by
  have split := Int.floor_add_fract (x + 1 / 2)
  have small := Int.fract_lt_one (x + 1 / 2)
  rw [roundHalfAway_of_nonneg (sub_nonneg.mpr below), roundHalfAway_of_nonneg (nonneg.trans below), Int.floor_eq_iff]
  constructor
  · intro bounds
    linarith [bounds.1]
  · intro slack
    exact ⟨by linarith, by linarith⟩

end Payables.Lib
