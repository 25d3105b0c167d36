import Mathlib.Tactic.Linarith
import Payables.Basic
import Payables.Lib.Rounding

namespace Payables

open Lib

/-- A whole number of cents. -/
def OnCents (value : ℚ) : Prop := ∃ n : ℤ, value = n / 100

theorem quantizeMoney_eq (value : ℚ) : quantizeMoney value = (roundHalfAway (value * 100) : ℤ) / 100 := by
  unfold quantizeMoney roundHalfAway
  by_cases nonneg : 0 ≤ value
  · rw [if_pos nonneg, if_pos (by linarith)]
  · rw [if_neg nonneg, if_neg (by linarith), neg_mul]
    push_cast
    ring

theorem quantizeMoney_onCents (value : ℚ) : OnCents (quantizeMoney value) := ⟨_, quantizeMoney_eq value⟩

theorem OnCents.quantizeMoney_eq {value : ℚ} (cents : OnCents value) : quantizeMoney value = value := by
  obtain ⟨n, rfl⟩ := cents
  have scaled : (n : ℚ) / 100 * 100 = n := by ring
  rw [Payables.quantizeMoney_eq, scaled, roundHalfAway_intCast]

theorem OnCents.zero : OnCents 0 := ⟨0, by simp⟩

theorem OnCents.add {a b : ℚ} (left : OnCents a) (right : OnCents b) : OnCents (a + b) := by
  obtain ⟨m, rfl⟩ := left
  obtain ⟨n, rfl⟩ := right
  exact ⟨m + n, by push_cast; ring⟩

theorem OnCents.sum {values : List ℚ} (cents : ∀ value ∈ values, OnCents value) : OnCents values.sum := by
  induction values with
  | nil => exact .zero
  | cons value rest ih =>
    obtain ⟨first, others⟩ := List.forall_mem_cons.mp cents
    rw [List.sum_cons]
    exact first.add (ih others)

theorem OnCents.sub {a b : ℚ} (left : OnCents a) (right : OnCents b) : OnCents (a - b) := by
  obtain ⟨m, rfl⟩ := left
  obtain ⟨n, rfl⟩ := right
  exact ⟨m - n, by push_cast; ring⟩

theorem OnCents.abs {a : ℚ} (cents : OnCents a) : OnCents |a| := by
  obtain ⟨n, rfl⟩ := cents
  refine ⟨|n|, ?_⟩
  rw [abs_div, Int.cast_abs, abs_of_pos (by norm_num : (0 : ℚ) < 100)]

theorem quantizeMoney_neg (value : ℚ) : quantizeMoney (-value) = -quantizeMoney value := by
  rw [quantizeMoney_eq, quantizeMoney_eq, neg_mul, roundHalfAway_neg, Int.cast_neg, neg_div]

theorem quantizeMoney_nonneg {value : ℚ} (nonneg : 0 ≤ value) : 0 ≤ quantizeMoney value := by
  have floor : 0 ≤ ⌊value * 100 + 1 / 2⌋ := Int.floor_nonneg.mpr (by linarith)
  rw [quantizeMoney, if_pos nonneg]
  positivity

theorem abs_quantizeMoney_le {value bound : ℚ} (cents : OnCents bound) (within : |value| ≤ bound) :
    |quantizeMoney value| ≤ bound := by
  obtain ⟨n, rfl⟩ := cents
  have scaled : |value * 100| ≤ (n : ℚ) := by
    rw [abs_mul, abs_of_pos (by norm_num : (0 : ℚ) < 100)]
    linarith
  have rounded : |((roundHalfAway (value * 100) : ℤ) : ℚ)| ≤ n := by exact_mod_cast abs_roundHalfAway_le scaled
  rw [quantizeMoney_eq, abs_div, abs_of_pos (by norm_num : (0 : ℚ) < 100)]
  linarith

/-- What an amount has above the last half cent: rounding to cents does not see less being taken off. -/
def aboveHalfCent (value : ℚ) : ℚ := Int.fract (value * 100 + 1 / 2) / 100

theorem quantizeMoney_sub_eq_iff {value less : ℚ} (nonneg : 0 ≤ less) (below : less ≤ value) :
    quantizeMoney (value - less) = quantizeMoney value ↔ less ≤ aboveHalfCent value := by
  have cents : quantizeMoney (value - less) = quantizeMoney value ↔
      roundHalfAway (value * 100 - less * 100) = roundHalfAway (value * 100) := by
    rw [quantizeMoney_eq, quantizeMoney_eq, sub_mul]
    constructor
    · intro same
      have numerators := (div_left_inj' (by norm_num : (100 : ℚ) ≠ 0)).mp same
      exact_mod_cast numerators
    · intro same
      rw [same]
  rw [cents, roundHalfAway_sub_eq_iff (by linarith) (by linarith), aboveHalfCent, le_div_iff₀ (by norm_num)]

end Payables
