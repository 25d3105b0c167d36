import Mathlib.Data.List.Count
import Mathlib.Tactic.TypeStar

namespace Payables.Lib

/-- Who takes a unit of a pool at a turn, while there are any: somebody it is meant for, somebody else, or nobody. -/
inductive Draw
  | owner
  | stranger
  | nobody
  deriving DecidableEq

namespace Draw

def owners (draws : List Draw) : Nat := draws.count .owner

/-- The units that remain after a turn. -/
def left (pool : Nat) : Draw → Nat
  | .owner => pool - 1
  | .stranger => pool - 1
  | .nobody => pool

/-- The owners who find a unit. -/
def served : Nat → List Draw → Nat
  | _, [] => 0
  | pool, draw :: draws => (if draw = .owner ∧ 0 < pool then 1 else 0) + served (left pool draw) draws

/-- A stranger takes a unit only where the owners to come do not need it. -/
def Spared : Nat → List Draw → Prop
  | _, [] => True
  | pool, draw :: draws => (draw = .stranger → 0 < pool → owners draws < pool) ∧ Spared (left pool draw) draws

variable {pool : Nat} {draws : List Draw}

theorem served_le (pool : Nat) (draws : List Draw) : served pool draws ≤ pool := by
  induction draws generalizing pool with
  | nil => exact Nat.zero_le pool
  | cons draw draws ih =>
    have rest := ih (left pool draw)
    rw [served]
    cases draw with
    | owner =>
      rw [left] at rest ⊢
      split <;> omega
    | stranger =>
      rw [left] at rest ⊢
      simp only [reduceCtorEq, false_and, if_false]
      omega
    | nobody =>
      rw [left] at rest ⊢
      simp only [reduceCtorEq, false_and, if_false]
      omega

/-- The owners get what there is for them exactly where every stranger spares them. -/
theorem spared_iff : Spared pool draws ↔ served pool draws = min (owners draws) pool := by
  induction draws generalizing pool with
  | nil => simp [Spared, served, owners]
  | cons draw draws ih =>
    have rest := served_le (left pool draw) draws
    rw [Spared, served, ih]
    cases draw with
    | owner =>
      have owners_succ : owners (.owner :: draws) = owners draws + 1 := List.count_cons_self
      rw [owners_succ]
      rw [left] at rest ⊢
      by_cases some_left : 0 < pool
      · simp only [reduceCtorEq, false_implies, true_and, some_left, and_self, if_true]
        omega
      · simp only [reduceCtorEq, false_implies, true_and, some_left, and_false, if_false]
        omega
    | stranger =>
      have owners_same : owners (.stranger :: draws) = owners draws := List.count_cons_of_ne (by decide)
      rw [owners_same]
      rw [left] at rest ⊢
      simp only [forall_const, reduceCtorEq, false_and, if_false]
      omega
    | nobody =>
      have owners_same : owners (.nobody :: draws) = owners draws := List.count_cons_of_ne (by decide)
      rw [owners_same, left]
      simp only [reduceCtorEq, false_implies, true_and, false_and, if_false, Nat.zero_add]

end Draw

end Payables.Lib
