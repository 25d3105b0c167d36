import Mathlib.Logic.Function.Basic

namespace Payables.Lib

variable {α β : Type*}

/-- Two partial maps of which each is the inverse of the other. -/
def Mutual (there : α → Option β) (back : β → Option α) : Prop := ∀ a b, there a = some b ↔ back b = some a

namespace Mutual

variable {there : α → Option β} {back : β → Option α}

theorem single (mutual_ : Mutual there back) {first second : α} {b : β} (one : there first = some b)
    (two : there second = some b) : first = second := by
  have same := ((mutual_ first b).mp one).symm.trans ((mutual_ second b).mp two)
  exact Option.some.inj same

/-- A new pair of two that had no partner. -/
theorem link [DecidableEq α] [DecidableEq β] (mutual_ : Mutual there back) {a : α} {b : β} (free : there a = none)
    (idle : back b = none) : Mutual (Function.update there a (some b)) (Function.update back b (some a)) := by
  intro one other
  by_cases atOne : one = a
  · by_cases atOther : other = b
    · simp [atOne, atOther]
    · have stranger : back other ≠ some a := by
        intro found
        rw [(mutual_ a other).mpr found] at free
        cases free
      rw [atOne, Function.update_self, Function.update_of_ne atOther]
      exact ⟨fun same => absurd (Option.some.inj same).symm atOther, fun found => absurd found stranger⟩
  · by_cases atOther : other = b
    · have stranger : there one ≠ some b := by
        intro found
        rw [(mutual_ one b).mp found] at idle
        cases idle
      rw [atOther, Function.update_self, Function.update_of_ne atOne]
      exact ⟨fun found => absurd found stranger, fun same => absurd (Option.some.inj same).symm atOne⟩
    · rw [Function.update_of_ne atOne, Function.update_of_ne atOther]
      exact mutual_ one other

/-- A pair is taken apart. -/
theorem unlink [DecidableEq α] [DecidableEq β] (mutual_ : Mutual there back) {a : α} {b : β} (linked : there a = some b) :
    Mutual (Function.update there a none) (Function.update back b none) := by
  intro one other
  by_cases atOne : one = a
  · rw [atOne, Function.update_self]
    by_cases atOther : other = b
    · rw [atOther, Function.update_self]
      simp
    · rw [Function.update_of_ne atOther]
      refine ⟨by simp, fun found => absurd ?_ atOther⟩
      exact Option.some.inj (((mutual_ a other).mpr found).symm.trans linked)
  · rw [Function.update_of_ne atOne]
    by_cases atOther : other = b
    · rw [atOther, Function.update_self]
      refine ⟨fun found => absurd (mutual_.single found linked) atOne, by simp⟩
    · rw [Function.update_of_ne atOther]
      exact mutual_ one other

end Mutual

end Payables.Lib
