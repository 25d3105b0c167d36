import Mathlib.Tactic.Common

namespace Payables.Lib

variable {σ ε : Type*}

/-- Entries that lead from one state to another: each starts where the one before it has ended. -/
def Chained (source target : ε → σ) : σ → List ε → σ → Prop
  | first, [], last => first = last
  | first, entry :: rest, last => source entry = first ∧ Chained source target (target entry) rest last

namespace Chained

variable {source target : ε → σ} {first middle last : σ} {entries others : List ε} {entry : ε}

theorem trans (one : Chained source target first entries middle) (two : Chained source target middle others last) :
    Chained source target first (entries ++ others) last := by
  induction entries generalizing first with
  | nil =>
    obtain rfl : first = middle := one
    exact two
  | cons entry rest ih =>
    obtain ⟨starts, later⟩ := one
    exact ⟨starts, ih later⟩

theorem append (chained : Chained source target first entries last) (starts : source entry = last) :
    Chained source target first (entries ++ [entry]) (target entry) := by
  have single : Chained source target last [entry] (target entry) := ⟨starts, rfl⟩
  exact chained.trans single

/-- An append breaks the chain where the new entry starts elsewhere. -/
theorem starts_of_append (chained : Chained source target first entries last)
    (longer : Chained source target first (entries ++ [entry]) middle) : source entry = last ∧ target entry = middle := by
  induction entries generalizing first with
  | nil =>
    obtain rfl : first = last := chained
    exact longer
  | cons earlier rest ih =>
    obtain ⟨_, chained⟩ := chained
    obtain ⟨_, longer⟩ := longer
    exact ih chained longer

end Chained

end Payables.Lib
