import Mathlib.Algebra.BigOperators.Group.Finset.Basic
import Mathlib.Algebra.Order.BigOperators.Group.Finset

namespace Payables.Lib

/-- Signatures collected stage by stage. A stage closes when its rule accepts the people who signed
it, nobody signs two stages, and nothing is signed ahead of the open stage. The fields are the
safety argument of a sequential sign-off, so a ballot that breaks it cannot be built. -/
structure Ballot (α : Type*) [DecidableEq α] where
  position : ℕ
  rule : ℕ → Finset α → Prop
  signers : ℕ → Finset α
  apart : ∀ i j, i ≠ j → Disjoint (signers i) (signers j)
  ahead : ∀ i, position < i → signers i = ∅
  behind : ∀ i, i < position → rule i (signers i) ∧ (signers i).Nonempty

namespace Ballot

variable {α : Type*} [DecidableEq α] (b : Ballot α)

/-- Nothing has been signed and the first stage is open. -/
def opening (rule : ℕ → Finset α → Prop) : Ballot α where
  position := 0
  rule := rule
  signers := fun _ => ∅
  apart := fun _ _ _ => disjoint_bot_left
  ahead := fun _ _ => rfl
  behind := fun _ below => absurd below (Nat.not_lt_zero _)

/-- One more signature on the open stage, by someone who signed no other stage. -/
def sign (a : α) (unused : ∀ i, i ≠ b.position → a ∉ b.signers i) : Ballot α where
  position := b.position
  rule := b.rule
  signers := Function.update b.signers b.position (insert a (b.signers b.position))
  apart := by
    intro i j distinct
    by_cases here : i = b.position
    · subst here
      rw [Function.update_self, Function.update_of_ne (Ne.symm distinct), Finset.disjoint_insert_left]
      exact ⟨unused j (Ne.symm distinct), b.apart _ _ distinct⟩
    rw [Function.update_of_ne here]
    by_cases there : j = b.position
    · subst there
      rw [Function.update_self, Finset.disjoint_insert_right]
      exact ⟨unused i here, b.apart _ _ distinct⟩
    rw [Function.update_of_ne there]
    exact b.apart _ _ distinct
  ahead := by
    intro i above
    rw [Function.update_of_ne (by omega)]
    exact b.ahead i above
  behind := by
    intro i below
    rw [Function.update_of_ne (by omega)]
    exact b.behind i below

/-- The open stage closes once its rule accepts its signers. -/
def close (met : b.rule b.position (b.signers b.position)) (signed : (b.signers b.position).Nonempty) : Ballot α where
  position := b.position + 1
  rule := b.rule
  signers := b.signers
  apart := b.apart
  ahead := fun i above => b.ahead i (by omega)
  behind := by
    intro i below
    rcases Nat.lt_succ_iff_lt_or_eq.mp below with earlier | here
    · exact b.behind i earlier
    · subst here
      exact ⟨met, signed⟩

/-- The rule of a stage that is not yet closed may be replaced. -/
def reform (rule : ℕ → Finset α → Prop) (kept : ∀ i, i < b.position → rule i = b.rule i) : Ballot α where
  position := b.position
  rule := rule
  signers := b.signers
  apart := b.apart
  ahead := b.ahead
  behind := fun i below => by simpa only [kept i below] using b.behind i below

/-- Distinct people add up: what the closed stages demand one by one, they demand together. -/
theorem sum_demand_le_card (demand : ℕ → ℕ)
    (least : ∀ i, i < b.position → ∀ s : Finset α, b.rule i s → s.Nonempty → demand i ≤ s.card) :
    ∑ i ∈ Finset.range b.position, demand i ≤ ((Finset.range b.position).biUnion b.signers).card := by
  rw [Finset.card_biUnion fun i _ j _ distinct => b.apart i j distinct]
  refine Finset.sum_le_sum fun i member => ?_
  have below := Finset.mem_range.mp member
  obtain ⟨met, signed⟩ := b.behind i below
  exact least i below _ met signed

end Ballot

end Payables.Lib
