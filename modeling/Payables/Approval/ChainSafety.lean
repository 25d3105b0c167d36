import Mathlib.Algebra.BigOperators.Fin
import Payables.Approval.Chain
import Payables.Lib.Ballot
import Payables.Lib.Runs

namespace Payables
open Lib

/-- When the signatures `s` satisfy a level: the set-level meaning of `_level_satisfied`. -/
def LevelState.accepts (level : LevelState) (s : Finset UserId) : Prop :=
  match level.parallelMode with
  | .all => ∀ uid ∈ level.approverIds, uid ∈ s
  | .any => level.required ≤ s.card

theorem levelSatisfied_iff (level : LevelState) :
    levelSatisfied level = true ↔ level.accepts level.distinct := by
  unfold levelSatisfied LevelState.accepts
  cases level.parallelMode with
  | all => simp only [List.all_eq_true, decide_eq_true_eq]
  | any => simp only [decide_eq_true_eq]

/-- The least number of distinct approvers that can satisfy a level somebody has approved. -/
def LevelState.demand (level : LevelState) : ℕ :=
  match level.parallelMode with
  | .all => max 1 level.approverIds.toFinset.card
  | .any => max 1 level.required.toNat

theorem LevelState.accepts.demand_le {level : LevelState} {s : Finset UserId} (accepted : level.accepts s)
    (signed : s.Nonempty) : level.demand ≤ s.card := by
  have positive := signed.card_pos
  unfold LevelState.accepts at accepted
  unfold LevelState.demand
  cases mode : level.parallelMode with
  | all =>
    simp only [mode] at accepted
    have inside : level.approverIds.toFinset ⊆ s := fun uid member => accepted uid (List.mem_toFinset.mp member)
    exact max_le positive (Finset.card_le_card inside)
  | any =>
    simp only [mode] at accepted
    show max 1 level.required.toNat ≤ s.card
    omega

namespace ChainState

/-- The distinct approvers recorded on the level at index `i`; there are none past the end. -/
def signers (chain : ChainState) (i : ℕ) : Finset UserId :=
  (chain.levels[i]?.map LevelState.distinct).getD ∅

def rule (chain : ChainState) (i : ℕ) (s : Finset UserId) : Prop :=
  ∀ level, chain.levels[i]? = some level → level.accepts s

/-- Everyone who approved any level. -/
def approvers (chain : ChainState) : Finset UserId :=
  (chain.levels.flatMap fun level => level.approvals.map (·.userId)).toFinset

/-- The chain is the concrete form of a ballot whose open stage is the current level. -/
structure Represents (chain : ChainState) (b : Ballot UserId) : Prop where
  position : b.position = chain.currentLevel
  signers : b.signers = chain.signers
  rule : b.rule = chain.rule
  within : chain.currentLevel ≤ chain.levels.length

/-- The guarantees of a chain: nobody approves two levels, nothing is approved ahead of the current
level, and every level behind it is satisfied. -/
structure Safe (chain : ChainState) : Prop where
  oneLevelEach : ∀ (i j : ℕ) (before after : LevelState), i ≠ j → chain.levels[i]? = some before → chain.levels[j]? = some after →
    ∀ a ∈ before.approvals, ∀ b ∈ after.approvals, a.userId ≠ b.userId
  nothingAhead : ∀ (i : ℕ) (level : LevelState), chain.currentLevel < i → chain.levels[i]? = some level → level.approvals = []
  passedSatisfied : ∀ (i : ℕ) (level : LevelState), i < chain.currentLevel → chain.levels[i]? = some level → levelSatisfied level = true

theorem signers_of_getElem? {chain : ChainState} {i : ℕ} {level : LevelState} (atI : chain.levels[i]? = some level) :
    chain.signers i = level.distinct := by
  simp only [signers, atI, Option.map_some, Option.getD_some]

theorem signers_set {levels : List LevelState} {k current : ℕ} {old : LevelState} (new : LevelState)
    (atK : levels[k]? = some old) :
    (⟨levels.set k new, current⟩ : ChainState).signers =
      Function.update (⟨levels, current⟩ : ChainState).signers k new.distinct := by
  have bound := (List.getElem?_eq_some_iff.mp atK).1
  funext i
  by_cases here : i = k
  · subst here
    simp only [signers, List.getElem?_set_self bound, Option.map_some, Option.getD_some, Function.update_self]
  · simp only [signers, List.getElem?_set_ne (Ne.symm here), Function.update_of_ne here]

theorem rule_set_of_ne {levels : List LevelState} {k i current next : ℕ} (new : LevelState) (other : i ≠ k) :
    (⟨levels.set k new, next⟩ : ChainState).rule i = (⟨levels, current⟩ : ChainState).rule i := by
  funext s
  simp only [rule, List.getElem?_set_ne (Ne.symm other)]

/-- A level may be rewritten in anything but what its rule reads. -/
theorem rule_set_of_accepts {levels : List LevelState} {k current : ℕ} {old new : LevelState}
    (atK : levels[k]? = some old) (same : new.accepts = old.accepts) :
    (⟨levels.set k new, current⟩ : ChainState).rule = (⟨levels, current⟩ : ChainState).rule := by
  have bound := (List.getElem?_eq_some_iff.mp atK).1
  funext i
  by_cases here : i = k
  · subst here
    funext s
    simp only [rule, List.getElem?_set_self bound, atK, Option.some.injEq, forall_eq', same]
  · exact rule_set_of_ne new here

theorem Represents.safe {chain : ChainState} {b : Ballot UserId} (rep : chain.Represents b) : chain.Safe where
  oneLevelEach := by
    intro i j before after distinct atI atJ a memberA c memberC same
    have apart := b.apart i j distinct
    rw [rep.signers, signers_of_getElem? atI, signers_of_getElem? atJ] at apart
    have inBefore : a.userId ∈ before.distinct := List.mem_toFinset.mpr (List.mem_map_of_mem memberA)
    have inAfter : a.userId ∈ after.distinct := by
      rw [same]
      exact List.mem_toFinset.mpr (List.mem_map_of_mem memberC)
    exact Finset.disjoint_left.mp apart inBefore inAfter
  nothingAhead := by
    intro i level above atI
    have none := b.ahead i (by rw [rep.position]; exact above)
    rw [rep.signers, signers_of_getElem? atI, LevelState.distinct, List.toFinset_eq_empty_iff] at none
    exact List.map_eq_nil_iff.mp none
  passedSatisfied := by
    intro i level below atI
    obtain ⟨met, _⟩ := b.behind i (by rw [rep.position]; exact below)
    rw [rep.rule, rep.signers, signers_of_getElem? atI] at met
    exact (levelSatisfied_iff level).mpr (met level atI)

/-- A complete chain has collected at least as many different approvers as its levels ask for. -/
theorem Represents.sum_demand_le_card {chain : ChainState} {b : Ballot UserId} (rep : chain.Represents b)
    (complete : chain.levels.length ≤ chain.currentLevel) :
    (chain.levels.map LevelState.demand).sum ≤ chain.approvers.card := by
  have atEnd : b.position = chain.levels.length := by rw [rep.position]; exact le_antisymm rep.within complete
  let demand : ℕ → ℕ := fun i => (chain.levels[i]?.map LevelState.demand).getD 0
  have least : ∀ i, i < b.position → ∀ s : Finset UserId, b.rule i s → s.Nonempty → demand i ≤ s.card := by
    intro i below s met signed
    have atI := List.getElem?_eq_getElem (show i < chain.levels.length by omega)
    rw [rep.rule] at met
    simp only [demand, atI, Option.map_some, Option.getD_some]
    exact (met _ atI).demand_le signed
  have total : ∑ i ∈ Finset.range b.position, demand i = (chain.levels.map LevelState.demand).sum := by
    rw [atEnd, Finset.sum_range, ← Fin.sum_univ_fun_getElem]
    refine Finset.sum_congr rfl fun i _ => ?_
    simp only [demand, List.getElem?_eq_getElem i.isLt, Option.map_some, Option.getD_some]
  have covered : (Finset.range b.position).biUnion b.signers ⊆ chain.approvers := by
    intro uid member
    obtain ⟨i, inRange, signed⟩ := Finset.mem_biUnion.mp member
    have below := Finset.mem_range.mp inRange
    have atI := List.getElem?_eq_getElem (show i < chain.levels.length by omega)
    rw [rep.signers, signers_of_getElem? atI] at signed
    exact List.mem_toFinset.mpr
      (List.mem_flatMap.mpr ⟨_, List.getElem_mem _, List.mem_toFinset.mp signed⟩)
  calc (chain.levels.map LevelState.demand).sum
      = ∑ i ∈ Finset.range b.position, demand i := total.symm
    _ ≤ ((Finset.range b.position).biUnion b.signers).card := b.sum_demand_le_card demand least
    _ ≤ chain.approvers.card := Finset.card_le_card covered

/-- A chain that `init_chain_state` has just laid out represents the ballot with no signatures. -/
theorem represents_init (now : Time) (levels : List ChainLevel) :
    (⟨levels.mapIdx (initLevelState now), 0⟩ : ChainState).Represents
      (Ballot.opening (⟨levels.mapIdx (initLevelState now), 0⟩ : ChainState).rule) where
  position := rfl
  rule := rfl
  within := Nat.zero_le _
  signers := by
    funext i
    cases atI : levels[i]? with
    | none => simp only [Ballot.opening, signers, List.getElem?_mapIdx, atI, Option.map_none, Option.getD_none]
    | some level =>
      simp only [Ballot.opening, signers, List.getElem?_mapIdx, atI, Option.map_some, Option.getD_some]
      rfl

theorem approvedElsewhere_eq_false {chain : ChainState} {actor : UserId}
    (fresh : approvedElsewhere chain.levels chain.currentLevel actor = false) (i : ℕ) (other : i ≠ chain.currentLevel) :
    actor ∉ chain.signers i := by
  intro signed
  cases atI : chain.levels[i]? with
  | none => simp only [signers, atI, Option.map_none, Option.getD_none, Finset.notMem_empty] at signed
  | some level =>
    rw [signers_of_getElem? atI] at signed
    obtain ⟨approval, member, same⟩ := List.mem_map.mp (List.mem_toFinset.mp signed)
    have listed : (level, i) ∈ chain.levels.zipIdx := List.mem_zipIdx_iff_getElem?.mpr atI
    have acted : level.approvals.any (·.userId == actor) = true :=
      List.any_eq_true.mpr ⟨approval, member, beq_iff_eq.mpr same⟩
    have found : approvedElsewhere chain.levels chain.currentLevel actor = true :=
      List.any_eq_true.mpr ⟨_, listed, by simp only [acted, Bool.and_true, bne_iff_ne, ne_eq, other, not_false_eq_true]⟩
    rw [fresh] at found
    cases found

/-- Recording an approval is one signature on the ballot. -/
theorem Represents.record {chain : ChainState} {b : Ballot UserId} (rep : chain.Represents b) {level : LevelState}
    (atCurrent : chain.levels[chain.currentLevel]? = some level) {actor : UserId} (now : Time)
    (fresh : approvedElsewhere chain.levels chain.currentLevel actor = false) :
    ∃ b', (⟨chain.levels.set chain.currentLevel (level.record actor now), chain.currentLevel⟩ : ChainState).Represents b' := by
  have unused : ∀ i, i ≠ b.position → actor ∉ b.signers i := by
    rw [rep.position, rep.signers]
    exact approvedElsewhere_eq_false fresh
  have grown : (level.record actor now).distinct = insert actor level.distinct := by
    ext uid
    simp only [LevelState.distinct, LevelState.record, List.map_append, List.map_cons, List.map_nil, List.mem_toFinset, List.mem_append,
      List.mem_singleton, Finset.mem_insert, or_comm]
  refine ⟨b.sign actor unused, rep.position, ?_, ?_, ?_⟩
  · show Function.update b.signers b.position (insert actor (b.signers b.position)) = _
    rw [signers_set _ atCurrent, grown, rep.signers, rep.position, signers_of_getElem? atCurrent]
  · refine rep.rule.trans (Eq.symm (rule_set_of_accepts atCurrent ?_))
    rfl
  · simpa only [List.length_set] using rep.within

/-- A satisfied current level closes its stage of the ballot. -/
theorem Represents.pass {chain : ChainState} {b : Ballot UserId} (rep : chain.Represents b) {level : LevelState}
    (atCurrent : chain.levels[chain.currentLevel]? = some level) (met : levelSatisfied level = true)
    (signed : level.approvals ≠ []) : ∃ b', (⟨chain.levels, chain.currentLevel + 1⟩ : ChainState).Represents b' := by
  have closes : b.rule b.position (b.signers b.position) := by
    rw [rep.rule, rep.signers, rep.position, signers_of_getElem? atCurrent]
    intro other same
    cases Option.some.inj (atCurrent.symm.trans same)
    exact (levelSatisfied_iff level).mp met
  have somebody : (b.signers b.position).Nonempty := by
    rw [rep.signers, rep.position, signers_of_getElem? atCurrent, LevelState.distinct, List.toFinset_nonempty_iff]
    exact fun empty => signed (List.map_eq_nil_iff.mp empty)
  refine ⟨b.close closes somebody, congrArg (· + 1) rep.position, rep.signers, rep.rule, ?_⟩
  exact (List.getElem?_eq_some_iff.mp atCurrent).1

/-- What neither the signers nor the rule of a level reads is no part of the ballot. -/
theorem Represents.relabel {levels : List LevelState} {current : ℕ} {b : Ballot UserId}
    (rep : (⟨levels, current⟩ : ChainState).Represents b) {k : ℕ} {old new : LevelState} (atK : levels[k]? = some old)
    (signers : new.distinct = old.distinct) (rule : new.accepts = old.accepts) :
    (⟨levels.set k new, current⟩ : ChainState).Represents b where
  position := rep.position
  signers := by
    rw [signers_set new atK, rep.signers, signers]
    exact (Function.update_eq_self_iff.mpr (signers_of_getElem? atK).symm).symm
  rule := rep.rule.trans (rule_set_of_accepts atK rule).symm
  within := by simpa only [List.length_set] using rep.within

/-- An escalation rewrites the rule of the open stage and nothing else. -/
theorem Represents.escalate {chain : ChainState} {b : Ballot UserId} (rep : chain.Represents b)
    {level escalated : LevelState} (atCurrent : chain.levels[chain.currentLevel]? = some level)
    (kept : escalated.approvals = level.approvals) :
    ∃ b', (⟨chain.levels.set chain.currentLevel escalated, chain.currentLevel⟩ : ChainState).Represents b' := by
  have earlier : ∀ i, i < b.position →
      (⟨chain.levels.set chain.currentLevel escalated, chain.currentLevel⟩ : ChainState).rule i = b.rule i := by
    intro i below
    rw [rep.position] at below
    rw [rep.rule]
    exact rule_set_of_ne escalated (by omega)
  refine ⟨b.reform _ earlier, rep.position, ?_, rfl, ?_⟩
  · rw [signers_set _ atCurrent, LevelState.distinct, kept]
    exact (rep.signers.trans (Function.update_eq_self_iff.mpr (signers_of_getElem? atCurrent).symm).symm)
  · simpa only [List.length_set] using rep.within

end ChainState

end Payables
