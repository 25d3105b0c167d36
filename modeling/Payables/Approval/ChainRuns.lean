import Payables.Approval.ChainSafety

namespace Payables
open Lib

/-- What `advance_approval_chain` stores and answers when it records an approval. -/
inductive Advanced (now : Time) (actor : UserId) (chain : ChainState) : Bool → ChainState → Prop
  | recorded {level} :
      chain.levels[chain.currentLevel]? = some level →
      approvedElsewhere chain.levels chain.currentLevel actor = false →
      levelSatisfied (level.record actor now) = false →
      Advanced now actor chain false
        ⟨chain.levels.set chain.currentLevel (level.record actor now), chain.currentLevel⟩
  | completed {level} :
      chain.levels[chain.currentLevel]? = some level →
      approvedElsewhere chain.levels chain.currentLevel actor = false →
      levelSatisfied (level.record actor now) = true →
      (chain.levels.set chain.currentLevel (level.record actor now))[chain.currentLevel + 1]? = none →
      Advanced now actor chain true
        ⟨chain.levels.set chain.currentLevel (level.record actor now), chain.currentLevel + 1⟩
  | moved {level nextLevel} :
      chain.levels[chain.currentLevel]? = some level →
      approvedElsewhere chain.levels chain.currentLevel actor = false →
      levelSatisfied (level.record actor now) = true →
      (chain.levels.set chain.currentLevel (level.record actor now))[chain.currentLevel + 1]? = some nextLevel →
      Advanced now actor chain false
        ⟨(chain.levels.set chain.currentLevel (level.record actor now)).set (chain.currentLevel + 1)
          { nextLevel with enteredAt := some now }, chain.currentLevel + 1⟩

/-- The three things a call can do: find nothing left to approve, refuse, or record. -/
theorem advanceApprovalChain_cases (now : Time) (stateData : Option StateData) (actor : UserId) :
    (advanceApprovalChain now stateData actor = (.ok true, stateData) ∧
      ∀ chain, chainStateOf stateData = some chain → chain.levels.length ≤ chain.currentLevel) ∨
    advanceApprovalChain now stateData actor = (.error alreadyApprovedElsewhere, stateData) ∨
    ∃ chain after answer, chainStateOf stateData = some chain ∧ Advanced now actor chain answer after ∧
      advanceApprovalChain now stateData actor = (.ok answer, some (withChainState stateData after)) := by
  unfold advanceApprovalChain
  cases stored : chainStateOf stateData with
  | none => exact .inl ⟨rfl, fun chain some => nomatch some⟩
  | some chain =>
    cases atCurrent : chain.levels[chain.currentLevel]? with
    | none =>
      refine .inl ⟨by simp only [atCurrent], fun other same => ?_⟩
      cases Option.some.inj same
      exact List.getElem?_eq_none_iff.mp atCurrent
    | some level =>
      simp only [atCurrent]
      cases fresh : approvedElsewhere chain.levels chain.currentLevel actor with
      | true => exact .inr (.inl rfl)
      | false =>
        refine .inr (.inr ⟨chain, ?_⟩)
        cases met : levelSatisfied (level.record actor now) with
        | false => exact ⟨_, false, rfl, .recorded atCurrent fresh met, rfl⟩
        | true =>
          cases atNext : (chain.levels.set chain.currentLevel (level.record actor now))[chain.currentLevel + 1]? with
          | none => exact ⟨_, true, rfl, .completed atCurrent fresh met atNext, rfl⟩
          | some nextLevel => exact ⟨_, false, rfl, .moved atCurrent fresh met atNext, rfl⟩

theorem applyEscalation_cases (now : Time) (stateData : Option StateData) :
    applyEscalation now stateData = (false, stateData) ∨
    ∃ chain level escalated, chainStateOf stateData = some chain ∧
      chain.levels[chain.currentLevel]? = some level ∧ escalateLevel now level = some escalated ∧
      applyEscalation now stateData = (true, some (withChainState stateData
        ⟨chain.levels.set chain.currentLevel escalated, chain.currentLevel⟩)) := by
  unfold applyEscalation
  cases stored : chainStateOf stateData with
  | none => exact .inl rfl
  | some chain =>
    cases due : chain.levels[chain.currentLevel]?.bind (escalateLevel now) with
    | none => exact .inl (by simp only [due])
    | some escalated =>
      obtain ⟨level, atCurrent, raised⟩ := Option.bind_eq_some_iff.mp due
      exact .inr ⟨chain, level, escalated, rfl, atCurrent, raised, by simp only [due]⟩

/-- An escalation keeps every approval already given. -/
theorem escalateLevel_approvals {now : Time} {level escalated : LevelState}
    (raised : escalateLevel now level = some escalated) : escalated.approvals = level.approvals := by
  simp only [escalateLevel, Option.bind_eq_bind, Option.bind_eq_some_iff, Option.pure_def, Option.some.injEq] at raised
  obtain ⟨_, _, _, _, _, _, _, _, _, _, _, _, same⟩ := raised
  rw [← same]

@[simp] theorem chainStateOf_withChainState (stateData : Option StateData) (chain : ChainState) :
    chainStateOf (some (withChainState stateData chain)) = some chain := rfl

/-- Every chain stored in `state_data` represents a ballot. -/
def ChainSound (stateData : Option StateData) : Prop :=
  ∀ chain, chainStateOf stateData = some chain → ∃ b, chain.Represents b

theorem chainSound_withChainState {stateData : Option StateData} {chain : ChainState} :
    ChainSound (some (withChainState stateData chain)) ↔ ∃ b, chain.Represents b := by
  simp only [ChainSound, chainStateOf_withChainState, Option.some.injEq, forall_eq']

theorem Advanced.represents {now : Time} {actor : UserId} {chain after : ChainState} {answer : Bool}
    (advanced : Advanced now actor chain answer after) {b : Ballot UserId} (rep : chain.Represents b) :
    ∃ b', after.Represents b' := by
  have signed (level : LevelState) : (level.record actor now).approvals ≠ [] :=
    List.append_ne_nil_of_right_ne_nil _ (List.cons_ne_nil _ _)
  have inPlace {level : LevelState} (atCurrent : chain.levels[chain.currentLevel]? = some level) :
      (chain.levels.set chain.currentLevel (level.record actor now))[chain.currentLevel]? =
        some (level.record actor now) :=
    List.getElem?_set_self (List.getElem?_eq_some_iff.mp atCurrent).1
  cases advanced with
  | recorded atCurrent fresh _ => exact rep.record atCurrent now fresh
  | @completed level atCurrent fresh met _ =>
    obtain ⟨b', recorded⟩ := rep.record atCurrent now fresh
    exact recorded.pass (inPlace atCurrent) met (signed level)
  | @moved level _ atCurrent fresh met atNext =>
    obtain ⟨b', recorded⟩ := rep.record atCurrent now fresh
    obtain ⟨b'', passed⟩ := recorded.pass (inPlace atCurrent) met (signed level)
    exact ⟨b'', passed.relabel atNext rfl rfl⟩

theorem Advanced.currentLevel_le {now : Time} {actor : UserId} {chain after : ChainState} {answer : Bool}
    (advanced : Advanced now actor chain answer after) : chain.currentLevel ≤ after.currentLevel := by
  cases advanced with
  | recorded => exact le_rfl
  | completed => exact Nat.le_succ _
  | moved => exact Nat.le_succ _

theorem Advanced.currentLevel_lt {now : Time} {actor : UserId} {chain after : ChainState} {answer : Bool}
    (advanced : Advanced now actor chain answer after) : chain.currentLevel < chain.levels.length := by
  cases advanced with
  | recorded atCurrent => exact (List.getElem?_eq_some_iff.mp atCurrent).1
  | completed atCurrent => exact (List.getElem?_eq_some_iff.mp atCurrent).1
  | moved atCurrent => exact (List.getElem?_eq_some_iff.mp atCurrent).1

theorem Advanced.complete {now : Time} {actor : UserId} {chain after : ChainState}
    (advanced : Advanced now actor chain true after) : after.levels.length ≤ after.currentLevel := by
  cases advanced with
  | completed _ _ _ atNext => exact List.getElem?_eq_none_iff.mp atNext

theorem initChainState_sound (now : Time) (stateData : Option StateData) (levels : List ChainLevel) :
    ChainSound (some (initChainState now stateData levels)) :=
  chainSound_withChainState.mpr ⟨_, ChainState.represents_init now levels⟩

theorem advanceApprovalChain_sound {now : Time} {stateData : Option StateData} {actor : UserId}
    (sound : ChainSound stateData) : ChainSound (advanceApprovalChain now stateData actor).2 := by
  obtain ⟨same, _⟩ | same | ⟨chain, after, answer, stored, advanced, same⟩ :=
    advanceApprovalChain_cases now stateData actor
  · rw [same]
    exact sound
  · rw [same]
    exact sound
  · obtain ⟨b, rep⟩ := sound chain stored
    rw [same]
    exact chainSound_withChainState.mpr (advanced.represents rep)

theorem applyEscalation_sound {now : Time} {stateData : Option StateData} (sound : ChainSound stateData) :
    ChainSound (applyEscalation now stateData).2 := by
  obtain same | ⟨chain, level, escalated, stored, atCurrent, raised, same⟩ := applyEscalation_cases now stateData
  · rw [same]
    exact sound
  · obtain ⟨b, rep⟩ := sound chain stored
    rw [same]
    exact chainSound_withChainState.mpr (rep.escalate atCurrent (escalateLevel_approvals raised))

/-- A call on a started chain. -/
inductive ChainCall
  | advance (now : Time) (actor : UserId)
  | escalate (now : Time)
  deriving DecidableEq

/-- What a call answers, and the `state_data` it leaves. -/
def runChainCall (stateData : Option StateData) : ChainCall → Except Raised Bool × Option StateData
  | .advance now actor => advanceApprovalChain now stateData actor
  | .escalate now => ((.ok (applyEscalation now stateData).1), (applyEscalation now stateData).2)

def chainMachine (started : Time) (before : Option StateData) (levels : List ChainLevel) :
    Machine (Option StateData) ChainCall where
  init stateData := stateData = some (initChainState started before levels)
  step stateData call := (runChainCall stateData call).2

theorem runChainCall_sound {stateData : Option StateData} (sound : ChainSound stateData) (call : ChainCall) :
    ChainSound (runChainCall stateData call).2 := by
  cases call with
  | advance now actor => exact advanceApprovalChain_sound sound
  | escalate now => exact applyEscalation_sound sound

/-- A call never drops the chain and never goes back a level. -/
theorem runChainCall_currentLevel {stateData : Option StateData} {chain : ChainState}
    (stored : chainStateOf stateData = some chain) (call : ChainCall) :
    ∃ after, chainStateOf (runChainCall stateData call).2 = some after ∧ chain.currentLevel ≤ after.currentLevel := by
  cases call with
  | advance now actor =>
    simp only [runChainCall]
    obtain ⟨same, _⟩ | same | ⟨before, after, answer, held, advanced, same⟩ :=
      advanceApprovalChain_cases now stateData actor
    · exact ⟨chain, by rw [same]; exact stored, le_rfl⟩
    · exact ⟨chain, by rw [same]; exact stored, le_rfl⟩
    · cases Option.some.inj (held.symm.trans stored)
      exact ⟨after, by rw [same]; rfl, advanced.currentLevel_le⟩
  | escalate now =>
    simp only [runChainCall]
    obtain same | ⟨before, level, escalated, held, _, _, same⟩ := applyEscalation_cases now stateData
    · exact ⟨chain, by rw [same]; exact stored, le_rfl⟩
    · cases Option.some.inj (held.symm.trans stored)
      exact ⟨⟨chain.levels.set chain.currentLevel escalated, chain.currentLevel⟩, by rw [same]; rfl, le_rfl⟩

theorem runChainCall_refused {stateData : Option StateData} {call : ChainCall} {raised : Raised}
    (refused : (runChainCall stateData call).1 = .error raised) : (runChainCall stateData call).2 = stateData := by
  cases call with
  | advance now actor =>
    simp only [runChainCall] at refused ⊢
    obtain ⟨same, _⟩ | same | ⟨_, _, _, _, _, same⟩ := advanceApprovalChain_cases now stateData actor
    · rw [same]
    · rw [same]
    · rw [same] at refused
      cases refused
  | escalate now => cases refused

/-- Four eyes over a whole chain: an answer of "complete" comes with as many different people as
the levels ask for together, whatever was escalated on the way. -/
theorem complete_demand_le_approvers {stateData after : Option StateData} (sound : ChainSound stateData)
    {chain : ChainState} (stored : chainStateOf stateData = some chain) {now : Time} {actor : UserId}
    (complete : advanceApprovalChain now stateData actor = (.ok true, after)) :
    ∃ final, chainStateOf after = some final ∧ (final.levels.map LevelState.demand).sum ≤ final.approvers.card := by
  obtain ⟨same, past⟩ | same | ⟨before, next, answer, held, advanced, same⟩ :=
    advanceApprovalChain_cases now stateData actor
  · obtain ⟨b, rep⟩ := sound chain stored
    cases same.symm.trans complete
    exact ⟨chain, stored, rep.sum_demand_le_card (past chain stored)⟩
  · cases same.symm.trans complete
  · obtain ⟨b, rep⟩ := sound before held
    obtain ⟨b', rep'⟩ := advanced.represents rep
    cases same.symm.trans complete
    exact ⟨next, rfl, rep'.sum_demand_le_card advanced.complete⟩

/-- Every chain, from `init_chain_state` on, under any calls in any order: it stays safe, it never
goes back, a refusal changes nothing, and completion certifies distinct approvers. -/
theorem approval_chain_safe_in_every_run (started : Time) (before : Option StateData) (levels : List ChainLevel)
    (calls : List ChainCall) :
    let machine := chainMachine started before levels
    let stateData := machine.exec (some (initChainState started before levels)) calls
    ∃ chain, chainStateOf stateData = some chain ∧ chain.Safe ∧
      (∀ later, ∃ after, chainStateOf (machine.exec stateData later) = some after ∧
        chain.currentLevel ≤ after.currentLevel) ∧
      (∀ call detail, (runChainCall stateData call).1 = .error (.http 403 detail) →
        (runChainCall stateData call).2 = stateData) ∧
      (∀ now actor after, advanceApprovalChain now stateData actor = (.ok true, after) →
        ∃ final, chainStateOf after = some final ∧
          (final.levels.map LevelState.demand).sum ≤ final.approvers.card) := by
  intro machine stateData
  have climbs (floor : ℕ) (s : Option StateData) (call : ChainCall)
      (held : ∃ chain, chainStateOf s = some chain ∧ floor ≤ chain.currentLevel) :
      ∃ after, chainStateOf (machine.step s call) = some after ∧ floor ≤ after.currentLevel := by
    obtain ⟨current, atCurrent, above⟩ := held
    obtain ⟨after, atAfter, higher⟩ := runChainCall_currentLevel atCurrent call
    exact ⟨after, atAfter, above.trans higher⟩
  have first : ChainSound (some (initChainState started before levels)) := initChainState_sound started before levels
  have keeps (s : Option StateData) (call : ChainCall) (held : ChainSound s) : ChainSound (machine.step s call) :=
    runChainCall_sound held call
  have sound : ChainSound stateData := Machine.exec_invariant keeps first calls
  obtain ⟨chain, stored, _⟩ :=
    Machine.exec_invariant (M := machine) (climbs 0) ⟨_, chainStateOf_withChainState before _, Nat.zero_le _⟩ calls
  obtain ⟨b, rep⟩ := sound chain stored
  exact ⟨chain, stored, rep.safe,
    fun later => Machine.exec_invariant (M := machine) (climbs chain.currentLevel) ⟨chain, stored, le_rfl⟩ later,
    fun call detail refused => runChainCall_refused refused,
    fun now actor after complete => complete_demand_le_approvers sound stored complete⟩

end Payables
