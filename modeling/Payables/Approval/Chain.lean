import Mathlib.Data.Finset.Card
import Payables.Approval.Levels

namespace Payables

structure LevelApproval where
  userId : UserId
  recordedAt : Time
  deriving DecidableEq

structure LevelEscalation where
  raisedAt : Time
  addedUserIds : List UserId
  afterHours : Int
  deriving DecidableEq

/-- The state of one level of a started chain, as `init_chain_state` lays it out. -/
structure LevelState where
  level : Nat
  name : String
  required : Int
  approverIds : List UserId
  approvals : List LevelApproval
  parallelMode : ParallelMode
  escalationHours : Option Int
  escalationToUserIds : List UserId
  enteredAt : Option Time
  escalations : List LevelEscalation
  deriving DecidableEq

/-- The value stored under `approval_levels`. -/
structure ChainState where
  levels : List LevelState
  currentLevel : Nat
  deriving DecidableEq

/-- `WorkflowInstance.state_data`. A missing key is `none`; `otherKeys` holds the keys that no
modelled function reads. -/
structure StateData where
  approvalLevels : Option ChainState
  rejectionCount : Option Nat
  error : Option String
  erpReference : Option String
  erpRetries : Option Int
  lastError : Option String
  otherKeys : List (String × String)
  deriving DecidableEq

/-- The empty mapping. -/
def StateData.empty : StateData := ⟨none, none, none, none, none, none, []⟩

/-- `chain_state_of`: an absent mapping and an absent key both mean that there is no chain. -/
def chainStateOf (stateData : Option StateData) : Option ChainState :=
  stateData.bind (·.approvalLevels)

/-- Assigning the `approval_levels` key of `state_data or {}`. -/
def withChainState (stateData : Option StateData) (chain : ChainState) : StateData :=
  { stateData.getD .empty with approvalLevels := some chain }

/-- `clear_chain_state`. -/
def clearChainState (stateData : StateData) : StateData :=
  { stateData with approvalLevels := none }

/-- The entry `init_chain_state` builds for the level at index `i`. -/
def initLevelState (now : Time) (i : Nat) (level : ChainLevel) : LevelState where
  level := i
  name := level.name.getD s!"Level {i + 1}"
  required := level.requiredApprovals.getD 1
  approverIds := level.approverIds
  approvals := []
  parallelMode := level.parallelMode.getD .any
  escalationHours := level.escalationHours
  escalationToUserIds := level.escalationToUserIds
  enteredAt := if i = 0 then some now else none
  escalations := []

def initChainState (now : Time) (stateData : Option StateData) (applicableLevels : List ChainLevel) : StateData :=
  withChainState stateData ⟨applicableLevels.mapIdx (initLevelState now), 0⟩

/-- The distinct users who approved a level. -/
def LevelState.distinct (level : LevelState) : Finset UserId :=
  (level.approvals.map (·.userId)).toFinset

/-- `_level_satisfied`. -/
def levelSatisfied (level : LevelState) : Bool :=
  match level.parallelMode with
  | .all => level.approverIds.all (· ∈ level.distinct)
  | .any => level.required ≤ level.distinct.card

/-- The refusal of an approver who already acted on a different level. -/
def alreadyApprovedElsewhere : Raised :=
  .http 403 "You already approved an earlier level of this chain; a different approver is required."

/-- The actor has an approval on a level other than the one at `currentIdx`. -/
def approvedElsewhere (levels : List LevelState) (currentIdx : Nat) (actor : UserId) : Bool :=
  levels.zipIdx.any fun (level, idx) => idx != currentIdx && level.approvals.any (·.userId == actor)

/-- The current level with one more approval appended. -/
def LevelState.record (level : LevelState) (actor : UserId) (now : Time) : LevelState :=
  { level with approvals := level.approvals ++ [⟨actor, now⟩] }

/-- `advance_approval_chain`: record an approval and advance the chain. The answer says whether the
chain is complete; the second component is `state_data` after the call. -/
def advanceApprovalChain (now : Time) (stateData : Option StateData) (actor : UserId) :
    Except Raised Bool × Option StateData :=
  match chainStateOf stateData with
  | none => (.ok true, stateData)
  | some chain =>
    match chain.levels[chain.currentLevel]? with
    | none => (.ok true, stateData)
    | some currentLevel =>
      if approvedElsewhere chain.levels chain.currentLevel actor then
        (.error alreadyApprovedElsewhere, stateData)
      else
        let recorded := currentLevel.record actor now
        let levels := chain.levels.set chain.currentLevel recorded
        if levelSatisfied recorded then
          match levels[chain.currentLevel + 1]? with
          | none => (.ok true, some (withChainState stateData ⟨levels, chain.currentLevel + 1⟩))
          | some nextLevel =>
            let stamped := levels.set (chain.currentLevel + 1) { nextLevel with enteredAt := some now }
            (.ok false, some (withChainState stateData ⟨stamped, chain.currentLevel + 1⟩))
        else
          (.ok false, some (withChainState stateData ⟨levels, chain.currentLevel⟩))

/-- `timedelta(hours=hours)`. -/
def hoursToTime (hours : Int) : Time := hours * 3600000000

/-- The approvers of a level after its escalation to `newTargets`. An `all` level keeps only those
who already approved, so that it does not grow harder to clear. -/
def escalatedApprovers (level : LevelState) (newTargets : List UserId) : List UserId :=
  match level.parallelMode with
  | .all =>
    let kept := level.approverIds.filter (· ∈ level.distinct)
    kept ++ newTargets.filter (! kept.contains ·)
  | .any => level.approverIds ++ newTargets

/-- The level that `apply_escalation` writes back, when it is due and would add somebody. -/
def escalateLevel (now : Time) (level : LevelState) : Option LevelState := do
  let hours ← level.escalationHours
  let enteredAt ← level.enteredAt
  guard (hours ≠ 0 ∧ level.escalationToUserIds ≠ [])
  guard ¬(now - enteredAt < hoursToTime hours)
  -- an empty allow-list is unrestricted, and escalating it would only narrow it
  guard (level.approverIds ≠ [])
  let newTargets := level.escalationToUserIds.filter (! level.approverIds.contains ·)
  guard (newTargets ≠ [])
  return { level with
    approverIds := escalatedApprovers level newTargets
    escalations := level.escalations ++ [⟨now, newTargets, hours⟩] }

/-- `apply_escalation`. The answer says whether the instance was changed. -/
def applyEscalation (now : Time) (stateData : Option StateData) : Bool × Option StateData :=
  match chainStateOf stateData with
  | none => (false, stateData)
  | some chain =>
    match chain.levels[chain.currentLevel]?.bind (escalateLevel now) with
    | none => (false, stateData)
    | some escalated =>
      (true, some (withChainState stateData ⟨chain.levels.set chain.currentLevel escalated, chain.currentLevel⟩))

end Payables
