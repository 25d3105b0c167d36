import Payables.Approval.Chain

namespace Payables

inductive ApproverStrategy
  | chain
  | specific
  | other (text : String)
  deriving DecidableEq

/-- The config of the approval step. -/
structure ApprovalConfig where
  approverStrategy : Option ApproverStrategy
  approverIds : List UserId
  approverId : Option UserId
  approvalChain : List ChainLevel
  requireSegregation : Option Bool
  maxInvoiceAmount : RawMoney
  requireCfoAbove : RawMoney
  deriving DecidableEq

/-- `{}`, nothing to enforce. -/
def ApprovalConfig.empty : ApprovalConfig := ⟨none, [], none, [], none, .unset, .unset⟩

/-- A non-empty `steps_config`, as far as an approval reads it. -/
structure StepsConfig where
  approval : Option ApprovalConfig
  deriving DecidableEq

inductive InstanceState
  | active
  | completed
  | failed
  deriving DecidableEq

/-- A `WorkflowInstance`. An empty snapshot counts as none. -/
structure WorkflowInstance where
  state : InstanceState
  stateData : Option StateData
  stepsConfigSnapshot : Option StepsConfig
  deriving DecidableEq

/-- `get_step_config(snapshot, "approval") or {}`. -/
def StepsConfig.approvalConfig (config : StepsConfig) : ApprovalConfig := config.approval.getD .empty

/-- `resolve_approval_config`: the frozen snapshot of the invoice, else the active definition. -/
def resolveApprovalConfig (workflow : Option WorkflowInstance) (activeDefinition : Option StepsConfig) : ApprovalConfig :=
  match workflow.bind (·.stepsConfigSnapshot) with
  | some snapshot => snapshot.approvalConfig
  | none => (activeDefinition.map StepsConfig.approvalConfig).getD .empty

end Payables
