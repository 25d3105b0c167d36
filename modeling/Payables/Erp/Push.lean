import Payables.Approval.Config
import Payables.Lib.Column
import Payables.Workflow.Status

namespace Payables
open Lib

/-- `MAX_RETRIES`. -/
def maxRetries : Nat := 3

/-- How one `adapter.post_invoice` ends. -/
inductive ErpAnswer
  | success (documentId documentNumber : Option String)
  | refused (message : Option String)
  | transportError (text : String)
  deriving DecidableEq

namespace ErpAnswer

def isSuccess : ErpAnswer → Bool
  | success .. => true
  | _ => false

/-- `_call_erp`: the reference, or the text of the exception. -/
def outcome : ErpAnswer → Except String String
  | success documentId documentNumber =>
    let reference := if documentId.getD "" = "" then documentNumber else documentId
    .ok (if reference.getD "" = "" then "UNKNOWN" else reference.getD "")
  | refused message => .error (if message.getD "" = "" then "ERP post failed" else message.getD "")
  | transportError text => .error text

end ErpAnswer

/-- `str(exc)`. -/
def Raised.text : Raised → String
  | .http statusCode detail => s!"{statusCode}: {detail}"
  | .uncaught kind => kind

/-- `erp_retries` as a push reads it. -/
def WorkflowInstance.erpRetries (workflow : WorkflowInstance) : Int :=
  (workflow.stateData.bind (·.erpRetries)).getD 0

/-- Assigning a new `state_data` and committing. -/
def WorkflowInstance.assignStateData (workflow : WorkflowInstance) (data : StateData) : WorkflowInstance :=
  { workflow with stateData := ((Column.load workflow.stateData).assign (some data)).flush.stored }

/-- The reset of `retry_erp`: `state_data or {}` is the loaded object unless that is empty, and the
key is set in it before it is assigned. -/
def resetErpRetries (stateData : Option StateData) : Column (Option StateData) :=
  if stateData.getD .empty = .empty then
    (Column.load stateData).assign (some { StateData.empty with erpRetries := some 0 })
  else
    ((Column.load stateData).mutate (·.map fun data => { data with erpRetries := some 0 })).assignSelf

/-- `retry_erp`, up to its commit. -/
def retryErp (status : InvoiceStatus) (approvedBy : Option String) (workflow : Option WorkflowInstance) :
    Except Raised (InvoiceStatus × Option WorkflowInstance) :=
  if approvedBy.getD "" = "" then .error (.http 409 "Cannot retry ERP push — invoice was never approved")
  else
    match InvoiceStatus.validateTransition status .sendingToErp with
    | .error raised => .error raised
    | .ok () => .ok (.sendingToErp, workflow.map fun instance' =>
        { instance' with stateData := (resetErpRetries instance'.stateData).flush.stored, state := .active })

/-- What a push has committed so far, and the answers it has heard. -/
structure PushState where
  status : InvoiceStatus
  workflow : Option WorkflowInstance
  calls : List ErpAnswer
  deriving DecidableEq

namespace PushState

def hear (push : PushState) (answer : ErpAnswer) : PushState := { push with calls := push.calls ++ [answer] }

/-- A success: the counter and the reference go into `state_data`, and the workflow is complete. -/
def confirm (push : PushState) (attempt : Int) (reference : String) : PushState :=
  { push with
    status := .done
    workflow := push.workflow.map fun workflow =>
      { workflow.assignStateData { workflow.stateData.getD .empty with
          erpReference := some reference
          erpRetries := some (attempt + 1) } with
        state := .completed } }

/-- A failure with attempts left. -/
def recordFailure (push : PushState) (attempt : Int) (error : String) : PushState :=
  { push with
    workflow := push.workflow.map fun workflow =>
      workflow.assignStateData { workflow.stateData.getD .empty with
        erpRetries := some (attempt + 1)
        lastError := some error } }

/-- The last failure. -/
def giveUp (push : PushState) (attempt : Int) (error : String) : PushState :=
  { push with
    status := .failed
    workflow := push.workflow.map fun workflow =>
      { workflow.assignStateData { workflow.stateData.getD .empty with
          erpRetries := some (attempt + 1)
          lastError := some error } with
        state := .failed } }

end PushState

/-- The transitions of a confirmed push. -/
def confirmTransitions (status : InvoiceStatus) : Except Raised Unit := do
  InvoiceStatus.validateTransition status .sentToErp
  InvoiceStatus.validateTransition .sentToErp .done

/-- The loop over `range(attempt, MAX_RETRIES)`, `remaining` turns long; `answers` are those of this
push, in order. A refused transition of a confirmed push counts as a failure, and one that leaves
the last `except` rolls back to the last commit. -/
def pushAttempts (answers : Nat → ErpAnswer) : Nat → Int → PushState → PushState
  | 0, _, push => push
  | remaining + 1, attempt, push =>
    let heard := push.hear (answers push.calls.length)
    let failure (error : String) : PushState :=
      if attempt + 1 < maxRetries then pushAttempts answers remaining (attempt + 1) (heard.recordFailure attempt error)
      else
        match InvoiceStatus.validateTransition push.status .failed with
        | .error _ => heard
        | .ok () => heard.giveUp attempt error
    match (answers push.calls.length).outcome with
    | .error error => failure error
    | .ok reference =>
      match confirmTransitions push.status with
      | .error raised => failure raised.text
      | .ok () => heard.confirm attempt reference

/-- The turns the stored counter leaves. -/
def attemptsLeft (workflow : Option WorkflowInstance) : Nat :=
  (maxRetries - (workflow.map WorkflowInstance.erpRetries).getD 0 : Int).toNat

/-- `send_to_erp_internal`. -/
def sendToErpInternal (status : InvoiceStatus) (workflow : Option WorkflowInstance) (answers : Nat → ErpAnswer) : PushState :=
  pushAttempts answers (attemptsLeft workflow) ((workflow.map WorkflowInstance.erpRetries).getD 0) ⟨status, workflow, []⟩

/-- A push that a crash cuts off after `turns` committed turns. -/
def sendToErpCut (status : InvoiceStatus) (workflow : Option WorkflowInstance) (answers : Nat → ErpAnswer) (turns : Nat) :
    PushState :=
  pushAttempts answers (min turns (attemptsLeft workflow)) ((workflow.map WorkflowInstance.erpRetries).getD 0)
    ⟨status, workflow, []⟩

end Payables
