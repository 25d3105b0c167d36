import Payables.Approval.Gates
import Payables.Erp.Push
import Payables.Extraction.Jobs

namespace Payables

/-- An invoice row with its line items and its workflow instance. -/
structure Invoice where
  status : InvoiceStatus
  fields : InvoiceFields
  lock : ReportingLock
  uploadedById : Option UserId
  segregationActorIds : List UserId
  approvedBy : Option String
  rejectedBy : Option String
  hasFile : Bool
  workflow : Option WorkflowInstance
  deriving DecidableEq

/-- What an organisation has configured. -/
structure Tenant where
  settings : OrgSettings
  activeDefinition : Option StepsConfig
  deriving DecidableEq

/-- What a service call raises or returns, and the row as it stands in memory by then. -/
abbrev ServiceOutcome := Except Raised Unit × Invoice

def FieldEdit.isNull : FieldEdit → Bool
  | remitToAddress value => value.isNone
  | glAccount value => value.isNone
  | costCenter value => value.isNone
  | department value => value.isNone
  | _ => false

namespace Invoice

def approvalConfig (invoice : Invoice) (tenant : Tenant) : ApprovalConfig :=
  resolveApprovalConfig invoice.workflow tenant.activeDefinition

def chain (invoice : Invoice) : Option ChainState := chainStateOf (invoice.workflow.bind (·.stateData))

/-- The levels of the configured chain that apply to the invoice as it stands. -/
def applicable (invoice : Invoice) (tenant : Tenant) : Except Raised (List ChainLevel) :=
  applicableLevels tenant.settings (invoice.approvalConfig tenant).approvalChain invoice.fields invoice.lock

def withStateData (invoice : Invoice) (stateData : Option StateData) : Invoice :=
  { invoice with workflow := invoice.workflow.map fun workflow => { workflow with stateData := stateData } }

/-- `transition_invoice`. -/
def transition (invoice : Invoice) (target : InvoiceStatus) : ServiceOutcome :=
  match InvoiceStatus.validateTransition invoice.status target with
  | .ok () => (.ok (), { invoice with status := target })
  | .error raised => (.error raised, invoice)

/-- Saving edited fields, with the `refresh_warnings` that follows. -/
def edit (invoice : Invoice) (tenant : Tenant) (rates : FxRates) (fields : InvoiceFields) : Invoice :=
  { invoice with fields := fields, lock := refreshReportingAmount tenant.settings rates fields invoice.lock }

/-- `refresh_warnings` on its own. -/
def refresh (invoice : Invoice) (tenant : Tenant) (rates : FxRates) : Invoice :=
  { invoice with lock := refreshReportingAmount tenant.settings rates invoice.fields invoice.lock }

/-- The corrections of an approval. -/
def correct (invoice : Invoice) (tenant : Tenant) (request : ApproveRequest) : Invoice :=
  if request.corrections = [] then invoice
  else
    let fields := (request.corrections.filter fun edit => !edit.isNull).foldl FieldEdit.apply invoice.fields
    if request.refreshes then invoice.edit tenant request.rates fields else { invoice with fields := fields }

/-- The state data an approval signs: a chain that is not there yet is laid out from the levels that
apply now, if any do. -/
def startChain (invoice : Invoice) (tenant : Tenant) (now : Time) (stateData : Option StateData) :
    Except Raised (Option StateData) :=
  match chainStateOf stateData with
  | some _ => .ok stateData
  | none => do
    let levels ← invoice.applicable tenant
    return if levels = [] then stateData else some (initChainState now stateData levels)

/-- The named-approver gate of the current level. -/
def checkCurrentLevel (request : ApproveRequest) (stateData : Option StateData) : Except Raised Unit :=
  match (chainStateOf stateData).bind fun chain => chain.levels[chain.currentLevel]? with
  | some level => checkLevelApprover request.delegateOf level.approverIds request.actorId
  | none => .ok ()

/-- The chain of an approval. The answer says whether nothing is left to sign. -/
def signChain (invoice : Invoice) (tenant : Tenant) (request : ApproveRequest) (now : Time) : Except Raised Bool × Invoice :=
  match (invoice.approvalConfig tenant).approverStrategy, invoice.workflow with
  | some .chain, some workflow =>
    match invoice.startChain tenant now workflow.stateData with
    | .error raised => (.error raised, invoice)
    | .ok started =>
      match checkCurrentLevel request started with
      | .error raised => (.error raised, invoice.withStateData started)
      | .ok () =>
        let advanced := advanceApprovalChain now started request.actorId
        (advanced.1, invoice.withStateData advanced.2)
  | _, _ => (.ok true, invoice)

/-- `approve_invoice` of the review service. -/
def approve (invoice : Invoice) (tenant : Tenant) (request : ApproveRequest) (now : Time) : ServiceOutcome :=
  let config := invoice.approvalConfig tenant
  match checkSegregation invoice.uploadedById invoice.segregationActorIds request.actorId config with
  | .error raised => (.error raised, invoice)
  | .ok () =>
    match checkNamedApprover request config with
    | .error raised => (.error raised, invoice)
    | .ok () =>
      let corrected := invoice.correct tenant request
      match enforceApprovalThresholds tenant.settings request corrected.fields corrected.lock config with
      | .error raised => (.error raised, corrected)
      | .ok () =>
        match corrected.signChain tenant request now with
        | (.error raised, signed) => (.error raised, signed)
        | (.ok false, signed) => (.ok (), signed)
        | (.ok true, signed) => { signed with approvedBy := some request.actorName }.transition .approved

/-- `reject_invoice`. -/
def reject (invoice : Invoice) (actorName : String) : ServiceOutcome :=
  match { invoice with rejectedBy := some actorName }.transition .rejected with
  | (.error raised, attempted) => (.error raised, attempted)
  | (.ok (), rejected) =>
    (.ok (), { rejected with workflow := rejected.workflow.map fun workflow =>
      let data := workflow.stateData.getD .empty
      workflow.assignStateData (clearChainState { data with rejectionCount := some (data.rejectionCount.getD 0 + 1) }) })

/-- `resubmit_invoice`. -/
def resubmit (invoice : Invoice) : ServiceOutcome := invoice.transition .readyForReview

/-- An endpoint of one invoice commits what its service leaves, or rolls back. -/
def commit (before : Invoice) (outcome : ServiceOutcome) : Invoice :=
  match outcome.1 with
  | .ok () => outcome.2
  | .error _ => before

/-- `bulk_status_change` skips an invoice whose service raised an `HTTPException`, and commits the row
as it stands in memory. -/
def commitBatch (before : Invoice) (outcome : ServiceOutcome) : Invoice :=
  match outcome.1 with
  | .error (.uncaught _) => before
  | _ => outcome.2

/-- The push of an invoice, committed turn by turn. -/
def pushed (invoice : Invoice) (push : PushState) : Invoice :=
  { invoice with status := push.status, workflow := push.workflow }

end Invoice

end Payables
