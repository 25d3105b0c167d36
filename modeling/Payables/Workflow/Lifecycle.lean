import Payables.Lib.Runs
import Payables.Workflow.Invoice

namespace Payables
open Lib

/-- A request on one invoice, or a step of a job or a push working on it. Every label carries what the
step hears from outside: settings of the workflow that only this endpoint reads, the automatic decision
of `decide_auto_approve`, and the answers of providers. -/
inductive InvoiceLabel
  | approve (request : ApproveRequest)
  | bulkApprove (request : ApproveRequest)
  | reject (actorName : String)
  | bulkReject (actorName : String)
  | resubmit
  | bulkStatus (target : InvoiceStatus) (rates : FxRates)
  | updateInvoice (edits : List FieldEdit) (rates : FxRates)
  | saveInvoiceLineItems (body : List LineItem) (rates : FxRates)
  | extract
  | resetExtraction
  | extractionSucceeds (result : ExtractionResult) (options : ExtractionOptions) (matchedVendor : VendorId)
      (autoApproved : Bool) (rates : FxRates)
  | extractionFails (error : String)
  | complete (approvalEnabled erpEnabled autoApproves : Bool) (rates : FxRates)
  | sendToErp
  | retryErp
  | push (answers : Nat → ErpAnswer)
  | cutPush (answers : Nat → ErpAnswer) (turns : Nat)
  | erpPosted
  | bookPayment
  | schedulePayment
  | settlePayment
  | voidPayment

namespace Invoice

/-- An extraction job that runs on its own. -/
def extractionSucceeds (invoice : Invoice) (tenant : Tenant) (result : ExtractionResult) (options : ExtractionOptions)
    (matchedVendor : VendorId) (autoApproved : Bool) (rates : FxRates) : Invoice :=
  let target := extractionTarget options autoApproved
  let applied : Invoice := invoice.edit tenant rates (applyExtraction invoice.fields result options matchedVendor)
  let written : Invoice :=
    { applied with approvedBy := if target = .approved then some "system (auto-approve)" else applied.approvedBy }
  if invoice.status = .pending then invoice.commit (written.transition target) else invoice

def extractionFails (invoice : Invoice) (error : String) : Invoice :=
  let failed : Invoice := { invoice with
    workflow := invoice.workflow.map fun (workflow : WorkflowInstance) =>
      { workflow.assignStateData { workflow.stateData.getD .empty with error := some error } with state := .failed } }
  if invoice.status = .pending then invoice.commit (failed.transition .failed) else invoice

/-- `complete_invoice`. -/
def complete (invoice : Invoice) (tenant : Tenant) (approvalEnabled erpEnabled autoApproves : Bool) (rates : FxRates) :
    Invoice :=
  let refreshed := invoice.refresh tenant rates
  if pyStripText invoice.fields.vendorName = "" ∨ invoice.fields.amount ≤ 0 then invoice
  else if invoice.status = .new ∧ approvalEnabled then
    if autoApproves then
      invoice.commit ({ refreshed with approvedBy := some "system (below threshold)" }.transition .approved)
    else invoice.commit (refreshed.transition .readyForReview)
  else if invoice.status = .approved ∧ erpEnabled then invoice.commit (refreshed.transition .sendingToErp)
  else invoice.commit (refreshed.transition .done)

/-- `bulk_status_change`, to the targets that no service owns and to `ready_for_review`. -/
def bulkStatus (invoice : Invoice) (tenant : Tenant) (target : InvoiceStatus) (rates : FxRates) : Invoice :=
  if invoice.status ∈ InvoiceStatus.immutableStatuses then invoice
  else if target ∈ [InvoiceStatus.new, .pending, .readyForReview, .done] then
    match invoice.transition target with
    | (.ok (), moved) => moved.refresh tenant rates
    | (.error _, _) => invoice
  else invoice

/-- A request from any of the statuses listed. -/
def move (invoice : Invoice) (sources : List InvoiceStatus) (target : InvoiceStatus) : Invoice :=
  if invoice.status ∈ sources then invoice.commit (invoice.transition target) else invoice

def save (invoice : Invoice) (tenant : Tenant) (rates : FxRates) (edited : Except Raised InvoiceFields) : Invoice :=
  match edited with
  | .ok fields => invoice.edit tenant rates fields
  | .error _ => invoice

end Invoice

/-- One step, at the time `now`. -/
def runInvoiceLabel (tenant : Tenant) (now : Time) (invoice : Invoice) : InvoiceLabel → Invoice
  | .approve request => invoice.commit (invoice.approve tenant request now)
  | .bulkApprove request =>
    if invoice.status ∈ InvoiceStatus.immutableStatuses then invoice
    else invoice.commitBatch (invoice.approve tenant { request with corrections := [] } now)
  | .reject actorName => invoice.commit (invoice.reject actorName)
  | .bulkReject actorName =>
    if invoice.status ∈ InvoiceStatus.immutableStatuses then invoice else invoice.commitBatch (invoice.reject actorName)
  | .resubmit => invoice.commit invoice.resubmit
  | .bulkStatus target rates => invoice.bulkStatus tenant target rates
  | .updateInvoice edits rates => invoice.save tenant rates (updateInvoice invoice.status invoice.fields edits)
  | .saveInvoiceLineItems body rates => invoice.save tenant rates (saveInvoiceLineItems invoice.status invoice.fields body)
  | .extract => if invoice.hasFile then invoice.move [.new, .failed] .pending else invoice
  | .resetExtraction => invoice.move [.pending] .failed
  | .extractionSucceeds result options matchedVendor autoApproved rates =>
    invoice.extractionSucceeds tenant result options matchedVendor autoApproved rates
  | .extractionFails error => invoice.extractionFails error
  | .complete approvalEnabled erpEnabled autoApproves rates =>
    invoice.complete tenant approvalEnabled erpEnabled autoApproves rates
  | .sendToErp => invoice.commit (invoice.transition .sendingToErp)
  | .retryErp =>
    match retryErp invoice.status invoice.approvedBy invoice.workflow with
    | .ok (status, workflow) => { invoice with status := status, workflow := workflow }
    | .error _ => invoice
  | .push answers =>
    if invoice.status = .sendingToErp then invoice.pushed (sendToErpInternal invoice.status invoice.workflow answers)
    else invoice
  | .cutPush answers turns =>
    if invoice.status = .sendingToErp then invoice.pushed (sendToErpCut invoice.status invoice.workflow answers turns)
    else invoice
  | .erpPosted => invoice.move [.sentToErp] .postedInErp
  | .bookPayment => invoice
  | .schedulePayment => invoice.move InvoiceStatus.schedulableStatuses .paymentScheduled
  | .settlePayment => invoice.move [.paymentScheduled] .paid
  | .voidPayment => invoice.move [.paymentScheduled, .paid] .approved

/-- A step that can be an approval, by a human or automatic. -/
def InvoiceLabel.isApproval : InvoiceLabel → Bool
  | approve _ => true
  | bulkApprove _ => true
  | extractionSucceeds .. => true
  | complete .. => true
  | _ => false

/-- An invoice and its past: the time, which counts the steps, when it last entered `ready_for_review` and
left it again, and what it said when it last entered `approved` by an approval. -/
structure InvoiceHistory where
  invoice : Invoice
  clock : Time
  reviewFrom : Option Time
  reviewUntil : Option Time
  approvedContent : Option Financials
  deriving DecidableEq

/-- Some step takes the invoice from another status to `target`. -/
def Invoice.Enters (before after : Invoice) (target : InvoiceStatus) : Prop :=
  before.status ≠ target ∧ after.status = target

instance (before after : Invoice) (target : InvoiceStatus) : Decidable (before.Enters after target) :=
  inferInstanceAs (Decidable (before.status ≠ target ∧ after.status = target))

def InvoiceHistory.record (history : InvoiceHistory) (approval : Bool) (after : Invoice) : InvoiceHistory where
  invoice := after
  clock := history.clock + 1
  reviewFrom := if history.invoice.Enters after .readyForReview then some history.clock else history.reviewFrom
  reviewUntil :=
    if history.invoice.Enters after .readyForReview then none
    else if history.invoice.status = .readyForReview ∧ after.status ≠ .readyForReview then some history.clock
    else history.reviewUntil
  approvedContent :=
    if approval ∧ history.invoice.Enters after .approved then some after.fields.financials else history.approvedContent

/-- One invoice, from its creation on, under any sequence of steps. -/
def invoiceMachine (tenant : Tenant) : Machine InvoiceHistory InvoiceLabel where
  init history :=
    history.invoice.status ∈ [InvoiceStatus.new, .pending, .readyForReview] ∧ history.invoice.chain = none ∧
      history.reviewFrom = (if history.invoice.status = .readyForReview then some (history.clock - 1) else none) ∧
      history.reviewUntil = none ∧ history.approvedContent = none
  step history label := history.record label.isApproval (runInvoiceLabel tenant history.clock history.invoice label)

/-- Two reviewers for every invoice, and a director from 1000 on. -/
def reviewers : ChainLevel := ⟨some "Reviewers", .unset, .unset, [], [], some 2, none, none, []⟩

def director : ChainLevel := ⟨some "Director", .number (.finite 1000), .unset, [], [], none, none, none, []⟩

def twoLevels : ApprovalConfig := ⟨some .chain, [], none, [reviewers, director], none, .unset, .unset⟩

def chainTenant : Tenant := ⟨⟨[some "USD"], false, 30⟩, some ⟨some twoLevels⟩⟩

/-- An invoice over 100 under review. -/
def underReview (workflow : Option WorkflowInstance) : InvoiceHistory where
  invoice := ⟨.readyForReview, ⟨"Acme", some 7, 100, "USD", none, none, none, none, []⟩, .none, none, [], none, none, true, workflow⟩
  clock := 0
  reviewFrom := some (-1)
  reviewUntil := none
  approvedContent := none

def noRates : FxRates := fun _ _ => none

def approvalBy (actor : UserId) (corrections : List FieldEdit) : ApproveRequest :=
  ⟨actor, actor, [], corrections, fun _ => none, fun _ _ => 0, noRates, true⟩

def twoLevelInstance : WorkflowInstance := ⟨.active, none, some ⟨some twoLevels⟩⟩

end Payables
