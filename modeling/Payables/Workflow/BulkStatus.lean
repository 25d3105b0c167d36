import Payables.Lib.Calendar
import Payables.Lib.Rows
import Payables.Payments.Model
import Payables.Workflow.Invoice

namespace Payables
open Lib

/-- A row of `invoices`, with the column of an approval that the review service only writes. -/
structure InvoiceRecord where
  id : InvoiceId
  invoice : Invoice
  approvalDate : Option CalendarDate
  deriving DecidableEq

/-- The table, under its primary key. -/
structure InvoiceTable where
  rows : List InvoiceRecord
  keys : (rows.map InvoiceRecord.id).Nodup
  deriving DecidableEq

structure BulkStatusRequest where
  ids : List InvoiceId
  status : InvoiceStatus
  reason : Option String
  deriving DecidableEq

structure BulkStatusSkip where
  id : InvoiceId
  reason : String
  deriving DecidableEq

structure BulkStatusResponse where
  updated : Nat
  skipped : List BulkStatusSkip
  deriving DecidableEq

/-- Who sends the request, when, and what is read from outside for each invoice. -/
structure BulkCaller where
  actorId : UserId
  fullName : String
  roles : List String
  tenant : Tenant
  now : Time
  today : CalendarDate
  reads : InvoiceId → ApproveRequest

/-- The call of `approve_invoice` for one invoice: a bulk approval has no corrections. -/
def BulkCaller.request (caller : BulkCaller) (id : InvoiceId) : ApproveRequest :=
  { caller.reads id with actorId := caller.actorId, actorName := caller.fullName, actorRoles := caller.roles, corrections := [] }

/-- `BULK_STATUS_TARGETS`. -/
def bulkStatusTargets : List InvoiceStatus := [.new, .pending, .readyForReview, .approved, .rejected, .done]

/-- `BULK_STATUS_REFUSALS`, with the reason for what it does not list. -/
def bulkStatusRefusal : InvoiceStatus → String
  | .paymentScheduled =>
    "payment scheduling is owned by POST /api/payments/runs, which enforces the payment-blocking exception gate, " ++
      "the CFO threshold, run segregation and the sanctions/KYC screen"
  | .paid => "settlement is recorded by the payment processor\x27s webhook, never set by hand"
  | .sendingToErp => "use POST /api/invoices/\x7bid\x7d/send-to-erp"
  | .sentToErp => "the ERP adapter records its own confirmation"
  | .postedInErp => "the inbound ERP webhook records the posting"
  | .failed =>
    "the extraction reaper and the ERP push own this state; retry via POST /api/invoices/\x7bid\x7d/extract"
  | _ => "it is driven by the workflow engine"

/-- What the loop does with one invoice. -/
inductive BulkOutcome
  | updated
  | skipped (reason : String)
  deriving DecidableEq

/-- The gates before an approval writes anything, in their order. -/
def Invoice.approvalGates (invoice : Invoice) (tenant : Tenant) (request : ApproveRequest) : Except Raised Unit := do
  let config := invoice.approvalConfig tenant
  checkSegregation invoice.uploadedById invoice.segregationActorIds request.actorId config
  checkNamedApprover request config
  let corrected := invoice.correct tenant request
  enforceApprovalThresholds tenant.settings request corrected.fields corrected.lock config

/-- Whether an approval gets as far as its own columns. -/
def Invoice.finalizes (invoice : Invoice) (tenant : Tenant) (request : ApproveRequest) (now : Time) : Bool :=
  match invoice.approvalGates tenant request, ((invoice.correct tenant request).signChain tenant request now).1 with
  | .ok (), .ok true => true
  | _, _ => false

namespace InvoiceRecord

variable (row : InvoiceRecord)

/-- A service call on the invoice, and the row as it stands in memory by then. -/
def called (outcome : ServiceOutcome) : Except Raised InvoiceRecord × InvoiceRecord :=
  let after := { row with invoice := outcome.2 }
  (outcome.1.map fun _ => after, after)

/-- `approve_invoice`, with the date it stamps together with the name. -/
def approve (caller : BulkCaller) : Except Raised InvoiceRecord × InvoiceRecord :=
  let request := caller.request row.id
  let stamped := if row.invoice.finalizes caller.tenant request caller.now then some caller.today else row.approvalDate
  { row with approvalDate := stamped }.called (row.invoice.approve caller.tenant request caller.now)

/-- A caught `HTTPException` skips the invoice and leaves its row in the session as it stands. -/
def settle (outcome : Except Raised InvoiceRecord × InvoiceRecord) : Except Raised (InvoiceRecord × BulkOutcome) :=
  match outcome with
  | (.ok after, _) => .ok (after, .updated)
  | (.error (.http _ detail), left) => .ok (left, .skipped detail)
  | (.error (.uncaught kind), _) => .error (.uncaught kind)

/-- `refresh_warnings` after a transition that no other service follows up. -/
def refreshed (caller : BulkCaller) (outcome : Except Raised InvoiceRecord × InvoiceRecord) : Except Raised InvoiceRecord × InvoiceRecord :=
  (outcome.1.map fun after => { after with invoice := after.invoice.refresh caller.tenant (caller.request row.id).rates }, outcome.2)

/-- The body of the loop of `bulk_status_change`. -/
def changeStatus (caller : BulkCaller) (target : InvoiceStatus) : Except Raised (InvoiceRecord × BulkOutcome) :=
  if row.invoice.status ∈ InvoiceStatus.immutableStatuses then
    .ok (row, .skipped s!"invoice is in an immutable status ({row.invoice.status.value})")
  else if target = .approved then settle (row.approve caller)
  else if target = .rejected then settle (row.called (row.invoice.reject caller.fullName))
  else if target = .readyForReview ∧ row.invoice.status = .rejected then
    settle (row.refreshed caller (row.called row.invoice.resubmit))
  else settle (row.refreshed caller (row.called (row.invoice.transition target)))

end InvoiceRecord

/-- One row of the table: only the selected ones are worked on. -/
def changeSelected (caller : BulkCaller) (body : BulkStatusRequest) (row : InvoiceRecord) :
    Except Raised (InvoiceRecord × Option BulkOutcome) :=
  if row.id ∈ body.ids then (row.changeStatus caller body.status).map fun result => (result.1, some result.2)
  else .ok (row, none)

/-- The rows after `bulk_status_change`, each with what happened to it. What is not caught rolls the session back. -/
def bulkStatusRows (caller : BulkCaller) (body : BulkStatusRequest) (table : InvoiceTable) :
    Except Raised (List (InvoiceRecord × Option BulkOutcome)) :=
  if body.status ∉ bulkStatusTargets then
    .error (.http 422 s!"Bulk status change cannot set \x27{body.status.value}\x27 — {bulkStatusRefusal body.status}.")
  else if body.status = .rejected ∧ pyStripText (body.reason.getD "") = "" then
    .error (.http 422 "A rejection reason is required when bulk-rejecting invoices.")
  else table.rows.mapM (changeSelected caller body)

/-- The counts that are returned. -/
def bulkStatusResponse (results : List (InvoiceRecord × Option BulkOutcome)) : BulkStatusResponse where
  updated := results.countP fun result => result.2 == some .updated
  skipped := results.filterMap fun result =>
    match result.2 with
    | some (.skipped reason) => some ⟨result.1.id, reason⟩
    | _ => none

/-- `bulk_status_change`: the response, and the rows that are committed. -/
def bulkStatusChange (caller : BulkCaller) (body : BulkStatusRequest) (table : InvoiceTable) :
    Except Raised (BulkStatusResponse × List InvoiceRecord) := do
  let results ← bulkStatusRows caller body table
  return (bulkStatusResponse results, results.map (·.1))

end Payables
