import Payables.Lib.Column
import Payables.Lib.Runs
import Payables.Workflow.Fields

namespace Payables
open Lib

structure ExtractionOptions where
  skipVendorMatch : Bool
  suppressAutoApprove : Bool
  deriving DecidableEq

/-- What a provider read off the document, cleaned and checked against the chart of accounts. -/
structure ExtractionResult where
  vendorName : Option String
  amount : Option ℚ
  currency : Option String
  remitToAddress : Option String
  glAccount : Option String
  costCenter : Option String
  lineItems : List LineItem
  deriving DecidableEq

/-- The invoice row, as an extraction job loads it. -/
structure ExtractedRow where
  status : InvoiceStatus
  approvedBy : Option String
  fields : InvoiceFields
  deriving DecidableEq

/-- Where a job stands: the provider is at work on the row it loaded, or a handler has read the status
again and is about to mark the invoice `failed`. -/
inductive JobPhase
  | loaded (row : ExtractedRow)
  | failing (read : InvoiceStatus)
  | fallback (read : InvoiceStatus)
  deriving DecidableEq

/-- `period` is no data of a job: it says in which `pending` period the job last read the row. -/
structure ExtractionJob where
  options : ExtractionOptions
  phase : JobPhase
  period : Nat
  deriving DecidableEq

/-- One invoice and the jobs working on it. `period` counts how often it has left `pending`. -/
structure ExtractionStore where
  row : ExtractedRow
  hasFile : Bool
  jobs : List ExtractionJob
  period : Nat
  deriving DecidableEq

inductive ExtractionLabel
  | extract
  | resetExtraction
  | request (target : InvoiceStatus) (approvedBy : Option String)
  | updateInvoice (edits : List FieldEdit)
  | saveInvoiceLineItems (body : List LineItem)
  | startJob (options : ExtractionOptions)
  | jobSucceeds (index : Nat) (result : ExtractionResult) (matchedVendor : VendorId) (autoApproved : Bool)
  | jobFails (index : Nat)
  | commitFailure (index : Nat)
  | commitFallback (index : Nat)
  | crash (index : Nat)

/-- `_apply_extraction` and what follows it: nothing overwrites a value with none, lines are replaced as
a whole, and the vendor link is matched again unless the job preserves it. -/
def applyExtraction (fields : InvoiceFields) (result : ExtractionResult) (options : ExtractionOptions)
    (matchedVendor : VendorId) : InvoiceFields :=
  let applied := { fields with
    vendorName := result.vendorName.getD fields.vendorName
    amount := result.amount.getD fields.amount
    currency := result.currency.getD fields.currency
    remitToAddress := result.remitToAddress.orElse fun _ => fields.remitToAddress
    glAccount := result.glAccount.orElse fun _ => fields.glAccount
    costCenter := result.costCenter.orElse fun _ => fields.costCenter
    lineItems := if result.lineItems = [] then fields.lineItems else result.lineItems }
  if options.skipVendorMatch then { applied with vendorName := fields.vendorName, vendorId := fields.vendorId }
  else if applied.vendorName = "" then applied
  else { applied with vendorId := some matchedVendor }

/-- The status a successful job gives the invoice. -/
def extractionTarget (options : ExtractionOptions) (autoApproved : Bool) : InvoiceStatus :=
  if autoApproved && !options.suppressAutoApprove then .approved else .readyForReview

/-- The row a successful job means to write. -/
def extractedRow (loaded : ExtractedRow) (result : ExtractionResult) (options : ExtractionOptions)
    (matchedVendor : VendorId) (autoApproved : Bool) : ExtractedRow where
  status := extractionTarget options autoApproved
  approvedBy := if extractionTarget options autoApproved = .approved then some "system (auto-approve)" else loaded.approvedBy
  fields := applyExtraction loaded.fields result options matchedVendor

/-- Its commit, over the row as it is by now: the columns it changed, and the lines it extracted. -/
def ExtractedRow.overwrite (loaded written : ExtractedRow) (lineItems : List LineItem) (current : ExtractedRow) :
    ExtractedRow where
  status := writeBack loaded.status written.status current.status
  approvedBy := writeBack loaded.approvedBy written.approvedBy current.approvedBy
  fields := {
    vendorName := writeBack loaded.fields.vendorName written.fields.vendorName current.fields.vendorName
    vendorId := writeBack loaded.fields.vendorId written.fields.vendorId current.fields.vendorId
    amount := writeBack loaded.fields.amount written.fields.amount current.fields.amount
    currency := writeBack loaded.fields.currency written.fields.currency current.fields.currency
    remitToAddress := writeBack loaded.fields.remitToAddress written.fields.remitToAddress current.fields.remitToAddress
    glAccount := writeBack loaded.fields.glAccount written.fields.glAccount current.fields.glAccount
    costCenter := writeBack loaded.fields.costCenter written.fields.costCenter current.fields.costCenter
    department := current.fields.department
    lineItems := if lineItems = [] then current.fields.lineItems else lineItems }

namespace ExtractionStore

/-- Committing the row. -/
def write (store : ExtractionStore) (row : ExtractedRow) : ExtractionStore :=
  { store with
    row := row
    period := if store.row.status = .pending ∧ row.status ≠ .pending then store.period + 1 else store.period }

def setStatus (store : ExtractionStore) (status : InvoiceStatus) : ExtractionStore :=
  store.write { store.row with status := status }

def dropJob (store : ExtractionStore) (index : Nat) : ExtractionStore :=
  { store with jobs := store.jobs.eraseIdx index }

/-- A handler's own read of the row. -/
def readAgain (store : ExtractionStore) (index : Nat) (job : ExtractionJob) (phase : InvoiceStatus → JobPhase) :
    ExtractionStore :=
  { store with jobs := store.jobs.set index { job with phase := phase store.row.status, period := store.period } }

end ExtractionStore

/-- An endpoint that locks the row and takes it along one edge of the transition table. -/
def requestTransition (store : ExtractionStore) (target : InvoiceStatus) (approvedBy : Option String) : ExtractionStore :=
  match InvoiceStatus.validateTransition store.row.status target with
  | .ok () => store.write { store.row with status := target, approvedBy := approvedBy }
  | .error _ => store

/-- An endpoint that locks the row and edits its fields. -/
def requestEdit (store : ExtractionStore) (edited : Except Raised InvoiceFields) : ExtractionStore :=
  match edited with
  | .ok fields => store.write { store.row with fields := fields }
  | .error _ => store

/-- `trigger_extraction`, up to its commit. -/
def triggerExtraction (store : ExtractionStore) : ExtractionStore :=
  if store.row.status ∈ [InvoiceStatus.new, .failed] ∧ store.hasFile then requestTransition store .pending store.row.approvedBy
  else store

/-- `reset_extraction`. -/
def resetExtraction (store : ExtractionStore) : ExtractionStore :=
  if store.row.status = .pending then requestTransition store .failed store.row.approvedBy else store

/-- The end of a job whose provider answered: its commit, or the rollback of a transition that the
status it loaded does not allow. -/
def finishExtraction (store : ExtractionStore) (index : Nat) (job : ExtractionJob) (loaded : ExtractedRow)
    (result : ExtractionResult) (matchedVendor : VendorId) (autoApproved : Bool) : ExtractionStore :=
  let written := extractedRow loaded result job.options matchedVendor autoApproved
  match InvoiceStatus.validateTransition loaded.status written.status with
  | .ok () => (store.write (loaded.overwrite written result.lineItems store.row)).dropJob index
  | .error _ => store.readAgain index job .failing

/-- One section. The handlers of a failed job read the row again without a lock: the first marks it
`failed` along the transition table, and where the table refuses, `_fail_invoice_safely` does so if it
read `pending`. -/
def runExtractionLabel (store : ExtractionStore) : ExtractionLabel → ExtractionStore
  | .extract => triggerExtraction store
  | .resetExtraction => resetExtraction store
  | .request target approvedBy => requestTransition store target approvedBy
  | .updateInvoice edits => requestEdit store (Payables.updateInvoice store.row.status store.row.fields edits)
  | .saveInvoiceLineItems body =>
    requestEdit store (Payables.saveInvoiceLineItems store.row.status store.row.fields body)
  | .startJob options => { store with jobs := store.jobs ++ [⟨options, .loaded store.row, store.period⟩] }
  | .jobSucceeds index result matchedVendor autoApproved =>
    match store.jobs[index]? with
    | some ⟨options, .loaded row, period⟩ =>
      finishExtraction store index ⟨options, .loaded row, period⟩ row result matchedVendor autoApproved
    | _ => store
  | .jobFails index =>
    match store.jobs[index]? with
    | some ⟨options, .loaded row, period⟩ => store.readAgain index ⟨options, .loaded row, period⟩ .failing
    | _ => store
  | .commitFailure index =>
    match store.jobs[index]? with
    | some ⟨options, .failing read, period⟩ =>
      match InvoiceStatus.validateTransition read .failed with
      | .ok () => (store.setStatus .failed).dropJob index
      | .error _ => store.readAgain index ⟨options, .failing read, period⟩ .fallback
    | _ => store
  | .commitFallback index =>
    match store.jobs[index]? with
    | some ⟨_, .fallback read, _⟩ =>
      if read = .pending then (store.setStatus .failed).dropJob index else store.dropJob index
    | _ => store
  | .crash index => store.dropJob index

/-- One invoice under any interleaving of jobs and requests. -/
def extractionMachine : Machine ExtractionStore ExtractionLabel where
  init store := store.jobs = []
  step := runExtractionLabel

end Payables
