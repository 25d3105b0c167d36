import Payables.Lib.Runs
import Payables.Lib.Sessions
import Payables.Tax.Report

namespace Payables.Tax
open Lib

structure FileBatchRequest where
  year : Nat
  formType : String
  idempotencyKey : Option String
  yearRange : 2000 ≤ year ∧ year ≤ 2100

/-- `body.form_type in {FORM_NEC, FORM_MISC}`. -/
def FormType.ofText? (text : String) : Option FormType := [FormType.nec, .misc].find? fun form => form.text == text

/-- The key of a call that carries none. -/
def derivedKey (organizationId : String) (year : Nat) (formType : String) : String :=
  organizationId ++ ":" ++ toString year ++ ":" ++ formType

/-- The key is left out, or empty. -/
def FileBatchRequest.keyOmitted (request : FileBatchRequest) : Bool := request.idempotencyKey.getD "" == ""

/-- `body.idempotency_key or f"{org_id}:{body.year}:{body.form_type}"`. -/
def FileBatchRequest.key (organizationId : String) (request : FileBatchRequest) : String :=
  if request.keyOmitted then derivedKey organizationId request.year request.formType else request.idempotencyKey.getD ""

section Batch

structure FilingFormPayload where
  vendorId : String
  formType : FormType
  recipientName : String
  recipientTin : String
  boxAmount : ℚ
  boxAmounts : List (Box × ℚ)
  taxYear : Nat
  deriving DecidableEq

structure FilingFormResult where
  vendorId : String
  formType : FormType
  accepted : Bool
  reasonCode : Option String
  deriving DecidableEq

structure FilingBatchResult where
  status : String
  confirmationNumber : Option String
  submittedCount : Nat
  acceptedCount : Nat
  rejectedCount : Nat
  forms : List FilingFormResult
  deriving DecidableEq

structure BoxBreakdown where
  vendorId : String
  boxes : List BoxAllocation
  formTotal : ℚ
  deriving DecidableEq

/-- `filable_forms`: the eligible rows over the threshold with a positive amount on the form. -/
def filableForms (report : Report1099) (formType : FormType) : List (VendorReportRow × ℚ) :=
  (report.rows.filter fun row => row.is1099Eligible && row.overThreshold).filterMap fun row =>
    let amount := boxTotalForForm row formType
    if amount ≤ 0 then none else some (row, amount)

/-- `forms`. -/
def formPayloads (report : Report1099) (formType : FormType) (year : Nat) : List FilingFormPayload :=
  (filableForms report formType).map fun filable =>
    { vendorId := filable.1.vendorId
      formType := formType
      recipientName := filable.1.vendorName
      recipientTin := filable.1.taxId.getD ""
      boxAmount := filable.2
      boxAmounts := (filable.1.boxAllocations.filter fun allocation =>
        allocation.box.entry.formType = formType ∧ 0 < allocation.amount).map fun allocation => (allocation.box, allocation.amount)
      taxYear := year }

def boxBreakdown (report : Report1099) (formType : FormType) : List BoxBreakdown :=
  (filableForms report formType).map fun filable =>
    ⟨filable.1.vendorId, filable.1.boxAllocations.filter fun allocation => allocation.box.entry.formType = formType, filable.2⟩

end Batch

/-- A row of `tax_1099_filings`. `formType` is no column: it keeps what the row was filed for. -/
structure Filing where
  organizationId : String
  taxYear : Nat
  provider : String
  idempotencyKey : String
  status : String
  confirmationNumber : Option String := none
  submittedCount : Nat := 0
  acceptedCount : Nat := 0
  rejectedCount : Nat := 0
  submittedBy : UserId
  result : Option (List FilingFormResult × List BoxBreakdown) := none
  formType : FormType

/-- The columns of the unique constraint. -/
def Filing.slot (filing : Filing) : String × String := (filing.organizationId, filing.idempotencyKey)

/-- How far a call has come in its transaction. -/
inductive FilingStage
  | unclaimed
  | lost
  | claimed (filing : Filing)
  | submitted (filing : Filing)

structure FilingCall where
  organizationId : String
  userId : UserId
  provider : String
  request : FileBatchRequest
  formType : FormType
  stage : FilingStage

namespace FilingCall

variable (call : FilingCall)

def slot : String × String := (call.organizationId, call.request.key call.organizationId)

/-- The uncommitted row of the call. -/
def row? : Option Filing :=
  match call.stage with
  | .claimed filing => some filing
  | .submitted filing => some filing
  | _ => none

/-- The row that claims the slot. -/
def pendingFiling : Filing where
  organizationId := call.organizationId
  taxYear := call.request.year
  provider := call.provider
  idempotencyKey := call.request.key call.organizationId
  status := "pending"
  submittedBy := call.userId
  formType := call.formType

end FilingCall

/-- A successful `submit_batch`. -/
structure Submission where
  organizationId : String
  request : FileBatchRequest
  formType : FormType
  forms : List FilingFormPayload

def Submission.slot (submission : Submission) : String × String :=
  (submission.organizationId, submission.request.key submission.organizationId)

structure FilingAnswer where
  organizationId : String
  request : FileBatchRequest
  formType : FormType
  filing : Filing
  alreadyFiled : Bool

/-- The table of filings with the calls at work on it. `claims` are the slots of uncommitted rows, each with the number
of its call. `submissions` and `orphaned` are no tables: they keep the successful submissions, those of a call that died
before its commit apart. -/
structure FilingStore where
  filings : List Filing
  claims : List (Nat × String × String)
  calls : Nat → Option FilingCall
  submissions : List Submission
  orphaned : List Submission
  answers : List FilingAnswer

/-- A part of a call of `file_1099_batch`. -/
inductive FilingLabel
  | arrive (number : Nat) (organizationId : String) (userId : UserId) (request : FileBatchRequest) (adapter : Option String)
  | claim (number : Nat)
  | reread (number : Nat)
  | submit (number : Nat) (report : Report1099) (outcome : Option FilingBatchResult)
  | commit (number : Nat)
  | die (number : Nat)

namespace FilingStore

def empty : FilingStore := ⟨[], [], fun _ => none, [], [], []⟩

variable (store : FilingStore)

/-- The committed row of a slot. -/
def filing? (slot : String × String) : Option Filing := store.filings.find? fun filing => filing.slot = slot

def setStage (number : Nat) (call : FilingCall) (stage : FilingStage) : FilingStore :=
  { store with calls := Function.update store.calls number (some { call with stage := stage }) }

/-- The transaction of a call ends, and with it the uncommitted row. -/
def finish (number : Nat) : FilingStore :=
  { store with
    calls := Function.update store.calls number none
    claims := store.claims.filter fun claim => claim.1 ≠ number }

def answer (organizationId : String) (request : FileBatchRequest) (formType : FormType) (filing : Filing) (alreadyFiled : Bool) :
    FilingStore :=
  { store with answers := store.answers ++ [⟨organizationId, request, formType, filing, alreadyFiled⟩] }

/-- The form check, the fast path and the adapter. -/
def arrive (number : Nat) (organizationId : String) (userId : UserId) (request : FileBatchRequest) (adapter : Option String) :
    FilingStore :=
  match FormType.ofText? request.formType with
  | none => store
  | some formType =>
    match store.filing? (organizationId, request.key organizationId) with
    | some prior => store.answer organizationId request formType prior true
    | none =>
      match adapter with
      | none => store
      | some provider =>
        { store with calls :=
            Function.update store.calls number (some ⟨organizationId, userId, provider, request, formType, .unclaimed⟩) }

/-- The insert of the pending row. It waits for a transaction that has the slot, and fails on a committed row. -/
def claim (number : Nat) (call : FilingCall) : FilingStore :=
  if call.slot ∈ store.claims.map (·.2) then store
  else
    match store.filing? call.slot with
    | some _ => store.setStage number call .lost
    | none => { store.setStage number call (.claimed call.pendingFiling) with claims := (number, call.slot) :: store.claims }

def reread (number : Nat) (call : FilingCall) : FilingStore :=
  match store.filing? call.slot with
  | some winner => (store.answer call.organizationId call.request call.formType winner true).finish number
  | none => store.finish number

/-- What the outcome writes into the pending row. -/
def recorded (filing : Filing) (result : FilingBatchResult) (breakdown : List BoxBreakdown) : Filing :=
  { filing with
    status := result.status
    confirmationNumber := result.confirmationNumber
    submittedCount := result.submittedCount
    acceptedCount := result.acceptedCount
    rejectedCount := result.rejectedCount
    result := some (result.forms, breakdown) }

/-- `submit_batch`: a failure deletes the pending row and commits. -/
def submit (number : Nat) (call : FilingCall) (filing : Filing) (report : Report1099) (outcome : Option FilingBatchResult) :
    FilingStore :=
  match outcome with
  | none => store.finish number
  | some result =>
    { store.setStage number call (.submitted (recorded filing result (boxBreakdown report call.formType))) with
      submissions := store.submissions ++
        [⟨call.organizationId, call.request, call.formType, formPayloads report call.formType call.request.year⟩] }

def commit (number : Nat) (call : FilingCall) (filing : Filing) : FilingStore :=
  { (store.answer call.organizationId call.request call.formType filing false).finish number with
    filings := store.filings ++ [filing] }

/-- The transaction of the call is rolled back. -/
def die (number : Nat) (call : FilingCall) : FilingStore :=
  match call.stage with
  | .submitted _ => { store.finish number with
      submissions := store.submissions.filter fun submission => submission.slot ≠ call.slot
      orphaned := store.orphaned ++ store.submissions.filter fun submission => submission.slot = call.slot }
  | _ => store.finish number

/-- What happens to a call in flight. -/
def onCall (number : Nat) (next : FilingCall → FilingStore) : FilingStore :=
  match store.calls number with
  | some call => next call
  | none => store

def step : FilingLabel → FilingStore
  | .arrive number organizationId userId request adapter =>
    match store.calls number with
    | some _ => store
    | none => store.arrive number organizationId userId request adapter
  | .claim number => store.onCall number fun call =>
    match call.stage with
    | .unclaimed => store.claim number call
    | _ => store
  | .reread number => store.onCall number fun call =>
    match call.stage with
    | .lost => store.reread number call
    | _ => store
  | .submit number report outcome => store.onCall number fun call =>
    match call.stage with
    | .claimed filing => store.submit number call filing report outcome
    | _ => store
  | .commit number => store.onCall number fun call =>
    match call.stage with
    | .submitted filing => store.commit number call filing
    | _ => store
  | .die number => store.onCall number (store.die number)

end FilingStore

/-- Any interleaving of filing calls of any organisations, with any outcomes of the partner. -/
def filingMachine : Machine FilingStore FilingLabel where
  init store := store = .empty
  step store label := store.step label

end Payables.Tax
