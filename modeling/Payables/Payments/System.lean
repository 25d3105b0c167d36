import Payables.Lib.Runs
import Payables.Payments.Store

namespace Payables
open Lib

/-- An outside call made for a payment, as the caller and the processor see it. -/
structure Handoff where
  payment : PaymentId
  invoice : InvoiceId
  correlationId : CorrelationId
  actor : UserId
  rail : Rail
  deriving DecidableEq

/-- One atomic section: a request, or the part of one between two commits. -/
inductive PaymentLabel
  | createRun (user : UserId) (items : List (InvoiceId × String)) (requiresCfo : Bool)
  | createPayment (invoice : InvoiceId) (method reference : Option String) (amount : Option ℚ) (requiresCfo hasCfo : Bool)
  | approveRun (user : UserId) (run : RunId) (now : Time)
  | cancelRun (run : RunId)
  | executeRun (user : UserId) (run : RunId) (unsupportedProvider : Option String)
  | resumeRun (user : UserId) (run : RunId) (unsupportedProvider : Option String)
  | retryFailed (user : UserId) (run : RunId) (unsupportedProvider : Option String)
  | readPending (pass : Nat)
  | dispatchNext (pass : Nat) (env : DispatchEnv)
  | crashInDispatch (pass : Nat) (env : DispatchEnv)
  | finishPass (pass : Nat) (now : Time)
  | crash (pass : Nat)
  | release (user : UserId) (payment : PaymentId) (unsupportedProvider : Option String) (env : DispatchEnv)
  | crashInRelease (user : UserId) (payment : PaymentId) (unsupportedProvider : Option String) (env : DispatchEnv)
  | dismiss (userName : String) (payment : PaymentId) (reason : String) (now : Time)
  | void (userName : String) (payment : PaymentId) (reason : String) (now : Time)
  | webhook (providerPaymentId : String) (status : AdapterStatus) (reference failureReason : Option String) (now : Time)
  | ageOut (payment : PaymentId) (now : Time) (hours : String) (flagged : Bool)
  | poll (payment : PaymentId) (upstream : AdapterStatus) (now : Time)
  | openException (invoice : InvoiceId) (type : ExceptionType)
  | setExceptionStatus (index : Nat) (status : ExceptionStatus)
  | putInvoice (invoice : PayableInvoice)

/-- The refusal of `_require_payment_adapter`. -/
def unsupportedProviderError (provider : String) : Raised :=
  .http 409 s!"Payment processor \x27{provider}\x27 is not a supported provider, so nothing was dispatched. Fix Settings → Payments before executing."

def runNotFound : Raised := .http 404 "Payment run not found"

def paymentNotFound : Raised := .http 404 "Payment not found"

def awaitingCfo : Raised :=
  .http 403 "This run exceeds the org's CFO-approval threshold and is awaiting sign-off from a user with the CFO role."

/-- `approve_payment_run`. -/
def approvePaymentRun (config : PaymentConfig) (store : PaymentStore) (user : UserId) (runId : RunId) (now : Time) :
    Except Raised PaymentStore :=
  match store.run? runId with
  | none => .error runNotFound
  | some run =>
    if run.status ≠ .draft then .error (.http 409 s!"Can only approve \x27draft\x27 runs, not \x27{run.status.value}\x27")
    else if !run.requiresCfoApproval then .error (.http 409 "This run does not require CFO approval")
    else if run.cfoApprovedAt.isSome then .error (.http 409 "Run is already CFO-approved")
    else
      match checkRunSegregation run.initiatedBy user config "approve" with
      | .error raised => .error raised
      | .ok () => .ok (store.putRun { run with cfoApprovedBy := some user, cfoApprovedAt := some now })

/-- `cancel_payment_run`: the child rows go with the run. -/
def cancelPaymentRun (store : PaymentStore) (runId : RunId) : Except Raised PaymentStore :=
  match store.run? runId with
  | none => .error runNotFound
  | some run =>
    if run.status ≠ .draft then .error (.http 409 s!"Can only cancel \x27draft\x27 runs, not \x27{run.status.value}\x27")
    else .ok ({ store with payments := store.payments.filter (·.paymentRunId != some runId) }.putRun
      { run with status := .cancelled })

/-- The claim of `execute_payment_run`, up to its commit. -/
def executePaymentRun (config : PaymentConfig) (store : PaymentStore) (user : UserId) (runId : RunId)
    (unsupportedProvider : Option String) : Except Raised PaymentStore :=
  match store.run? runId with
  | none => .error runNotFound
  | some run =>
    if run.status ≠ .draft then .error (.http 409 s!"Can only execute \x27draft\x27 runs, not \x27{run.status.value}\x27")
    else
      match checkRunSegregation run.initiatedBy user config "execute", unsupportedProvider with
      | .error raised, _ => .error raised
      | .ok (), provider =>
        if run.requiresCfoApproval ∧ run.cfoApprovedAt = none then .error awaitingCfo
        else
          match provider with
          | some name => .error (unsupportedProviderError name)
          | none =>
            .ok { store.putRun { run with status := .executing } with
              passes := store.passes ++ [⟨runId, user, none, []⟩] }

/-- The gate of `resume_payment_run`. -/
def resumePaymentRun (config : PaymentConfig) (store : PaymentStore) (user : UserId) (runId : RunId)
    (unsupportedProvider : Option String) : Except Raised PaymentStore :=
  match store.run? runId with
  | none => .error runNotFound
  | some run =>
    if run.status ≠ .executing then
      .error (.http 409 s!"Can only resume a run stuck \x27executing\x27, not \x27{run.status.value}\x27")
    else
      match checkRunSegregation run.initiatedBy user config "execute", unsupportedProvider with
      | .error raised, _ => .error raised
      | .ok (), some name => .error (unsupportedProviderError name)
      | .ok (), none => .ok { store with passes := store.passes ++ [⟨runId, user, none, []⟩] }

/-- `retry_failed_payments`, up to the commit that claims the run. -/
def retryFailedPayments (config : PaymentConfig) (store : PaymentStore) (user : UserId) (runId : RunId)
    (unsupportedProvider : Option String) : Except Raised PaymentStore :=
  match store.run? runId with
  | none => .error runNotFound
  | some run =>
    let rows := store.runPayments runId
    let effectiveStatus := deriveRunStatus (some run.status) (activeRollup rows)
    if effectiveStatus ≠ .partly ∧ effectiveStatus ≠ .failed then
      .error (.http 409 s!"Can only retry a run that finished with failures (partial or failed), not \x27{effectiveStatus.value}\x27")
    else
      match checkRunSegregation run.initiatedBy user config "execute", unsupportedProvider with
      | .error raised, _ => .error raised
      | .ok (), provider =>
        if run.requiresCfoApproval ∧ run.cfoApprovedAt = none then .error awaitingCfo
        else
          match provider with
          | some name => .error (unsupportedProviderError name)
          | none =>
            let (booked, _) := (retryCandidates rows).foldl (retryPayment store runId) (store, [])
            .ok { booked.putRun { run with status := .executing } with
              passes := store.passes ++ [⟨runId, user, none, rows.map fun payment => (payment.id, payment.status)⟩] }

/-- Writing back what a dispatch left in its session. -/
def commitDispatch (store : PaymentStore) (result : DispatchResult) : PaymentStore :=
  let booked := store.putPayment result.payment
  match result.schedules, store.invoice? result.payment.invoiceId with
  | true, some invoice =>
    { booked with invoices := putRow PayableInvoice.id { invoice with status := .paymentScheduled } store.invoices }
  | _, _ => booked

def handoffOf (payment : Payment) (actor : UserId) (called : Option Rail) : Option Handoff :=
  called.map fun rail => ⟨payment.id, payment.invoiceId, payment.correlationId.getD payment.id, actor, rail⟩

/-- The attempt of one payment against the committed tables. -/
def attempt (store : PaymentStore) (payment : Payment) (env : DispatchEnv) : DispatchResult :=
  attemptPayment (store.invoice? payment.invoiceId) store.exceptions payment env

def setPass (store : PaymentStore) (index : Nat) (pass : DispatchPass) : PaymentStore :=
  { store with passes := store.passes.set index pass }

def dropPass (store : PaymentStore) (index : Nat) : PaymentStore :=
  { store with passes := store.passes.eraseIdx index }

/-- The plain read of the pending payments at the start of `_dispatch_run_payments`. -/
def readPendingPayments (store : PaymentStore) (index : Nat) : PaymentStore :=
  match store.passes[index]? with
  | none => store
  | some pass =>
    match pass.queue with
    | some _ => store
    | none =>
      let pending := (store.runPayments pass.run).filter (·.status == .pending)
      setPass store index { pass with queue := some (pending.map (·.id)) }

/-- The next payment of a pass: refresh it under its lock, skip it unless it is still pending,
dispatch it and commit. A deleted row kills the request. -/
def dispatchNextPayment (store : PaymentStore) (index : Nat) (env : DispatchEnv) : PaymentStore × Option Handoff :=
  match store.passes[index]? with
  | none => (store, none)
  | some pass =>
    match pass.queue with
    | none => (store, none)
    | some [] => (store, none)
    | some (id :: rest) =>
      match store.payment? id with
      | none => (dropPass store index, none)
      | some payment =>
        if payment.status ≠ .pending then
          (setPass store index { pass with queue := some rest, seen := (id, payment.status) :: pass.seen }, none)
        else
          let result := attempt store payment env
          (setPass (commitDispatch store result) index
            { pass with queue := some rest, seen := (id, result.payment.status) :: pass.seen },
            handoffOf payment pass.actor result.called)

/-- What the session of a pass believes about a row: what it loaded or wrote itself, else the table. -/
def DispatchPass.view (pass : DispatchPass) (payment : Payment) : PaymentStatus :=
  (pass.seen.lookup payment.id).getD payment.status

/-- The final rollup of `_dispatch_run_payments`. The session holds the run as `executing`, so that
value is not written again over what the table may say by now. -/
def finishDispatchPass (store : PaymentStore) (index : Nat) (now : Time) : PaymentStore :=
  match store.passes[index]? with
  | none => store
  | some pass =>
    match pass.queue, store.run? pass.run with
    | some [], some run =>
      let rollup := rollupPaymentStatuses ((activeRunPayments (store.runPayments pass.run)).map pass.view)
      let status := if rollup.runStatus = .executing then run.status else rollup.runStatus
      dropPass (store.putRun { run with status := status, executedAt := some now }) index
    | _, _ => store

/-- `release_compliance_hold`. Nothing in it compares the user with the initiator of the run. -/
def releaseComplianceHold (store : PaymentStore) (user : UserId) (paymentId : PaymentId)
    (unsupportedProvider : Option String) (env : DispatchEnv) : Except Raised (PaymentStore × Option Handoff) :=
  match store.payment? paymentId with
  | none => .error paymentNotFound
  | some payment =>
    if payment.status ≠ .pendingCompliance then
      .error (.http 409 s!"Can only release a payment stuck \x27pending_compliance\x27, not \x27{payment.status.value}\x27")
    else
      match unsupportedProvider with
      | some name => .error (unsupportedProviderError name)
      | none =>
        let result := attempt store payment env
        .ok ((commitDispatch store result).recomputeParentRunStatus result.payment, handoffOf payment user result.called)

def Payment.dismiss (payment : Payment) (userName reason : String) (now : Time) : Payment :=
  payment.fail now ("compliance_dismissed" ++ s!" by {userName}: {reason}")

/-- `dismiss_compliance_hold`. -/
def dismissComplianceHold (store : PaymentStore) (userName : String) (paymentId : PaymentId) (reason : String)
    (now : Time) : Except Raised PaymentStore :=
  match store.payment? paymentId with
  | none => .error paymentNotFound
  | some payment =>
    if payment.status ≠ .pendingCompliance then
      .error (.http 409 s!"Can only dismiss a payment stuck \x27pending_compliance\x27, not \x27{payment.status.value}\x27")
    else
      let dismissed := payment.dismiss userName reason now
      .ok ((store.putPayment dismissed).recomputeParentRunStatus dismissed)

def Payment.reverse (payment : Payment) (userName reason : String) (now : Time) : Payment :=
  { payment with
    status := .voided
    failureReason := some s!"Voided by {userName}: {reason}"
    completedAt := payment.completedAt.orElse fun _ => some now }

/-- `void_payment`. -/
def voidPayment (store : PaymentStore) (userName : String) (paymentId : PaymentId) (reason : String) (now : Time) :
    Except Raised PaymentStore :=
  match store.payment? paymentId with
  | none => .error paymentNotFound
  | some payment =>
    if payment.status ∈ [PaymentStatus.voided, .cancelled] then
      .error (.http 409 s!"Payment already {payment.status.value}")
    else if payment.status = .failed then .error (.http 409 "Cannot void a failed payment (it never settled)")
    else
      let voided := payment.reverse userName reason now
      let booked := store.putPayment voided
      let reopened :=
        match store.invoice? payment.invoiceId with
        | none => booked
        | some invoice =>
          if invoice.status ∈ [InvoiceStatus.paymentScheduled, .paid] then
            { booked with invoices := putRow PayableInvoice.id { invoice with status := .approved } store.invoices }
          else booked
      .ok (reopened.recomputeParentRunStatus voided)

/-- The row a webhook's event leaves. -/
def Payment.applyEvent (payment : Payment) (status : AdapterStatus) (reference failureReason : Option String)
    (now : Time) : Payment :=
  { payment with
    status := status.toPaymentStatus
    reference := if reference.getD "" = "" then payment.reference else reference
    failureReason := if failureReason.getD "" = "" then payment.failureReason else failureReason
    completedAt := if status = .completed ∨ status = .failed ∨ status = .cancelled then some now else payment.completedAt }

/-- `payment_webhook`, once the event is verified. Several rows under one processor handle make the
lookup raise, and a row that is not in flight any more is left alone. -/
def paymentWebhook (store : PaymentStore) (providerPaymentId : String) (status : AdapterStatus)
    (reference failureReason : Option String) (now : Time) : PaymentStore :=
  match store.payments.filter (·.providerPaymentId == some providerPaymentId) with
  | [payment] =>
    if payment.status ∈ [.pending, .submitted, .processing] then
      store.putPayment (payment.applyEvent status reference failureReason now)
    else store
  | _ => store

/-- `_flag_aged_out_payment`: de-duplicated on an open or escalated row of the same type. -/
def flagAgedOutPayment (exceptions : List InvoiceException) (payment : Payment) : List InvoiceException :=
  let holds (exception : InvoiceException) : Bool :=
    exception.invoiceId == payment.invoiceId && exception.exceptionType == .paymentReconciliation &&
      (exception.status == .opened || exception.status == .escalated)
  if exceptions.any holds then
    exceptions.map fun exception =>
      if holds exception then { exception with covers := payment.id :: exception.covers } else exception
  else exceptions ++ [⟨payment.invoiceId, .paymentReconciliation, .opened, [payment.id]⟩]

/-- The candidates of the reconciler, re-checked under the row lock. -/
def Payment.isInFlight (payment : Payment) : Bool :=
  (payment.status == .submitted || payment.status == .processing) && payment.submittedAt.isSome

def Payment.ageOut (payment : Payment) (hours : String) : Payment :=
  { payment with status := .failed, failureReason := some s!"reconciler_max_age_exceeded after {hours}h" }

/-- The age-out of `_reconcile_tenant`. Flagging is best effort: `flagged` is whether it landed. -/
def ageOutPayment (config : PaymentConfig) (store : PaymentStore) (paymentId : PaymentId) (now : Time) (hours : String)
    (flagged : Bool) : PaymentStore :=
  match store.payment? paymentId with
  | none => store
  | some payment =>
    if payment.isInFlight ∧ now - payment.submittedAt.getD now > config.reconcileMaxAge then
      { store.putPayment (payment.ageOut hours) with
        exceptions := if flagged then flagAgedOutPayment store.exceptions payment else store.exceptions }
    else store

def Payment.conclude (payment : Payment) (upstream : AdapterStatus) (now : Time) : Payment :=
  { payment with status := upstream.toPaymentStatus, completedAt := some now }

/-- The poll of `_reconcile_tenant`: only a terminal answer is written. -/
def pollPayment (store : PaymentStore) (paymentId : PaymentId) (upstream : AdapterStatus) (now : Time) : PaymentStore :=
  match store.payment? paymentId with
  | none => store
  | some payment =>
    if payment.isInFlight ∧ payment.providerPaymentId.getD "" ≠ "" ∧ upstream ∈ [.completed, .failed, .cancelled] then
      store.putPayment (payment.conclude upstream now)
    else store

/-- A refused request leaves the tables as they were. -/
def orUnchanged (store : PaymentStore) (result : Except Raised PaymentStore) : PaymentStore × Option Handoff :=
  match result with
  | .ok after => (after, none)
  | .error _ => (store, none)

/-- One section: the tables after it, and the outside call it made. -/
def runPaymentLabel (config : PaymentConfig) (store : PaymentStore) : PaymentLabel → PaymentStore × Option Handoff
  | .createRun user items requiresCfo => orUnchanged store (createPaymentRun store user items requiresCfo)
  | .createPayment invoice method reference amount requiresCfo hasCfo =>
    orUnchanged store (createPayment store invoice method reference amount requiresCfo hasCfo)
  | .approveRun user run now => orUnchanged store (approvePaymentRun config store user run now)
  | .cancelRun run => orUnchanged store (cancelPaymentRun store run)
  | .executeRun user run provider => orUnchanged store (executePaymentRun config store user run provider)
  | .resumeRun user run provider => orUnchanged store (resumePaymentRun config store user run provider)
  | .retryFailed user run provider => orUnchanged store (retryFailedPayments config store user run provider)
  | .readPending index => (readPendingPayments store index, none)
  | .dispatchNext index env => dispatchNextPayment store index env
  | .crashInDispatch index env => (dropPass store index, (dispatchNextPayment store index env).2)
  | .finishPass index now => (finishDispatchPass store index now, none)
  | .crash index => (dropPass store index, none)
  | .release user payment provider env =>
    match releaseComplianceHold store user payment provider env with
    | .ok released => released
    | .error _ => (store, none)
  | .crashInRelease user payment provider env =>
    match releaseComplianceHold store user payment provider env with
    | .ok released => (store, released.2)
    | .error _ => (store, none)
  | .dismiss userName payment reason now => orUnchanged store (dismissComplianceHold store userName payment reason now)
  | .void userName payment reason now => orUnchanged store (voidPayment store userName payment reason now)
  | .webhook providerPaymentId status reference failureReason now =>
    (paymentWebhook store providerPaymentId status reference failureReason now, none)
  | .ageOut payment now hours flagged => (ageOutPayment config store payment now hours flagged, none)
  | .poll payment upstream now => (pollPayment store payment upstream now, none)
  | .openException invoice type => ({ store with exceptions := store.exceptions ++ [⟨invoice, type, .opened, []⟩] }, none)
  | .setExceptionStatus index status =>
    ({ store with exceptions := store.exceptions.modify index fun exception => { exception with status := status } }, none)
  | .putInvoice invoice => ({ store with invoices := putRow PayableInvoice.id invoice store.invoices }, none)

/-- The payment tables under any interleaving. A run starts from any invoices and exceptions, with
no payments and no runs yet. -/
def paymentMachine (config : PaymentConfig) : Machine PaymentStore PaymentLabel where
  init store := store.payments = [] ∧ store.runs = [] ∧ store.passes = []
  step store label := (runPaymentLabel config store label).1

/-- Approved invoices, and nothing paid yet: where the examples start. -/
def PaymentStore.approved (invoices : List InvoiceId) : PaymentStore where
  invoices := invoices.map fun id => ⟨id, "INV", .approved, "USD", 100, 0, false⟩
  payments := []
  runs := []
  exceptions := []
  nextId := 0
  passes := []

/-- A dispatch that passes every gate and hears `answer`. -/
def DispatchEnv.hearing (answer : Except String AdapterAnswer) : DispatchEnv where
  now := 0
  hasVendor := true
  compliance := .ok .pass
  card := .ok .conflict
  fx := .ok .notNeeded
  adapterName := "mercury"
  adapter := answer
  late := none

end Payables
