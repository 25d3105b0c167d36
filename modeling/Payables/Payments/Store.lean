import Payables.Lib.Rows
import Payables.Payments.Dispatch
import Payables.Payments.Failure
import Payables.Payments.Rollup

namespace Payables
open Lib

/-- A dispatch pass in flight: one request between the commit that claimed its run and its final
rollup. `queue` is `none` until the pending payments are read; `seen` is what the session still
holds of the rows it has loaded, newest first. -/
structure DispatchPass where
  run : RunId
  actor : UserId
  queue : Option (List PaymentId)
  seen : List (PaymentId × PaymentStatus)
  deriving DecidableEq

/-- The committed payment tables, and the passes working on them. `nextId` stands for the supply of
fresh UUIDs. -/
structure PaymentStore where
  invoices : List PayableInvoice
  payments : List Payment
  runs : List PaymentRun
  exceptions : List InvoiceException
  nextId : Nat
  passes : List DispatchPass
  deriving DecidableEq

/-- `settings.payments`, as far as the endpoints read it. -/
structure PaymentConfig where
  requireRunSegregation : Option Bool
  reconcileMaxAge : Time
  deriving DecidableEq

/-- `run_segregation_enabled`: only an explicit `false` turns the control off. -/
def runSegregationEnabled (config : PaymentConfig) : Bool := config.requireRunSegregation != some false

/-- `check_run_segregation`, as whether it refuses. -/
def checkRunSegregation (initiatedBy : Option UserId) (actor : UserId) (config : PaymentConfig) (action : String) :
    Except Raised Unit :=
  if runSegregationEnabled config ∧ initiatedBy = some actor then
    .error (.http 403 s!"Segregation of duties: the user who created this payment run cannot also {action} it. A different user must {action} it.")
  else .ok ()

namespace PaymentStore

def invoice? (store : PaymentStore) (id : InvoiceId) : Option PayableInvoice := getRow PayableInvoice.id id store.invoices

def payment? (store : PaymentStore) (id : PaymentId) : Option Payment := getRow Payment.id id store.payments

def run? (store : PaymentStore) (id : RunId) : Option PaymentRun := getRow PaymentRun.id id store.runs

def putPayment (store : PaymentStore) (payment : Payment) : PaymentStore :=
  { store with payments := putRow Payment.id payment store.payments }

def putRun (store : PaymentStore) (run : PaymentRun) : PaymentStore :=
  { store with runs := putRow PaymentRun.id run store.runs }

/-- The rows of one run. -/
def runPayments (store : PaymentStore) (run : RunId) : List Payment :=
  store.payments.filter (·.paymentRunId == some run)

/-- Some payment holds the slot of `uq_payments_one_live_per_invoice`. -/
def hasLivePayment (store : PaymentStore) (invoiceId : InvoiceId) : Bool :=
  store.payments.any fun payment => payment.invoiceId == invoiceId && payment.status.isLive

/-- A fresh pending payment, under a correlation id of its own. -/
def newPayment (store : PaymentStore) (invoiceId : InvoiceId) (run : Option RunId) (amount : ℚ) (method : Option String)
    (reference : Option String) (retryOf : Option PaymentId) : Payment where
  id := store.nextId
  correlationId := some (store.nextId + 1)
  invoiceId := invoiceId
  paymentRunId := run
  amount := amount
  method := method
  status := .pending
  reference := reference
  provider := none
  providerPaymentId := none
  failureReason := none
  retryOfPaymentId := retryOf
  fxRate := none
  submittedAt := none
  completedAt := none

/-- Its insert. The unique index rejects it while the slot is taken. -/
def insertPayment (store : PaymentStore) (invoiceId : InvoiceId) (run : Option RunId) (amount : ℚ) (method : Option String)
    (reference : Option String) (retryOf : Option PaymentId) : Option PaymentStore :=
  if store.hasLivePayment invoiceId then none
  else
    some { store with
      payments := store.payments ++ [store.newPayment invoiceId run amount method reference retryOf]
      nextId := store.nextId + 2 }

/-- A run as it is created, in `draft`. -/
def newRun (store : PaymentStore) (user : UserId) (invoices : List InvoiceId) (total : ℚ) (requiresCfo : Bool) :
    PaymentRun where
  id := store.nextId
  status := .draft
  totalAmount := total
  initiatedBy := some user
  requiresCfoApproval := requiresCfo
  cfoApprovedBy := none
  cfoApprovedAt := none
  executedAt := none
  invoices := invoices

/-- `recompute_run_status` for the parent run of a payment. -/
def recomputeParentRunStatus (store : PaymentStore) (payment : Payment) : PaymentStore :=
  match payment.paymentRunId.bind store.run? with
  | none => store
  | some run => store.putRun { run with
      status := deriveRunStatus (some run.status) (activeRollup (store.runPayments run.id)) }

end PaymentStore

/-- `RunRefusal.reason`. -/
inductive RunRefusal
  | blockedBy (type : ExceptionType)
  | liveVirtualCard
  | fullyCredited
  | livePayment
  deriving DecidableEq

/-- `run_refusal_reasons` for one invoice. -/
def runRefusal (store : PaymentStore) (invoice : PayableInvoice) (method : Option String) : Option RunRefusal :=
  match blockingExceptionType store.exceptions invoice.id with
  | some type => some (.blockedBy type)
  | none =>
    if cardClaims invoice method then some .liveVirtualCard
    else if invoice.netPayableAmount ≤ 0 then some .fullyCredited
    else if store.hasLivePayment invoice.id then some .livePayment
    else none

/-- `_invoice_label`. -/
def invoiceLabel (invoice : PayableInvoice) : String :=
  orText (some invoice.invoiceNumber) s!"invoice {invoice.id}"

def sortedJoin (texts : List String) : String := ", ".intercalate (texts.mergeSort (· ≤ ·))

/-- `_raise_refusal`: blocking exceptions first, all in one message, then the other reasons in the
order of `_REFUSAL_ORDER`. -/
def refusalDetail (refusals : List (PayableInvoice × RunRefusal)) : String :=
  let blocked := refusals.filterMap fun (invoice, refusal) =>
    match refusal with
    | .blockedBy type => some s!"{invoiceLabel invoice} ({type.value})"
    | _ => none
  let numbers (reason : RunRefusal) := refusals.filterMap fun (invoice, refusal) =>
    if refusal = reason then some (invoiceLabel invoice) else none
  if blocked ≠ [] then
    "Invoice(s) have an unresolved payment-blocking exception and can't be paid until it's cleared: " ++ sortedJoin blocked
  else if numbers .liveVirtualCard ≠ [] then
    "Invoice(s) already have a live virtual card issued against them — pay them by card, or cancel the card first: " ++
      sortedJoin (numbers .liveVirtualCard)
  else if numbers .fullyCredited ≠ [] then
    "Invoice(s) fully covered by applied credit memos — nothing to pay: " ++ sortedJoin (numbers .fullyCredited)
  else
    "Invoice(s) already have a live payment scheduled — remove them from the run, or void the existing payment first: " ++
      sortedJoin (numbers .livePayment)

/-- The inserts of `create_payment_run_for_invoices`, one pending payment an item. -/
def bookRunPayments (run : RunId) : List (InvoiceId × String) → PaymentStore → Option PaymentStore
  | [], store => some store
  | (invoiceId, method) :: items, store =>
    match store.invoice? invoiceId with
    | none => none
    | some invoice =>
      match store.insertPayment invoiceId (some run) invoice.netPayableAmount (some method) none none with
      | none => none
      | some booked => bookRunPayments run items booked

/-- `create_payment_run_for_invoices`. `requiresCfo` is the answer of `cfo_approval_decision`. -/
def createPaymentRun (store : PaymentStore) (user : UserId) (items : List (InvoiceId × String)) (requiresCfo : Bool) :
    Except Raised PaymentStore :=
  let rows := items.filterMap fun item => (store.invoice? item.1).map fun invoice => (invoice, item.2)
  let currencies := (rows.map fun row => orText (some row.1.currency) "USD").dedup
  let notPayable := rows.filter fun row => row.1.status ∉ InvoiceStatus.payableStatuses
  let refusals := rows.filterMap fun row => (runRefusal store row.1 (some row.2)).map fun refusal => (row.1, refusal)
  if items = [] then .error (.http 422 "At least one invoice is required")
  else if rows.length ≠ items.length ∨ ¬(items.map (·.1)).Nodup then .error (.http 404 "One or more invoices not found")
  else if 1 < currencies.length then
    .error (.http 422 s!"All invoices in a payment run must share the same currency (found: {sortedJoin currencies}).")
  else if notPayable ≠ [] then
    .error (.http 409 ("Invoice(s) not approved for payment: " ++ ", ".intercalate (notPayable.map (·.1.invoiceNumber))))
  else if refusals ≠ [] then .error (.http 409 (refusalDetail refusals))
  else
    let run := store.newRun user (items.map (·.1)) (rows.map (·.1.netPayableAmount)).sum requiresCfo
    match bookRunPayments run.id items { store with runs := store.runs ++ [run], nextId := store.nextId + 1 } with
    | none => .error (.http 409 "One or more invoices already have a live payment scheduled.")
    | some booked => .ok booked

/-- `POST /api/payments`: the gates of the run builder for one invoice, and the CFO gate at booking
time. A second call answers with the live payment there is. -/
def createPayment (store : PaymentStore) (invoiceId : InvoiceId) (method reference : Option String) (amount : Option ℚ)
    (requiresCfo hasCfo : Bool) : Except Raised PaymentStore :=
  match store.invoice? invoiceId with
  | none => .error (.http 404 "Invoice not found")
  | some invoice =>
    if invoice.status ∉ InvoiceStatus.payableStatuses then .error (.http 409 "Invoice is not approved for payment")
    else
      match blockingExceptionType store.exceptions invoice.id with
      | some type =>
        .error (.http 409 s!"Invoice has an unresolved payment-blocking exception ({type.value}) and can't be paid until it's cleared: {invoice.invoiceNumber}")
      | none =>
        if cardClaims invoice method then
          .error (.http 409 s!"Invoice already has a live virtual card issued against it — pay it by card, or cancel the card first: {invoice.invoiceNumber}")
        else if invoice.netPayableAmount ≤ 0 then
          .error (.http 409 "Invoice is fully covered by applied credit memos — nothing to pay")
        else if amount.getD invoice.netPayableAmount ≠ invoice.netPayableAmount then
          .error (.http 422 "Payment amount must equal the approved invoice amount net of applied credit memos")
        else if requiresCfo ∧ ¬hasCfo then
          .error (.http 403 "This payment requires CFO sign-off — book it through a payment run for CFO approval, or have a CFO create it directly")
        else
          match store.insertPayment invoiceId none invoice.netPayableAmount method reference none with
          | none => .ok store
          | some booked => .ok booked

/-- One failed payment of `/retry-failed`: booked again, or skipped with a reason. The gates read
what was committed before the request booked anything. -/
def retryPayment (before : PaymentStore) (run : RunId) (acc : PaymentStore × List String) (payment : Payment) :
    PaymentStore × List String :=
  match before.invoice? payment.invoiceId with
  | none => (acc.1, acc.2 ++ ["invoice_not_payable"])
  | some invoice =>
    if invoice.status ∉ InvoiceStatus.payableStatuses then (acc.1, acc.2 ++ ["invoice_not_payable"])
    else if (blockingExceptionType before.exceptions payment.invoiceId).isSome then
      (acc.1, acc.2 ++ ["invoice_has_blocking_exception"])
    else if cardClaims invoice payment.method then (acc.1, acc.2 ++ ["invoice_has_live_card"])
    else if !payment.isRetrySafe then (acc.1, acc.2 ++ ["needs_reconciliation"])
    else if before.hasLivePayment payment.invoiceId then (acc.1, acc.2 ++ ["invoice_has_live_payment"])
    else if invoice.netPayableAmount ≠ payment.amount then (acc.1, acc.2 ++ ["net_amount_changed"])
    else
      match acc.1.insertPayment payment.invoiceId (some run) invoice.netPayableAmount payment.method none (some payment.id) with
      | none => (acc.1, acc.2 ++ ["invoice_has_live_payment"])
      | some booked => (booked, acc.2)

/-- The payments `/retry-failed` looks at: failed ones that no later attempt replaced. -/
def retryCandidates (rows : List Payment) : List Payment :=
  rows.filter fun payment => payment.status.isRetryable && !(supersededPaymentIds rows).contains payment.id

end Payables
