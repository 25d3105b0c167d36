import Payables.Workflow.Status

namespace Payables

abbrev InvoiceId := Nat
abbrev PaymentId := Nat
abbrev RunId := Nat
abbrev CorrelationId := Nat

/-- `Payment.status`, a free-form column: the statuses the code knows, and every other string. -/
inductive PaymentStatus
  | pending
  | submitted
  | processing
  | pendingCompliance
  | completed
  | failed
  | cancelled
  | voided
  | unknown (text : String)
  deriving DecidableEq

namespace PaymentStatus

/-- The stored spelling. -/
def value : PaymentStatus → String
  | pending => "pending"
  | submitted => "submitted"
  | processing => "processing"
  | pendingCompliance => "pending_compliance"
  | completed => "completed"
  | failed => "failed"
  | cancelled => "cancelled"
  | voided => "voided"
  | unknown text => text

/-- `LIVE_PAYMENT_TERMINAL_STATUSES`, the statuses outside `uq_payments_one_live_per_invoice`. -/
def dead : List PaymentStatus := [voided, failed, cancelled]

def isLive (status : PaymentStatus) : Bool := !dead.contains status

/-- `RETRYABLE_PAYMENT_STATUSES`. -/
def isRetryable (status : PaymentStatus) : Bool := status == failed || status == cancelled

end PaymentStatus

structure Payment where
  id : PaymentId
  correlationId : Option CorrelationId
  invoiceId : InvoiceId
  paymentRunId : Option RunId
  amount : ℚ
  method : Option String
  status : PaymentStatus
  reference : Option String
  provider : Option String
  providerPaymentId : Option String
  failureReason : Option String
  retryOfPaymentId : Option PaymentId
  fxRate : Option ℚ
  submittedAt : Option Time
  completedAt : Option Time
  deriving DecidableEq

inductive RunStatus
  | draft
  | executing
  | cancelled
  | submitted
  | partly
  | failed
  | completed
  deriving DecidableEq

/-- The stored spelling. -/
def RunStatus.value : RunStatus → String
  | draft => "draft"
  | executing => "executing"
  | cancelled => "cancelled"
  | submitted => "submitted"
  | partly => "partial"
  | failed => "failed"
  | completed => "completed"

/-- A payment run. `invoices` is no column: it keeps the invoices of the request that created the
run, so that what the rows still say about them can be stated. -/
structure PaymentRun where
  id : RunId
  status : RunStatus
  totalAmount : ℚ
  initiatedBy : Option UserId
  requiresCfoApproval : Bool
  cfoApprovedBy : Option UserId
  cfoApprovedAt : Option Time
  executedAt : Option Time
  invoices : List InvoiceId
  deriving DecidableEq

inductive ExceptionType
  | duplicate
  | fraudFlag
  | lineTotalMismatch
  | paymentReconciliation
  | other (text : String)
  deriving DecidableEq

def ExceptionType.value : ExceptionType → String
  | duplicate => "duplicate"
  | fraudFlag => "fraud_flag"
  | lineTotalMismatch => "line_total_mismatch"
  | paymentReconciliation => "payment_reconciliation"
  | other text => text

inductive ExceptionStatus
  | opened
  | escalated
  | resolved
  | dismissed
  | other (text : String)
  deriving DecidableEq

/-- A row of the exception queue. `covers` is no column: it lists the payments whose in-doubt end
the row stands for, the one that opened it and any later one de-duplicated onto it. -/
structure InvoiceException where
  invoiceId : InvoiceId
  exceptionType : ExceptionType
  status : ExceptionStatus
  covers : List PaymentId
  deriving DecidableEq

/-- What the payment endpoints read of an invoice and of the tables hanging off it: the total of
its applied credit memos, and whether a live virtual card claims it. -/
structure PayableInvoice where
  id : InvoiceId
  invoiceNumber : String
  status : InvoiceStatus
  currency : String
  amount : ℚ
  appliedCredit : ℚ
  hasLiveCard : Bool
  deriving DecidableEq

/-- `net_payable_amount`. -/
def PayableInvoice.netPayableAmount (invoice : PayableInvoice) : ℚ :=
  invoice.amount - invoice.appliedCredit

/-- `PAYMENT_BLOCKING_EXCEPTION_TYPES`, in the order that ranks them. -/
def paymentBlockingExceptionTypes : List ExceptionType :=
  [.duplicate, .fraudFlag, .lineTotalMismatch, .paymentReconciliation]

def InvoiceException.isBlocking (exception : InvoiceException) (invoiceId : InvoiceId) : Bool :=
  exception.invoiceId == invoiceId && paymentBlockingExceptionTypes.contains exception.exceptionType &&
    exception.status != .resolved && exception.status != .dismissed

/-- `blocking_exception_types` for one invoice: the highest-ranked type that blocks it. -/
def blockingExceptionType (exceptions : List InvoiceException) (invoiceId : InvoiceId) : Option ExceptionType :=
  paymentBlockingExceptionTypes.find? fun type =>
    exceptions.any fun exception => exception.isBlocking invoiceId && exception.exceptionType == type

/-- `(method or "").strip().lower()` is one of `CARD_CONVERGING_METHODS`. -/
def convergesOnCard (method : Option String) : Bool :=
  (pyStrip (method.getD "").toList).map Char.toLower == "virtual_card".toList

/-- `card_claimed_invoice_ids` for one invoice and rail. -/
def cardClaims (invoice : PayableInvoice) (method : Option String) : Bool :=
  !convergesOnCard method && invoice.hasLiveCard

theorem blockingExceptionType_eq_none {exceptions : List InvoiceException} {invoiceId : InvoiceId}
    (clear : blockingExceptionType exceptions invoiceId = none) {exception : InvoiceException}
    (member : exception ∈ exceptions) : exception.isBlocking invoiceId = false := by
  cases blocking : exception.isBlocking invoiceId with
  | false => rfl
  | true =>
    have listed : paymentBlockingExceptionTypes.contains exception.exceptionType = true := by
      simp only [InvoiceException.isBlocking, Bool.and_eq_true] at blocking
      exact blocking.1.1.2
    have free := List.find?_eq_none.mp clear exception.exceptionType (List.contains_iff_mem.mp listed)
    refine absurd (List.any_eq_true.mpr ⟨exception, member, ?_⟩) free
    simp only [blocking, beq_self_eq_true, Bool.and_self]

end Payables
