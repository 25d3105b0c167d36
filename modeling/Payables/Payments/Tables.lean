import Payables.Lib.Sql
import Payables.Payments.Store
import Payables.Workflow.Fields

namespace Payables
open Lib

abbrev CreditMemoId := Nat

/-- `CreditMemo.status`, a free-form column. -/
inductive CreditMemoStatus
  | opened
  | applied
  | void
  | other (text : String)
  deriving DecidableEq

/-- The stored spelling. -/
def CreditMemoStatus.value : CreditMemoStatus → String
  | opened => "open"
  | applied => "applied"
  | void => "void"
  | other text => text

structure CreditMemo where
  id : CreditMemoId
  vendorId : VendorId
  invoiceId : Option InvoiceId
  amount : ℚ
  currency : String
  status : CreditMemoStatus
  deriving DecidableEq

inductive CardStatus
  | cancelled
  | other (text : String)
  deriving DecidableEq

structure VirtualCard where
  invoiceId : InvoiceId
  status : CardStatus
  deriving DecidableEq

/-- An exception as it is stored: it need not hang off an invoice. -/
structure ExceptionRow where
  invoiceId : Option InvoiceId
  exceptionType : ExceptionType
  status : ExceptionStatus
  deriving DecidableEq

/-- The columns of an invoice that decide what a payment against it moves. -/
structure InvoiceRow where
  id : InvoiceId
  invoiceNumber : String
  status : InvoiceStatus
  vendorId : Option VendorId
  currency : String
  amount : ℚ
  deriving DecidableEq

/-- The tables behind the payment queue. `PaymentStore` holds what the payment endpoints read of them. -/
structure PayableTables where
  invoices : List InvoiceRow
  payments : List Payment
  runs : List PaymentRun
  exceptions : List ExceptionRow
  cards : List VirtualCard
  creditMemos : List CreditMemo
  nextId : Nat
  deriving DecidableEq

namespace PayableTables

variable (tables : PayableTables)

/-- The applied memos of an invoice. -/
def appliedMemos (invoiceId : InvoiceId) : List CreditMemo :=
  tables.creditMemos.filter fun memo => memo.invoiceId = some invoiceId ∧ memo.status = .applied

/-- `applied_credit_total`. -/
def appliedCreditTotal (invoiceId : InvoiceId) : ℚ := ((tables.appliedMemos invoiceId).map (·.amount)).sum

/-- `net_payable_amount`. -/
def netPayableAmount (invoice : InvoiceRow) : ℚ := invoice.amount - tables.appliedCreditTotal invoice.id

/-- `live_card_invoice_ids` for one invoice. -/
def hasLiveCard (invoiceId : InvoiceId) : Bool :=
  tables.cards.any fun card => card.invoiceId = invoiceId ∧ card.status ≠ .cancelled

/-- What the payment endpoints see of an invoice. -/
def payable (invoice : InvoiceRow) : PayableInvoice where
  id := invoice.id
  invoiceNumber := invoice.invoiceNumber
  status := invoice.status
  currency := invoice.currency
  amount := invoice.amount
  appliedCredit := tables.appliedCreditTotal invoice.id
  hasLiveCard := tables.hasLiveCard invoice.id

@[simp]
theorem payable_id (invoice : InvoiceRow) : (tables.payable invoice).id = invoice.id := rfl

@[simp]
theorem payable_status (invoice : InvoiceRow) : (tables.payable invoice).status = invoice.status := rfl

/-- An exception of an invoice. Nothing is known of the payments it stands for. -/
def exceptionOf (row : ExceptionRow) : Option InvoiceException :=
  row.invoiceId.map fun invoiceId => ⟨invoiceId, row.exceptionType, row.status, []⟩

/-- What the payment endpoints see. -/
def store : PaymentStore where
  invoices := tables.invoices.map tables.payable
  payments := tables.payments
  runs := tables.runs
  exceptions := tables.exceptions.filterMap exceptionOf
  nextId := tables.nextId
  passes := []

end PayableTables

end Payables
