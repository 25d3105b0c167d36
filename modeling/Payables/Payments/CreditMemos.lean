import Payables.Lib.Runs
import Payables.Payments.Tables
import Payables.Workflow.Reporting

namespace Payables
open Lib

/-- A two-place `Decimal`, as a message shows it. -/
def moneyText (value : ℚ) : String :=
  let cents := ⌊value * 100⌋
  (if cents < 0 then "-" else "") ++ toString (cents.natAbs / 100) ++ "." ++
    (if cents.natAbs % 100 < 10 then "0" else "") ++ toString (cents.natAbs % 100)

/-- `(text or "").strip().upper() or None`. -/
def currencyCode (text : Option String) : Option String :=
  let code := pyUpper (pyStripText (text.getD ""))
  if code = "" then none else some code

/-- `_assert_vendor_matches`. -/
def assertVendorMatches (invoice : InvoiceRow) (vendorId : VendorId) : Except Raised Unit :=
  match invoice.vendorId with
  | none =>
    .error (.http 409 "The invoice has no linked vendor, so the credit memo\x27s vendor cannot be verified. Resolve the invoice\x27s vendor first (re-save its vendor on the invoice), then apply the credit.")
  | some linked =>
    if linked ≠ vendorId then .error (.http 409 "Credit memo vendor does not match invoice vendor") else .ok ()

/-- The currency guard of both application paths. An empty code is no code. -/
def assertCurrencyMatches (invoice : InvoiceRow) (currency : String) : Except Raised Unit :=
  if currency ≠ "" ∧ invoice.currency ≠ "" ∧ currency ≠ invoice.currency then
    .error (.http 409 "Credit memo currency does not match invoice currency")
  else .ok ()

/-- The over-application guard. -/
def assertCreditable (invoice : InvoiceRow) (alreadyApplied amount : ℚ) : Except Raised Unit :=
  if invoice.amount - alreadyApplied < amount then
    .error (.http 409 s!"Credit memo amount exceeds the invoice\x27s remaining creditable balance ({moneyText (invoice.amount - alreadyApplied)})")
  else .ok ()

/-- The columns an application writes. -/
def CreditMemo.appliedTo (memo : CreditMemo) (invoiceId : InvoiceId) : CreditMemo :=
  { memo with invoiceId := some invoiceId, status := .applied }

/-- The column a void writes. -/
def CreditMemo.voided (memo : CreditMemo) : CreditMemo := { memo with status := .void }

namespace PayableTables

variable (tables : PayableTables)

def invoice? (id : InvoiceId) : Option InvoiceRow := getRow InvoiceRow.id id tables.invoices

def creditMemo? (id : CreditMemoId) : Option CreditMemo := getRow CreditMemo.id id tables.creditMemos

def putCreditMemo (memo : CreditMemo) : PayableTables :=
  { tables with creditMemos := putRow CreditMemo.id memo tables.creditMemos }

def putInvoice (invoice : InvoiceRow) : PayableTables :=
  { tables with invoices := putRow InvoiceRow.id invoice tables.invoices }

/-- The applied credit of an invoice, but for one memo. -/
def otherCreditTotal (invoiceId : InvoiceId) (memo : CreditMemoId) : ℚ :=
  (((tables.creditMemos.filter fun other => other.id ≠ memo).filter fun other =>
    other.invoiceId = some invoiceId ∧ other.status = .applied).map (·.amount)).sum

/-- `create_credit_memo`, for a vendor that exists. It is one row-locked section. -/
def createCreditMemo (id : CreditMemoId) (vendorId : VendorId) (amount : ℚ) (currency : Option String)
    (invoiceId : Option InvoiceId) (orgCurrency : String) : Except Raised PayableTables :=
  if amount ≤ 0 then .error (.http 422 "Input should be greater than 0")
  else
    match invoiceId with
    | none =>
      .ok { tables with creditMemos := tables.creditMemos ++
        [⟨id, vendorId, none, amount, (currencyCode currency).getD orgCurrency, .opened⟩] }
    | some invoiceId =>
      match tables.invoice? invoiceId with
      | none => .error (.http 404 "Invoice not found")
      | some invoice => do
        assertVendorMatches invoice vendorId
        assertCurrencyMatches invoice ((currencyCode currency).getD "")
        assertCreditable invoice (tables.appliedCreditTotal invoiceId) amount
        let code := ((currencyCode currency) <|> currencyCode (some invoice.currency)).getD orgCurrency
        return { tables with creditMemos := tables.creditMemos ++ [⟨id, vendorId, some invoiceId, amount, code, .applied⟩] }

/-- The first, unlocked half of `apply_credit_memo`. -/
def readForApply (id : CreditMemoId) : Except Raised CreditMemo :=
  match tables.creditMemo? id with
  | none => .error (.http 404 "Credit memo not found")
  | some memo =>
    if memo.status ≠ .opened then .error (.http 409 s!"Cannot apply a credit memo in \x27{memo.status.value}\x27 status")
    else .ok memo

/-- The rest of it, from the lock of the invoice to the commit. `memo` is the row as it was read; the
`UPDATE` meets the row as it is now. -/
def applyCreditMemo (memo : CreditMemo) (invoiceId : InvoiceId) : Except Raised PayableTables :=
  match tables.invoice? invoiceId with
  | none => .error (.http 404 "Invoice not found")
  | some invoice => do
    assertVendorMatches invoice memo.vendorId
    assertCurrencyMatches invoice memo.currency
    assertCreditable invoice (tables.otherCreditTotal invoiceId memo.id) memo.amount
    match tables.creditMemo? memo.id with
    | none => return tables
    | some current => return tables.putCreditMemo (current.appliedTo invoiceId)

/-- The first half of `void_credit_memo`. -/
def readForVoid (id : CreditMemoId) : Except Raised CreditMemo :=
  match tables.creditMemo? id with
  | none => .error (.http 404 "Credit memo not found")
  | some memo =>
    if memo.status = .applied then .error (.http 409 "Applied credit memos cannot be voided (immutable for audit)")
    else .ok memo

/-- The rest of it. A memo that was read as void already is not written. -/
def voidCreditMemo (memo : CreditMemo) : PayableTables :=
  match tables.creditMemo? memo.id with
  | none => tables
  | some current => if memo.status = .void then tables else tables.putCreditMemo current.voided

/-- `update_invoice`, for the amount. -/
def updateInvoiceAmount (id : InvoiceId) (amount : ℚ) : Except Raised PayableTables :=
  if amount < 0 then .error (.http 422 "Input should be greater than or equal to 0")
  else
    match tables.invoice? id with
    | none => .error (.http 404 "Invoice not found")
    | some invoice =>
      if invoice.status ∈ InvoiceStatus.immutableStatuses then .error (.http 409 "Cannot update invoice in this status")
      else if invoice.status ∈ InvoiceStatus.financiallyLockedStatuses then
        .error (.http 409 "Cannot edit financial fields once the invoice is approved")
      else .ok (tables.putInvoice { invoice with amount := amount })

/-- A workflow transition of an invoice. -/
def transitionInvoice (id : InvoiceId) (target : InvoiceStatus) : Except Raised PayableTables :=
  match tables.invoice? id with
  | none => .error (.http 404 "Invoice not found")
  | some invoice => do
    InvoiceStatus.validateTransition invoice.status target
    return tables.putInvoice { invoice with status := target }

/-- `create_payment_run_for_invoices`, which writes payments and runs only. -/
def createRun (user : UserId) (items : List (InvoiceId × String)) (requiresCfo : Bool) : Except Raised PayableTables := do
  let booked ← createPaymentRun tables.store user items requiresCfo
  return { tables with payments := booked.payments, runs := booked.runs, nextId := booked.nextId }

end PayableTables

/-- A request that has read its memo, and not written it yet. -/
inductive MemoRequest
  | apply (memo : CreditMemo) (invoiceId : InvoiceId)
  | void (memo : CreditMemo)
  deriving DecidableEq

/-- The committed tables and the requests in flight. `applications` is no table: it keeps every
application of a memo that was ever committed. -/
structure CreditStore where
  tables : PayableTables
  nextMemo : CreditMemoId
  requests : List MemoRequest
  applications : List (CreditMemoId × InvoiceId)
  deriving DecidableEq

inductive CreditLabel
  | createInvoice (invoice : InvoiceRow)
  | createMemo (vendorId : VendorId) (amount : ℚ) (currency : Option String) (invoiceId : Option InvoiceId)
      (orgCurrency : String)
  | readForApply (memo : CreditMemoId) (invoiceId : InvoiceId)
  | readForVoid (memo : CreditMemoId)
  | finish (request : Nat)
  | updateAmount (invoiceId : InvoiceId) (amount : ℚ)
  | transition (invoiceId : InvoiceId) (target : InvoiceStatus)
  | createRun (user : UserId) (items : List (InvoiceId × String)) (requiresCfo : Bool)
  deriving DecidableEq

namespace CreditStore

variable (store : CreditStore)

/-- A request that commits or is refused. -/
def settle (result : Except Raised PayableTables) (application : Option (CreditMemoId × InvoiceId)) : CreditStore :=
  match result with
  | .ok tables => { store with tables := tables, applications := application.toList ++ store.applications }
  | .error _ => store

/-- The second half of a request. -/
def finish (request : MemoRequest) : CreditStore :=
  match request with
  | .apply memo invoiceId => store.settle (store.tables.applyCreditMemo memo invoiceId) (some (memo.id, invoiceId))
  | .void memo => store.settle (.ok (store.tables.voidCreditMemo memo)) none

end CreditStore

def runCreditLabel (store : CreditStore) : CreditLabel → CreditStore
  | .createInvoice invoice =>
    if invoice.id ∈ store.tables.invoices.map (·.id) ∨ invoice.amount < 0 then store
    else { store with tables := { store.tables with invoices := store.tables.invoices ++ [invoice] } }
  | .createMemo vendorId amount currency invoiceId orgCurrency =>
    { store.settle (store.tables.createCreditMemo store.nextMemo vendorId amount currency invoiceId orgCurrency)
        (invoiceId.map fun invoiceId => (store.nextMemo, invoiceId)) with nextMemo := store.nextMemo + 1 }
  | .readForApply memo invoiceId =>
    match store.tables.readForApply memo with
    | .ok read => { store with requests := store.requests ++ [.apply read invoiceId] }
    | .error _ => store
  | .readForVoid memo =>
    match store.tables.readForVoid memo with
    | .ok read => { store with requests := store.requests ++ [.void read] }
    | .error _ => store
  | .finish index =>
    match store.requests[index]? with
    | none => store
    | some request => { store.finish request with requests := store.requests.eraseIdx index }
  | .updateAmount invoiceId amount => store.settle (store.tables.updateInvoiceAmount invoiceId amount) none
  | .transition invoiceId target => store.settle (store.tables.transitionInvoice invoiceId target) none
  | .createRun user items requiresCfo => store.settle (store.tables.createRun user items requiresCfo) none

/-- Credit memos from the first one on, under any sequence of steps. -/
def creditMachine : Machine CreditStore CreditLabel where
  init store :=
    store.tables.creditMemos = [] ∧ store.requests = [] ∧ store.applications = [] ∧
      (store.tables.invoices.map (·.id)).Nodup ∧ ∀ invoice ∈ store.tables.invoices, 0 ≤ invoice.amount
  step := runCreditLabel

end Payables
