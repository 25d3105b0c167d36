import Payables.Workflow.Status

namespace Payables

abbrev VendorId := Nat

structure LineItem where
  lineNumber : Option Int
  itemCode : Option String
  description : Option String
  quantity : Option ℚ
  unitPrice : Option ℚ
  tax : Option ℚ
  total : Option ℚ
  glAccount : Option String
  deriving DecidableEq

/-- The columns of an invoice, with its line items, that say what is to be paid, to whom, and how it
is coded. -/
structure InvoiceFields where
  vendorName : String
  vendorId : Option VendorId
  amount : ℚ
  currency : String
  remitToAddress : Option String
  glAccount : Option String
  costCenter : Option String
  department : Option String
  lineItems : List LineItem
  deriving DecidableEq

/-- One key of an `InvoiceUpdate` body or of the corrections of an approval. A vendor name comes with
the vendor that `match_and_link_vendor` would find or create for it; `other` is a column that no
modelled function reads. -/
inductive FieldEdit
  | vendor (name : String) (matched : VendorId)
  | amount (value : ℚ)
  | currency (value : String)
  | remitToAddress (value : Option String)
  | glAccount (value : Option String)
  | costCenter (value : Option String)
  | department (value : Option String)
  | other (key : String)
  deriving DecidableEq

namespace FieldEdit

def key : FieldEdit → String
  | vendor _ _ => "vendor"
  | amount _ => "amount"
  | currency _ => "currency"
  | remitToAddress _ => "remit_to_address"
  | glAccount _ => "gl_account"
  | costCenter _ => "cost_center"
  | department _ => "department"
  | other key => key

/-- `_FINANCIAL_FIELDS`. -/
def financialFields : List String :=
  ["amount", "currency", "subtotal", "tax_amount", "discount_amount", "shipping_amount", "tax_rate", "vendor",
    "vendor_name", "remit_to_address"]

def isFinancial (edit : FieldEdit) : Bool := financialFields.contains edit.key

/-- The keys of an `ApproveRequest`. -/
def approveRequestKeys : List String :=
  ["vendor", "invoice_number", "amount", "description", "po_number", "due_date", "gl_account", "cost_center"]

/-- Setting the column. A name that was changed, or saved over a missing link, resolves the vendor link
again, and a blank one clears it. -/
def apply (fields : InvoiceFields) : FieldEdit → InvoiceFields
  | vendor name matched =>
    let relinked := name ≠ fields.vendorName ∨ fields.vendorId = none
    let linked := if pyStrip name.toList = [] then none else some matched
    { fields with vendorName := name, vendorId := if relinked then linked else fields.vendorId }
  | amount value => { fields with amount := value }
  | currency value => { fields with currency := value }
  | remitToAddress value => { fields with remitToAddress := value }
  | glAccount value => { fields with glAccount := value }
  | costCenter value => { fields with costCenter := value }
  | department value => { fields with department := value }
  | other _ => fields

end FieldEdit

/-- `update_invoice`, without its optimistic-concurrency token. -/
def updateInvoice (status : InvoiceStatus) (fields : InvoiceFields) (edits : List FieldEdit) :
    Except Raised InvoiceFields :=
  if status ∈ InvoiceStatus.immutableStatuses then .error (.http 409 "Cannot update invoice in this status")
  else if status ∈ InvoiceStatus.financiallyLockedStatuses ∧ edits.any FieldEdit.isFinancial then
    .error (.http 409 "Cannot edit financial fields once the invoice is approved")
  else .ok (edits.foldl FieldEdit.apply fields)

/-- `save_invoice_line_items`. -/
def saveInvoiceLineItems (status : InvoiceStatus) (fields : InvoiceFields) (body : List LineItem) :
    Except Raised InvoiceFields :=
  if status ∈ InvoiceStatus.financiallyLockedStatuses then
    .error (.http 409 "Cannot edit line items once the invoice is approved")
  else .ok { fields with
    lineItems := body.mapIdx fun i item => { item with lineNumber := some (item.lineNumber.getD (i + 1)) } }

/-- What an approval signs off and a payment pays. -/
structure Financials where
  vendorName : String
  vendorId : Option VendorId
  amount : ℚ
  currency : String
  remitToAddress : Option String
  lineItems : List LineItem
  deriving DecidableEq

def InvoiceFields.financials (fields : InvoiceFields) : Financials :=
  ⟨fields.vendorName, fields.vendorId, fields.amount, fields.currency, fields.remitToAddress, fields.lineItems⟩

theorem FieldEdit.apply_financials {edit : FieldEdit} (plain : edit.isFinancial = false) (fields : InvoiceFields) :
    (edit.apply fields).financials = fields.financials := by
  cases edit with
  | vendor => simp [isFinancial, key, financialFields] at plain
  | amount => simp [isFinancial, key, financialFields] at plain
  | currency => simp [isFinancial, key, financialFields] at plain
  | remitToAddress => simp [isFinancial, key, financialFields] at plain
  | glAccount => rfl
  | costCenter => rfl
  | department => rfl
  | other => rfl

theorem foldl_apply_financials {edits : List FieldEdit} (plain : edits.any FieldEdit.isFinancial = false)
    (fields : InvoiceFields) : (edits.foldl FieldEdit.apply fields).financials = fields.financials := by
  induction edits generalizing fields with
  | nil => rfl
  | cons edit rest ih =>
    rw [List.any_cons, Bool.or_eq_false_iff] at plain
    rw [List.foldl_cons, ih plain.2, FieldEdit.apply_financials plain.1]

theorem updateInvoice_financials_of_plain {status : InvoiceStatus} {fields written : InvoiceFields} {edits : List FieldEdit}
    (saved : updateInvoice status fields edits = .ok written) (plain : edits.any FieldEdit.isFinancial = false) :
    written.financials = fields.financials := by
  unfold updateInvoice at saved
  split at saved
  · cases saved
  split at saved
  · cases saved
  · cases saved
    exact foldl_apply_financials plain fields

/-- An edit that is let through while the invoice is approved or beyond leaves the financial content
alone. -/
theorem updateInvoice_financials {status : InvoiceStatus} {fields written : InvoiceFields} {edits : List FieldEdit}
    (saved : updateInvoice status fields edits = .ok written) (locked : status ∈ InvoiceStatus.financiallyLockedStatuses) :
    written.financials = fields.financials := by
  cases plain : edits.any FieldEdit.isFinancial with
  | false => exact updateInvoice_financials_of_plain saved plain
  | true =>
    unfold updateInvoice at saved
    split at saved
    · cases saved
    · rw [if_pos ⟨locked, plain⟩] at saved
      cases saved

theorem saveInvoiceLineItems_ok {status : InvoiceStatus} {fields written : InvoiceFields} {body : List LineItem}
    (saved : saveInvoiceLineItems status fields body = .ok written) :
    status ∉ InvoiceStatus.financiallyLockedStatuses := by
  unfold saveInvoiceLineItems at saved
  split at saved
  · cases saved
  · assumption

end Payables
