import Payables.Amounts.Readers
import Payables.Lib.Json
import Payables.Lib.Raising
import Payables.Workflow.Status

namespace Payables.CsvImport
open Lib

/-- What the importer takes from Python and the database: the case of letters in both, and the reading of dates. -/
structure Readings where
  lower : String → String
  upper : String → String
  sqlLower : String → String
  parseDate : String → Option Int

/-- A row of `_read_rows`, by the columns that the invoice import reads. -/
structure Row where
  invoiceNumber : Option String
  vendorName : Option String
  vendorCode : Option String
  amount : Option String
  currency : Option String
  invoiceDate : Option String
  dueDate : Option String
  poNumber : Option String
  description : Option String
  glAccount : Option String
  costCenter : Option String
  status : Option String

structure Vendor where
  id : Nat
  name : String
  code : Option String

structure Invoice where
  id : Nat
  vendorId : Nat
  vendorName : String
  invoiceNumber : String
  amount : ℚ
  currency : String
  invoiceDate : Option Int
  dueDate : Option Int
  poNumber : Option String
  description : Option String
  glAccount : Option String
  costCenter : Option String
  status : InvoiceStatus

structure AuditRow where
  action : String
  entityId : Nat

structure Tables where
  vendors : List Vendor
  invoices : List Invoice
  audits : List AuditRow

/-- What is reported of a row. -/
inductive Outcome
  | imported (id : Nat)
  | skipped
  | failed (message : String)

/-- An `ImportResult`. -/
structure ImportResult where
  imported : Nat
  skipped : Nat
  errors : List (Nat × String)

section Cells

variable (readings : Readings)

def invoiceStatus? (text : String) : Option InvoiceStatus :=
  [.new, .pending, .readyForReview, .approved, .rejected, .sendingToErp, .sentToErp, .postedInErp, .paymentScheduled, .paid,
    .done, .failed].find? fun status : InvoiceStatus => status.value = text

/-- `_IMPORTABLE_INVOICE_STATUSES`. -/
def importableInvoiceStatuses : List String := ["new", "done", "paid", "rejected"]

/-- `row.get(column) or otherwise`. -/
def cellOr (cell : Option String) (otherwise : String) : String := (cell.filter (· ≠ "")).getD otherwise

namespace Row

variable (row : Row)

def number : String := pyStripText (cellOr row.invoiceNumber "")

def name : String := pyStripText (cellOr row.vendorName "")

def code : Option String := some (pyStripText (cellOr row.vendorCode "")) |>.filter (· ≠ "")

/-- The amount, where it is a valid one. -/
def validAmount : Option ℚ := (row.amount.bind fun raw => Amounts.parseDecimal raw.toList).filter (0 ≤ ·)

def statusText : String := readings.lower (pyStripText (cellOr row.status "done"))

/-- The refusal of a row before its vendor is looked up. -/
def refusal : Option String :=
  if row.number = "" then some "invoice_number is required"
  else if row.name = "" ∧ row.code = none then some "vendor_name or vendor_code is required"
  else if row.validAmount = none then
    some ("amount invalid: " ++ match row.amount with | none => "None" | some raw => String.ofList (reprText raw))
  else none

/-- The refusal of a row for its status. -/
def statusRefusal : Option String :=
  let quoted := String.ofList (reprText (row.statusText readings))
  if invoiceStatus? (row.statusText readings) = none then some ("status invalid: " ++ quoted)
  else if (row.statusText readings) ∉ importableInvoiceStatuses then
    some ("status not importable: " ++ quoted ++ "; allowed: done, new, paid, rejected " ++
      "(import open AP as \x27new\x27 so it goes through approval)")
  else none

end Row

end Cells

section Database

/-- A text that can be sent to the database, in a column of a width. -/
def fits (width : Option Nat) (text : String) : Bool := !text.toList.contains '\x00' && width.all (text.length ≤ ·)

/-- `scalar_one_or_none`. -/
def scalarOneOrNone {ρ : Type} : List ρ → Except Raised (Option ρ)
  | [] => .ok none
  | [row] => .ok (some row)
  | _ => .error (.uncaught "MultipleResultsFound")

/-- A query for at most one row that compares a column with a text. -/
def queryOne {ρ : Type} (text : String) (rows : List ρ) : Except Raised (Option ρ) :=
  if fits none text then scalarOneOrNone rows else .error (.uncaught "DBAPIError")

variable (readings : Readings) (tables : Tables)

def withCode (code : String) : List Vendor := tables.vendors.filter fun vendor => vendor.code = some code

def withName (name : String) : List Vendor :=
  tables.vendors.filter fun vendor => readings.sqlLower vendor.name = readings.lower name

def withNumber (vendor : Vendor) (number : String) : List Invoice :=
  tables.invoices.filter fun invoice => invoice.vendorId = vendor.id ∧ invoice.invoiceNumber = number

/-- An id that is not used yet. -/
def freshId (used : List Nat) : Nat := used.foldr (fun id top => max (id + 1) top) 0

/-- The vendor that a row creates. -/
def stub (name : String) (code : Option String) : Vendor :=
  ⟨freshId (tables.vendors.map (·.id) ++ tables.invoices.map (·.vendorId)),
    if name = "" then code.getD "Unknown Vendor" else name, code⟩

def Vendor.storable (vendor : Vendor) : Bool := fits (some 255) vendor.name && vendor.code.all (fits (some 50))

/-- The creation of a vendor, with its audit row. -/
def mint (name : String) (code : Option String) : Except Raised (Tables × Vendor) :=
  let vendor := stub tables name code
  if vendor.storable then
    .ok ({ tables with
      vendors := tables.vendors ++ [vendor]
      audits := tables.audits ++ [⟨"vendor.imported_csv", vendor.id⟩] }, vendor)
  else .error (.uncaught "DBAPIError")

/-- The lookup by the code, for a row that has one. -/
def queryCode (code : Option String) : Except Raised (Option Vendor) :=
  code.elim (.ok none) fun code => queryOne code (withCode tables code)

/-- The lookup by the name, for a row that has one. -/
def queryName (name : String) : Except Raised (Option Vendor) :=
  if name = "" then .ok none else queryOne (readings.lower name) (withName readings tables name)

/-- `_resolve_or_create_vendor`. -/
def resolveOrCreateVendor (name : String) (code : Option String) : Except Raised (Tables × Vendor) := do
  let byCode ← queryCode tables code
  match byCode with
  | some vendor => .ok (tables, vendor)
  | none =>
    let byName ← queryName readings tables name
    match byName with
    | some vendor => .ok (tables, vendor)
    | none => mint tables name code

end Database

section Import

variable (readings : Readings)

/-- The invoice that a row becomes. -/
def Row.invoice (row : Row) (id : Nat) (vendor : Vendor) : Invoice :=
  { id
    vendorId := vendor.id
    vendorName := vendor.name
    invoiceNumber := row.number
    amount := row.validAmount.getD 0
    currency := String.ofList ((readings.upper (cellOr row.currency "USD")).toList.take 3)
    invoiceDate := row.invoiceDate.bind readings.parseDate
    dueDate := row.dueDate.bind readings.parseDate
    poNumber := row.poNumber.filter (· ≠ "")
    description := row.description.filter (· ≠ "")
    glAccount := row.glAccount.filter (· ≠ "")
    costCenter := row.costCenter.filter (· ≠ "")
    status := (invoiceStatus? (row.statusText readings)).getD .done }

/-- What fits its columns. The name is one that a vendor has already. -/
def Invoice.storable (invoice : Invoice) : Bool :=
  fits (some 100) invoice.invoiceNumber && fits none invoice.currency && invoice.poNumber.all (fits (some 100)) &&
    invoice.description.all (fits none) && invoice.glAccount.all (fits (some 100)) && invoice.costCenter.all (fits (some 100))

/-- The rest of the loop's body, once the vendor is known. -/
def importFor (row : Row) (tables : Tables) (vendor : Vendor) : Except Raised (Tables × Outcome) :=
  match row.statusRefusal readings with
  | some message => .ok (tables, .failed message)
  | none => do
    let existing ← queryOne row.number (withNumber tables vendor row.number)
    match existing with
    | some _ => .ok (tables, .skipped)
    | none =>
      let invoice := row.invoice readings (freshId (tables.invoices.map (·.id))) vendor
      if invoice.storable then .ok ({ tables with invoices := tables.invoices ++ [invoice] }, .imported invoice.id)
      else .error (.uncaught "DBAPIError")

/-- The body of the loop of `import_invoices_csv`. -/
def importRow (tables : Tables) (row : Row) : Except Raised (Tables × Outcome) :=
  match row.refusal with
  | some message => .ok (tables, .failed message)
  | none => do
    let resolved ← resolveOrCreateVendor readings tables row.name row.code
    importFor readings row resolved.1 resolved.2

def importRows : Tables → List Row → Except Raised (Tables × List Outcome)
  | tables, [] => .ok (tables, [])
  | tables, row :: rest => do
    let first ← importRow readings tables row
    let others ← importRows first.1 rest
    .ok (others.1, first.2 :: others.2)

def Outcome.importedId : Outcome → Option Nat
  | imported id => some id
  | skipped => none
  | failed _ => none

def Outcome.message : Outcome → Option String
  | imported _ => none
  | skipped => none
  | failed message => some message

def resultOf (outcomes : List Outcome) : ImportResult :=
  { imported := (outcomes.filterMap Outcome.importedId).length
    skipped := outcomes.countP fun outcome => outcome.importedId.isNone
    errors := (outcomes.zipIdx 2).filterMap fun entry => entry.1.message.map fun message => (entry.2, message) }

/-- `import_invoices_csv`, of the rows that `csv` reads or its error. -/
def importInvoicesCsv (tables : Tables) (csv : Except String (List Row)) : Except Raised (Tables × ImportResult) :=
  match csv with
  | .error message => .ok (tables, ⟨0, 0, [(0, "Malformed CSV: " ++ message)]⟩)
  | .ok rows => do
    let final ← importRows readings tables rows
    let created := final.2.filterMap Outcome.importedId
    .ok ({ final.1 with audits := final.1.audits ++ created.map fun id => ⟨"invoice.imported_csv", id⟩ }, resultOf final.2)

end Import

end Payables.CsvImport
