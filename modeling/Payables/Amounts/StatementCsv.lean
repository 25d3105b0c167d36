import Payables.Amounts.Readers
import Payables.Banking.Matching
import Payables.Statements.Reconcile

namespace Payables.Amounts
open Lib Banking Statements

/-- A cell of a CSV file, a row, and a file. -/
abbrev Cell := List Char
abbrev CsvRow := List Cell
abbrev CsvTable := List CsvRow

/-- `str.lower`, as far as it makes letters of ASCII. -/
def lowered (c : Char) : Char := if c = '\u212a' then 'k' else c.toLower

/-- `header.strip().lower() in candidates`. -/
def isNamed (candidates : List String) (header : Cell) : Bool :=
  candidates.any fun name => name.toList == (pyStrip header).map lowered

/-- `_find_col`. -/
def findCol (headers : CsvRow) (candidates : List String) : Option Cell := headers.find? (isNamed candidates)

/-- `{h: i for i, h in enumerate(headers)}`. A later header takes the place of an earlier one of the same text. -/
def headerIndex (headers : CsvRow) : Cell → Option Nat :=
  headers.zipIdx.foldl (fun dict entry => fun header => if header = entry.1 then some entry.2 else dict header) fun _ => none

/-- The column that the cells of a field are taken from. -/
def columnOf (headers : CsvRow) (candidates : List String) : Option Nat :=
  (findCol headers candidates).bind (headerIndex headers)

/-- `row[i]`. A short row is filled up with empty cells. -/
def cellAt (row : CsvRow) (column : Nat) : Cell := row.getD column []

/-- `cell.strip() or None`. -/
def textAt (row : CsvRow) (column : Option Nat) : Option String :=
  (column.map fun i => pyStrip (cellAt row i)).bind fun text => if text = [] then none else some (String.ofList text)

/-- A row without a character is no row. -/
def isBlankRow (row : CsvRow) : Bool := row.all fun cell => pyStrip cell == []

def bankDateHeaders : List String := ["date", "transaction date", "transaction_date", "posted date", "post date"]
def bankAmountHeaders : List String := ["amount", "transaction amount", "amount (usd)", "value"]
def debitHeaders : List String := ["debit", "withdrawal", "withdrawals"]
def creditHeaders : List String := ["credit", "deposit", "deposits"]
def descHeaders : List String := ["description", "memo", "details", "note", "narrative"]
def referenceHeaders : List String := ["reference", "ref", "trace number", "trace", "check number"]
def counterpartyHeaders : List String := ["counterparty", "payee", "name", "merchant", "vendor"]

/-- The fields of a bank statement. -/
def bankFields : List (List String) :=
  [bankDateHeaders, bankAmountHeaders, debitHeaders, creditHeaders, descHeaders, referenceHeaders, counterpartyHeaders]

/-- A row of a bank statement, with its description. -/
structure ImportedRow extends ParsedRow where
  description : Option String
  deriving DecidableEq

/-- The amount and the direction of a row: of its amount column, or of its debit or credit column. -/
def bankAmount (column : List String → Option Nat) (row : CsvRow) : Option (ℚ × Direction) :=
  match column bankAmountHeaders with
  | some i => (parseBankAmount (cellAt row i)).map fun amount => (|amount|, if amount < 0 then .debit else .credit)
  | none =>
    match ((column debitHeaders).bind fun i => parseBankAmount (cellAt row i)).filter (· ≠ 0),
        ((column creditHeaders).bind fun i => parseBankAmount (cellAt row i)).filter (· ≠ 0) with
    | some debit, _ => some (|debit|, .debit)
    | none, some credit => some (|credit|, .credit)
    | none, none => none

/-- A row of a bank statement, unless it is skipped. -/
def bankRow (parseDate : Cell → Option CalendarDate) (column : List String → Option Nat) (row : CsvRow) :
    Option ImportedRow :=
  if isBlankRow row then none
  else do
    let date ← (column bankDateHeaders).bind fun i => parseDate (cellAt row i)
    let (amount, direction) ← bankAmount column row
    return { transactionDate := date, amount := amount, direction := direction,
             counterpartyName := textAt row (column counterpartyHeaders), reference := textAt row (column referenceHeaders),
             description := textAt row (column descHeaders) }

/-- The rows of a bank statement, from the columns that `column` finds in the headers. -/
def readBankStatement (column : CsvRow → List String → Option Nat) (parseDate : Cell → Option CalendarDate)
    (rows : CsvTable) : Except String (List ImportedRow) :=
  match rows with
  | first :: second :: rest =>
    let headers := first.map pyStrip
    if column headers bankDateHeaders = none then
      .error ("CSV header is missing a date column " ++
        "(expected one of ['date', 'post date', 'posted date', 'transaction date', 'transaction_date'])")
    else if column headers bankAmountHeaders = none ∧ column headers debitHeaders = none ∧ column headers creditHeaders = none then
      .error "CSV header is missing both an amount column and debit/credit columns"
    else
      match (second :: rest).filterMap (bankRow parseDate (column headers)) with
      | [] => .error "CSV had a header but no parseable transactions"
      | parsed => .ok parsed
  | _ => .error "CSV is empty or has no data rows"

/-- `parse_csv_statement`. -/
def parseCsvStatement (parseDate : Cell → Option CalendarDate) (rows : CsvTable) : Except String (List ImportedRow) :=
  readBankStatement columnOf parseDate rows

def invoiceHeaders : List String :=
  ["invoice", "invoice number", "invoice_number", "invoice no", "invoice #", "number", "ref", "reference", "document",
   "document number"]
def statementDateHeaders : List String := ["date", "invoice date", "invoice_date", "document date", "due date"]
def statementAmountHeaders : List String := ["amount", "balance", "open balance", "outstanding", "amount due", "total"]
def statusHeaders : List String := ["status", "state"]

/-- The fields of a vendor statement. -/
def statementFields : List (List String) := [invoiceHeaders, statementDateHeaders, statementAmountHeaders, statusHeaders]

/-- `detect_amount_convention`. -/
def detectAmountConvention (values : List Cell) : Option AmountConvention :=
  detectConvention ((values.filterMap statementCore).map Prod.fst)

/-- A line of a vendor statement, unless it carries nothing to match on. -/
def statementLine (parseDate : Cell → Option CalendarDate) (column : List String → Option Nat)
    (convention : Option AmountConvention) (row : CsvRow) : Option StatementLine :=
  let number := textAt row (column invoiceHeaders)
  let amount := (column statementAmountHeaders).bind fun i => parseAmount (cellAt row i) convention
  if isBlankRow row ∨ amount = none ∧ number = none then none
  else some {
    invoiceNumber := number
    invoiceDate := (column statementDateHeaders).bind fun i => parseDate (cellAt row i)
    amount := amount
    status := textAt row (column statusHeaders) }

/-- The lines of a vendor statement, from the columns that `column` finds in the headers. -/
def readVendorStatement (column : CsvRow → List String → Option Nat) (parseDate : Cell → Option CalendarDate)
    (rows : CsvTable) : Except String (List StatementLine) :=
  match rows with
  | first :: second :: rest =>
    let headers := first.map pyStrip
    if column headers invoiceHeaders = none ∧ column headers statementAmountHeaders = none then
      .error ("CSV header is missing both an invoice-number column " ++
        "(expected one of ['document', 'document number', 'invoice', 'invoice #', 'invoice no', 'invoice number', " ++
        "'invoice_number', 'number', 'ref', 'reference']) and an amount column " ++
        "(expected one of ['amount', 'amount due', 'balance', 'open balance', 'outstanding', 'total'])")
    else
      let amounts := (column headers statementAmountHeaders).elim [] fun i => (second :: rest).filterMap (·[i]?)
      .ok ((second :: rest).filterMap (statementLine parseDate (column headers) (detectAmountConvention amounts)))
  | _ => .error "CSV is empty or has no data rows"

/-- `parse_statement_csv`. -/
def parseStatementCsv (parseDate : Cell → Option CalendarDate) (rows : CsvTable) : Except String (List StatementLine) :=
  readVendorStatement columnOf parseDate rows

end Payables.Amounts
