import Payables.Lib.Claiming
import Payables.Lib.Datetime
import Payables.Payments.Model
import Payables.Workflow.Reporting

namespace Payables.Statements
open Lib

/-- One line of the open items that a supplier lists. -/
structure StatementLine where
  invoiceNumber : Option String
  invoiceDate : Option CalendarDate
  amount : Option ℚ
  status : Option String
  deriving DecidableEq

structure LedgerInvoice where
  id : InvoiceId
  invoiceNumber : String
  amount : ℚ
  invoiceDate : Option CalendarDate
  deriving DecidableEq

/-- The open invoices of a ledger, as rows of one table. -/
structure Ledger where
  invoices : List LedgerInvoice
  distinct : (invoices.map (·.id)).Nodup

inductive Classification
  | matched
  | amountMismatch
  | missingOurSide
  | missingTheirSide
  deriving DecidableEq

/-- The stored spelling. -/
def Classification.value : Classification → String
  | matched => "matched"
  | amountMismatch => "amount_mismatch"
  | missingOurSide => "missing_on_our_side"
  | missingTheirSide => "missing_on_their_side"

inductive MatchMethod
  | invoiceNumber
  | amountDate
  deriving DecidableEq

def MatchMethod.value : MatchMethod → String
  | invoiceNumber => "invoice_number"
  | amountDate => "amount_date"

structure ReconLineResult where
  classification : Classification
  statementInvoiceNumber : Option String
  statementDate : Option CalendarDate
  statementAmount : Option ℚ
  statementStatus : Option String
  matchedInvoiceId : Option InvoiceId
  ledgerAmount : Option ℚ
  amountDifference : Option ℚ
  matchMethod : Option MatchMethod
  deriving DecidableEq

structure ReconSummary where
  lineCount : Nat
  matchedCount : Nat
  amountMismatchCount : Nat
  missingOurSideCount : Nat
  missingTheirSideCount : Nat
  statementTotal : ℚ
  ledgerTotal : ℚ
  deriving DecidableEq

/-- `DEFAULT_AMOUNT_TOLERANCE`. -/
def defaultAmountTolerance : ℚ := 1 / 100

/-- `DEFAULT_DATE_WINDOW_DAYS`. -/
def defaultDateWindowDays : Nat := 5

/-- `normalize_invoice_number`. -/
@[irreducible] def normalizeInvoiceNumber (value : Option String) : String :=
  String.ofList ((pyUpper (value.getD "")).toList.filter Char.isAlphanum)

/-- `_dates_within_window`. -/
def datesWithinWindow (a b : Option CalendarDate) (windowDays : Nat) : Bool :=
  match a, b with
  | some a, some b => |(a.ordinal : ℤ) - b.ordinal| ≤ windowDays
  | _, _ => true

def StatementLine.number (line : StatementLine) : String := normalizeInvoiceNumber line.invoiceNumber

def LedgerInvoice.number (invoice : LedgerInvoice) : String := normalizeInvoiceNumber (some invoice.invoiceNumber)

section Matching
variable (ledger : Ledger) (dateWindowDays : Nat) (consumed : Finset InvoiceId) (line : StatementLine)

/-- The first leg: an invoice of the number that is not consumed. -/
def numberMatch : Option LedgerInvoice :=
  if line.number = "" then none
  else (ledger.invoices.filter fun invoice => invoice.number = line.number).find? fun invoice => invoice.id ∉ consumed

/-- The second leg: an invoice of the amount, near the date. -/
def amountMatch : Option LedgerInvoice :=
  line.amount.bind fun amount => ledger.invoices.find? fun invoice =>
    invoice.id ∉ consumed ∧ invoice.amount = amount ∧ datesWithinWindow line.invoiceDate invoice.invoiceDate dateWindowDays

/-- What a turn of the loop of `reconcile` matches a line with. -/
def matchLine : Option (LedgerInvoice × MatchMethod) :=
  ((numberMatch ledger consumed line).map (·, MatchMethod.invoiceNumber)).or
    ((amountMatch ledger dateWindowDays consumed line).map (·, MatchMethod.amountDate))

end Matching

section Legs
variable {ledger : Ledger} {dateWindowDays : Nat} {consumed : Finset InvoiceId} {line : StatementLine}
  {invoice : LedgerInvoice} {method : MatchMethod}

theorem numberMatch_spec (found : numberMatch ledger consumed line = some invoice) :
    invoice ∈ ledger.invoices ∧ invoice.id ∉ consumed ∧ line.number ≠ "" ∧ invoice.number = line.number := by
  rw [numberMatch] at found
  split at found
  · cases found
  · next numbered =>
    have open_ := List.find?_some found
    have listed := List.mem_filter.mp (List.mem_of_find?_eq_some found)
    exact ⟨listed.1, of_decide_eq_true open_, numbered, of_decide_eq_true listed.2⟩

theorem numberMatch_none_iff : numberMatch ledger consumed line = none ↔
    line.number ≠ "" → ∀ invoice ∈ ledger.invoices, invoice.number = line.number → invoice.id ∈ consumed := by
  rw [numberMatch]
  split
  · next blank => simp [blank]
  · next numbered => simp [numbered]

theorem amountMatch_spec (found : amountMatch ledger dateWindowDays consumed line = some invoice) :
    invoice ∈ ledger.invoices ∧ invoice.id ∉ consumed := by
  rw [amountMatch, Option.bind_eq_some_iff] at found
  obtain ⟨amount, -, found⟩ := found
  have qualifies := List.find?_some found
  rw [decide_eq_true_eq] at qualifies
  exact ⟨List.mem_of_find?_eq_some found, qualifies.1⟩

theorem matchLine_iff : matchLine ledger dateWindowDays consumed line = some (invoice, method) ↔
    numberMatch ledger consumed line = some invoice ∧ method = .invoiceNumber ∨
      numberMatch ledger consumed line = none ∧ amountMatch ledger dateWindowDays consumed line = some invoice ∧
        method = .amountDate := by
  rw [matchLine, Option.or_eq_some_iff]
  simp [eq_comm]

theorem matchLine_open {taken : LedgerInvoice × MatchMethod}
    (found : matchLine ledger dateWindowDays consumed line = some taken) :
    taken.1 ∈ ledger.invoices ∧ taken.1.id ∉ consumed := by
  rcases matchLine_iff.mp found with ⟨byNumber, -⟩ | ⟨-, byAmount, -⟩
  · exact ⟨(numberMatch_spec byNumber).1, (numberMatch_spec byNumber).2.1⟩
  · exact amountMatch_spec byAmount

end Legs

/-- The loop of `reconcile`. -/
def matching (ledger : Ledger) (dateWindowDays : Nat) :
    Claimant StatementLine (LedgerInvoice × MatchMethod) InvoiceId where
  choose := matchLine ledger dateWindowDays
  key := fun taken => taken.1.id
  fresh := fun found => (matchLine_open found).2

/-- The result of a line and what it is matched with. -/
def StatementLine.result (line : StatementLine) (amountTolerance : ℚ) : Option (LedgerInvoice × MatchMethod) → ReconLineResult
  | none => ⟨.missingOurSide, line.invoiceNumber, line.invoiceDate, line.amount, line.status, none, none, none, none⟩
  | some (invoice, method) =>
    let amountDifference := line.amount.getD 0 - invoice.amount
    let classification := if |amountDifference| ≤ amountTolerance then .matched else .amountMismatch
    ⟨classification, line.invoiceNumber, line.invoiceDate, line.amount, line.status, some invoice.id, some invoice.amount,
      some amountDifference, some method⟩

/-- `_build_summary`. -/
def buildSummary (results : List ReconLineResult) : ReconSummary where
  lineCount := results.length
  matchedCount := results.countP (·.classification = .matched)
  amountMismatchCount := results.countP (·.classification = .amountMismatch)
  missingOurSideCount := results.countP (·.classification = .missingOurSide)
  missingTheirSideCount := results.countP (·.classification = .missingTheirSide)
  statementTotal := ((results.filter (·.classification ≠ .missingTheirSide)).filterMap (·.statementAmount)).sum
  ledgerTotal := ((results.filter fun result =>
    result.classification = .matched ∨ result.classification = .amountMismatch).filterMap (·.ledgerAmount)).sum

/-- `reconcile`. -/
def reconcile (lines : List StatementLine) (ledger : Ledger) (amountTolerance : ℚ) (dateWindowDays : Nat) :
    List ReconLineResult × ReconSummary :=
  let rule := matching ledger dateWindowDays
  let consumed := rule.takenAfter ∅ lines
  let results := ((rule.pass ∅ lines).map fun (line, taken) => line.result amountTolerance taken) ++
    (ledger.invoices.filter (·.id ∉ consumed)).map fun invoice =>
      ⟨.missingTheirSide, none, none, none, none, some invoice.id, some invoice.amount, none, none⟩
  (results, buildSummary results)

end Payables.Statements
