import Payables.Approval.Gates
import Payables.Lib.Column
import Payables.Lib.Rows
import Payables.Lib.Sessions

namespace Payables.ExpenseReports
open Lib

inductive ExpenseReportStatus
  | draft
  | submitted
  | pendingApproval
  | approved
  | rejected
  | reimbursed
  | cancelled
  deriving DecidableEq

namespace ExpenseReportStatus

def value : ExpenseReportStatus → String
  | draft => "draft"
  | submitted => "submitted"
  | pendingApproval => "pending_approval"
  | approved => "approved"
  | rejected => "rejected"
  | reimbursed => "reimbursed"
  | cancelled => "cancelled"

/-- `_LOCKED_REPORT_STATUSES`. -/
def isLocked : ExpenseReportStatus → Bool
  | submitted => true
  | pendingApproval => true
  | approved => true
  | reimbursed => true
  | _ => false

end ExpenseReportStatus

inductive ExpenseStatus
  | draft
  | submitted
  | approved
  | rejected
  | reimbursed
  deriving DecidableEq

/-- What the policy check of a submission sees of a line. -/
structure JudgedLine where
  id : Nat
  category : Option String
  amount : ℚ
  currency : String
  deriving DecidableEq

/-- Who approves a report, and the settings it is compared with. -/
structure Signature where
  approver : UserId
  roles : List String
  cfoThreshold : Option RawMoney
  reportingCurrency : String
  deriving DecidableEq

/-- `_DEFAULT_CFO_THRESHOLD`. -/
def defaultCfoThreshold : RawMoney := .number (.finite 5000)

namespace Signature

def cfoThresholdRaw (signature : Signature) : RawMoney := signature.cfoThreshold.getD defaultCfoThreshold

def mayExceed (signature : Signature) : Bool := signature.roles.contains "cfo" || signature.roles.contains "admin"

end Signature

/-- A report. `judged` and `signature` are no columns: they keep what the last submission has judged, and by whom and
against what the report was approved. -/
structure ExpenseReport where
  id : Nat
  employeeUserId : UserId
  status : ExpenseReportStatus
  approvedBy : Option UserId
  totalAmount : ℚ
  currency : String
  reportingCurrency : Option String
  reportingAmount : Option ℚ
  judged : List JudgedLine
  signature : Option Signature
  deriving DecidableEq

structure Expense where
  id : Nat
  reportId : Option Nat
  category : Option String
  amount : ℚ
  currency : String
  convertedCurrency : Option String
  convertedAmount : Option ℚ
  status : ExpenseStatus
  deriving DecidableEq

/-- `normalize_currency`. -/
def normalizeCurrency (code default_ : String) : String :=
  if pyStripText code = "" then pyUpper default_ else pyUpper (pyStripText code)

/-- `line_amount_in_report_currency`. -/
def lineAmountInReportCurrency (amount : ℚ) (currency : String) (convertedAmount : Option ℚ) (convertedCurrency : Option String)
    (reportCurrency : String) : Option ℚ :=
  let tgt := normalizeCurrency reportCurrency "USD"
  match convertedAmount.filter fun _ => normalizeCurrency (convertedCurrency.getD "") "" = tgt with
  | some converted => some (quantizeMoney converted)
  | none => if normalizeCurrency currency tgt = tgt then some (quantizeMoney amount) else none

namespace Expense

/-- What a line adds to the total of its report, if that is known. -/
def contribution (expense : Expense) (reportCurrency : String) : Option ℚ :=
  let tgt := normalizeCurrency reportCurrency "USD"
  lineAmountInReportCurrency expense.amount (normalizeCurrency expense.currency tgt) expense.convertedAmount
    expense.convertedCurrency tgt

def judgedLine (expense : Expense) : JudgedLine := ⟨expense.id, expense.category, expense.amount, expense.currency⟩

/-- `clear_expense_conversion`. -/
def clearConversion (expense : Expense) : Expense := { expense with convertedCurrency := none, convertedAmount := none }

/-- The UPDATE of an expense over what it is by now. -/
def overwrite (loaded written current : Expense) : Expense :=
  { current with
    reportId := writeBack loaded.reportId written.reportId current.reportId
    category := writeBack loaded.category written.category current.category
    amount := writeBack loaded.amount written.amount current.amount
    currency := writeBack loaded.currency written.currency current.currency
    convertedCurrency := writeBack loaded.convertedCurrency written.convertedCurrency current.convertedCurrency
    convertedAmount := writeBack loaded.convertedAmount written.convertedAmount current.convertedAmount
    status := writeBack loaded.status written.status current.status }

end Expense

structure ReportRollup where
  currency : String
  total : ℚ
  unconvertedIds : List Nat

/-- `rollup_report_lines`. -/
def rollupReportLines (lines : List Expense) (reportCurrency : String) : ReportRollup where
  currency := normalizeCurrency reportCurrency "USD"
  total := quantizeMoney (lines.filterMap (·.contribution reportCurrency)).sum
  unconvertedIds := (lines.filter fun line => (line.contribution reportCurrency).isNone).map (·.id)

/-- `conversion_requires_rate_source`. -/
def conversionRequiresRateSource (source target : String) (fxAdapter : Option FxRates) : Bool :=
  fxAdapter.isNone && normalizeCurrency source (normalizeCurrency target "USD") != normalizeCurrency target "USD"

/-- The rate of a pair. Without an adapter there is one for equal currencies only. -/
def adapterRate (fxAdapter : Option FxRates) : String → String → Option ℚ := conversionRate (fxAdapter.getD fun _ _ => none)

/-- `_lock_line_conversion`, over `lock_expense_conversion`. -/
def lockLineConversion (fxAdapter : Option FxRates) (reportCurrency : String) (expense : Expense) : Except Raised Expense :=
  let tgt := normalizeCurrency reportCurrency "USD"
  let src := normalizeCurrency expense.currency tgt
  if conversionRequiresRateSource expense.currency reportCurrency fxAdapter then
    .error (.http 422 "No FX rate source is configured, so this line cannot be converted.")
  else
    match adapterRate fxAdapter src tgt with
    | some rate => .ok { expense with convertedCurrency := some tgt, convertedAmount := some (quantizeMoney (expense.amount * rate)) }
    | none => .error (.http 422 s!"No FX rate available to convert {src} into the report currency {tgt}.")

namespace ExpenseReport

/-- `clear_report_reporting_amount`. -/
def clearReportingAmount (report : ExpenseReport) : ExpenseReport :=
  { report with reportingCurrency := none, reportingAmount := none }

/-- `lock_report_reporting_amount`. -/
def lockReportingAmount (report : ExpenseReport) (fxAdapter : Option FxRates) (reportingCurrency : String) : ExpenseReport :=
  let tgt := normalizeCurrency reportingCurrency "USD"
  match adapterRate fxAdapter (normalizeCurrency report.currency tgt) tgt with
  | some rate =>
    { report with reportingCurrency := some tgt, reportingAmount := some (quantizeMoney (report.totalAmount * rate)) }
  | none => report.clearReportingAmount

/-- `report_amount_for_gate`. -/
def amountForGate (report : ExpenseReport) (reportingCurrency : String) : Option ℚ :=
  let tgt := normalizeCurrency reportingCurrency "USD"
  match report.reportingAmount.filter fun _ => normalizeCurrency (report.reportingCurrency.getD "") "" = tgt with
  | some locked => some (quantizeMoney locked)
  | none => if normalizeCurrency report.currency tgt = tgt then some (quantizeMoney report.totalAmount) else none

/-- `_recompute_report_total`, from the lines it finds. -/
def recomputeTotal (report : ExpenseReport) (lines : List Expense) : ExpenseReport :=
  { report with totalAmount := (rollupReportLines lines report.currency).total }.clearReportingAmount

/-- The UPDATE of a report over what it is by now. -/
def overwrite (loaded written current : ExpenseReport) : ExpenseReport :=
  { current with
    status := writeBack loaded.status written.status current.status
    approvedBy := writeBack loaded.approvedBy written.approvedBy current.approvedBy
    totalAmount := writeBack loaded.totalAmount written.totalAmount current.totalAmount
    currency := writeBack loaded.currency written.currency current.currency
    reportingCurrency := writeBack loaded.reportingCurrency written.reportingCurrency current.reportingCurrency
    reportingAmount := writeBack loaded.reportingAmount written.reportingAmount current.reportingAmount
    judged := writeBack loaded.judged written.judged current.judged
    signature := writeBack loaded.signature written.signature current.signature }

/-- `_require_draft_report`. -/
def requireDraft (report : ExpenseReport) : Except Raised Unit :=
  if report.status = .draft then .ok ()
  else .error (.http 409 s!"Cannot modify a report in \x27{report.status.value}\x27 state; it has left draft.")

/-- `_require_report_unlocked`. -/
def requireUnlocked (report : ExpenseReport) : Except Raised Unit :=
  if report.status.isLocked then
    .error (.http 409 s!"Cannot modify a report in \x27{report.status.value}\x27 state; its total is locked.")
  else .ok ()

end ExpenseReport

/-- A row as a request has read it and as it means to write it. -/
structure Change (ρ : Type) where
  loaded : ρ
  written : ρ

/-- What a request that edits reports and lines writes. A created line gets its id as it is written. -/
structure Transaction where
  expenses : List (Change Expense)
  reports : List (Change ExpenseReport)
  created : Option Expense
  deleted : Option Nat
  recompute : List Nat

structure ReportTables where
  reports : List ExpenseReport
  expenses : List Expense
  nextExpense : Nat

def linesOf (reportId : Nat) (expenses : List Expense) : List Expense :=
  expenses.filter fun expense => expense.reportId = some reportId

namespace ReportTables

variable (tables : ReportTables)

def report? (id : Nat) : Option ExpenseReport := getRow (·.id) id tables.reports

def expense? (id : Nat) : Option Expense := getRow (·.id) id tables.expenses

/-- `report.expenses`. -/
def lines (reportId : Nat) : List Expense := linesOf reportId tables.expenses

/-- `_get_report_or_404`. -/
def getReport (id : Nat) : Except Raised ExpenseReport :=
  match tables.report? id with
  | some report => .ok report
  | none => .error (.http 404 "Expense report not found")

/-- `_get_expense_or_404`. -/
def getExpense (id : Nat) : Except Raised Expense :=
  match tables.expense? id with
  | some expense => .ok expense
  | none => .error (.http 404 "Expense not found")

end ReportTables

namespace Transaction

variable (tx : Transaction)

def writeExpense (row : Expense) : Expense :=
  match tx.expenses.find? fun change => change.loaded.id = row.id with
  | some change => Expense.overwrite change.loaded change.written row
  | none => row

def writeReport (row : ExpenseReport) : ExpenseReport :=
  match tx.reports.find? fun change => change.loaded.id = row.id with
  | some change => ExpenseReport.overwrite change.loaded change.written row
  | none => row

/-- The expenses as the transaction itself sees them after its flush. -/
def flushed (tables : ReportTables) : List Expense :=
  (tables.expenses.filter fun row => tx.deleted ≠ some row.id).map tx.writeExpense ++
    (tx.created.map fun expense => { expense with id := tables.nextExpense }).toList

/-- An UPDATE that matches no row fails the transaction. -/
def stale (tables : ReportTables) : Bool :=
  tx.expenses.any fun change => decide (change.written ≠ change.loaded) && (tables.expense? change.loaded.id).isNone

/-- The recomputation of totals after the flush. A report that is not in memory yet is read again. -/
def recomputeTotals (tables : ReportTables) : Transaction :=
  { tx with
    reports := tx.recompute.filterMap fun id =>
      ((tx.reports.find? fun change => change.loaded.id = id).orElse fun _ =>
        (tables.report? id).map fun report => ⟨report, report⟩).map fun change =>
          ⟨change.loaded, change.written.recomputeTotal (linesOf id (tx.flushed tables))⟩ }

end Transaction

def ReportTables.commit (tables : ReportTables) (tx : Transaction) : ReportTables :=
  if tx.stale tables then tables
  else
    { reports := tables.reports.map tx.writeReport
      expenses := tx.flushed tables
      nextExpense := tables.nextExpense + 1 }

/-- `ExpenseCreate`. -/
structure ExpenseCreate where
  reportId : Option Nat
  category : Option String
  amount : ℚ
  currency : String

/-- `ExpenseUpdate`: the columns that totals and policies read. -/
structure ExpenseUpdate where
  category : Option (Option String)
  amount : Option ℚ
  currency : Option String
  reportId : Option (Option Nat)

/-- What a submission reads besides its report: the rates, the currency of the organisation and the policies that block. -/
structure Submission where
  fxAdapter : Option FxRates
  reportingCurrency : String
  blocks : ExpenseReport → List Expense → Bool

namespace ReportTables

variable (tables : ReportTables)

/-- The check of every report whose total an edit would move. -/
def requireUnlocked (reportIds : List Nat) : Except Raised Unit :=
  reportIds.forM fun id => do (← tables.getReport id).requireUnlocked

def createExpense (body : ExpenseCreate) (fxAdapter : Option FxRates) : Except Raised Transaction :=
  let expense : Expense := ⟨tables.nextExpense, body.reportId, body.category, body.amount, body.currency, none, none, .draft⟩
  match body.reportId with
  | some reportId => do
    let report ← tables.getReport reportId
    report.requireDraft
    let locked ← lockLineConversion fxAdapter report.currency expense
    return ⟨[], [⟨report, report⟩], some locked, none, [reportId]⟩
  | none => .ok ⟨[], [], some expense, none, []⟩

/-- Moving an expense onto a report is an attach. -/
def requireTarget (expense : Expense) (reportId : Option (Option Nat)) : Except Raised Unit :=
  match reportId with
  | some (some target) => do
    let report ← tables.getReport target
    if expense.reportId = some target then .ok () else report.requireDraft
  | _ => .ok ()

end ReportTables

namespace Expense

variable (expense : Expense)

/-- The expense with the fields of an update. -/
def patched (patch : ExpenseUpdate) : Expense :=
  { expense with
    reportId := patch.reportId.getD expense.reportId
    category := patch.category.getD expense.category
    amount := patch.amount.getD expense.amount
    currency := patch.currency.getD expense.currency }

/-- The reports whose total an update moves. -/
def affectedReports (edited : Expense) : List Nat :=
  (if expense.reportId = edited.reportId then [] else expense.reportId.toList ++ edited.reportId.toList) ++
    if expense.amount = edited.amount ∧ expense.currency = edited.currency then [] else edited.reportId.toList

end Expense

namespace ReportTables

variable (tables : ReportTables)

/-- Locking or clearing the conversion of a line after what it converts, or what it converts into, changed. -/
def reconvert (fxAdapter : Option FxRates) (affected : List Nat) (expense : Expense) : Except Raised Expense :=
  if affected = [] then .ok expense
  else
    match expense.reportId with
    | some reportId => do
      let report ← tables.getReport reportId
      lockLineConversion fxAdapter report.currency expense
    | none => .ok expense.clearConversion

def updateExpense (expenseId : Nat) (patch : ExpenseUpdate) (fxAdapter : Option FxRates) : Except Raised Transaction := do
  let expense ← tables.getExpense expenseId
  tables.requireTarget expense patch.reportId
  let affected := expense.affectedReports (expense.patched patch)
  tables.requireUnlocked affected
  let edited ← tables.reconvert fxAdapter affected (expense.patched patch)
  return ⟨[⟨expense, edited⟩], [], none, none, affected⟩

def deleteExpense (expenseId : Nat) (linkedTxnId : Option String) : Except Raised Transaction := do
  let expense ← tables.getExpense expenseId
  tables.requireUnlocked expense.reportId.toList
  match linkedTxnId with
  | some txnId =>
    .error (.http 409 s!"Expense is reconciled to card transaction {txnId}; unmatch it before deleting.")
  | none => .ok ⟨[], [], none, some expenseId, expense.reportId.toList⟩

/-- A line as it is locked into the currency of the report it is on, or gets onto. -/
def lockChange (fxAdapter : Option FxRates) (reportCurrency : String) (reportId : Nat) (loaded : Expense) :
    Except Raised (Change Expense) := do
  let locked ← lockLineConversion fxAdapter reportCurrency { loaded with reportId := some reportId }
  return ⟨loaded, locked⟩

def attachExpenses (reportId : Nat) (expenseIds : List Nat) (detach : Bool) (fxAdapter : Option FxRates) :
    Except Raised Transaction := do
  let report ← tables.getReport reportId
  report.requireDraft
  let loaded ← expenseIds.mapM tables.getExpense
  if detach then
    let detached := (linesOf reportId loaded).map fun expense => ⟨expense, { expense.clearConversion with reportId := none }⟩
    return ⟨detached, [⟨report, report⟩], none, none, [reportId]⟩
  else
    let affected := (loaded.filterMap (·.reportId)).filter (· ≠ reportId)
    tables.requireUnlocked affected
    let attached ← loaded.mapM (lockChange fxAdapter report.currency reportId)
    return ⟨attached, [⟨report, report⟩], none, none, reportId :: affected⟩

def updateReport (reportId : Nat) (currency : Option String) (fxAdapter : Option FxRates) : Except Raised Transaction := do
  let report ← tables.getReport reportId
  report.requireUnlocked
  match currency.filter (· ≠ report.currency) with
  | some changed => do
    let locked ← (tables.lines reportId).mapM (lockChange fxAdapter changed reportId)
    return ⟨locked, [⟨report, { report with currency := changed }⟩], none, none, [reportId]⟩
  | none => .ok ⟨[], [], none, none, []⟩

end ReportTables

namespace ExpenseReport

variable (report : ExpenseReport)

/-- The check that starts a submission, an approval and a rejection. -/
def requireStatus (verb : String) (status : ExpenseReportStatus) : Except Raised Unit :=
  if report.status = status then .ok ()
  else .error (.http 422 s!"Cannot {verb} a report in \x27{report.status.value}\x27 state")

/-- The end of `submit_report`: what a draft report becomes on the lines that it is totalled from and those that were
loaded with it. -/
def submit (lines children : List Expense) (submission : Submission) : Except Raised ExpenseReport :=
  let rollup := rollupReportLines lines report.currency
  let totalled := report.recomputeTotal lines
  if rollup.unconvertedIds ≠ [] then
    .error (.http 422 (s!"{rollup.unconvertedIds.length} expense(s) have no exchange rate locked into the report currency " ++
      s!"{rollup.currency} and cannot be totalled. Re-attach them to lock a rate."))
  else if submission.blocks totalled children then
    .error (.http 422 "Report has blocking policy violations and cannot be submitted.")
  else
    let priced :=
      if conversionRequiresRateSource report.currency submission.reportingCurrency submission.fxAdapter then
        totalled.clearReportingAmount
      else totalled.lockReportingAmount submission.fxAdapter submission.reportingCurrency
    .ok { priced with status := .submitted, judged := children.map (·.judgedLine) }

/-- The gate of an approval on the amount of a report. -/
def requireCfo (signature : Signature) : Except Raised Unit :=
  let gateTotal := report.amountForGate signature.reportingCurrency
  let applies := gateTotal.all fun total =>
    cfoGateApplies signature.cfoThresholdRaw ⟨total, signature.reportingCurrency, true⟩
  if applies && !signature.mayExceed then
    .error (.http 403 (match gateTotal with
      | none => s!"Report total cannot be expressed in {signature.reportingCurrency}. CFO approval required."
      | some _ => "Report total exceeds the limit. CFO approval required."))
  else .ok ()

/-- The report that an approval means to write. -/
def approve (signature : Signature) : ExpenseReport :=
  { report with status := .approved, approvedBy := some signature.approver, signature := some signature }

/-- The report that a rejection means to write. -/
def reject : ExpenseReport := { report with status := .rejected }

end ExpenseReport

/-- Where a request stands: an edit is about to flush and total, or to commit; a submission to total, or to commit; an
approval or a rejection to commit, with the status its lines get. -/
inductive ReportCall
  | editing (tx : Transaction)
  | edited (tx : Transaction)
  | submitting (report : ExpenseReport) (children : List Expense) (submission : Submission)
  | submitted (report : ExpenseReport) (children : List Expense) (written : ExpenseReport)
  | deciding (report : ExpenseReport) (children : List Expense) (written : ExpenseReport) (status : ExpenseStatus)

namespace ReportTables

variable (tables : ReportTables)

def submitReport (reportId : Nat) (submission : Submission) : Except Raised ReportCall := do
  let report ← tables.getReport reportId
  report.requireStatus "submit" .draft
  return .submitting report (tables.lines reportId) submission

def approveReport (reportId : Nat) (signature : Signature) : Except Raised ReportCall := do
  let report ← tables.getReport reportId
  report.requireStatus "approve" .submitted
  checkSegregation (some report.employeeUserId) [] signature.approver
    { ApprovalConfig.empty with requireSegregation := some true }
  report.requireCfo signature
  return .deciding report (tables.lines reportId) (report.approve signature) .approved

def rejectReport (reportId : Nat) : Except Raised ReportCall := do
  let report ← tables.getReport reportId
  report.requireStatus "reject" .submitted
  return .deciding report (tables.lines reportId) report.reject .draft

end ReportTables

inductive ReportRequest
  | createExpense (body : ExpenseCreate) (fxAdapter : Option FxRates)
  | updateExpense (expenseId : Nat) (patch : ExpenseUpdate) (fxAdapter : Option FxRates)
  | deleteExpense (expenseId : Nat) (linkedTxnId : Option String)
  | attachExpenses (reportId : Nat) (expenseIds : List Nat) (detach : Bool) (fxAdapter : Option FxRates)
  | updateReport (reportId : Nat) (currency : Option String) (fxAdapter : Option FxRates)
  | submitReport (reportId : Nat) (submission : Submission)
  | approveReport (reportId : Nat) (signature : Signature)
  | rejectReport (reportId : Nat)

/-- The first part of a request, which reads and checks. -/
def ReportTables.prepare (tables : ReportTables) : ReportRequest → Except Raised ReportCall
  | .createExpense body fxAdapter => (tables.createExpense body fxAdapter).map .editing
  | .updateExpense expenseId patch fxAdapter => (tables.updateExpense expenseId patch fxAdapter).map .editing
  | .deleteExpense expenseId linkedTxnId => (tables.deleteExpense expenseId linkedTxnId).map .editing
  | .attachExpenses reportId expenseIds detach fxAdapter =>
    (tables.attachExpenses reportId expenseIds detach fxAdapter).map .editing
  | .updateReport reportId currency fxAdapter => (tables.updateReport reportId currency fxAdapter).map .editing
  | .submitReport reportId submission => tables.submitReport reportId submission
  | .approveReport reportId signature => tables.approveReport reportId signature
  | .rejectReport reportId => tables.rejectReport reportId

/-- The writes of a submission, an approval or a rejection: the report, and the status of the lines loaded with it. -/
def statusTransaction (report written : ExpenseReport) (children : List Expense) (status : ExpenseStatus) : Transaction :=
  ⟨children.map fun child => ⟨child, { child with status }⟩, [⟨report, written⟩], none, none, []⟩

namespace ReportTables

variable (tables : ReportTables)

def arrive (request : ReportRequest) : ReportTables × Option ReportCall := (tables, (tables.prepare request).toOption)

def advance : ReportCall → ReportTables × Option ReportCall
  | .editing tx => (tables, some (.edited (tx.recomputeTotals tables)))
  | .edited tx => (tables.commit tx, none)
  | .submitting report children submission =>
    (tables, (report.submit (tables.lines report.id) children submission).toOption.map (.submitted report children))
  | .submitted report children written => (tables.commit (statusTransaction report written children .submitted), none)
  | .deciding report children written status => (tables.commit (statusTransaction report written children status), none)

end ReportTables

/-- Reports and lines that nobody has submitted yet. -/
structure NothingSubmitted (tables : ReportTables) : Prop where
  reports : ∀ report ∈ tables.reports, report.status.isLocked = false
  expenses : ∀ expense ∈ tables.expenses, expense.status = .draft
  reportIds : (tables.reports.map (·.id)).Nodup
  expenseIds : (tables.expenses.map (·.id)).Nodup
  fresh : ∀ expense ∈ tables.expenses, expense.id < tables.nextExpense

def reportService : Service ReportTables ReportCall ReportRequest Unit where
  init := NothingSubmitted
  arrive := ReportTables.arrive
  advance tables call _ := tables.advance call

end Payables.ExpenseReports
