import Mathlib.Data.List.Perm.Basic
import Payables.Lib.Sql
import Payables.Money
import Payables.Workflow.Reporting

namespace Payables
open Lib

/-- The columns of an invoice that a rollup reads. The amounts are `NUMERIC(15, 2)`. -/
structure ReportingRow where
  amount : ℚ
  currency : Option String
  reportingAmount : Option ℚ
  reportingCurrency : Option String
  amount_cents : OnCents amount
  reporting_cents : ∀ value ∈ reportingAmount, OnCents value

structure CurrencyBreakdownEntry where
  currency : String
  originalAmount : ℚ
  reportingAmount : ℚ
  count : Nat
  unconvertedCount : Nat
  deriving DecidableEq

structure ReportingRollup where
  reportingCurrency : String
  totalReportingAmount : ℚ
  totalCount : Nat
  unconvertedCount : Nat
  byCurrency : List CurrencyBreakdownEntry
  deriving DecidableEq

/-- `text or default`. -/
def orDefault (text : Option String) (default : String) : String :=
  match text with
  | some "" => default
  | some text => text
  | none => default

/-- `reporting_amount_for_row`; the second component says that the figure was left unconverted. -/
def reportingAmountForRow (amount : ℚ) (currency : Option String) (reportingCurrency : String)
    (persistedReportingCurrency : Option String) (persistedReportingAmount : Option ℚ) : ℚ × Bool :=
  let tgt := pyUpper reportingCurrency
  let cur := pyUpper (orDefault currency tgt)
  match persistedReportingAmount, persistedReportingCurrency with
  | some persisted, some code =>
    if pyUpper code = tgt then (quantizeMoney persisted, false)
    else if cur = tgt then (quantizeMoney amount, false)
    else (quantizeMoney amount, true)
  | _, _ => if cur = tgt then (quantizeMoney amount, false) else (quantizeMoney amount, true)

/-- The totals of one currency. -/
structure CurrencyBucket where
  originalAmount : ℚ
  reportingAmount : ℚ
  count : Nat
  unconvertedCount : Nat
  deriving DecidableEq

/-- `setdefault` on the dictionary of the buckets, and the additions to the one of `currency`. -/
def addToBucket (currency : String) (amount reported : ℚ) (unconverted : Bool) :
    List (String × CurrencyBucket) → List (String × CurrencyBucket)
  | [] => [(currency, ⟨amount, reported, 1, unconverted.toNat⟩)]
  | (key, bucket) :: rest =>
    if key = currency then
      (key, ⟨bucket.originalAmount + amount, bucket.reportingAmount + reported, bucket.count + 1,
        bucket.unconvertedCount + unconverted.toNat⟩) :: rest
    else (key, bucket) :: addToBucket currency amount reported unconverted rest

/-- The variables of the loop of `rollup_to_reporting_currency`. -/
structure RollupLoop where
  total : ℚ
  unconverted : Nat
  buckets : List (String × CurrencyBucket)

namespace ReportingRow

/-- The bucket of a row. -/
def bucketCurrency (tgt : String) (row : ReportingRow) : String := pyUpper (orDefault row.currency tgt)

def reported (tgt : String) (row : ReportingRow) : ℚ × Bool :=
  reportingAmountForRow row.amount (some (row.bucketCurrency tgt)) tgt row.reportingCurrency row.reportingAmount

end ReportingRow

def RollupLoop.add (tgt : String) (loop : RollupLoop) (row : ReportingRow) : RollupLoop :=
  let reported := row.reported tgt
  ⟨loop.total + reported.1, loop.unconverted + reported.2.toNat,
    addToBucket (row.bucketCurrency tgt) row.amount reported.1 reported.2 loop.buckets⟩

def breakdownEntry (currency : String) (bucket : CurrencyBucket) : CurrencyBreakdownEntry :=
  ⟨currency, quantizeMoney bucket.originalAmount, quantizeMoney bucket.reportingAmount, bucket.count, bucket.unconvertedCount⟩

/-- `rollup_to_reporting_currency`. -/
def rollupToReportingCurrency (rows : List ReportingRow) (reportingCurrency : String) : ReportingRollup :=
  let tgt := pyUpper reportingCurrency
  let loop := rows.foldl (RollupLoop.add tgt) ⟨0, 0, []⟩
  let byCurrency := (loop.buckets.mergeSort fun a b => b.2.reportingAmount ≤ a.2.reportingAmount).map fun bucket =>
    breakdownEntry bucket.1 bucket.2
  ⟨tgt, quantizeMoney loop.total, (byCurrency.map (·.count)).sum, loop.unconverted, byCurrency⟩

/-- The target of `invoice_reporting_amount_sql`. -/
def sqlTarget (reportingCurrency : String) : String :=
  pyUpper (pyStripText (if reportingCurrency = "" then "USD" else reportingCurrency))

namespace ReportingRow

variable (reportingCurrency : String) (row : ReportingRow)

/-- `currency_key`, `UPPER(COALESCE(currency, tgt))`. -/
def currencyKey : String := pyUpper (row.currency.getD (sqlTarget reportingCurrency))

def hasLock : Sql.Truth :=
  Sql.all [Sql.isNotNull row.reportingAmount, Sql.isNotNull row.reportingCurrency,
    Sql.eq (row.reportingCurrency.map pyUpper) (some (sqlTarget reportingCurrency))]

/-- The `amount` that a `GROUP BY` sums, which may be `NULL`. -/
def sqlAmount : Option ℚ := Sql.caseWhen (row.hasLock reportingCurrency) row.reportingAmount (some row.amount)

def sqlUnconverted : Nat :=
  Sql.caseWhen (Sql.and (Sql.not (row.hasLock reportingCurrency))
    (Sql.not (Sql.eq (some (row.currencyKey reportingCurrency)) (some (sqlTarget reportingCurrency))))) 1 0

end ReportingRow

/-- One row of `invoice_currency_rollup_select`. -/
def groupedRow (reportingCurrency : String) (group : String × List ReportingRow) : CurrencyBreakdownEntry where
  currency := group.1
  originalAmount := (Sql.sum (group.2.map fun row => some row.amount)).getD 0
  reportingAmount := (Sql.sum (group.2.map fun row => row.sqlAmount reportingCurrency)).getD 0
  count := group.2.length
  unconvertedCount := (Sql.sum (group.2.map fun row => some (row.sqlUnconverted reportingCurrency))).getD 0

def invoiceCurrencyRollupSelect (rows : List ReportingRow) (reportingCurrency : String) : List CurrencyBreakdownEntry :=
  (Sql.groupBy (·.currencyKey reportingCurrency) rows).map (groupedRow reportingCurrency)

/-- `rollup_from_grouped_rows`. -/
def rollupFromGroupedRows (groups : List CurrencyBreakdownEntry) (reportingCurrency : String) : ReportingRollup :=
  let tgt := pyUpper reportingCurrency
  let byCurrency := (groups.map fun group => (⟨pyUpper (orDefault (some group.currency) tgt),
    quantizeMoney group.originalAmount, quantizeMoney group.reportingAmount, group.count, group.unconvertedCount⟩ :
      CurrencyBreakdownEntry)).mergeSort fun a b => b.reportingAmount ≤ a.reportingAmount
  ⟨tgt, quantizeMoney (byCurrency.map (·.reportingAmount)).sum, (byCurrency.map (·.count)).sum,
    (byCurrency.map (·.unconvertedCount)).sum, byCurrency⟩

end Payables
