import Payables.Lib.Calendar
import Payables.Lib.Rows
import Payables.Payments.Model
import Payables.Tax.Boxes
import Payables.Workflow.CurrencyRollup

namespace Payables.Tax
open Lib

/-- The columns of a vendor that the report reads. -/
structure Vendor where
  id : String
  organizationId : String
  name : String
  taxId : Option String
  taxClassification : Option String
  is1099Eligible : Bool
  w9ReceivedDate : Option CalendarDate
  w9FileKey : Option String
  tinVerifiedAt : Option Time
  deriving DecidableEq

structure Invoice where
  id : InvoiceId
  vendorId : Option String
  currency : String
  glAccount : Option String
  deriving DecidableEq

/-- The columns of a payment that the report reads; `completedAt` is the UTC day of the timestamp. -/
structure Payment where
  id : PaymentId
  invoiceId : InvoiceId
  amount : ℚ
  method : Option String
  status : PaymentStatus
  completedAt : Option CalendarDate
  sourceAmount : Option ℚ
  sourceCurrency : Option String
  deriving DecidableEq

/-- The tables of a tenant, with their primary keys. -/
structure TaxTables where
  vendors : List Vendor
  invoices : List Invoice
  payments : List Payment
  vendorKeys : (vendors.map (·.id)).Nodup
  invoiceKeys : (invoices.map (·.id)).Nodup
  paymentKeys : (payments.map (·.id)).Nodup

/-- A row of the outer joins. -/
structure JoinedRow where
  vendor : Vendor
  invoice : Option Invoice
  payment : Option Payment

/-- `CARD_PAYMENT_METHODS`. -/
def cardPaymentMethods : List String := ["virtual_card"]

/-- `LOWER`, on the letters of a rail. -/
def sqlLower (text : String) : String := String.ofList (text.toList.map Char.toLower)

/-- `card_payment_method_clause`. -/
def cardPaymentMethodClause (method : Option String) : Sql.Truth :=
  Sql.isIn (some (sqlLower (Sql.btrim (method.getD "")))) (cardPaymentMethods.map some)

namespace JoinedRow

variable (reportingCurrency : String) (row : JoinedRow)

def isCard : Sql.Truth := cardPaymentMethodClause (row.payment.bind (·.method))

/-- `home_leg` of `payment_reporting_amount_sql`. -/
def homeLeg : Sql.Truth :=
  Sql.and (Sql.isNotNull (row.payment.bind (·.sourceAmount)))
    (Sql.eq (some (pyUpper (Sql.btrim ((row.payment.bind (·.sourceCurrency)).getD "")))) (some (sqlTarget reportingCurrency)))

/-- `invoice_leg` of `payment_reporting_amount_sql`. -/
def invoiceLeg : Sql.Truth :=
  Sql.eq (some (pyUpper (Sql.btrim ((row.invoice.map (·.currency)).getD (sqlTarget reportingCurrency)))))
    (some (sqlTarget reportingCurrency))

/-- The `amount` of `payment_reporting_amount_sql`. -/
def reportedAmount : Option ℚ :=
  Sql.caseWhen (row.homeLeg reportingCurrency) (row.payment.bind (·.sourceAmount))
    (Sql.caseWhen (row.invoiceLeg reportingCurrency) (row.payment.map (·.amount)) none)

/-- Its `is_expressible`. -/
def countable : Sql.Truth := Sql.or (row.homeLeg reportingCurrency) (row.invoiceLeg reportingCurrency)

def bankClause : Sql.Truth := Sql.and (Sql.not row.isCard) (row.countable reportingCurrency)

def cardClause : Sql.Truth := Sql.and row.isCard (row.countable reportingCurrency)

/-- The columns of the `GROUP BY`. -/
def key : Vendor × Option String := (row.vendor, row.invoice.bind (·.glAccount))

end JoinedRow

/-- `SUM(CASE WHEN clause THEN amount END)`, coalesced. -/
def sumWhere (clause : JoinedRow → Sql.Truth) (amount : JoinedRow → Option ℚ) (rows : List JoinedRow) : ℚ :=
  (Sql.sum (rows.map fun row => Sql.caseWhen (clause row) (amount row) none)).getD 0

/-- `COUNT(CASE WHEN clause THEN payments.id END)`. -/
def countWhere (clause : JoinedRow → Sql.Truth) (rows : List JoinedRow) : Nat :=
  (rows.filterMap fun row => Sql.caseWhen (clause row) (row.payment.map (·.id)) none).length

/-- A row of the result of the query. -/
structure GroupedRow where
  vendor : Vendor
  glAccount : Option String
  ytdPaid : ℚ
  paymentCount : Nat
  cardPaid : ℚ
  cardPaymentCount : Nat
  unconvertedPaymentCount : Nat

/-- The `ON` of the join with the payments. -/
def paymentClause (year : Nat) (row : Vendor × Option Invoice) (payment : Payment) : Sql.Truth :=
  Sql.all [Sql.eq (some payment.invoiceId) (row.2.map (·.id)), Sql.eq (some payment.status) (some .completed),
    Sql.eq (payment.completedAt.map (·.year)) (some year)]

/-- `Vendor.organization_id == organization_id`. -/
def TaxTables.vendorsOf (tables : TaxTables) (organizationId : String) : List Vendor :=
  Sql.select tables.vendors fun vendor => Sql.eq (some vendor.organizationId) (some organizationId)

def TaxTables.joinedRows (tables : TaxTables) (organizationId : String) (year : Nat) : List JoinedRow :=
  let coded := Sql.leftJoin (tables.vendorsOf organizationId) tables.invoices fun vendor invoice =>
    Sql.eq invoice.vendorId (some vendor.id)
  (Sql.leftJoin coded tables.payments (paymentClause year)).map fun row => ⟨row.1.1, row.1.2, row.2⟩

def groupedRow (reportingCurrency : String) (group : (Vendor × Option String) × List JoinedRow) : GroupedRow where
  vendor := group.1.1
  glAccount := group.1.2
  ytdPaid := sumWhere (·.bankClause reportingCurrency) (·.reportedAmount reportingCurrency) group.2
  paymentCount := countWhere (·.bankClause reportingCurrency) group.2
  cardPaid := sumWhere (·.cardClause reportingCurrency) (·.reportedAmount reportingCurrency) group.2
  cardPaymentCount := countWhere (·.cardClause reportingCurrency) group.2
  unconvertedPaymentCount := countWhere (fun row => Sql.not (row.countable reportingCurrency)) group.2

/-- A value of the dictionary `per_vendor`. -/
structure VendorFold where
  first : GroupedRow
  buckets : List GLSpendBucket
  cardPaid : ℚ
  cardPaymentCount : Nat
  unconvertedPaymentCount : Nat

def GroupedRow.bucket (row : GroupedRow) : GLSpendBucket := ⟨row.glAccount, row.ytdPaid, row.paymentCount⟩

def VendorFold.add (acc : VendorFold) (row : GroupedRow) : VendorFold :=
  { acc with
    buckets := acc.buckets ++ [row.bucket]
    cardPaid := acc.cardPaid + row.cardPaid
    cardPaymentCount := acc.cardPaymentCount + row.cardPaymentCount
    unconvertedPaymentCount := acc.unconvertedPaymentCount + row.unconvertedPaymentCount }

/-- One round of the loop over the result; the vendors stand in the order in which they come first. -/
def foldRow : List VendorFold → GroupedRow → List VendorFold
  | [], row => [VendorFold.add ⟨row, [], 0, 0, 0⟩ row]
  | acc :: rest, row => if acc.first.vendor.id = row.vendor.id then acc.add row :: rest else acc :: foldRow rest row

structure VendorReportRow where
  vendorId : String
  vendorName : String
  taxId : Option String
  taxClassification : Option String
  is1099Eligible : Bool
  w9ReceivedDate : Option CalendarDate
  w9OnFile : Bool
  ytdPaid : ℚ
  overThreshold : Bool
  paymentCount : Nat
  tinVerified : Bool
  cardPaid : ℚ
  cardPaymentCount : Nat
  unconvertedPaymentCount : Nat
  boxAllocations : List BoxAllocation
  unmappedPaid : ℚ
  unmappedPaymentCount : Nat
  deriving DecidableEq

/-- `tax_form_type_from_key`. -/
def taxFormTypeFromKey (fileKey : Option String) : Option String :=
  match fileKey with
  | none => none
  | some "" => none
  | some key =>
    let parts := (key.toList.splitOn '/').map String.ofList
    if 5 ≤ parts.length ∧ parts[1]? = some "tax-forms" ∧ (parts[3]? = some "w9" ∨ parts[3]? = some "w8") then parts[3]?
    else some "w9"

/-- `THRESHOLD_USD`. -/
def thresholdUsd : ℚ := 600

def VendorFold.reportRow (mapping : BoxMapping) (acc : VendorFold) : VendorReportRow :=
  let vendor := acc.first.vendor
  let ytd := (acc.buckets.map (·.amount)).sum
  let allocation := allocateBoxes acc.buckets mapping vendor.id
  { vendorId := vendor.id
    vendorName := vendor.name
    taxId := vendor.taxId
    taxClassification := vendor.taxClassification
    is1099Eligible := vendor.is1099Eligible
    w9ReceivedDate := vendor.w9ReceivedDate
    w9OnFile := taxFormTypeFromKey vendor.w9FileKey == some "w9"
    ytdPaid := ytd
    overThreshold := thresholdUsd ≤ ytd
    paymentCount := (acc.buckets.map (·.paymentCount)).sum
    tinVerified := vendor.tinVerifiedAt.isSome
    cardPaid := acc.cardPaid
    cardPaymentCount := acc.cardPaymentCount
    unconvertedPaymentCount := acc.unconvertedPaymentCount
    boxAllocations := allocation.allocations
    unmappedPaid := allocation.unmappedAmount
    unmappedPaymentCount := allocation.unmappedPaymentCount }

/-- `generated_at`, the day of the call, is left out. -/
structure Report1099 where
  year : Nat
  rows : List VendorReportRow
  currency : String

/-- `build_1099_report`. The database sorts the result by its collation; rows of equal rank may come in any order. -/
def build1099Report (collation : GroupedRow → GroupedRow → Bool) (tables : TaxTables) (organizationId : String) (year : Nat)
    (reportingCurrency : String) (orgSettings : Json) : Report1099 :=
  let result := ((Sql.groupBy JoinedRow.key (tables.joinedRows organizationId year)).map (groupedRow reportingCurrency)).mergeSort
    collation
  let mapping := resolveBoxMapping orgSettings
  { year := year
    rows := (result.foldl foldRow []).map (·.reportRow mapping)
    currency := pyUpper (if reportingCurrency = "" then "USD" else reportingCurrency) }

/-- `box_total_for_form`. -/
def boxTotalForForm (row : VendorReportRow) (formType : FormType) : ℚ :=
  if row.boxAllocations.isEmpty then row.ytdPaid
  else ((row.boxAllocations.filter fun allocation => allocation.box.entry.formType = formType).map (·.amount)).sum

/-- `aggregate_box_allocations`. -/
def aggregateBoxAllocations (rows : List VendorReportRow) : List BoxAllocation :=
  ((rows.flatMap (·.boxAllocations)).foldl (fun totals allocation =>
    totals.add allocation.box allocation.amount allocation.paymentCount allocation.fallback) BoxTotals.empty).allocations

structure ReportSummary where
  year : Nat
  currency : String
  vendorCountTotal : Nat
  vendorCountEligibleOverThreshold : Nat
  vendorCountOverThresholdWithoutW9 : Nat
  totalReportable : ℚ
  totalCardExcluded : ℚ
  unconvertedPaymentCount : Nat
  boxAllocations : List BoxAllocation
  totalUnmapped : ℚ
  unmappedPaymentCount : Nat
  boxUnallocated : ℚ
  boxAllocationReconciled : Bool
  deriving DecidableEq

/-- `Report1099.summary`, with `_box_summary`. -/
def Report1099.summary (report : Report1099) : ReportSummary :=
  let eligibleOver := report.rows.filter fun row => row.is1099Eligible && row.overThreshold
  let totalReportable := (eligibleOver.map (·.ytdPaid)).sum
  let allocations := aggregateBoxAllocations eligibleOver
  let residual := totalReportable - (allocations.map (·.amount)).sum
  { year := report.year
    currency := report.currency
    vendorCountTotal := report.rows.length
    vendorCountEligibleOverThreshold := eligibleOver.length
    vendorCountOverThresholdWithoutW9 := (eligibleOver.filter fun row => !row.w9OnFile).length
    totalReportable := totalReportable
    totalCardExcluded := (report.rows.map (·.cardPaid)).sum
    unconvertedPaymentCount := (report.rows.map (·.unconvertedPaymentCount)).sum
    boxAllocations := allocations
    totalUnmapped := (eligibleOver.map (·.unmappedPaid)).sum
    unmappedPaymentCount := (eligibleOver.map (·.unmappedPaymentCount)).sum
    boxUnallocated := residual
    boxAllocationReconciled := residual == 0 }

end Payables.Tax
