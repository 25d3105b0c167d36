import Mathlib
import Payables.Workflow.Reporting
import Payables.Lib.Numerals
import Payables.Lib.Ordinals

namespace Payables.Cash

open Lib

inductive Granularity
  | day
  | week
  | month
  deriving DecidableEq

inductive TimingScenario
  | early
  | onTime
  | late
  deriving DecidableEq

/-- A commitment row, one for each open invoice. -/
structure CommitmentRow where
  dueDate : Option CalendarDate
  amount : ℚ
  committed : Bool
  discountDate : Option CalendarDate
  discountPercent : Option ℚ
  unconverted : Bool
  deriving DecidableEq

structure PeriodBounds where
  period : String
  periodStart : CalendarDate
  periodEnd : CalendarDate
  deriving DecidableEq

/-- A computed day outside the calendar raises. -/
def inCalendar : Option CalendarDate → Except Raised CalendarDate
  | some date => .ok date
  | none => .error (.uncaught "OverflowError")

/-- `date + timedelta(days=...)`. -/
def addDays (date : CalendarDate) (days : ℤ) : Except Raised CalendarDate := inCalendar (date.plusDays? days)

/-- `start.replace(...)` with the next month, for the first day of a month. -/
def nextMonth (start : CalendarDate) : Except Raised CalendarDate :=
  match if start.month = 12 then CalendarDate.of? (start.year + 1) 1 start.day
    else CalendarDate.of? start.year (start.month + 1) start.day with
  | some next => .ok next
  | none => .error (.uncaught "ValueError")

/-- `_period_bounds`. -/
def periodBounds (date : CalendarDate) : Granularity → Except Raised PeriodBounds
  | .day => .ok ⟨String.ofList (isoDate date), date, date⟩
  | .week => do
    let monday ← addDays date (-date.weekday)
    let sunday ← addDays monday 6
    return ⟨String.ofList (isoDate monday), monday, sunday⟩
  | .month => do
    let next ← nextMonth date.monthStart
    let last ← addDays next (-1)
    return ⟨String.ofList (padded 4 date.year ++ '-' :: padded 2 date.month), date.monthStart, last⟩

/-- `discount_window_open`. -/
def discountWindowOpen (discountDate : Option CalendarDate) (today : CalendarDate) : Bool :=
  discountDate.any fun date => decide (today ≤ date)

/-- `_discount_net`: what paying on the discount date costs, and the discount captured. -/
def discountNet (amount : ℚ) (discountPercent : Option ℚ) : ℚ × ℚ :=
  if discountPercent.getD 0 ≤ 0 then (amount, 0)
  else (amount - amount * discountPercent.getD 0 / 100, amount * discountPercent.getD 0 / 100)

structure PeriodBucket where
  period : String
  periodStart : CalendarDate
  periodEnd : CalendarDate
  scheduledAmount : ℚ
  committedAmount : ℚ
  pendingAmount : ℚ
  discountEligibleAmount : ℚ
  count : Nat
  unconvertedCount : Nat
  deriving DecidableEq

namespace PeriodBucket

def new (bounds : PeriodBounds) : PeriodBucket :=
  ⟨bounds.period, bounds.periodStart, bounds.periodEnd, 0, 0, 0, 0, 0, 0⟩

def add (today : CalendarDate) (row : CommitmentRow) (b : PeriodBucket) : PeriodBucket where
  period := b.period
  periodStart := b.periodStart
  periodEnd := b.periodEnd
  scheduledAmount := b.scheduledAmount + row.amount
  committedAmount := if row.committed then b.committedAmount + row.amount else b.committedAmount
  pendingAmount := if row.committed then b.pendingAmount else b.pendingAmount + row.amount
  discountEligibleAmount :=
    if discountWindowOpen row.discountDate today ∧ 0 < row.discountPercent.getD 0 then b.discountEligibleAmount + row.amount
    else b.discountEligibleAmount
  count := b.count + 1
  unconvertedCount := if row.unconverted then b.unconvertedCount + 1 else b.unconvertedCount

/-- The bucket as it is returned, with its amounts in cents. -/
def inCents (b : PeriodBucket) : PeriodBucket :=
  { b with
    scheduledAmount := quantizeMoney b.scheduledAmount
    committedAmount := quantizeMoney b.committedAmount
    pendingAmount := quantizeMoney b.pendingAmount
    discountEligibleAmount := quantizeMoney b.discountEligibleAmount }

end PeriodBucket

/-- `buckets.setdefault(key, ...)` and the additions to what it returns. -/
def addToBucket (bounds : PeriodBounds) (change : PeriodBucket → PeriodBucket) : List PeriodBucket → List PeriodBucket
  | [] => [change (.new bounds)]
  | b :: rest => if b.period = bounds.period then change b :: rest else b :: addToBucket bounds change rest

/-- The loop of `bucket_outflows`. A row without a due date is dropped. -/
def bucketRows (granularity : Granularity) (today : CalendarDate) :
    List CommitmentRow → List PeriodBucket → Except Raised (List PeriodBucket)
  | [], buckets => .ok buckets
  | row :: rest, buckets =>
    match row.dueDate with
    | none => bucketRows granularity today rest buckets
    | some due => do
      let bounds ← periodBounds due granularity
      bucketRows granularity today rest (addToBucket bounds (.add today row) buckets)

/-- `sorted(buckets)`. -/
def sortedBuckets (buckets : List PeriodBucket) : List PeriodBucket :=
  buckets.insertionSort fun one other => one.period ≤ other.period

/-- `bucket_outflows`. -/
def bucketOutflows (rows : List CommitmentRow) (granularity : Granularity) (today : CalendarDate) :
    Except Raised (List PeriodBucket) := do
  let buckets ← bucketRows granularity today rows []
  return (sortedBuckets buckets).map PeriodBucket.inCents

/-- When a row is paid, for how much, and with which discount. -/
structure Payment where
  payDate : CalendarDate
  net : ℚ
  captured : ℚ

/-- The payment of a row that is due, under a scenario. -/
def payment (scenario : TimingScenario) (graceDays : ℤ) (today : CalendarDate) (row : CommitmentRow) (due : CalendarDate) :
    Except Raised Payment :=
  match scenario, row.discountDate with
  | .early, some discountDate =>
    if discountWindowOpen (some discountDate) today then
      .ok ⟨discountDate, (discountNet row.amount row.discountPercent).1, (discountNet row.amount row.discountPercent).2⟩
    else .ok ⟨due, row.amount, 0⟩
  | .late, _ => do
    let payDate ← addDays due graceDays
    return ⟨payDate, row.amount, 0⟩
  | _, _ => .ok ⟨due, row.amount, 0⟩

structure ScenarioTotals where
  outflow : ℚ
  discount : ℚ
  weightedDays : ℚ
  weightTotal : ℚ
  timedRows : List CommitmentRow

namespace ScenarioTotals

def start : ScenarioTotals := ⟨0, 0, 0, 0, []⟩

def add (today : CalendarDate) (row : CommitmentRow) (paid : Payment) (totals : ScenarioTotals) : ScenarioTotals where
  outflow := totals.outflow + paid.net
  discount := totals.discount + paid.captured
  weightedDays := totals.weightedDays + ((paid.payDate.ordinal : ℤ) - today.ordinal : ℤ) * paid.net
  weightTotal := totals.weightTotal + paid.net
  timedRows := totals.timedRows ++ [⟨some paid.payDate, paid.net, row.committed, none, none, row.unconverted⟩]

end ScenarioTotals

/-- The loop of `apply_payment_timing_scenario`. -/
def scenarioRows (scenario : TimingScenario) (graceDays : ℤ) (today : CalendarDate) :
    List CommitmentRow → ScenarioTotals → Except Raised ScenarioTotals
  | [], totals => .ok totals
  | row :: rest, totals =>
    match row.dueDate with
    | none => scenarioRows scenario graceDays today rest totals
    | some due => do
      let paid ← payment scenario graceDays today row due
      scenarioRows scenario graceDays today rest (totals.add today row paid)

structure ScenarioForecast where
  scenario : TimingScenario
  totalOutflow : ℚ
  totalDiscountCaptured : ℚ
  weightedAvgPayDateDays : ℚ
  periods : List PeriodBucket
  unconvertedCount : Nat

/-- `.quantize(Decimal("0.1"))`, which rounds halves to even. -/
def tenths (value : ℚ) : ℚ := (roundHalfEven (value * 10) : ℤ) / 10

/-- `apply_payment_timing_scenario`. -/
def applyPaymentTimingScenario (rows : List CommitmentRow) (scenario : TimingScenario) (granularity : Granularity)
    (graceDays : ℤ) (today : CalendarDate) : Except Raised ScenarioForecast := do
  let totals ← scenarioRows scenario graceDays today rows .start
  let periods ← bucketOutflows totals.timedRows granularity today
  return {
    scenario
    totalOutflow := quantizeMoney totals.outflow
    totalDiscountCaptured := quantizeMoney totals.discount
    weightedAvgPayDateDays := if 0 < totals.weightTotal then tenths (totals.weightedDays / totals.weightTotal) else 0
    periods
    unconvertedCount := (periods.map (·.unconvertedCount)).sum }

/-- The expected inflows, by period. -/
structure InflowMap where
  entries : List (String × ℚ)
  keysDistinct : (entries.map Prod.fst).Nodup

/-- `inflow_periods.get(period, "0")`. -/
def InflowMap.get (inflows : InflowMap) (period : String) : ℚ :=
  ((inflows.entries.find? fun entry => entry.1 = period).map Prod.snd).getD 0

structure PositionRow where
  period : String
  periodStart : CalendarDate
  periodEnd : CalendarDate
  opening : ℚ
  outflow : ℚ
  inflow : ℚ
  closing : ℚ
  belowThreshold : Bool
  unconvertedCount : Nat
  deriving DecidableEq

/-- `compute_cash_position`. The balance carried forward is not rounded, the one reported is. -/
def computeCashPosition (opening : ℚ) (outflowPeriods : List PeriodBucket) (inflows : InflowMap)
    (minBalanceThreshold : Option ℚ) : List PositionRow :=
  match outflowPeriods with
  | [] => []
  | p :: rest =>
    let closing := opening - p.scheduledAmount + inflows.get p.period
    { period := p.period
      periodStart := p.periodStart
      periodEnd := p.periodEnd
      opening := quantizeMoney opening
      outflow := quantizeMoney p.scheduledAmount
      inflow := quantizeMoney (inflows.get p.period)
      closing := quantizeMoney closing
      belowThreshold := minBalanceThreshold.any fun threshold => decide (closing < threshold)
      unconvertedCount := p.unconvertedCount } :: computeCashPosition closing rest inflows minBalanceThreshold

structure ThresholdBreach where
  period : String
  periodStart : CalendarDate
  periodEnd : CalendarDate
  closing : ℚ
  shortfall : ℚ
  deriving DecidableEq

/-- `detect_threshold_breaches`. -/
def detectThresholdBreaches (positionRows : List PositionRow) (minBalanceThreshold : ℚ) : List ThresholdBreach :=
  (positionRows.filter fun row => row.closing < minBalanceThreshold).map fun row =>
    { period := row.period
      periodStart := row.periodStart
      periodEnd := row.periodEnd
      closing := quantizeMoney row.closing
      shortfall := quantizeMoney (minBalanceThreshold - row.closing) }

end Payables.Cash
