import Payables.Amounts.Decimals
import Payables.Discounts.Offers
import Payables.Payments.MinorUnits

namespace Payables.Discounts
open Lib

/-- An `OfferOpportunity`. -/
structure OfferOpportunity where
  offerId : String
  baseAmount : StoredMoney
  currency : Option String
  discountPercent : ℚ
  payBy : Day
  dueDate : Option Day

/-- A `DiscountROI`, with `none` for what an unknown horizon withholds. -/
structure DiscountROI where
  baseAmount : ℚ
  discountPercent : ℚ
  daysAccelerated : Option Nat
  savings : ℚ
  annualizedReturnPct : Option ℚ
  costOfCapitalPct : ℚ
  opportunityCost : Option ℚ
  netBenefit : Option ℚ
  worthwhile : Option Bool

structure Recommendation where
  opportunity : OfferOpportunity
  roi : DiscountROI
  selected : Bool
  cumulativeOutlay : ℚ
  unconvertible : Bool

structure OptimizationResult where
  costOfCapitalPct : ℚ
  totalSavingsAvailable : ℚ
  totalSavingsSelected : ℚ
  totalOutlaySelected : ℚ
  recommendations : List Recommendation
  unconvertibleCount : Nat
  unrankable : List Recommendation

section Roi

def annualizedReturn (discountPercent : ℚ) (daysAccelerated : Nat) : ℚ :=
  if daysAccelerated = 0 then 0
  else if discountPercent ≤ 0 ∨ 100 ≤ discountPercent then 0
  else
    let perPeriod := contextRound (discountPercent / contextRound (100 - discountPercent))
    let periods := contextRound (365 / daysAccelerated)
    quantizeMoney (contextRound (contextRound (perPeriod * periods) * 100))

/-- `savings` of `compute_roi`. -/
def roiSavings (baseAmount discountPercent : ℚ) : ℚ :=
  quantizeMoney (contextRound (contextRound (baseAmount * discountPercent) / 100))

def opportunityCost (paidNow costOfCapitalPct : ℚ) (days : Nat) : ℚ :=
  let yearly := contextRound (contextRound (paidNow * costOfCapitalPct) / 100)
  quantizeMoney (contextRound (contextRound (yearly * days) / 365))

def computeRoi (baseAmount discountPercent : ℚ) (daysAccelerated : Option Int) (costOfCapitalPct : ℚ) : DiscountROI :=
  let savings := roiSavings baseAmount discountPercent
  match daysAccelerated with
  | none =>
    { baseAmount := quantizeMoney baseAmount
      discountPercent := quantizeMoney discountPercent
      daysAccelerated := none
      savings
      annualizedReturnPct := none
      costOfCapitalPct := quantizeMoney costOfCapitalPct
      opportunityCost := none
      netBenefit := none
      worthwhile := none }
  | some daysAccelerated =>
    let days := daysAccelerated.toNat
    let apr := annualizedReturn discountPercent days
    let opportunityCost := opportunityCost (contextRound (baseAmount - savings)) costOfCapitalPct days
    { baseAmount := quantizeMoney baseAmount
      discountPercent := quantizeMoney discountPercent
      daysAccelerated := some days
      savings
      annualizedReturnPct := some apr
      costOfCapitalPct := quantizeMoney costOfCapitalPct
      opportunityCost := some opportunityCost
      netBenefit := some (quantizeMoney (contextRound (savings - opportunityCost)))
      worthwhile := some (costOfCapitalPct < apr) }

theorem computeRoi_baseAmount (baseAmount discountPercent : ℚ) (daysAccelerated : Option Int) (costOfCapitalPct : ℚ) :
    (computeRoi baseAmount discountPercent daysAccelerated costOfCapitalPct).baseAmount = quantizeMoney baseAmount := by
  cases daysAccelerated <;> rfl

theorem computeRoi_savings (baseAmount discountPercent : ℚ) (daysAccelerated : Option Int) (costOfCapitalPct : ℚ) :
    (computeRoi baseAmount discountPercent daysAccelerated costOfCapitalPct).savings = roiSavings baseAmount discountPercent := by
  cases daysAccelerated <;> rfl

def daysBetween (payDate dueDate : Day) : Int := max 0 (dueDate - payDate)

end Roi

section Optimize

variable (cashBudget : Option ℚ) (costOfCapitalPct : ℚ) (today : Day) (reportingCurrency : Option String)

def targetCurrency : Option String := (reportingCurrency.filter (· ≠ "")).map fun currency => pyUpper (pyStripText currency)

namespace OfferOpportunity

variable (opp : OfferOpportunity)

/-- `_unconvertible`. -/
def unconvertible : Bool :=
  (targetCurrency reportingCurrency).any fun target => pyUpper (pyStripText (opp.currency.getD "")) != target

/-- The return of an opportunity on its own horizon. -/
def roi : DiscountROI :=
  computeRoi opp.baseAmount.value opp.discountPercent (opp.dueDate.map (daysBetween opp.payBy)) costOfCapitalPct

/-- Worthwhile, with its deadline still open. -/
def eligible : Bool := (opp.roi costOfCapitalPct).worthwhile.getD false && today ≤ opp.payBy

def outlay : ℚ := (opp.roi costOfCapitalPct).baseAmount - (opp.roi costOfCapitalPct).savings

/-- The key of the ranking, for an opportunity that has a return. -/
def rank : ℚ ×ₗ ℚ ×ₗ String :=
  toLex (-((opp.roi costOfCapitalPct).annualizedReturnPct.getD 0), toLex (-(opp.roi costOfCapitalPct).savings, opp.offerId))

end OfferOpportunity

/-- What the ranking loop carries from one opportunity to the next. -/
structure Tally where
  totalSavingsAvailable : ℚ
  totalSavingsSelected : ℚ
  cumulativeOutlay : ℚ
  unconvertibleCount : Nat

def Tally.selects (tally : Tally) (opp : OfferOpportunity) : Bool :=
  opp.eligible costOfCapitalPct today &&
    cashBudget.all fun budget =>
      !opp.unconvertible reportingCurrency && tally.cumulativeOutlay + opp.outlay costOfCapitalPct ≤ budget

def Tally.next (tally : Tally) (opp : OfferOpportunity) : Tally :=
  let convertible := !opp.unconvertible reportingCurrency
  let counted := tally.selects cashBudget costOfCapitalPct today reportingCurrency opp && convertible
  let savings := (opp.roi costOfCapitalPct).savings
  { totalSavingsAvailable :=
      tally.totalSavingsAvailable + if convertible && opp.eligible costOfCapitalPct today then savings else 0
    totalSavingsSelected := tally.totalSavingsSelected + if counted then savings else 0
    cumulativeOutlay := tally.cumulativeOutlay + if counted then opp.outlay costOfCapitalPct else 0
    unconvertibleCount := tally.unconvertibleCount + if convertible then 0 else 1 }

/-- The recommendations of the ranking loop. -/
def recommend : Tally → List OfferOpportunity → List Recommendation
  | _, [] => []
  | tally, opp :: rest =>
    let next := tally.next cashBudget costOfCapitalPct today reportingCurrency opp
    { opportunity := opp
      roi := opp.roi costOfCapitalPct
      selected := tally.selects cashBudget costOfCapitalPct today reportingCurrency opp
      cumulativeOutlay := next.cumulativeOutlay
      unconvertible := opp.unconvertible reportingCurrency } :: recommend next rest

/-- An opportunity without a horizon. -/
def withhold (opp : OfferOpportunity) : Recommendation :=
  { opportunity := opp
    roi := opp.roi costOfCapitalPct
    selected := false
    cumulativeOutlay := 0
    unconvertible := opp.unconvertible reportingCurrency }

def ranked (opportunities : List OfferOpportunity) : List OfferOpportunity :=
  (opportunities.filter (·.dueDate.isSome)).insertionSort fun one other => one.rank costOfCapitalPct ≤ other.rank costOfCapitalPct

def optimize (opportunities : List OfferOpportunity) : OptimizationResult :=
  let scored := ranked costOfCapitalPct opportunities
  let final := scored.foldl (Tally.next cashBudget costOfCapitalPct today reportingCurrency) ⟨0, 0, 0, 0⟩
  { costOfCapitalPct
    totalSavingsAvailable := final.totalSavingsAvailable
    totalSavingsSelected := final.totalSavingsSelected
    totalOutlaySelected := final.cumulativeOutlay
    recommendations := recommend cashBudget costOfCapitalPct today reportingCurrency ⟨0, 0, 0, 0⟩ scored
    unconvertibleCount := final.unconvertibleCount
    unrankable := (opportunities.filter fun opp => opp.dueDate.isNone).map (withhold costOfCapitalPct reportingCurrency) }

end Optimize

end Payables.Discounts
