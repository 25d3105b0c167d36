import Mathlib.Tactic.Linarith
import Payables.Workflow.Reporting

namespace Payables

/-- `_q`. The default decimal context has 28 digits, and a quantized figure that needs more raises. -/
def quantizeCents (value : ℚ) : Except Raised ℚ :=
  if |quantizeMoney value| < 10 ^ 26 then .ok (quantizeMoney value) else .error (.uncaught "InvalidOperation")

/-- `a - b` on two-place figures below `10 ^ 26`, rounded to the 28 digits of the context. -/
def contextSubtract (a b : ℚ) : ℚ :=
  if |a - b| < 10 ^ 26 then a - b else roundHalfEven ((a - b) * 10) / 10

/-- `SETTLEMENT_AMOUNT_TOLERANCE`. -/
def settlementAmountTolerance : ℚ := 1 / 100

inductive LegName
  | target
  | source
  deriving DecidableEq

structure AuthorizedLeg where
  amount : ℚ
  currency : Option String
  leg : LegName
  deriving DecidableEq

/-- What a payment authorizes: its amount in the currency of the invoice, and the outflow in the home
currency when it has one. -/
structure Authorization where
  targetAmount : ℚ
  targetCurrency : Option String
  sourceAmount : Option ℚ
  sourceCurrency : Option String
  deriving DecidableEq

/-- `_same_currency`: a missing code is a wildcard. -/
def sameCurrency : Option String → Option String → Bool
  | some a, some b => pyUpper (pyStripText a) == pyUpper (pyStripText b)
  | _, _ => true

/-- `usable_reported_amount`. -/
def usableReportedAmount : Decimal → Option ℚ
  | .finite value => (quantizeCents value).toOption
  | .infinite _ => none
  | .nan => none

/-- `build_authorized_legs`. -/
def buildAuthorizedLegs (authorization : Authorization) : Except Raised (List AuthorizedLeg) := do
  let target : AuthorizedLeg := ⟨← quantizeCents authorization.targetAmount, authorization.targetCurrency, .target⟩
  match authorization.sourceAmount with
  | none => return [target]
  | some amount =>
    let source : AuthorizedLeg := ⟨← quantizeCents amount, authorization.sourceCurrency, .source⟩
    if source.amount = target.amount ∧ sameCurrency source.currency target.currency then return [target]
    else return [target, source]

inductive SettlementOutcome
  | matched
  | amountMismatch
  | currencyMismatch
  | unverified
  deriving DecidableEq

inductive SettlementReason
  | reportedNoAmount
  | reportedUnusableAmount
  | currencyNotAuthorized
  | amountDiffers
  deriving DecidableEq

/-- The stored spelling. -/
def SettlementReason.value : SettlementReason → String
  | reportedNoAmount => "provider_reported_no_amount"
  | reportedUnusableAmount => "provider_reported_unusable_amount"
  | currencyNotAuthorized => "settled_currency_not_authorized"
  | amountDiffers => "settled_amount_differs_from_authorization"

/-- `SettlementVerification`. A positive variance means that more moved than was authorized. -/
structure SettlementVerification where
  outcome : SettlementOutcome
  reason : Option SettlementReason
  variance : Option ℚ
  settledAmount : Option Decimal
  settledCurrency : Option String
  authorized : AuthorizedLeg
  deriving DecidableEq

/-- `min(candidates, key=...)`, which keeps the first of two equally close legs. -/
def closestLeg (settled : ℚ) (first : AuthorizedLeg) (rest : List AuthorizedLeg) : AuthorizedLeg :=
  rest.foldl (fun best leg =>
    if |contextSubtract settled leg.amount| < |contextSubtract settled best.amount| then leg else best) first

/-- The legs a reported currency is compatible with. -/
def compatibleLegs (currency : Option String) (legs : List AuthorizedLeg) : List AuthorizedLeg :=
  legs.filter fun leg => sameCurrency currency leg.currency

/-- The comparison of a usable figure. -/
def compareSettlement (settled : ℚ) (currency : Option String) (target : AuthorizedLeg) (legs : List AuthorizedLeg) :
    Except Raised SettlementVerification :=
  match compatibleLegs currency legs with
  | [] => .ok ⟨.currencyMismatch, some .currencyNotAuthorized, none, some (.finite settled), currency, target⟩
  | first :: rest =>
    match (first :: rest).find? fun leg => |contextSubtract settled leg.amount| ≤ settlementAmountTolerance with
    | some leg => do
      let variance ← quantizeCents (contextSubtract settled leg.amount)
      return ⟨.matched, none, some variance, some (.finite settled), currency, leg⟩
    | none => do
      let closest := closestLeg settled first rest
      let variance ← quantizeCents (contextSubtract settled closest.amount)
      return ⟨.amountMismatch, some .amountDiffers, some variance, some (.finite settled), currency, closest⟩

/-- `verify_settlement`. -/
def verifySettlement (reportedAmount : Option Decimal) (reportedCurrency : Option String) (authorization : Authorization) :
    Except Raised SettlementVerification := do
  let legs ← buildAuthorizedLegs authorization
  let target := legs.headD ⟨0, none, .target⟩
  match reportedAmount with
  | none =>
    return ⟨.unverified, some .reportedNoAmount, none, none,
      if reportedCurrency = some "" then none else reportedCurrency, target⟩
  | some reported =>
    match usableReportedAmount reported with
    | none => return ⟨.unverified, some .reportedUnusableAmount, none, some reported, reportedCurrency, target⟩
    | some settled => compareSettlement settled reportedCurrency target legs

/-- `fits_numeric(value, 15, 2)`. -/
def fitsSettledAmount : Decimal → Bool
  | .finite value =>
    match quantizeCents value with
    | .ok rounded => |rounded| < 10 ^ 13
    | .error _ => false
  | .infinite _ => false
  | .nan => false

/-- `persistable_settled_amount`: what to store, and whether there was a figure that cannot be. -/
def persistableSettledAmount : Option Decimal → Option Decimal × Bool
  | none => (none, false)
  | some amount =>
    if usableReportedAmount amount = none then (none, true)
    else if fitsSettledAmount amount then (some amount, false)
    else (none, true)

/-- The settlement columns of a payment. -/
structure SettlementColumns where
  settledAmount : Option ℚ
  settledCurrency : Option String
  settledAmountUnstorable : Bool
  deriving DecidableEq

/-- Nothing has been reported yet. -/
def SettlementColumns.blank : SettlementColumns := ⟨none, none, false⟩

/-- The writes of `record_settlement`. The column is `NUMERIC(15, 2)`, so what is read back later is
rounded to two places. -/
def SettlementColumns.record (columns : SettlementColumns) (verification : SettlementVerification) : SettlementColumns :=
  match persistableSettledAmount verification.settledAmount with
  | (some (.finite storable), _) =>
    { columns with settledAmount := some (quantizeMoney storable), settledCurrency := verification.settledCurrency }
  | (_, true) => { columns with settledAmountUnstorable := true, settledCurrency := verification.settledCurrency }
  | (_, false) => columns

inductive Coverage
  | covered
  | short
  | uncertain
  deriving DecidableEq

inductive CoverageReason
  | noSettledAmount
  | settledShort
  | currencyUnknown
  | settledAmountUnstorable
  deriving DecidableEq

def CoverageReason.value : CoverageReason → String
  | noSettledAmount => "no_settled_amount_on_record"
  | settledShort => "settled_below_every_authorized_leg"
  | currencyUnknown => "settled_currency_matches_no_authorized_leg"
  | settledAmountUnstorable => "settled_amount_exceeded_the_column"

structure SettlementCoverage where
  state : Coverage
  reason : Option CoverageReason
  shortfall : Option ℚ
  deriving DecidableEq

def SettlementCoverage.completesInvoice (coverage : SettlementCoverage) : Bool := coverage.state == .covered

/-- `settlement_coverage`. -/
def settlementCoverage (columns : SettlementColumns) (authorization : Authorization) : Except Raised SettlementCoverage :=
  if columns.settledAmountUnstorable then .ok ⟨.uncertain, some .settledAmountUnstorable, none⟩
  else
    match columns.settledAmount with
    | none => .ok ⟨.covered, some .noSettledAmount, none⟩
    | some amount => do
      let legs ← buildAuthorizedLegs authorization
      match compatibleLegs columns.settledCurrency legs with
      | [] => return ⟨.uncertain, some .currencyUnknown, none⟩
      | first :: rest =>
        let settled ← quantizeCents amount
        if (first :: rest).any fun leg => contextSubtract leg.amount settlementAmountTolerance ≤ settled then
          return ⟨.covered, none, none⟩
        else
          let smallest := rest.foldl (fun least leg => min least leg.amount) first.amount
          let shortfall ← quantizeCents (contextSubtract smallest settled)
          return ⟨.short, some .settledShort, some shortfall⟩

example : verifySettlement (some (.finite 100)) (some "eur ") ⟨50, some "USD", some 100, some "EUR"⟩ =
    .ok ⟨.matched, none, some 0, some (.finite 100), some "eur ", ⟨100, some "EUR", .source⟩⟩ := by decide +kernel

end Payables
