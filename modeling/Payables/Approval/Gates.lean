import Payables.Approval.Config
import Payables.Workflow.Reporting

namespace Payables

/-- Digits in groups of three, from the right. -/
def groupThousands (digits : List Char) : List Char :=
  let reversed := digits.reverse.zipIdx.flatMap fun (digit, i) => if i % 3 = 0 ∧ i ≠ 0 then [',', digit] else [digit]
  reversed.reverse

/-- `f"{value:,.2f}"`. -/
def formatMoney (value : ℚ) : String :=
  let cents := (roundHalfEven (|value| * 100)).toNat
  let fraction := (toString (cents % 100)).toList
  String.ofList ((if value < 0 then ['-'] else []) ++ groupThousands (toString (cents / 100)).toList ++
    '.' :: (if fraction.length = 1 then '0' :: fraction else fraction))

/-- `f"{bound:,.2f}"`, of any `Decimal`. -/
def Decimal.format : Decimal → String
  | .finite value => formatMoney value
  | .infinite negative => if negative then "-Infinity" else "Infinity"
  | .nan => "NaN"

/-- `finite_money_threshold`. -/
def finiteMoneyThreshold (raw : RawMoney) : Option ℚ :=
  match toDecimal raw with
  | some (.finite value) => some value
  | _ => none

/-- `_money_gate_applies`, the shared body of `cfo_gate_applies` and `max_amount_gate_applies`. -/
def moneyGateApplies (thresholdRaw : RawMoney) (gate : GateAmount) : Bool :=
  if thresholdRaw = .unset then false
  else
    match finiteMoneyThreshold thresholdRaw with
    | none => true
    | some threshold => !gate.expressible || threshold < gate.amount

def cfoGateApplies : RawMoney → GateAmount → Bool := moneyGateApplies

def maxAmountGateApplies : RawMoney → GateAmount → Bool := moneyGateApplies

/-- Who acts, with what corrections, and what else a call of `approve_invoice` reads from outside the
invoice: the active delegates of users, the recent spend with a vendor in a currency, the FX provider,
and whether `refresh_warnings` gets as far as the rate. -/
structure ApproveRequest where
  actorId : UserId
  actorName : String
  actorRoles : List String
  corrections : List FieldEdit
  delegateOf : UserId → Option UserId
  vendorRecentSpend : VendorId → String → ℚ
  rates : FxRates
  refreshes : Bool

/-- `violates_segregation`. -/
def violatesSegregation (uploadedById : Option UserId) (segregationActorIds : List UserId) (actorId : UserId)
    (config : ApprovalConfig) : Bool :=
  config.requireSegregation != some false && (uploadedById == some actorId || segregationActorIds.contains actorId)

def checkSegregation (uploadedById : Option UserId) (segregationActorIds : List UserId) (actorId : UserId)
    (config : ApprovalConfig) : Except Raised Unit :=
  if violatesSegregation uploadedById segregationActorIds actorId config then
    .error (.http 403 "Segregation of duties: a user involved in creating this invoice cannot also approve it.")
  else .ok ()

/-- `check_level_approver`. -/
def checkLevelApprover (delegateOf : UserId → Option UserId) (approverIds : List UserId) (actorId : UserId) :
    Except Raised Unit :=
  if approverIds = [] ∨ actorId ∈ approverIds ∨ actorId ∈ approverIds.filterMap delegateOf then .ok ()
  else .error (.http 403 "You are not an authorized approver for this step.")

/-- The gate of the `specific` strategy. -/
def checkNamedApprover (request : ApproveRequest) (config : ApprovalConfig) : Except Raised Unit :=
  if config.approverStrategy = some .specific then
    let specificIds :=
      if config.approverIds ≠ [] then config.approverIds else (config.approverId.filter (· != "")).toList
    checkLevelApprover request.delegateOf specificIds request.actorId
  else .ok ()

/-- The vendor's other recent invoices, where the structuring guard counts them. -/
def recentSpend (settings : OrgSettings) (request : ApproveRequest) (fields : InvoiceFields) : ℚ :=
  match fields.vendorId with
  | some vendorId =>
    if settings.structuringEnabled then
      request.vendorRecentSpend vendorId (if fields.currency = "" then "USD" else fields.currency)
    else 0
  | none => 0

section
variable (settings : OrgSettings) (request : ApproveRequest) (fields : InvoiceFields) (lock : ReportingLock)

def invoiceCurrencyText : String :=
  let currency := pyUpper (pyStripText fields.currency)
  if currency = "" then "USD" else currency

/-- `_structuring_note`, which compares the amount again. -/
def structuringNote (threshold : Decimal) : Except Raised String := do
  let spend := recentSpend settings request fields
  if spend ≤ 0 then
    return ""
  if ← threshold.exceededBy fields.amount then
    return ""
  return s!" This invoice alone is under the threshold, but combined with {formatMoney spend} {invoiceCurrencyText fields} in " ++
    s!"other recent invoices from this vendor (last {settings.structuringWindowDays} days) it totals " ++
    s!"{formatMoney (fields.amount + spend)} {invoiceCurrencyText fields}."

/-- `_compared_note`. -/
def comparedNote : String :=
  let aggregate := fields.amount + recentSpend settings request fields
  let gate := reportingGateAmount settings fields lock aggregate
  if !gate.expressible then
    s!" This invoice could not be expressed in {gate.currency}, the currency the limit is set in, so it cannot be " ++
    "cleared against it."
  else if gate.amount = aggregate ∧ invoiceCurrencyText fields = gate.currency then ""
  else s!" Measured as {formatMoney gate.amount} {gate.currency} — the limit is set in {gate.currency}."

/-- The refusal of the `max_invoice_amount` gate. -/
def maxAmountRefusal (config : ApprovalConfig) (gate : GateAmount) : Except Raised Raised := do
  match finiteMoneyThreshold config.maxInvoiceAmount with
  | none => return .http 422 ("This workflow's approval step has an unusable \x27max_invoice_amount\x27. " ++
      "Approval is blocked until an admin corrects the workflow definition.")
  | some maxAmount =>
    let note ← structuringNote settings request fields (.finite maxAmount)
    return .http 422 (s!"Invoice amount {formatMoney fields.amount} {invoiceCurrencyText fields} exceeds maximum allowed " ++
      s!"{formatMoney maxAmount} {gate.currency}." ++ note ++ comparedNote settings request fields lock)

/-- The refusal of the `require_cfo_above` gate. A bound that is no number is still formatted, and a
`NaN` makes its note raise. -/
def cfoRefusal (config : ApprovalConfig) (gate : GateAmount) : Except Raised Raised := do
  let (limit, note) ← match toDecimal config.requireCfoAbove with
    | some threshold => do
      let note ← structuringNote settings request fields threshold
      pure (s!"{threshold.format} {gate.currency}", note)
    | none => pure ("the configured limit", "")
  return .http 403 (s!"Invoice amount {formatMoney fields.amount} {invoiceCurrencyText fields} exceeds {limit}. " ++
    "CFO approval required." ++ note ++ comparedNote settings request fields lock)

/-- `_enforce_approval_thresholds`. -/
def enforceApprovalThresholds (config : ApprovalConfig) : Except Raised Unit :=
  let gate := reportingGateAmount settings fields lock (fields.amount + recentSpend settings request fields)
  if maxAmountGateApplies config.maxInvoiceAmount gate then maxAmountRefusal settings request fields lock config gate >>= throw
  else if cfoGateApplies config.requireCfoAbove gate && !request.actorRoles.contains "cfo" then
    cfoRefusal settings request fields lock config gate >>= throw
  else .ok ()

end

end Payables
