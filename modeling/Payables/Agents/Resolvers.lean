import Payables.Agents.Orders
import Payables.Payments.Model

namespace Payables

/-- `Invoice.po_match`: the answer of a match, or the set of orders that a split was linked to. -/
inductive PoMatch
  | single (result : MatchResult)
  | split (poIds : List OrderId) (poNumbers : List String) (combinedPoTotal invoiceAmount : ℚ)
  deriving DecidableEq

/-- An invoice with the columns that the agents read beside those of a review. -/
structure AgentInvoice where
  id : InvoiceId
  entityId : Option EntityId
  invoiceNumber : Option String
  invoiceDate : Option Day
  poNumber : Option String
  poMatch : Option PoMatch
  row : Invoice
  deriving DecidableEq

/-- The settings of an organisation that the agents read, beside those of a review. A value that `int` does
not take is `none`, as an absent one. -/
structure AgentTenant where
  tenant : Tenant
  autonomyLevel : Option String
  amountTolerancePct : RawMoney
  poMatchWindowDays : Option Int
  autofillMinConfidence : RawMoney
  autofillMinSample : Option Int
  requireExceptionSegregation : Option Bool
  matching : MatchingSettings
  deriving DecidableEq

/-- The user who starts a run, and what else its approval hears from outside. `rematches` and `refreshes` say
whether `refresh_warnings` gets as far as the order and as far as the rate. -/
structure AgentCaller where
  actorId : UserId
  actorRoles : List String
  delegateOf : UserId → Option UserId
  vendorRecentSpend : VendorId → String → ℚ
  rates : FxRates
  rematches : Bool
  refreshes : Bool

/-- How an accepted invoice of a vendor was coded. -/
structure VendorCoding where
  glAccount : Option String
  costCenter : Option String
  paymentTerms : Option String
  deriving DecidableEq

/-- The tables as a resolver reads them. `matchVendor` is the vendor that `match_vendor` finds for an invoice
with a confidence of at least 0.8; `history` holds the other accepted invoices of a vendor, newest first. -/
structure AgentView where
  book : OrderBook
  matchVendor : AgentInvoice → Option VendorId
  history : VendorId → List VendorCoding

/-- What a resolver means to do, and has stashed for its `apply`. -/
inductive ResolutionPlan
  | adjustAmount (newAmount : ℚ)
  | linkOrder (candidatePoId : OrderId)
  | linkOrders (subsetPoIds : List OrderId) (tolerancePct : ℚ)
  | codeGl (glValue : String) (ccValue : Option String) (minConf : Decimal) (minSample : Int)
  deriving DecidableEq

/-- `AgentEvaluation`: a recommendation to escalate has the confidence 0. -/
inductive AgentEvaluation
  | escalate
  | autoResolve (plan : ResolutionPlan) (confidence : ℚ)
  deriving DecidableEq

def AgentEvaluation.confidence : AgentEvaluation → ℚ
  | escalate => 0
  | autoResolve _ confidence => confidence

/-- What an `apply` raises: `NotApprovable`, or an exception from below. -/
inductive ApplyError
  | notApprovable (status : InvoiceStatus)
  | raised (raised : Raised)
  deriving DecidableEq

namespace AgentTenant

variable (settings : AgentTenant)

def amountTolerance : Decimal := (toDecimal settings.amountTolerancePct).getD (.finite (5 / 2))

/-- `_resolve_window_days`. -/
def windowDays : Int := (settings.poMatchWindowDays.filter (0 < ·)).getD 90

/-- `_autofill_thresholds`. -/
def autofillThresholds : Decimal × Int :=
  ((toDecimal settings.autofillMinConfidence).getD (.finite 60), (settings.autofillMinSample.filter (1 ≤ ·)).getD 3)

end AgentTenant

namespace AgentInvoice

variable (invoice : AgentInvoice)

def matchKey : MatchKey := ⟨invoice.poNumber, invoice.row.fields.vendorId, invoice.entityId, invoice.row.fields.amount⟩

/-- The amount in cents. -/
def quantizedAmount : ℚ := quantizeHalfEven invoice.row.fields.amount

/-- The match of a resolver, which passes no rule. -/
def liveMatch (book : OrderBook) : MatchResult := book.matchInvoiceToPo invoice.matchKey 5 false

def matchRule (settings : AgentTenant) : EffectiveMatchRule :=
  resolveMatchRule settings.matching invoice.row.fields.vendorId invoice.row.fields.glAccount

/-- The match of `refresh_warnings`. -/
def refreshedMatch (settings : AgentTenant) (book : OrderBook) : Option PoMatch :=
  if invoice.poNumber.any (· != "") ∧ invoice.row.status ≠ .new then
    let rule := invoice.matchRule settings
    some (.single (book.matchInvoiceToPo invoice.matchKey rule.tolerancePct rule.requireInspection))
  else none

/-- `_approval_thresholds`: the frozen snapshot, without the active definition. -/
def approvalThresholds : ApprovalConfig :=
  ((invoice.row.workflow.bind (·.stepsConfigSnapshot)).map StepsConfig.approvalConfig).getD .empty

/-- Either of the money gates applies to the amount. -/
def moneyGateApplies (settings : AgentTenant) (amount : ℚ) : Bool :=
  let config := invoice.approvalThresholds
  let gate := reportingGateAmount settings.tenant.settings invoice.row.fields invoice.row.lock amount
  maxAmountGateApplies config.maxInvoiceAmount gate || cfoGateApplies config.requireCfoAbove gate

end AgentInvoice

namespace AgentView

variable (view : AgentView) (settings : AgentTenant) (invoice : AgentInvoice)

/-- The vendor of the candidates: the linked one, else a confident match of the name. -/
def candidateVendor : Option VendorId :=
  match invoice.row.fields.vendorId with
  | some id => some id
  | none => if pyStripText invoice.row.fields.vendorName = "" then none else view.matchVendor invoice

def openOrders : List PurchaseOrder :=
  match view.candidateVendor invoice with
  | none => []
  | some id => view.book.orders.filter fun order => order.vendorId == some id && order.status == "open"

/-- `_candidate_pos` of the missing-PO resolver. -/
def missingPoCandidates : List PurchaseOrder :=
  (view.openOrders invoice).filter fun order =>
    withinOrderBand (quantizeHalfEven order.total) invoice.quantizedAmount (invoice.matchRule settings).tolerancePct &&
      withinDateWindow order.createdAt.day invoice.invoiceDate settings.windowDays

/-- `_candidate_pos` of the split resolver. -/
def splitCandidates : List PurchaseOrder :=
  (view.openOrders invoice).filter fun order =>
    decide (0 < quantizeHalfEven order.total) && withinDateWindow order.createdAt.day invoice.invoiceDate settings.windowDays

/-- `AmountMismatchResolver.evaluate`. -/
def amountMismatchEvaluate : Except Raised AgentEvaluation :=
  let live := invoice.liveMatch view.book
  match live.poTotal.filter fun _ => live.status = .matched with
  | none => .ok .escalate
  | some raw =>
    let poTotal := quantizeHalfEven raw
    let variancePct := quantizeHalfEven (|invoice.quantizedAmount - poTotal| / poTotal * 100)
    if poTotal ≤ 0 then .ok .escalate
    else
      match settings.amountTolerance.exceededBy variancePct with
      | .error raised => .error raised
      | .ok true => .ok .escalate
      | .ok false =>
        if invoice.quantizedAmount = poTotal then .ok .escalate
        else if invoice.moneyGateApplies settings poTotal then .ok .escalate
        else .ok (.autoResolve (.adjustAmount poTotal) (95 / 100))

/-- `MissingPOResolver.evaluate`. -/
def missingPoEvaluate : AgentEvaluation :=
  if (invoice.liveMatch view.book).status ≠ .noPo then .escalate
  else if invoice.row.fields.amount ≤ 0 then .escalate
  else
    match view.missingPoCandidates settings invoice with
    | [order] => .autoResolve (.linkOrder order.id) (if invoice.invoiceDate.isSome then 92 / 100 else 80 / 100)
    | _ => .escalate

/-- `MultiPOSplitResolver.evaluate`. -/
def multiPoSplitEvaluate : AgentEvaluation :=
  let tolerancePct := (invoice.matchRule settings).tolerancePct
  let pool := view.splitCandidates settings invoice
  if (invoice.liveMatch view.book).status ≠ .noPo then .escalate
  else if invoice.row.fields.amount ≤ 0 then .escalate
  -- one order that covers the whole amount is left to the missing-PO resolver
  else if pool.any fun order => withinInvoiceBand (quantizeHalfEven order.total) invoice.quantizedAmount tolerancePct then .escalate
  else
    match findPoSubset pool invoice.quantizedAmount tolerancePct with
    | .found (some subset) =>
      .autoResolve (.linkOrders (subset.map (·.id)) tolerancePct) (if invoice.invoiceDate.isSome then 90 / 100 else 80 / 100)
    | .found none => .escalate
    | .tooLarge _ => .escalate

end AgentView

/-- `AUTOFILL_FIELDS`. -/
inductive AutofillField
  | glAccount
  | costCenter
  | paymentTerms
  deriving DecidableEq

def VendorCoding.value (coding : VendorCoding) : AutofillField → Option String
  | .glAccount => coding.glAccount
  | .costCenter => coding.costCenter
  | .paymentTerms => coding.paymentTerms

structure FieldSuggestion where
  field : AutofillField
  value : String
  confidence : ℚ
  sampleSize : Nat
  deriving DecidableEq

/-- `_q1`, of a percentage. -/
def quantizeTenth (value : ℚ) : ℚ := (⌊value * 10 + 1 / 2⌋ : ℤ) / 10

/-- The first entry of `Counter(values).most_common()`, which keeps the order of the values on a tie. -/
def mostCommon (values : List String) : Option String :=
  values.find? fun value => values.all fun other => values.count other ≤ values.count value

/-- One turn of the loop of `suggest_fields`, for a draft with nothing filled in. -/
def suggestField (historyRows : List VendorCoding) (minConfidence : Decimal) (minSample : Int) (field : AutofillField) :
    Except Raised (Option FieldSuggestion) :=
  let values := (historyRows.filterMap (·.value field)).map pyStripText |>.filter (· != "")
  match (mostCommon values).filter fun _ => minSample ≤ values.length with
  | none => .ok none
  | some value =>
    let confidence := quantizeTenth (values.count value / values.length * 100)
    match minConfidence.exceeds confidence with
    | .error raised => .error raised
    | .ok true => .ok none
    | .ok false => .ok (some ⟨field, value, confidence, values.length⟩)

/-- `suggest_fields`. -/
def suggestFields (historyRows : List VendorCoding) (minConfidence : Decimal) (minSample : Int) :
    Except Raised (List FieldSuggestion) := do
  let suggested ← [AutofillField.glAccount, .costCenter, .paymentTerms].mapM
    (suggestField historyRows minConfidence minSample)
  return suggested.filterMap id

def dominant (field : AutofillField) (suggestions : List FieldSuggestion) : Option FieldSuggestion :=
  suggestions.find? (·.field == field)

/-- `_confidence_for`. -/
def confidenceFor (suggestion : FieldSuggestion) : ℚ :=
  if 80 ≤ suggestion.confidence ∧ 5 ≤ suggestion.sampleSize then 92 / 100 else 80 / 100

/-- `(text or "").strip()`. -/
def strippedOrEmpty (text : Option String) : String := pyStripText (text.getD "")

/-- `_other_required_fields_present`. -/
def AgentInvoice.otherRequiredFieldsPresent (invoice : AgentInvoice) : Bool :=
  pyStripText invoice.row.fields.vendorName != "" && strippedOrEmpty invoice.invoiceNumber != "" &&
    decide (0 < invoice.row.fields.amount)

namespace AgentView

variable (view : AgentView) (settings : AgentTenant) (caller : AgentCaller)

/-- `GLCodingResolver.evaluate`. -/
def glCodingEvaluate (invoice : AgentInvoice) : Except Raised AgentEvaluation :=
  let (minConf, minSample) := settings.autofillThresholds
  match invoice.row.fields.vendorId.filter fun _ => invoice.otherRequiredFieldsPresent with
  | none => .ok .escalate
  | some vendorId =>
    match suggestFields (view.history vendorId) minConf minSample with
    | .error raised => .error raised
    | .ok suggestions =>
      match dominant .glAccount suggestions with
      | none => .ok .escalate
      | some gl =>
        let currentGl := strippedOrEmpty invoice.row.fields.glAccount
        let costCenter := if strippedOrEmpty invoice.row.fields.costCenter = "" then dominant .costCenter suggestions else none
        if currentGl ≠ "" ∧ currentGl = gl.value then .ok .escalate
        else .ok (.autoResolve (.codeGl gl.value (costCenter.map (·.value)) minConf minSample) (confidenceFor gl))

/-- What a resolver leaves in memory before it calls `approve_invoice`, and the corrections it passes on. -/
abbrev PrepareOutcome := Except ApplyError (List FieldEdit) × AgentInvoice

def refused (locked : AgentInvoice) : PrepareOutcome := (.error (.notApprovable locked.row.status), locked)

/-- `AmountMismatchResolver.apply`, up to the approval. -/
def amountMismatchPrepare (newAmount : ℚ) (locked : AgentInvoice) : PrepareOutcome :=
  if locked.row.status ≠ .readyForReview then refused locked
  else
    let recheck := locked.liveMatch view.book
    match recheck.poTotal.filter fun _ => recheck.status = .matched with
    | none => refused locked
    | some live => if quantizeHalfEven live ≠ newAmount then refused locked else (.ok [.amount newAmount], locked)

/-- The link of an invoice to an order. -/
def linked (locked : AgentInvoice) (poNumber : String) (vendorId : Option VendorId) (poMatch : Option PoMatch) : AgentInvoice :=
  { locked with
    poNumber := some poNumber
    poMatch := poMatch
    row := { locked.row with fields := { locked.row.fields with vendorId := locked.row.fields.vendorId.or vendorId } } }

/-- `refresh_warnings`, which nothing catches here. -/
def refreshWarnings (invoice : AgentInvoice) : Except ApplyError Unit × AgentInvoice :=
  let rematched := { invoice with poMatch := if caller.rematches then invoice.refreshedMatch settings view.book else invoice.poMatch }
  if caller.refreshes then (.ok (), { rematched with row := rematched.row.refresh settings.tenant caller.rates })
  else (.error (.raised (.uncaught "refresh_warnings")), rematched)

/-- `MissingPOResolver.apply`, up to the approval. -/
def missingPoPrepare (candidatePoId : OrderId) (locked : AgentInvoice) : PrepareOutcome :=
  if locked.row.status ≠ .readyForReview then refused locked
  else if (locked.liveMatch view.book).status ≠ .noPo then refused locked
  else
    match (view.book.orderById candidatePoId).filter (·.status == "open") with
    | none => refused locked
    | some order =>
      if locked.moneyGateApplies settings locked.quantizedAmount then refused locked
      else
        match view.refreshWarnings settings caller (linked locked order.poNumber order.vendorId locked.poMatch) with
        | (.error raised, refreshed) => (.error raised, refreshed)
        | (.ok (), refreshed) =>
          if (refreshed.liveMatch view.book).status ≠ .matched then refused refreshed else (.ok [], refreshed)

/-- `MultiPOSplitResolver.apply`, up to the approval. -/
def multiPoSplitPrepare (subsetPoIds : List OrderId) (tolerancePct : ℚ) (locked : AgentInvoice) : PrepareOutcome :=
  let rows := view.book.ordersByIds subsetPoIds
  let combined := combinedTotal rows
  if locked.row.status ≠ .readyForReview then refused locked
  else if (locked.liveMatch view.book).status ≠ .noPo then refused locked
  else if subsetPoIds = [] then refused locked
  else if rows.length ≠ subsetPoIds.length then refused locked
  else if rows.any (·.status != "open") then refused locked
  else if !withinInvoiceBand combined locked.quantizedAmount tolerancePct then refused locked
  else if locked.moneyGateApplies settings locked.quantizedAmount then refused locked
  else
    let poNumbers := rows.map (·.poNumber)
    (.ok [], linked locked (",".intercalate poNumbers) (rows.head?.bind (·.vendorId))
      (some (.split (rows.map (·.id)) poNumbers combined locked.quantizedAmount)))

/-- `GLCodingResolver.apply`, up to the approval. -/
def glCodingPrepare (glValue : String) (ccValue : Option String) (minConf : Decimal) (minSample : Int) (locked : AgentInvoice) :
    PrepareOutcome :=
  if locked.row.status ≠ .readyForReview then refused locked
  else
    match locked.row.fields.vendorId.filter fun _ => locked.otherRequiredFieldsPresent with
    | none => refused locked
    | some vendorId =>
      match suggestFields (view.history vendorId) minConf minSample with
      | .error raised => (.error (.raised raised), locked)
      | .ok suggestions =>
        if (dominant .glAccount suggestions).map (·.value) ≠ some glValue then refused locked
        else if strippedOrEmpty locked.row.fields.glAccount = glValue then refused locked
        else if locked.moneyGateApplies settings locked.quantizedAmount then refused locked
        else
          let costCenter := ccValue.filter fun _ => strippedOrEmpty locked.row.fields.costCenter = ""
          (.ok (.glAccount (some glValue) :: (costCenter.map fun value => FieldEdit.costCenter (some value)).toList), locked)

/-- The part of an `apply` before the approval, under the lock of the invoice. -/
def prepare (plan : ResolutionPlan) (locked : AgentInvoice) : PrepareOutcome :=
  match plan with
  | .adjustAmount newAmount => view.amountMismatchPrepare newAmount locked
  | .linkOrder candidatePoId => view.missingPoPrepare settings caller candidatePoId locked
  | .linkOrders subsetPoIds tolerancePct => view.multiPoSplitPrepare settings subsetPoIds tolerancePct locked
  | .codeGl glValue ccValue minConf minSample => view.glCodingPrepare settings glValue ccValue minConf minSample locked

end AgentView

/-- `AGENT_ACTOR_NAME`. -/
def agentActorName : String := "AP Agent"

/-- The approval that a run asks for, in the name of its caller. -/
def AgentCaller.request (caller : AgentCaller) (corrections : List FieldEdit) : ApproveRequest where
  actorId := caller.actorId
  actorName := agentActorName
  actorRoles := caller.actorRoles
  corrections := corrections
  delegateOf := caller.delegateOf
  vendorRecentSpend := caller.vendorRecentSpend
  rates := caller.rates
  refreshes := caller.refreshes

namespace AgentView

variable (view : AgentView) (settings : AgentTenant) (caller : AgentCaller)

/-- `approve_invoice`, on all columns: corrections that get applied have the order matched again. -/
def approveInvoice (now : Time) (corrections : List FieldEdit) (invoice : AgentInvoice) : Except ApplyError Unit × AgentInvoice :=
  let request := caller.request corrections
  let config := invoice.row.approvalConfig settings.tenant
  let outcome := invoice.row.approve settings.tenant request now
  let corrected := { invoice with row := invoice.row.correct settings.tenant request }
  let corrects := corrections ≠ [] ∧ caller.rematches = true ∧
    checkSegregation invoice.row.uploadedById invoice.row.segregationActorIds caller.actorId config = .ok () ∧
    checkNamedApprover request config = .ok ()
  (outcome.1.mapError .raised, { invoice with
    row := outcome.2
    poMatch := if corrects then corrected.refreshedMatch settings view.book else invoice.poMatch })

/-- `resolver.apply`. -/
def apply (now : Time) (plan : ResolutionPlan) (locked : AgentInvoice) : Except ApplyError Unit × AgentInvoice :=
  match view.prepare settings caller plan locked with
  | (.error error, prepared) => (.error error, prepared)
  | (.ok corrections, prepared) => view.approveInvoice settings caller now corrections prepared

end AgentView

end Payables
