import Mathlib.Data.Int.Log
import Payables.Approval.Structuring
import Payables.Extraction.Jobs
import Payables.Lib.Spelling

namespace Payables
open Lib

/-- A Python `float`. -/
inductive FloatValue
  | finite (value : ℚ)
  | infinite (negative : Bool)
  | nan
  deriving DecidableEq

/-- The value of the last place of a double near a number. -/
def lastPlace (value : ℚ) : ℚ := 2 ^ max (Int.log 2 |value| - 52) (-1074)

/-- The nearest double, a tie to the even one, were there no largest. -/
def nearestDouble (value : ℚ) : ℚ := roundHalfEven (value / lastPlace value) * lastPlace value

def beyondDoubles (value : ℚ) : Prop := 2 ^ 1024 ≤ |nearestDouble value|
  deriving Decidable

/-- Every underscore stands between two digits. -/
def joinsDigits (afterDigit : Bool) : List Char → Bool
  | [] => true
  | c :: rest =>
    if c = '_' then afterDigit && rest.head?.any Char.isDigit && joinsDigits false rest else joinsDigits c.isDigit rest

/-- `float(text)`. -/
def floatOfText (text : List Char) : Option FloatValue :=
  let body := (pyStrip text).map foldDigit
  if joinsDigits false body then
    let bare := body.filter (· != '_')
    let folded := (splitSign bare).2.map Char.toLower
    if folded = "inf".toList ∨ folded = "infinity".toList then some (.infinite (splitSign bare).1)
    else if folded = "nan".toList then some .nan
    else (decimal? bare).map fun value => if beyondDoubles value then .infinite (value < 0) else .finite (nearestDouble value)
  else none

/-- `float(raw)`, where a `TypeError` and a `ValueError` are caught. -/
def floatOf : Json → Except Raised (Option FloatValue)
  | .bool value => .ok (some (.finite (if value then 1 else 0)))
  | .int value =>
    if beyondDoubles value then .error (.uncaught "OverflowError") else .ok (some (.finite (nearestDouble value)))
  | .float value => .ok (floatOfText value.text.toList)
  | .str text => .ok (floatOfText text.toList)
  | _ => .ok none

/-- A bar between 0 and 1. -/
def unitBar : Option FloatValue → Option ℚ
  | some (.finite value) => if 0 ≤ value ∧ value ≤ 1 then some value else none
  | _ => none

/-- `_confidence_threshold`. -/
def confidenceThreshold : Json → Except Raised (Option ℚ)
  | .null => .ok none
  | .bool _ => .ok none
  | raw => (floatOf raw).map unitBar

/-- A score outside 0 to 1 counts as 0. -/
def scoredConfidence : FloatValue → ℚ
  | .finite value => if 0 ≤ value ∧ value ≤ 1 then value else 0
  | _ => 0

/-- The configuration of a step. -/
abbrev StepConfig := List (String × Json)

namespace StepConfig

/-- `config.get(key)`. -/
def get (config : StepConfig) (key : String) : Json := ((Json.object config).field? key).getD .null

def money (config : StepConfig) (key : String) : RawMoney := rawMoney (config.get key)

/-- `config.get("auto_approve_threshold", 0.95)`. -/
def autoApproveThreshold (config : StepConfig) : Json :=
  ((Json.object config).field? "auto_approve_threshold").getD (.float ⟨"0.95", by decide⟩)

/-- The confidence is a reason to approve. -/
def confident (config : StepConfig) (threshold : Option ℚ) (overallConfidence : FloatValue) : Bool :=
  (config.get "auto_approve_enabled").truthy && threshold.any (· ≤ scoredConfidence overallConfidence)

/-- The amount is a reason to approve. -/
def belowFloor (config : StepConfig) (amount : GateAmount) : Bool :=
  (finiteMoneyThreshold (config.money "auto_approve_below")).any fun below => amount.expressible && decide (amount.amount < below)

def gated (config : StepConfig) (amount : GateAmount) : Bool :=
  maxAmountGateApplies (config.money "max_invoice_amount") amount || cfoGateApplies (config.money "require_cfo_above") amount

end StepConfig

/-- `decide_auto_approve`. -/
def decideAutoApprove (extCfg approvalCfg : StepConfig) (overallConfidence : FloatValue) (amount : GateAmount)
    (aggregateAmount : Option GateAmount) : Except Raised Bool :=
  match confidenceThreshold extCfg.autoApproveThreshold with
  | .error raised => .error raised
  | .ok threshold =>
    .ok ((extCfg.confident threshold overallConfidence || approvalCfg.belowFloor amount) &&
      !approvalCfg.gated (aggregateAmount.getD amount))

/-- What `run_extraction` reads and is answered up to its decision: the row as loaded, the configurations frozen on the
invoice, the document as cleaned, the vendor it is matched with and that vendor's cached currency where it is laid over. -/
structure ExtractionPass where
  settings : OrgSettings
  fraudRules : Json
  snapshot : Option (StepConfig × StepConfig)
  invoiceId : InvoiceId
  entityId : Option Nat
  fields : InvoiceFields
  lock : ReportingLock
  options : ExtractionOptions
  result : ExtractionResult
  overallConfidence : FloatValue
  matchedVendor : VendorId
  priorCurrency : Option String
  rates : FxRates
  history : List SpendRow
  now : Time

namespace ExtractionPass

/-- The columns when the decision is made. -/
def extracted (pass : ExtractionPass) : InvoiceFields :=
  let applied := applyExtraction pass.fields pass.result pass.options pass.matchedVendor
  { applied with currency := pass.priorCurrency.getD applied.currency }

/-- The invoice as the gates find it, after `refresh_warnings` has locked its rate. -/
def check (pass : ExtractionPass) : SpendCheck where
  settings := pass.settings
  fraudRules := pass.fraudRules
  history := pass.history
  now := pass.now
  invoiceId := pass.invoiceId
  entityId := pass.entityId
  fields := pass.extracted
  lock := refreshReportingAmount pass.settings pass.rates pass.extracted pass.lock

/-- `auto_approved`, before `suppress_auto_approve` is looked at. -/
def autoApproved (pass : ExtractionPass) : Except Raised Bool :=
  match pass.snapshot with
  | none => .ok false
  | some (extCfg, approvalCfg) =>
    match pass.check.resolveGateAggregate with
    | .error raised => .error raised
    | .ok aggregate =>
      decideAutoApprove extCfg approvalCfg pass.overallConfidence (pass.check.gate pass.extracted.amount)
        (some (pass.check.gate aggregate))

end ExtractionPass

/-- A human approver passes the gates that an aggregate is approved through, whatever the roles. -/
structure PassesGates (approvalCfg : StepConfig) (check : SpendCheck) (aggregate : ℚ) : Prop where
  capped : ∀ key ∈ ["max_invoice_amount", "require_cfo_above"], ∀ cap ∈ finiteMoneyThreshold (approvalCfg.money key),
    (check.gate aggregate).amount ≤ cap
  enforced : ∀ (config : ApprovalConfig) (request : ApproveRequest),
    config.maxInvoiceAmount = approvalCfg.money "max_invoice_amount" →
    config.requireCfoAbove = approvalCfg.money "require_cfo_above" →
    check.enforcedAggregate = .ok (check.fields.amount + recentSpend check.settings request check.fields) →
    enforceApprovalThresholds check.settings request check.fields check.lock config = .ok ()

/-- The decision is always made. -/
def ExtractionPass.Decides (pass : ExtractionPass) : Prop :=
  ∀ extCfg approvalCfg, pass.snapshot = some (extCfg, approvalCfg) → ∀ amount aggregate,
    ∃ answer, decideAutoApprove extCfg approvalCfg pass.overallConfidence amount aggregate = .ok answer

/-- The amounts an approval of the pass is measured by: its own and the aggregate. -/
structure Measured (pass : ExtractionPass) (approvalCfg : StepConfig) (aggregate : ℚ) : Prop where
  passes : PassesGates approvalCfg pass.check aggregate
  capped : ∀ key ∈ ["max_invoice_amount", "require_cfo_above"], ∀ cap ∈ finiteMoneyThreshold (approvalCfg.money key),
    (pass.check.gate pass.extracted.amount).amount ≤ cap

/-- Unattended approval fails closed, whatever is configured. -/
structure FailsClosed (pass : ExtractionPass) : Prop where
  decides : pass.Decides
  approved : pass.autoApproved = .ok true → ∃ extCfg approvalCfg aggregate, pass.snapshot = some (extCfg, approvalCfg) ∧
    pass.check.resolveGateAggregate = .ok aggregate ∧ Measured pass approvalCfg aggregate ∧
    (∃ amount, pass.result.amount = some amount ∧ 0 < amount) ∧
    (pass.check.gate pass.extracted.amount).expressible = true ∧ (pass.check.gate aggregate).expressible = true

/-- Unattended approval fails closed on the money controls there are. -/
structure GatedApproval (pass : ExtractionPass) : Prop where
  decides : pass.Decides
  approved : pass.autoApproved = .ok true → ∃ extCfg approvalCfg aggregate threshold,
    pass.snapshot = some (extCfg, approvalCfg) ∧ confidenceThreshold extCfg.autoApproveThreshold = .ok threshold ∧
    pass.check.resolveGateAggregate = .ok aggregate ∧ Measured pass approvalCfg aggregate ∧
    (approvalCfg.money "max_invoice_amount" ≠ .unset ∨ approvalCfg.money "require_cfo_above" ≠ .unset ∨
        extCfg.confident threshold pass.overallConfidence = false →
      (pass.check.gate pass.extracted.amount).expressible = true ∧ (pass.check.gate aggregate).expressible = true)

/-- What other invoices add to the aggregate is no less than zero. -/
def SpendCheck.Uncredited (check : SpendCheck) : Prop :=
  ∀ query windowDays start, check.spendQuery = .ok (some (query, windowDays)) →
    windowStart check.now windowDays = .ok start → 0 ≤ query.spendSince start check.history

/-- The threshold of the confidence is no integer that is too large for a `float`. -/
def ExtractionPass.ThresholdInRange (pass : ExtractionPass) : Prop :=
  ∀ extCfg approvalCfg value, pass.snapshot = some (extCfg, approvalCfg) → extCfg.autoApproveThreshold = .int value →
    ¬beyondDoubles value

section Gated

variable {extCfg approvalCfg : StepConfig} {check : SpendCheck} {pass : ExtractionPass} {aggregate : ℚ}

theorem confidenceThreshold_total {raw : Json} (inRange : ∀ value, raw = .int value → ¬beyondDoubles value) :
    ∃ threshold, confidenceThreshold raw = .ok threshold := by
  cases raw with
  | int value =>
    have read : floatOf (.int value) = .ok (some (.finite (nearestDouble value))) := if_neg (inRange value rfl)
    exact ⟨_, congrArg (Except.map unitBar) read⟩
  | null => exact ⟨_, rfl⟩
  | bool value => exact ⟨_, rfl⟩
  | float value => exact ⟨_, rfl⟩
  | str text => exact ⟨_, rfl⟩
  | list items => exact ⟨_, rfl⟩
  | object fields => exact ⟨_, rfl⟩

/-- A yes has a reason, and no gate against it. -/
theorem decideAutoApprove_eq_true {overallConfidence : FloatValue} {amount : GateAmount} {aggregateAmount : Option GateAmount}
    (yes : decideAutoApprove extCfg approvalCfg overallConfidence amount aggregateAmount = .ok true) :
    ∃ threshold, confidenceThreshold extCfg.autoApproveThreshold = .ok threshold ∧
      (extCfg.confident threshold overallConfidence = true ∨ approvalCfg.belowFloor amount = true) ∧
      approvalCfg.gated (aggregateAmount.getD amount) = false := by
  rw [decideAutoApprove] at yes
  cases read : confidenceThreshold extCfg.autoApproveThreshold with
  | error raised =>
    rw [read] at yes
    cases yes
  | ok threshold =>
    simp only [read, Except.ok.injEq, Bool.and_eq_true, Bool.or_eq_true, Bool.not_eq_true'] at yes
    exact ⟨threshold, rfl, yes⟩

theorem gated_eq_false {amount : GateAmount} : approvalCfg.gated amount = false ↔
    ∀ key ∈ ["max_invoice_amount", "require_cfo_above"], moneyGateApplies (approvalCfg.money key) amount = false := by
  simp [StepConfig.gated, maxAmountGateApplies, cfoGateApplies]

theorem capped_of_clear {amount : GateAmount} {threshold : RawMoney} {cap : ℚ}
    (clear : moneyGateApplies threshold amount = false) (usable : finiteMoneyThreshold threshold = some cap) :
    amount.amount ≤ cap := by
  rcases moneyGateApplies_eq_false.mp clear with rfl | ⟨bound, read, -, within⟩
  · cases usable
  · rw [usable, Option.some.injEq] at read
    exact read ▸ within

/-- What no gate applies to, a human approver is not refused for. -/
theorem passesGates_of_clear (resolved : check.resolveGateAggregate = .ok aggregate)
    (clear : approvalCfg.gated (check.gate aggregate) = false) : PassesGates approvalCfg check aggregate := by
  have free := gated_eq_false.mp clear
  refine ⟨fun key listed cap usable => capped_of_clear (free key listed) usable, ?_⟩
  intro config request maxAmount cfoAbove measured
  have same := SpendCheck.resolveGateAggregate_of_enforced measured
  rw [resolved, Except.ok.injEq] at same
  have gate : reportingGateAmount check.settings check.fields check.lock
      (check.fields.amount + recentSpend check.settings request check.fields) = check.gate aggregate := by
    rw [same, SpendCheck.gate]
  have underMax : maxAmountGateApplies config.maxInvoiceAmount (check.gate aggregate) = false := by
    rw [maxAmount]
    exact free _ (by simp)
  have underCfo : cfoGateApplies config.requireCfoAbove (check.gate aggregate) = false := by
    rw [cfoAbove]
    exact free _ (by simp)
  simp only [enforceApprovalThresholds, gate, underMax, underCfo, Bool.false_eq_true, if_false, Bool.false_and]

theorem le_resolveGateAggregate (uncredited : check.Uncredited) (resolved : check.resolveGateAggregate = .ok aggregate) :
    check.fields.amount ≤ aggregate := by
  rw [SpendCheck.resolveGateAggregate] at resolved
  split at resolved
  · cases resolved
  · exact (Except.ok.inj resolved).le
  · rename_i query windowDays queried
    cases answer : vendorRecentSpend check.history check.now windowDays query with
    | error raised =>
      rw [answer] at resolved
      exact (Except.ok.inj resolved).le
    | ok recent =>
      rw [answer] at resolved
      obtain ⟨start, reached, rfl⟩ := SpendCheck.vendorRecentSpend_eq_ok.mp answer
      have added := uncredited query windowDays start queried reached
      rw [← Except.ok.inj resolved]
      linarith

/-- Unattended approval fails closed on the money controls there are. -/
theorem auto_approval_gated (inRange : pass.ThresholdInRange) (uncredited : pass.check.Uncredited) : GatedApproval pass := by
  constructor
  · intro extCfg approvalCfg frozen amount aggregate
    obtain ⟨threshold, read⟩ := confidenceThreshold_total fun value => inRange extCfg approvalCfg value frozen
    simp only [decideAutoApprove, read, Except.ok.injEq, exists_eq']
  · intro approved
    rw [ExtractionPass.autoApproved] at approved
    cases frozen : pass.snapshot with
    | none =>
      rw [frozen] at approved
      cases approved
    | some configs =>
      obtain ⟨extCfg, approvalCfg⟩ := configs
      rw [frozen] at approved
      cases resolved : pass.check.resolveGateAggregate with
      | error raised =>
        rw [resolved] at approved
        cases approved
      | ok aggregate =>
        rw [resolved] at approved
        obtain ⟨threshold, read, reason, clear⟩ := decideAutoApprove_eq_true approved
        rw [Option.getD_some] at clear
        have free := gated_eq_false.mp clear
        have alike : (pass.check.gate pass.extracted.amount).expressible = (pass.check.gate aggregate).expressible :=
          SpendCheck.gate_expressible _ _
        have least : (pass.check.gate pass.extracted.amount).amount ≤ (pass.check.gate aggregate).amount :=
          SpendCheck.gate_mono (le_resolveGateAggregate uncredited resolved)
        have capped : ∀ key ∈ ["max_invoice_amount", "require_cfo_above"],
            ∀ cap ∈ finiteMoneyThreshold (approvalCfg.money key), (pass.check.gate pass.extracted.amount).amount ≤ cap :=
          fun key listed cap usable => least.trans (capped_of_clear (free key listed) usable)
        have measured : Measured pass approvalCfg aggregate := ⟨passesGates_of_clear resolved clear, capped⟩
        refine ⟨extCfg, approvalCfg, aggregate, threshold, rfl, read, rfl, measured, fun controlled => ?_⟩
        have expressible : (pass.check.gate aggregate).expressible = true := by
          have compared {key : String} (listed : key ∈ ["max_invoice_amount", "require_cfo_above"])
              (set_ : approvalCfg.money key ≠ .unset) : (pass.check.gate aggregate).expressible = true := by
            rcases moneyGateApplies_eq_false.mp (free key listed) with unset | ⟨bound, -, expressible, -⟩
            · exact absurd unset set_
            · exact expressible
          rcases controlled with max | cfo | doubtful
          · exact compared (by simp) max
          · exact compared (by simp) cfo
          · rw [doubtful] at reason
            have small := reason.resolve_left (by simp)
            rw [StepConfig.belowFloor, Option.any_eq_true] at small
            obtain ⟨below, -, small⟩ := small
            rw [Bool.and_eq_true] at small
            rw [← alike]
            exact small.1
        exact ⟨alike.trans expressible, expressible⟩

end Gated

section Example

/-- A document over 420 in a currency that no rate is known for, read with full confidence for an organisation that reports
in EUR. -/
def confidentPass (currency : String) (approvalCfg : StepConfig) : ExtractionPass where
  settings := ⟨[some "EUR"], true, 7⟩
  fraudRules := .null
  snapshot := some ([("auto_approve_enabled", .bool true), ("auto_approve_threshold", .int 1)], approvalCfg)
  invoiceId := 7
  entityId := none
  fields := ⟨"", none, 0, "USD", none, none, none, none, []⟩
  lock := .none
  options := ⟨false, false⟩
  result := ⟨some "Atlas Freight", some 420, some currency, none, none, none, []⟩
  overallConfidence := .finite 1
  matchedVendor := 3
  priorCurrency := none
  rates := fun _ _ => none
  history := []
  now := 1700000000000000

variable {currency : String} {approvalCfg : StepConfig}

theorem nearestDouble_one : nearestDouble 1 = 1 := by
  have place : lastPlace 1 = 2 ^ (-52 : ℤ) := by
    rw [lastPlace, abs_one, Int.log_one_right]
    norm_num
  have whole : (1 : ℚ) / 2 ^ (-52 : ℤ) = ((2 ^ 52 : ℤ) : ℚ) := by norm_num
  rw [nearestDouble, place, whole, roundHalfEven_intCast]
  norm_num

theorem confidentPass_reads : confidenceThreshold (.int 1) = .ok (some 1) := by
  have inRange : ¬beyondDoubles ((1 : Int) : ℚ) := by
    rw [Int.cast_one, beyondDoubles, nearestDouble_one, abs_one, not_le]
    exact one_lt_pow₀ (by norm_num) (by norm_num)
  have read : floatOf (.int 1) = .ok (some (.finite 1)) := by
    rw [floatOf, if_neg inRange, Int.cast_one, nearestDouble_one]
  have bar : unitBar (some (.finite 1)) = some 1 := by norm_num [unitBar]
  rw [← bar]
  exact congrArg (Except.map unitBar) read

/-- The pass approves what no gate applies to. -/
theorem confidentPass_approves (clear : approvalCfg.gated ((confidentPass currency approvalCfg).check.gate 420) = false) :
    (confidentPass currency approvalCfg).autoApproved = .ok true := by
  have resolved : (confidentPass currency approvalCfg).check.resolveGateAggregate = .ok (420 + 0) := by rfl
  have confident : StepConfig.confident [("auto_approve_enabled", .bool true), ("auto_approve_threshold", .int 1)]
      (some 1) (.finite 1) = true := by
    have scored : scoredConfidence (.finite 1) = 1 := by norm_num [scoredConfidence]
    rw [StepConfig.confident, scored, Option.any_some, decide_eq_true le_rfl, Bool.and_true]
    decide
  have threshold : StepConfig.autoApproveThreshold [("auto_approve_enabled", .bool true), ("auto_approve_threshold", .int 1)] =
      .int 1 := by rfl
  rw [add_zero] at resolved
  simp only [ExtractionPass.autoApproved, resolved]
  simp only [confidentPass, decideAutoApprove, threshold, confidentPass_reads, confident, Bool.true_or, Option.getD_some]
  rw [confidentPass] at clear
  rw [clear]
  rfl

theorem confidentPass_home : (confidentPass "EUR" approvalCfg).check.gate 420 = ⟨420, "EUR", true⟩ := by
  have home : resolveReportingCurrency (confidentPass "EUR" approvalCfg).check.settings = "EUR" := by
    change resolveReportingCurrency ⟨[some "EUR"], true, 7⟩ = "EUR"
    decide
  have billed : (confidentPass "EUR" approvalCfg).check.fields.currency = "EUR" := by rfl
  have text : pyUpper (pyStripText "EUR") = "EUR" := by decide
  have cents : OnCents 420 := ⟨42000, by norm_num⟩
  simp [SpendCheck.gate, reportingGateAmount, reportingAmountAtLockedRate, home, billed, text, cents.quantizeMoney_eq]

theorem fiveHundred : StepConfig.money [("max_invoice_amount", .str "500")] "max_invoice_amount" = .number (.finite 500) := by
  have text : pyStrip (Json.str "500").toText = "500".toList := by decide
  have body : ("500".toList).filter (· != '_') = "500".toList := by decide
  have sign : splitSign "500".toList = (false, "500".toList) := by decide
  have special : specialDecimal? false "500".toList = none := by decide
  have mantissa : mantissa? ("500".toList.takeWhile fun c => c != 'e' && c != 'E') = some (500, 0) := by decide
  have power : exponent? ("500".toList.dropWhile fun c => c != 'e' && c != 'E') = some 0 := by decide
  have read : decimal? "500".toList = some 500 := by
    simp only [decimal?, sign, mantissa, power, bind, Option.bind, pure]
    norm_num
  have found : StepConfig.get [("max_invoice_amount", .str "500")] "max_invoice_amount" = .str "500" := by rfl
  simp only [StepConfig.money, found, rawMoney, decimalOf, text, body, sign, special, read, Option.map_some]

/-- An invoice under a cap is approved, and within every guarantee. -/
theorem capped_document_approved : GatedApproval (confidentPass "EUR" [("max_invoice_amount", .str "500")]) ∧
    (confidentPass "EUR" [("max_invoice_amount", .str "500")]).autoApproved = .ok true := by
  have inRange : (confidentPass "EUR" [("max_invoice_amount", .str "500")]).ThresholdInRange := by
    intro extCfg approvalCfg value frozen asked
    have same : extCfg = [("auto_approve_enabled", .bool true), ("auto_approve_threshold", .int 1)] :=
      (congrArg Prod.fst (Option.some.inj frozen)).symm
    rw [same] at asked
    have one : (1 : Int) = value := Json.int.inj asked
    rw [← one, Int.cast_one, beyondDoubles, nearestDouble_one, abs_one, not_le]
    exact one_lt_pow₀ (by norm_num) (by norm_num)
  have uncredited : (confidentPass "EUR" [("max_invoice_amount", .str "500")]).check.Uncredited := by
    intro query windowDays start _ _
    exact le_of_eq rfl
  refine ⟨auto_approval_gated inRange uncredited, confidentPass_approves ?_⟩
  rw [confidentPass_home, gated_eq_false]
  intro key listed
  rcases List.mem_cons.mp listed with rfl | other
  · have within : (420 : ℚ) ≤ 500 := by norm_num
    exact moneyGateApplies_eq_false.mpr (.inr ⟨500, by rw [fiveHundred, finiteMoneyThreshold, toDecimal], rfl, within⟩)
  · rw [List.mem_singleton.mp other]
    rfl

/-- Without a money control, an invoice that nothing can express in the reporting currency is approved. -/
theorem unpriced_document_approved : ¬∀ pass : ExtractionPass, FailsClosed pass := by
  intro closed
  have clear : StepConfig.gated [] ((confidentPass "GBP" []).check.gate 420) = false := by rfl
  obtain ⟨extCfg, approvalCfg, aggregate, -, -, -, -, expressible, -⟩ :=
    (closed (confidentPass "GBP" [])).approved (confidentPass_approves clear)
  have unpriced : ((confidentPass "GBP" []).check.gate 420).expressible = false := by decide
  have billed : (confidentPass "GBP" []).extracted.amount = 420 := by rfl
  rw [billed, unpriced] at expressible
  cases expressible

end Example

end Payables
