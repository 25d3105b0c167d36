import Payables.Approval.Levels
import Payables.Workflow.Fields

namespace Payables

/-- `text.strip()`. -/
def pyStripText (text : String) : String := String.ofList (pyStrip text.toList)

/-- `text.upper()`, on the letters a currency code is made of. -/
def pyUpper (text : String) : String := String.ofList (text.toList.map Char.toUpper)

/-- Stripping a stripped text changes nothing. -/
theorem pyStrip_pyStrip (text : List Char) : pyStrip (pyStrip text) = pyStrip text := by
  have back : (pyStrip text).rdropWhile isPySpace = pyStrip text := List.rdropWhile_idempotent _ _
  have front : (pyStrip text).dropWhile isPySpace = pyStrip text := by
    cases shown : pyStrip text with
    | nil => rfl
    | cons c rest =>
      -- the first character of what is left is the first one that is no space
      obtain ⟨dropped, whole⟩ : (c :: rest) <+: text.dropWhile isPySpace := shown ▸ List.rdropWhile_prefix _ _
      have head : isPySpace c = false := by
        have first := List.head?_dropWhile_not isPySpace text
        rw [← whole] at first
        simpa using first
      rw [List.dropWhile_cons_of_neg (by rw [head]; decide)]
  rw [pyStrip, front, back]

theorem pyStripText_pyStripText (text : String) : pyStripText (pyStripText text) = pyStripText text := by
  rw [pyStripText, pyStripText, String.toList_ofList, pyStrip_pyStrip]

/-- What a review reads of the settings of an organisation. `currencies` lists the candidates for its
reporting currency in their order: its own, the home currency of its payments, its invoice default and
the platform's. -/
structure OrgSettings where
  currencies : List (Option String)
  structuringEnabled : Bool
  structuringWindowDays : Int
  deriving DecidableEq

def resolveReportingCurrency (settings : OrgSettings) : String :=
  match settings.currencies.filterMap id |>.find? (pyStripText · != "") with
  | some text => pyUpper (pyStripText text)
  | none => "USD"

/-- The conversion locked on an invoice row. -/
structure ReportingLock where
  reportingCurrency : Option String
  reportingAmount : Option ℚ
  reportingFxRate : Option ℚ
  reportingSourceCurrency : Option String
  deriving DecidableEq

def ReportingLock.none : ReportingLock := ⟨.none, .none, .none, .none⟩

/-- The FX provider: units of the second currency per unit of the first, or no answer. -/
abbrev FxRates := String → String → Option ℚ

/-- The nearest integer, a half to the even one. -/
def roundHalfEven (value : ℚ) : ℤ :=
  let below := ⌊value⌋
  if value - below < 1 / 2 then below
  else if 1 / 2 < value - below then below + 1
  else if below % 2 = 0 then below else below + 1

theorem roundHalfEven_intCast (units : ℤ) : roundHalfEven (units : ℚ) = units := by
  have half : (0 : ℚ) < 1 / 2 := by norm_num
  simp only [roundHalfEven, Int.floor_intCast, sub_self, if_pos half]

theorem le_roundHalfEven {value : ℚ} {n : ℤ} (le : (n : ℚ) ≤ value) : n ≤ roundHalfEven value := by
  have floor : n ≤ ⌊value⌋ := Int.le_floor.mpr le
  unfold roundHalfEven
  simp only
  split_ifs <;> omega

theorem roundHalfEven_le {value : ℚ} {n : ℤ} (le : value ≤ n) : roundHalfEven value ≤ n := by
  unfold roundHalfEven
  simp only
  rcases le.eq_or_lt with rfl | lt
  · rw [if_pos (by rw [Int.floor_intCast, sub_self]; norm_num), Int.floor_intCast]
  · have floor : ⌊value⌋ < n := Int.floor_lt.mpr lt
    split_ifs <;> omega

/-- `rate.quantize(_RATE_QUANT)`. -/
def quantizeRate (rate : ℚ) : ℚ := roundHalfEven (rate * 100000000) / 100000000

/-- The rate of `convert_amount`, when it does not raise. -/
def conversionRate (rates : FxRates) (src tgt : String) : Option ℚ :=
  if src = tgt then some 1 else (rates src tgt).filter (0 < ·)

namespace ReportingLock

/-- `_lock_pair_matches`. -/
def pairMatches (lock : ReportingLock) (src tgt : String) (rate : ℚ) : Bool :=
  if lock.reportingSourceCurrency.getD "" = "" then decide (src = tgt) == decide (rate = 1)
  else pyUpper (lock.reportingSourceCurrency.getD "") == src

/-- The persisted rate, if it still describes the currency pair of the row. -/
def currentRate (lock : ReportingLock) (src tgt : String) : Option ℚ :=
  lock.reportingFxRate.filter fun rate => 0 < rate && lock.pairMatches src tgt rate

end ReportingLock

/-- `materialize_reporting_amount`, as `refresh_warnings` runs it: whatever it raises leaves the lock
alone. -/
def refreshReportingAmount (settings : OrgSettings) (rates : FxRates) (fields : InvoiceFields) (lock : ReportingLock) :
    ReportingLock :=
  let tgt := pyUpper (resolveReportingCurrency settings)
  let src := pyUpper (if fields.currency = "" then tgt else fields.currency)
  let locked := lock.reportingAmount.isSome && lock.reportingCurrency.map pyUpper == some tgt
  match if locked then lock.currentRate src tgt else none with
  | some rate =>
    if lock.reportingAmount.map quantizeMoney = some (quantizeMoney (fields.amount * rate)) then lock
    else { lock with reportingAmount := some (quantizeMoney (fields.amount * rate)) }
  | none =>
    match conversionRate rates src tgt with
    | none => lock
    | some rate =>
      ⟨some tgt, some (quantizeMoney (fields.amount * quantizeRate rate)), some (quantizeRate rate), some src⟩

/-- `reporting_amount_at_locked_rate`; the second component says that the figure was left unconverted. -/
def reportingAmountAtLockedRate (amount : ℚ) (currency reportingCurrency : String) (lock : ReportingLock) : ℚ × Bool :=
  let tgt := pyUpper (pyStripText (if reportingCurrency = "" then "USD" else reportingCurrency))
  let cur := pyUpper (pyStripText (if currency = "" then tgt else currency))
  if cur = tgt then (quantizeMoney amount, false)
  else
    match lock.reportingFxRate with
    | some rate =>
      if 0 < rate ∧ lock.reportingCurrency.map (pyUpper ∘ pyStripText) = some tgt ∧
          lock.reportingSourceCurrency.map (pyUpper ∘ pyStripText) = some cur then
        (quantizeMoney (amount * rate), false)
      else (quantizeMoney amount, true)
    | none => (quantizeMoney amount, true)

/-- `reporting_gate_amount`. -/
def reportingGateAmount (settings : OrgSettings) (fields : InvoiceFields) (lock : ReportingLock) (amount : ℚ) : GateAmount :=
  let converted := reportingAmountAtLockedRate amount fields.currency (resolveReportingCurrency settings) lock
  ⟨converted.1, resolveReportingCurrency settings, !converted.2⟩

/-- `invoice_routing_attrs`. -/
def invoiceRoutingAttrs (fields : InvoiceFields) : RoutingAttrs :=
  ⟨fields.glAccount, fields.costCenter, fields.department, fields.vendorId.map toString⟩

/-- The levels of a configured chain that apply to an invoice as it stands. -/
def applicableLevels (settings : OrgSettings) (chain : List ChainLevel) (fields : InvoiceFields) (lock : ReportingLock) :
    Except Raised (List ChainLevel) :=
  resolveApplicableLevels (reportingGateAmount settings fields lock fields.amount) (invoiceRoutingAttrs fields) chain


end Payables
