import Payables.Approval.MoneyGates
import Payables.Lib.Datetime
import Payables.Money
import Payables.Payments.Model

namespace Payables
open Lib

/-- An invoice of a vendor's history. -/
structure SpendRow where
  id : InvoiceId
  vendorId : Option VendorId
  entityId : Option Nat
  amount : ℚ
  currency : String
  status : InvoiceStatus
  createdAt : Time
  deriving DecidableEq

structure StructuringConfig where
  enabled : Json
  windowDays : Json

/-- `get_structuring_config`, of the value under `fraud_rules`. -/
def getStructuringConfig (fraudRules : Json) : Except Raised StructuringConfig :=
  match fraudRules.orElse (.object []) with
  | .object overrides => .ok
      ⟨((Json.object overrides).field? "structuring_enabled").getD (.bool true),
        ((Json.object overrides).field? "structuring_window_days").getD (.int 7)⟩
  | _ => .error (.uncaught "AttributeError")

/-- `timedelta(days=…)`, in microseconds. -/
def timedeltaDays : Json → Except Raised Int
  | .bool value => .ok (if value then microsPerDay else 0)
  | .int days => if days.natAbs ≤ 999999999 then .ok (days * microsPerDay) else .error (.uncaught "OverflowError")
  | .float days =>
    match decimalOf days.text.toList with
    | some (.finite value) =>
      let micros := roundHalfEven (value * microsPerDay)
      if -999999999 * microsPerDay ≤ micros ∧ micros < 1000000000 * microsPerDay then .ok micros
      else .error (.uncaught "OverflowError")
    | some (.infinite _) => .error (.uncaught "OverflowError")
    | _ => .error (.uncaught "ValueError")
  | _ => .error (.uncaught "TypeError")

/-- The first and the last instant of a `datetime`. -/
def firstInstant : Time := -62135596800000000

def lastInstant : Time := 253402300799999999

/-- `datetime.now(UTC) - timedelta(days=window_days)`. -/
def windowStart (now : Time) (windowDays : Json) : Except Raised Time := do
  let micros ← timedeltaDays windowDays
  if firstInstant ≤ now - micros ∧ now - micros ≤ lastInstant then return now - micros
  else throw (.uncaught "OverflowError")

/-- Whose other invoices count, and in which currency. -/
structure SpendQuery where
  vendorId : VendorId
  excludeInvoiceId : Option InvoiceId
  currency : String
  entityId : Option Nat

/-- `_EXCLUDED_STATUSES`. -/
def excludedStatuses : List InvoiceStatus := [.rejected, .failed]

namespace SpendQuery

def selects (query : SpendQuery) (start : Time) (row : SpendRow) : Bool :=
  row.vendorId == some query.vendorId && !excludedStatuses.contains row.status && row.currency == query.currency &&
    decide (start ≤ row.createdAt) && (query.entityId.isNone || row.entityId == query.entityId) &&
    query.excludeInvoiceId != some row.id

/-- What the selected invoices add up to. -/
def spendSince (query : SpendQuery) (start : Time) (history : List SpendRow) : ℚ :=
  ((history.filter (query.selects start)).map (·.amount)).sum

end SpendQuery

/-- `vendor_recent_spend`. -/
def vendorRecentSpend (history : List SpendRow) (now : Time) (windowDays : Json) (query : SpendQuery) : Except Raised ℚ := do
  let start ← windowStart now windowDays
  return query.spendSince start history

/-- An invoice as a money gate finds it. -/
structure SpendCheck where
  settings : OrgSettings
  fraudRules : Json
  history : List SpendRow
  now : Time
  invoiceId : InvoiceId
  entityId : Option Nat
  fields : InvoiceFields
  lock : ReportingLock

namespace SpendCheck

/-- The lookup both paths make, with its window, if they make one. -/
def spendQuery (check : SpendCheck) : Except Raised (Option (SpendQuery × Json)) :=
  match check.fields.vendorId with
  | none => .ok none
  | some vendorId =>
    match getStructuringConfig check.fraudRules with
    | .error raised => .error raised
    | .ok cfg =>
      let currency := if check.fields.currency = "" then "USD" else check.fields.currency
      .ok (if cfg.enabled.truthy then some (⟨vendorId, some check.invoiceId, currency, check.entityId⟩, cfg.windowDays)
        else none)

/-- `aggregate_amount` of `_enforce_approval_thresholds`. -/
def enforcedAggregate (check : SpendCheck) : Except Raised ℚ :=
  match check.spendQuery with
  | .error raised => .error raised
  | .ok none => .ok check.fields.amount
  | .ok (some (query, windowDays)) =>
    match vendorRecentSpend check.history check.now windowDays query with
    | .error raised => .error raised
    | .ok recent => .ok (check.fields.amount + recent)

/-- `resolve_gate_aggregate`. A lookup that raises leaves the bare amount. -/
def resolveGateAggregate (check : SpendCheck) : Except Raised ℚ :=
  match check.spendQuery with
  | .error raised => .error raised
  | .ok none => .ok check.fields.amount
  | .ok (some (query, windowDays)) =>
    match vendorRecentSpend check.history check.now windowDays query with
    | .error _ => .ok check.fields.amount
    | .ok recent => .ok (check.fields.amount + recent)

/-- `reporting_gate_amount`, of an amount in the invoice's currency. -/
def gate (check : SpendCheck) (amount : ℚ) : GateAmount := reportingGateAmount check.settings check.fields check.lock amount

/-- Whichever threshold is configured, no gate that the invoice trips by itself lets the aggregate through. -/
def HardenedBy (check : SpendCheck) (aggregate : ℚ) : Prop :=
  ∀ threshold,
    (maxAmountGateApplies threshold (check.gate check.fields.amount) → maxAmountGateApplies threshold (check.gate aggregate)) ∧
    (cfoGateApplies threshold (check.gate check.fields.amount) → cfoGateApplies threshold (check.gate aggregate))

/-- The aggregate only hardens the gates, and the human and the unattended path measure the same one. -/
structure AggregateHardens (check : SpendCheck) : Prop where
  enforced : ∀ aggregate, check.enforcedAggregate = .ok aggregate → check.HardenedBy aggregate
  resolved : ∀ aggregate, check.resolveGateAggregate = .ok aggregate → check.HardenedBy aggregate
  agree : check.enforcedAggregate = check.resolveGateAggregate

/-- Other invoices take nothing off the amount: they add up to no less than zero, or the invoice cannot be expressed in the
reporting currency, or there the difference is too small to change a cent. -/
def DeductsNothing (check : SpendCheck) (spend : ℚ) : Prop :=
  0 ≤ spend ∨ (check.gate check.fields.amount).expressible = false ∨
    (check.gate (check.fields.amount + spend)).amount = (check.gate check.fields.amount).amount

/-- Where other invoices are looked up, the window reaches back to an instant, and what counts since then takes nothing
off. -/
def LookupSound (check : SpendCheck) : Prop :=
  ∀ query windowDays, check.spendQuery = .ok (some (query, windowDays)) →
    ∃ start, windowStart check.now windowDays = .ok start ∧ check.DeductsNothing (query.spendSince start check.history)

end SpendCheck

section Gates

variable {gate other : GateAmount}

theorem quantizeMoney_mono : Monotone quantizeMoney := by
  intro a b le
  have scaled : a * 100 ≤ b * 100 := by linarith
  have cents : ((roundHalfAway (a * 100) : ℤ) : ℚ) ≤ (roundHalfAway (b * 100) : ℤ) := by
    exact_mod_cast roundHalfAway_mono scaled
  rw [quantizeMoney_eq, quantizeMoney_eq]
  linarith

/-- One rate prices every amount in a currency, and whether it is the right one does not depend on the amount. -/
theorem reportingAmountAtLockedRate_eq (currency reportingCurrency : String) (lock : ReportingLock) :
    ∃ rate unconverted, 0 ≤ rate ∧ ∀ amount,
      reportingAmountAtLockedRate amount currency reportingCurrency lock = (quantizeMoney (amount * rate), unconverted) := by
  simp only [reportingAmountAtLockedRate]
  generalize pyUpper (pyStripText (if reportingCurrency = "" then "USD" else reportingCurrency)) = tgt
  generalize pyUpper (pyStripText (if currency = "" then tgt else currency)) = cur
  have plain : (0 : ℚ) ≤ 1 := by norm_num
  by_cases same : cur = tgt
  · exact ⟨1, false, plain, fun amount => by rw [if_pos same, mul_one]⟩
  simp only [if_neg same]
  cases lock.reportingFxRate with
  | none => exact ⟨1, true, plain, fun amount => by simp only [mul_one]⟩
  | some rate =>
    by_cases locked : 0 < rate ∧ lock.reportingCurrency.map (pyUpper ∘ pyStripText) = some tgt ∧
        lock.reportingSourceCurrency.map (pyUpper ∘ pyStripText) = some cur
    · exact ⟨rate, false, locked.1.le, fun amount => by simp only [if_pos locked]⟩
    · exact ⟨1, true, plain, fun amount => by simp only [if_neg locked, mul_one]⟩

/-- A gate that applies to an amount applies to every greater one. -/
theorem moneyGateApplies_mono {threshold : RawMoney} (same : other.expressible = gate.expressible)
    (le : gate.amount ≤ other.amount) (applies : moneyGateApplies threshold gate = true) :
    moneyGateApplies threshold other = true := by
  rw [moneyGateApplies] at applies ⊢
  by_cases unset : threshold = .unset
  · rw [if_pos unset] at applies
    cases applies
  rw [if_neg unset] at applies ⊢
  cases usable : finiteMoneyThreshold threshold with
  | none => rfl
  | some bound =>
    simp only [usable, Bool.or_eq_true, Bool.not_eq_true', decide_eq_true_eq] at applies ⊢
    rw [same]
    exact applies.imp_right fun above => above.trans_le le

theorem moneyGateApplies_unexpressible {threshold : RawMoney} (unexpressible : gate.expressible = false) :
    moneyGateApplies threshold gate = decide (threshold ≠ .unset) := by
  rw [moneyGateApplies]
  by_cases unset : threshold = .unset
  · simp [unset]
  · rw [if_neg unset]
    cases finiteMoneyThreshold threshold with
    | none => simp [unset]
    | some bound => simp [unset, unexpressible]

theorem moneyGateApplies_eq_false {threshold : RawMoney} : moneyGateApplies threshold gate = false ↔ threshold = .unset ∨
    ∃ bound, finiteMoneyThreshold threshold = some bound ∧ gate.expressible = true ∧ gate.amount ≤ bound := by
  rw [moneyGateApplies]
  by_cases unset : threshold = .unset
  · simp [unset]
  rw [if_neg unset]
  cases finiteMoneyThreshold threshold with
  | none => simp [unset]
  | some bound => simp [unset]

/-- Every threshold is as hard on one amount as on another, exactly where it is no less. -/
theorem hardened_iff (same : other.expressible = gate.expressible) :
    (∀ threshold, moneyGateApplies threshold gate = true → moneyGateApplies threshold other = true) ↔
      gate.expressible = false ∨ gate.amount ≤ other.amount := by
  constructor
  · intro hardened
    by_contra failing
    simp only [not_or, Bool.not_eq_false, not_le] at failing
    obtain ⟨expressible, less⟩ := failing
    -- A threshold at the smaller amount stops the greater one alone.
    have between : moneyGateApplies (.number (.finite other.amount)) gate = true := by
      simp [moneyGateApplies, finiteMoneyThreshold, toDecimal, less]
    have through := hardened _ between
    simp [moneyGateApplies, finiteMoneyThreshold, toDecimal, same, expressible] at through
  · rintro (unexpressible | le)
    · intro threshold applies
      rw [moneyGateApplies_unexpressible unexpressible] at applies
      rw [moneyGateApplies_unexpressible (same.trans unexpressible)]
      exact applies
    · exact fun threshold applies => moneyGateApplies_mono same le applies

end Gates

namespace SpendCheck

variable {check : SpendCheck}

theorem gate_eq (check : SpendCheck) : ∃ rate currency expressible, 0 ≤ rate ∧
    ∀ amount, check.gate amount = ⟨quantizeMoney (amount * rate), currency, expressible⟩ := by
  obtain ⟨rate, unconverted, nonneg, priced⟩ :=
    reportingAmountAtLockedRate_eq check.fields.currency (resolveReportingCurrency check.settings) check.lock
  refine ⟨rate, resolveReportingCurrency check.settings, !unconverted, nonneg, fun amount => ?_⟩
  simp only [gate, reportingGateAmount, priced]

theorem gate_expressible (a b : ℚ) : (check.gate a).expressible = (check.gate b).expressible := by
  obtain ⟨rate, currency, expressible, -, priced⟩ := check.gate_eq
  rw [priced, priced]

theorem gate_mono {a b : ℚ} (le : a ≤ b) : (check.gate a).amount ≤ (check.gate b).amount := by
  obtain ⟨rate, currency, expressible, nonneg, priced⟩ := check.gate_eq
  rw [priced, priced]
  exact quantizeMoney_mono (mul_le_mul_of_nonneg_right le nonneg)

theorem hardenedBy_iff {aggregate : ℚ} : check.HardenedBy aggregate ↔
    (check.gate check.fields.amount).expressible = false ∨
      (check.gate check.fields.amount).amount ≤ (check.gate aggregate).amount := by
  rw [← hardened_iff (gate_expressible aggregate check.fields.amount), HardenedBy]
  exact forall_congr' fun threshold => and_self_iff

theorem hardenedBy_self : check.HardenedBy check.fields.amount := hardenedBy_iff.mpr (.inr le_rfl)

theorem hardenedBy_add_iff {spend : ℚ} : check.HardenedBy (check.fields.amount + spend) ↔ check.DeductsNothing spend := by
  rw [hardenedBy_iff, DeductsNothing]
  by_cases nonneg : 0 ≤ spend
  · have le : check.fields.amount ≤ check.fields.amount + spend := by linarith
    exact iff_of_true (.inr (gate_mono le)) (.inl nonneg)
  · have le : check.fields.amount + spend ≤ check.fields.amount := by linarith
    have less : (check.gate (check.fields.amount + spend)).amount ≤ (check.gate check.fields.amount).amount := gate_mono le
    simp only [nonneg, false_or]
    exact or_congr_right ⟨fun kept => le_antisymm less kept, fun same => same.ge⟩

theorem vendorRecentSpend_eq_ok {history : List SpendRow} {now : Time} {windowDays : Json} {query : SpendQuery} {spend : ℚ} :
    vendorRecentSpend history now windowDays query = .ok spend ↔
      ∃ start, windowStart now windowDays = .ok start ∧ query.spendSince start history = spend := by
  rw [vendorRecentSpend, bind_eq_ok]
  simp only [pure_eq_ok]

/-- Where the human path measures an aggregate, the unattended one measures it too. -/
theorem resolveGateAggregate_of_enforced {aggregate : ℚ} (measured : check.enforcedAggregate = .ok aggregate) :
    check.resolveGateAggregate = .ok aggregate := by
  rw [enforcedAggregate] at measured
  rw [resolveGateAggregate]
  split at measured
  · cases measured
  · exact measured
  · rename_i query windowDays _
    cases answer : vendorRecentSpend check.history check.now windowDays query with
    | error raised =>
      rw [answer] at measured
      cases measured
    | ok recent =>
      rw [answer] at measured
      exact measured

/-- The aggregate only hardens the gates exactly where a lookup has a window that reaches back, and the other invoices take
nothing off the amount. -/
theorem aggregate_hardens_iff (check : SpendCheck) : check.AggregateHardens ↔ check.LookupSound := by
  cases queried : check.spendQuery with
  | error raised =>
    have fails : check.enforcedAggregate = .error raised := by simp [enforcedAggregate, queried]
    have alike : check.resolveGateAggregate = .error raised := by simp [resolveGateAggregate, queried]
    refine iff_of_true ⟨?_, ?_, fails.trans alike.symm⟩ fun _ _ found => ?_
    · simp [fails]
    · simp [alike]
    · rw [queried] at found
      cases found
  | ok lookup =>
    cases lookup with
    | none =>
      have bare : check.enforcedAggregate = .ok check.fields.amount := by simp [enforcedAggregate, queried]
      have alike : check.resolveGateAggregate = .ok check.fields.amount := by simp [resolveGateAggregate, queried]
      refine iff_of_true ⟨?_, ?_, bare.trans alike.symm⟩ fun _ _ found => ?_
      · intro aggregate measured
        rw [bare, Except.ok.injEq] at measured
        exact measured ▸ hardenedBy_self
      · intro aggregate measured
        rw [alike, Except.ok.injEq] at measured
        exact measured ▸ hardenedBy_self
      · rw [queried] at found
        cases found
    | some asked =>
      obtain ⟨query, windowDays⟩ := asked
      have sound : check.LookupSound ↔
          ∃ start, windowStart check.now windowDays = .ok start ∧ check.DeductsNothing (query.spendSince start check.history) := by
        constructor
        · intro sound
          exact sound query windowDays queried
        · intro answered other otherWindow found
          rw [queried, Except.ok.injEq, Option.some.injEq, Prod.mk.injEq] at found
          obtain ⟨rfl, rfl⟩ := found
          exact answered
      rw [sound]
      cases answer : vendorRecentSpend check.history check.now windowDays query with
      | error raised =>
        have fails : check.enforcedAggregate = .error raised := by simp [enforcedAggregate, queried, answer]
        have bare : check.resolveGateAggregate = .ok check.fields.amount := by simp [resolveGateAggregate, queried, answer]
        refine iff_of_false (fun hardens => ?_) ?_
        · have same := hardens.agree
          rw [fails, bare] at same
          cases same
        · rintro ⟨start, reached, -⟩
          have answered : vendorRecentSpend check.history check.now windowDays query = .ok _ :=
            vendorRecentSpend_eq_ok.mpr ⟨start, reached, rfl⟩
          rw [answer] at answered
          cases answered
      | ok spend =>
        obtain ⟨start, reached, total⟩ := vendorRecentSpend_eq_ok.mp answer
        have measured : check.enforcedAggregate = .ok (check.fields.amount + spend) := by
          simp [enforcedAggregate, queried, answer]
        have alike : check.resolveGateAggregate = .ok (check.fields.amount + spend) := by
          simp [resolveGateAggregate, queried, answer]
        have deducted : (∃ start, windowStart check.now windowDays = .ok start ∧
            check.DeductsNothing (query.spendSince start check.history)) ↔ check.DeductsNothing spend := by
          simp only [reached, Except.ok.injEq, exists_eq_left', total]
        rw [deducted, ← hardenedBy_add_iff]
        constructor
        · intro hardens
          exact hardens.enforced _ measured
        · intro hardened
          refine ⟨fun aggregate same => ?_, fun aggregate same => ?_, measured.trans alike.symm⟩
          · rw [measured, Except.ok.injEq] at same
            exact same ▸ hardened
          · rw [alike, Except.ok.injEq] at same
            exact same ▸ hardened

end SpendCheck

/-- An invoice over 60,000 beside a credit note of the day before over 55,000. -/
def creditedInvoice : SpendCheck where
  settings := ⟨[some "EUR"], true, 7⟩
  fraudRules := .null
  history := [⟨41, some 3, none, -55000, "EUR", .readyForReview, 1699913600000000⟩]
  now := 1700000000000000
  invoiceId := 42
  entityId := none
  fields := ⟨"Atlas Freight", some 3, 60000, "EUR", none, none, none, none, []⟩
  lock := .none

/-- A credit note in the window takes an invoice under a cap of 50,000 that it exceeds by itself. -/
theorem credit_lowers_aggregate : ¬∀ check : SpendCheck, check.AggregateHardens := by
  intro hardens
  have aggregate : creditedInvoice.resolveGateAggregate = .ok (60000 + (-55000 + 0)) := by rfl
  have home : resolveReportingCurrency creditedInvoice.settings = "EUR" := by decide
  have plain : pyUpper (pyStripText "EUR") = "EUR" ∧ creditedInvoice.fields.currency = "EUR" := by decide
  have priced (units : ℤ) : creditedInvoice.gate units = ⟨units, "EUR", true⟩ := by
    have cents : OnCents units := ⟨units * 100, by push_cast; ring⟩
    simp [SpendCheck.gate, reportingGateAmount, reportingAmountAtLockedRate, home, plain, cents.quantizeMoney_eq]
  have stopped : maxAmountGateApplies (.number (.finite 50000)) (creditedInvoice.gate 60000) = true := by
    have own := priced 60000
    norm_num at own
    rw [own]
    simp only [maxAmountGateApplies, moneyGateApplies, finiteMoneyThreshold, toDecimal, reduceCtorEq, if_false]
    norm_num
  have passed := ((hardens creditedInvoice).resolved _ aggregate (.number (.finite 50000))).1 stopped
  have together := priced 5000
  norm_num at together passed
  rw [together] at passed
  norm_num [maxAmountGateApplies, moneyGateApplies, finiteMoneyThreshold, toDecimal] at passed

end Payables
