import Payables.Approval.Gates
import Payables.Lib.Json
import Payables.Lib.Numerals
import Payables.Lib.Raising

namespace Payables
open Lib

/-- The values of `Decimal` that are no numerals: an infinity, or a `NaN` with a payload. -/
def specialDecimal? (negative : Bool) (body : List Char) : Option Decimal :=
  let folded := body.map Char.toLower
  let quiet := if folded.head? = some 's' then folded.drop 1 else folded
  if folded = "inf".toList ∨ folded = "infinity".toList then some (.infinite negative)
  else if "nan".toList.isPrefixOf quiet ∧ (quiet.drop 3).all Char.isDigit then some .nan
  else none

/-- `Decimal(text)`. -/
def decimalOf (text : List Char) : Option Decimal :=
  let body := (pyStrip text).filter (· != '_')
  match specialDecimal? (splitSign body).1 (splitSign body).2 with
  | some special => some special
  | none => (decimal? body).map .finite

/-- A configured money value, as `Decimal(str(raw))` reads it. -/
def rawMoney : Json → RawMoney
  | .null => .unset
  | raw =>
    match decimalOf raw.toText with
    | some value => .number value
    | none => .unparseable

/-- `bound <= amt`. -/
def Decimal.atMost (bound : Decimal) (amt : ℚ) : Except Raised Bool :=
  match bound with
  | .finite value => .ok (value ≤ amt)
  | .infinite negative => .ok negative
  | .nan => .error (.uncaught "InvalidOperation")

inductive CfoReason
  | aboveThreshold
  | thresholdUnparseable
  | amountNotExpressible
  deriving DecidableEq

structure CfoThresholdDecision where
  required : Bool
  reason : Option CfoReason
  threshold : Option Decimal
  evaluatedAmount : Option ℚ
  currency : String
  deriving DecidableEq

/-- `cfo_approval_decision`, of the value under `cfo_approval_above`. -/
def cfoApprovalDecision (raw : Json) (reportingAmount : ℚ) (reportingCurrency : String) (unconverted : Bool) :
    Except Raised CfoThresholdDecision := do
  let currency := pyUpper (pyStripText (if reportingCurrency = "" then "USD" else reportingCurrency))
  match rawMoney raw with
  | .unset => return ⟨false, none, none, none, currency⟩
  | .unparseable => return ⟨true, some .thresholdUnparseable, none, none, currency⟩
  | .number threshold =>
    if ← threshold.atMost 0 then
      return ⟨false, none, some threshold, none, currency⟩
    if unconverted then
      return ⟨true, some .amountNotExpressible, some threshold, none, currency⟩
    let over_ ← threshold.exceededBy reportingAmount
    return ⟨over_, if over_ then some .aboveThreshold else none, some threshold, some reportingAmount, currency⟩

/-- Nobody need approve: there is no threshold, a finite one that is no more than zero, or an amount that is known to be
no more than a finite one. -/
def Cleared (raw : Json) (amount : ℚ) (expressible : Bool) : Prop :=
  rawMoney raw = .unset ∨
    ∃ threshold, rawMoney raw = .number (.finite threshold) ∧ (threshold ≤ 0 ∨ expressible ∧ amount ≤ threshold)

/-- A bound that is no finite number excludes nobody. -/
def UsableBandAdmits (level : ChainLevel) (gate : GateAmount) : Prop :=
  gate.expressible → (∀ bound ∈ finiteMoneyThreshold level.minAmount, bound ≤ gate.amount) ∧
    ∀ bound ∈ finiteMoneyThreshold level.maxAmount, gate.amount ≤ bound

/-- The gates fail closed on a threshold and on the levels of a chain. -/
structure GatesFailClosed (raw : Json) (amount : ℚ) (currency : String) (unconverted : Bool) (gate : GateAmount)
    (attrs : RoutingAttrs) (chain : List ChainLevel) : Prop where
  decided : ∃ decision, cfoApprovalDecision raw amount currency unconverted = .ok decision ∧
    (decision.required = false → Cleared raw amount !unconverted)
  applied : moneyGateApplies (rawMoney raw) gate = false → Cleared raw gate.amount gate.expressible
  resolved : ∃ levels, resolveApplicableLevels gate attrs chain = .ok levels ∧
    ∀ level ∈ chain, levelRoutingMatches level attrs → UsableBandAdmits level gate → level ∈ levels

/-- A threshold that is a number or none, or positive infinity where the amount is not compared with it. -/
def ThresholdUsable (raw : Json) (unconverted : Bool) : Prop :=
  rawMoney raw ≠ .number .nan ∧ rawMoney raw ≠ .number (.infinite true) ∧
    (rawMoney raw = .number (.infinite false) → unconverted)

/-- No bound of a level is compared as a `NaN`, and none that is infinite excludes an amount that the other bound does
not exclude. -/
def BoundsUsable (level : ChainLevel) (gate : GateAmount) (attrs : RoutingAttrs) : Prop :=
  toDecimal level.minAmount ≠ some .nan ∧
    (toDecimal level.maxAmount = some .nan →
      ∃ bound, toDecimal level.minAmount = some bound ∧ bound.exceeds gate.amount = .ok true) ∧
    (levelRoutingMatches level attrs → UsableBandAdmits level gate →
      toDecimal level.minAmount ≠ some (.infinite false) ∧ toDecimal level.maxAmount ≠ some (.infinite true))

section Gates

variable {raw : Json} {amount : ℚ} {currency : String} {unconverted : Bool} {gate : GateAmount} {attrs : RoutingAttrs}
  {level : ChainLevel} {chain : List ChainLevel}

theorem decided_iff : (∃ decision, cfoApprovalDecision raw amount currency unconverted = .ok decision ∧
    (decision.required = false → Cleared raw amount !unconverted)) ↔ ThresholdUsable raw unconverted := by
  rw [ThresholdUsable, cfoApprovalDecision, Cleared]
  generalize rawMoney raw = money
  cases money with
  | unset => simp [pure, Except.pure]
  | unparseable => simp [pure, Except.pure]
  | number threshold =>
    cases threshold with
    | nan => simp [Decimal.atMost, bind, Except.bind]
    | infinite negative =>
      cases negative <;> cases unconverted <;> simp [Decimal.atMost, Decimal.exceededBy, bind, Except.bind, pure, Except.pure]
    | finite value =>
      by_cases positive : value ≤ 0
      · simp [Decimal.atMost, positive, bind, Except.bind, pure, Except.pure]
      · cases unconverted <;>
          simp [Decimal.atMost, Decimal.exceededBy, positive, bind, Except.bind, pure, Except.pure]

theorem applied (waived : moneyGateApplies (rawMoney raw) gate = false) : Cleared raw gate.amount gate.expressible := by
  rw [moneyGateApplies] at waived
  by_cases unset : rawMoney raw = .unset
  · exact .inl unset
  rw [if_neg unset, finiteMoneyThreshold] at waived
  cases money : toDecimal (rawMoney raw) with
  | none => simp [money] at waived
  | some threshold =>
    cases threshold with
    | nan => simp [money] at waived
    | infinite negative => simp [money] at waived
    | finite value =>
      have read : rawMoney raw = .number (.finite value) := by
        cases whole : rawMoney raw <;> simp_all [toDecimal]
      simp only [money, Bool.or_eq_false_iff, Bool.not_eq_false', decide_eq_false_iff_not, not_lt] at waived
      exact .inr ⟨value, read, .inr waived⟩

/-- The chain resolves where the band of each level does. -/
theorem resolveApplicableLevels_iff {levels : List ChainLevel} : resolveApplicableLevels gate attrs chain = .ok levels ↔
    (∀ level ∈ chain, ∃ admits, levelBandAdmits level gate = .ok admits) ∧
      levels = chain.filter fun level => levelBandAdmits level gate = .ok true && levelRoutingMatches level attrs := by
  induction chain generalizing levels with
  | nil => simp [resolveApplicableLevels, eq_comm]
  | cons level chain ih =>
    cases band : levelBandAdmits level gate with
    | error _ => simp [resolveApplicableLevels, band, bind, Except.bind]
    | ok admits =>
      cases rest : resolveApplicableLevels gate attrs chain with
      | error _ =>
        have stuck : ¬∀ other ∈ chain, ∃ admits, levelBandAdmits other gate = .ok admits :=
          fun fine => by simpa [rest] using ih.2 ⟨fine, rfl⟩
        refine iff_of_false (by simp [resolveApplicableLevels, band, rest, bind, Except.bind]) fun fine => ?_
        exact stuck fun other listed => fine.1 other (List.mem_cons_of_mem level listed)
      | ok others =>
        obtain ⟨fine, same⟩ := ih.1 rest
        have head : ∃ answer, levelBandAdmits level gate = .ok answer := ⟨admits, band⟩
        have whole : resolveApplicableLevels gate attrs (level :: chain) =
            .ok (if admits && levelRoutingMatches level attrs then level :: others else others) := by
          simp [resolveApplicableLevels, band, rest, bind, Except.bind, pure, Except.pure]
        rw [whole, List.forall_mem_cons, Except.ok.injEq, List.filter_cons]
        simp only [band, Except.ok.injEq, ← same]
        constructor
        · rintro rfl
          exact ⟨⟨⟨admits, rfl⟩, fine⟩, by simp⟩
        · rintro ⟨-, rfl⟩
          simp

/-- The band of one level answers, and admits what the usable bounds admit. -/
theorem bandAdmits_iff : ((∃ admits, levelBandAdmits level gate = .ok admits) ∧
    (levelRoutingMatches level attrs → UsableBandAdmits level gate → levelBandAdmits level gate = .ok true)) ↔
      (gate.expressible → BoundsUsable level gate attrs) := by
  by_cases expressible : gate.expressible
  · rw [levelBandAdmits, UsableBandAdmits, BoundsUsable, UsableBandAdmits, finiteMoneyThreshold, finiteMoneyThreshold]
    generalize toDecimal level.minAmount = minAmt
    generalize toDecimal level.maxAmount = maxAmt
    rcases minAmt with _ | (low | lowNegative | _) <;> rcases maxAmt with _ | (high | highNegative | _) <;>
      simp [expressible, Decimal.exceeds, Decimal.exceededBy, bind, Except.bind, pure, Except.pure] <;> grind
  · simp [levelBandAdmits, expressible, pure, Except.pure]

theorem resolved_iff : (∃ levels, resolveApplicableLevels gate attrs chain = .ok levels ∧
    ∀ level ∈ chain, levelRoutingMatches level attrs → UsableBandAdmits level gate → level ∈ levels) ↔
      (gate.expressible → ∀ level ∈ chain, BoundsUsable level gate attrs) := by
  constructor
  · rintro ⟨levels, resolves, kept⟩ expressible level listed
    obtain ⟨answers, rfl⟩ := resolveApplicableLevels_iff.1 resolves
    refine bandAdmits_iff.1 ⟨answers level listed, fun routed usable => ?_⟩ expressible
    have kept := (List.mem_filter.1 (kept level listed routed usable)).2
    simp only [Bool.and_eq_true, decide_eq_true_eq] at kept
    exact kept.1
  · intro usable
    have bands : ∀ level ∈ chain, (∃ admits, levelBandAdmits level gate = .ok admits) ∧
        (levelRoutingMatches level attrs → UsableBandAdmits level gate → levelBandAdmits level gate = .ok true) :=
      fun level listed => bandAdmits_iff.2 fun expressible => usable expressible level listed
    refine ⟨_, resolveApplicableLevels_iff.2 ⟨fun level listed => (bands level listed).1, rfl⟩, ?_⟩
    intro level listed routed admitted
    have band := (bands level listed).2 routed admitted
    exact List.mem_filter.2 ⟨listed, by simp [band, routed]⟩

end Gates

end Payables
