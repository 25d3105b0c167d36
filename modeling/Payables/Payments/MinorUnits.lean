import Payables.Payments.Judgements

namespace Payables

open Lib

/-- `_MINOR_UNIT_EXPONENTS`. -/
def minorUnitExponents : List (String × Nat) :=
  ["BIF", "CLP", "DJF", "GNF", "ISK", "JPY", "KMF", "KRW", "PYG", "RWF", "UGX", "UYI", "VND", "VUV", "XAF", "XOF",
      "XPF"].map (·, 0) ++
    ["BHD", "IQD", "JOD", "KWD", "LYD", "OMR", "TND"].map (·, 3)

/-- `exponent_for`. -/
def exponentFor (currency : String) : Nat := (minorUnitExponents.lookup (pyUpper (pyStripText currency))).getD 2

/-- `minor_units_to_decimal`, on a figure that parses. -/
def minorUnitsToDecimal (raw : Decimal) (currency : String) : Option Decimal :=
  match raw with
  | .finite value =>
    if |(roundHalfEven value : ℚ)| < 10 ^ 28 then some (.finite (roundHalfEven value / 10 ^ exponentFor currency)) else none
  | .infinite _ => none
  | .nan => some .nan

/-- `to_minor_units`. -/
def toMinorUnits (amount : ℚ) (currency : String) : Except Raised ℤ :=
  let scaled := amount * 10 ^ exponentFor currency
  if |(roundHalfAway scaled : ℚ)| < 10 ^ 28 then .ok (roundHalfAway scaled) else .error (.uncaught "InvalidOperation")

example : toMinorUnits (1 / 200) "USD" = .ok 1 ∧ toMinorUnits 5 "kwd " = .ok 5000 ∧ toMinorUnits 5000 "JPY" = .ok 5000 := by
  decide +kernel

/-- What a `NUMERIC(15, 2)` column holds. -/
structure StoredMoney where
  cents : ℤ
  fits : |cents| < 10 ^ 15

def StoredMoney.value (amount : StoredMoney) : ℚ := amount.cents / 100

theorem StoredMoney.onCents (amount : StoredMoney) : OnCents amount.value := ⟨amount.cents, rfl⟩

theorem StoredMoney.small (amount : StoredMoney) : |amount.value| < 10 ^ 13 := by
  have fits : |(amount.cents : ℚ)| < 10 ^ 15 := by exact_mod_cast amount.fits
  rw [value, abs_div, abs_of_pos (by norm_num : (0 : ℚ) < 100)]
  linarith

/-- A payment sent in minor units, and the settlement of the very same units read back and compared with it. -/
def SettlesCleanly (amount : ℚ) (currency : String) : Prop :=
  ∃ units settled verification, toMinorUnits amount currency = .ok units ∧
    minorUnitsToDecimal (.finite units) currency = some settled ∧
    verifySettlement (some settled) (some currency) ⟨amount, some currency, none, none⟩ = .ok verification ∧
    verification.outcome = .matched

theorem exponentFor_cases (currency : String) :
    exponentFor currency = 0 ∨ exponentFor currency = 2 ∨ exponentFor currency = 3 := by
  have listed : ∀ entry ∈ minorUnitExponents, entry.2 = 0 ∨ entry.2 = 3 := by decide
  cases found : minorUnitExponents.lookup (pyUpper (pyStripText currency)) with
  | none => exact .inr (.inl (by rw [exponentFor, found]; rfl))
  | some exponent =>
    obtain ⟨before, after, parts, -⟩ := List.lookup_eq_some_iff.mp found
    have entry := listed (pyUpper (pyStripText currency), exponent) (by simp [parts])
    rw [exponentFor, found, Option.getD_some]
    omega

theorem sameCurrency_self (currency : String) : sameCurrency (some currency) (some currency) = true := by
  simp [sameCurrency]

/-- A figure in the currency of the only leg matches where it is within a cent of it. -/
theorem verifySettlement_matched_iff {settled amount : ℚ} (currency : String) (settledCents : OnCents settled)
    (settledSmall : |settled| < 10 ^ 14) (cents : OnCents amount) (small : |amount| < 10 ^ 14) :
    (∃ verification, verifySettlement (some (.finite settled)) (some currency) ⟨amount, some currency, none, none⟩ =
      .ok verification ∧ verification.outcome = .matched) ↔ |settled - amount| ≤ 1 / 100 := by
  have apart : |settled - amount| < 10 ^ 26 := by
    have triangle := abs_sub settled amount
    linarith
  have legs : buildAuthorizedLegs ⟨amount, some currency, none, none⟩ = .ok [⟨amount, some currency, .target⟩] := by
    rw [buildAuthorizedLegs, quantizeCents_ok cents (by linarith)]
    rfl
  have usable : usableReportedAmount (.finite settled) = some settled := by
    rw [usableReportedAmount, quantizeCents_ok settledCents (by linarith)]
    rfl
  have variance := quantizeCents_ok (settledCents.sub cents) apart
  have compatible : compatibleLegs (some currency) [⟨amount, some currency, .target⟩] = [⟨amount, some currency, .target⟩] := by
    simp [compatibleLegs, sameCurrency_self]
  rw [verifySettlement_usable legs usable, compareSettlement, compatible]
  by_cases near : |settled - amount| ≤ 1 / 100
  · simp [near, variance, contextSubtract_exact apart, settlementAmountTolerance, bind, Except.bind, pure, Except.pure, -one_div]
  · simp [near, variance, contextSubtract_exact apart, settlementAmountTolerance, closestLeg, bind, Except.bind, pure,
      Except.pure, -one_div]

theorem toMinorUnits_ok (amount : StoredMoney) (currency : String) : ∃ units : ℤ,
    toMinorUnits amount.value currency = .ok units ∧ units = roundHalfAway (amount.value * 10 ^ exponentFor currency) ∧
      |(units : ℚ)| ≤ 10 ^ 16 := by
  have small := amount.small
  have scaled : |amount.value * 10 ^ exponentFor currency| ≤ ((10 ^ 16 : ℤ) : ℚ) := by
    rw [abs_mul, abs_of_pos (by positivity : (0 : ℚ) < 10 ^ exponentFor currency)]
    push_cast
    rcases exponentFor_cases currency with exponent | exponent | exponent <;> rw [exponent] <;> linarith
  have bound : |((roundHalfAway (amount.value * 10 ^ exponentFor currency) : ℤ) : ℚ)| ≤ 10 ^ 16 := by
    exact_mod_cast abs_roundHalfAway_le scaled
  exact ⟨_, if_pos (bound.trans_lt (by norm_num)), rfl, bound⟩

theorem minorUnitsToDecimal_units {units : ℤ} (small : |(units : ℚ)| ≤ 10 ^ 16) (currency : String) :
    minorUnitsToDecimal (.finite units) currency = some (.finite (units / 10 ^ exponentFor currency)) := by
  rw [minorUnitsToDecimal, roundHalfEven_intCast, if_pos (small.trans_lt (by norm_num))]

/-- What the round trip makes of an amount: itself, unless the currency has no minor unit. -/
theorem roundTrip_spec (amount : StoredMoney) (currency : String) : ∃ settled : ℚ,
    (SettlesCleanly amount.value currency ↔ |settled - amount.value| ≤ 1 / 100) ∧
      settled = if exponentFor currency = 0 then (roundHalfAway amount.value : ℚ) else amount.value := by
  obtain ⟨units, sent, rounded, bound⟩ := toMinorUnits_ok amount currency
  have small := amount.small
  have back : (units : ℚ) / 10 ^ exponentFor currency =
      if exponentFor currency = 0 then (roundHalfAway amount.value : ℚ) else amount.value := by
    rcases exponentFor_cases currency with exponent | exponent | exponent
    · rw [rounded, exponent, pow_zero, mul_one, div_one, if_pos rfl]
    · have cents : amount.value * 10 ^ 2 = (amount.cents : ℤ) := by
        rw [StoredMoney.value]
        ring
      rw [rounded, exponent, cents, roundHalfAway_intCast, if_neg (by omega), ← cents]
      ring
    · have mills : amount.value * 10 ^ 3 = ((amount.cents * 10 : ℤ) : ℚ) := by
        rw [StoredMoney.value]
        push_cast
        ring
      rw [rounded, exponent, mills, roundHalfAway_intCast, if_neg (by omega), ← mills]
      ring
  have settledCents : OnCents ((units : ℚ) / 10 ^ exponentFor currency) := by
    rw [back]
    split
    · exact ⟨roundHalfAway amount.value * 100, by push_cast; ring⟩
    · exact amount.onCents
  have settledSmall : |(units : ℚ) / 10 ^ exponentFor currency| < 10 ^ 14 := by
    rw [back]
    split
    · have whole : |amount.value| ≤ ((10 ^ 13 : ℤ) : ℚ) := by
        push_cast
        exact small.le
      have near : |((roundHalfAway amount.value : ℤ) : ℚ)| ≤ 10 ^ 13 := by exact_mod_cast abs_roundHalfAway_le whole
      linarith
    · linarith
  refine ⟨_, ?_, back⟩
  rw [← verifySettlement_matched_iff currency settledCents settledSmall amount.onCents (by linarith)]
  constructor
  · rintro ⟨sentUnits, settled, verification, sentOk, readOk, verified, matched⟩
    cases sent.symm.trans sentOk
    cases (minorUnitsToDecimal_units bound currency).symm.trans readOk
    exact ⟨verification, verified, matched⟩
  · rintro ⟨verification, verified, matched⟩
    exact ⟨units, _, verification, sent, minorUnitsToDecimal_units bound currency, verified, matched⟩

/-- A payment in a currency without a minor unit settles cleanly where its amount is whole, to a cent. -/
theorem settles_cleanly_iff (amount : StoredMoney) (currency : String) : SettlesCleanly amount.value currency ↔
    (exponentFor currency = 0 → ∃ whole : ℤ, |amount.value - whole| ≤ 1 / 100) := by
  obtain ⟨settled, clean, value⟩ := roundTrip_spec amount currency
  rw [clean, value]
  by_cases exponent : exponentFor currency = 0
  · simp only [exponent, if_true, forall_const]
    constructor
    · intro near
      exact ⟨roundHalfAway amount.value, by rwa [abs_sub_comm]⟩
    · rintro ⟨whole, near⟩
      rw [roundHalfAway_eq_of_near (near.trans_lt (by norm_num)), abs_sub_comm]
      exact near
  · simp [exponent]

/-- ¥100.50 goes out as 101 units. -/
theorem half_yen_mismatches : ¬∀ (amount : StoredMoney) (currency : String), SettlesCleanly amount.value currency := by
  intro clean
  obtain ⟨units, settled, verification, sent, read, verified, matched⟩ := clean ⟨10050, by decide⟩ "JPY"
  have sentUnits : toMinorUnits (StoredMoney.value ⟨10050, by decide⟩) "JPY" = .ok 101 := by decide +kernel
  have readUnits : minorUnitsToDecimal (.finite ((101 : ℤ) : ℚ)) "JPY" = some (.finite 101) := by decide +kernel
  have compared : verifySettlement (some (.finite 101)) (some "JPY")
      ⟨StoredMoney.value ⟨10050, by decide⟩, some "JPY", none, none⟩ =
      .ok ⟨.amountMismatch, some .amountDiffers, some (1 / 2), some (.finite 101), some "JPY",
        ⟨201 / 2, some "JPY", .target⟩⟩ := by decide +kernel
  cases sentUnits.symm.trans sent
  cases readUnits.symm.trans read
  cases compared.symm.trans verified
  exact absurd matched (by decide)

end Payables
