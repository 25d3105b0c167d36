import Payables.Money
import Payables.Payments.Settlement

namespace Payables

open Lib

theorem quantizeCents_ok {value : ℚ} (cents : OnCents value) (small : |value| < 10 ^ 26) :
    quantizeCents value = .ok value := by
  unfold quantizeCents
  rw [cents.quantizeMoney_eq, if_pos small]

theorem quantizeCents_spec {value cents : ℚ} (ok : quantizeCents value = .ok cents) :
    OnCents cents ∧ |cents| < 10 ^ 26 ∧ cents = quantizeMoney value := by
  unfold quantizeCents at ok
  split at ok
  next small =>
    cases ok
    exact ⟨quantizeMoney_onCents value, small, rfl⟩
  next => cases ok

theorem quantizeCents_wide {value : ℚ} (wide : 10 ^ 26 ≤ |value|) :
    quantizeCents value = .error (.uncaught "InvalidOperation") := by
  have scaled : ((10 ^ 28 : ℤ) : ℚ) ≤ |value * 100| := by
    rw [abs_mul, abs_of_pos (by norm_num : (0 : ℚ) < 100)]
    push_cast
    linarith
  have rounded : (10 ^ 28 : ℚ) ≤ |((roundHalfAway (value * 100) : ℤ) : ℚ)| := by
    exact_mod_cast le_abs_roundHalfAway scaled
  unfold quantizeCents
  rw [if_neg]
  rw [quantizeMoney_eq, abs_div, abs_of_pos (by norm_num : (0 : ℚ) < 100)]
  linarith

theorem contextSubtract_exact {a b : ℚ} (near : |a - b| < 10 ^ 26) : contextSubtract a b = a - b := if_pos near

/-- A difference too wide for the context stays too wide when it is rounded. -/
theorem le_abs_contextSubtract {a b : ℚ} (wide : 10 ^ 26 ≤ |a - b|) : 10 ^ 26 ≤ |contextSubtract a b| := by
  unfold contextSubtract
  rw [if_neg (not_lt.mpr wide)]
  rcases le_abs.mp wide with above | below
  · have rounded : (10 ^ 27 : ℤ) ≤ roundHalfEven ((a - b) * 10) := le_roundHalfEven (by push_cast; linarith)
    have cast : (10 ^ 27 : ℚ) ≤ roundHalfEven ((a - b) * 10) := by exact_mod_cast rounded
    exact le_abs.mpr (.inl (by linarith))
  · have rounded : roundHalfEven ((a - b) * 10) ≤ (-10 ^ 27 : ℤ) := roundHalfEven_le (by push_cast; linarith)
    have cast : (roundHalfEven ((a - b) * 10) : ℚ) ≤ -10 ^ 27 := by exact_mod_cast rounded
    exact le_abs.mpr (.inr (by linarith))

theorem abs_contextSubtract_lt_iff {a b : ℚ} : |contextSubtract a b| < 10 ^ 26 ↔ |a - b| < 10 ^ 26 := by
  constructor
  · intro small
    by_contra wide
    exact absurd (le_abs_contextSubtract (not_lt.mp wide)) (not_le.mpr small)
  · intro near
    rwa [contextSubtract_exact near]

/-- `9999999999999.98`, the largest leg next to which every figure in tolerance still fits the column. -/
def largestLeg : ℚ := 999999999999998 / 100

theorem largestLeg_onCents : OnCents largestLeg := ⟨999999999999998, by norm_num [largestLeg]⟩

def Authorization.WithinColumn (authorization : Authorization) : Prop :=
  |authorization.targetAmount| ≤ largestLeg ∧ ∀ amount ∈ authorization.sourceAmount, |amount| ≤ largestLeg

/-- What the legs of an authorization have in common. -/
def AuthorizedLeg.Exact (leg : AuthorizedLeg) : Prop := OnCents leg.amount ∧ |leg.amount| ≤ largestLeg

theorem quantizeCents_leg {amount : ℚ} (within : |amount| ≤ largestLeg) :
    ∃ cents, quantizeCents amount = .ok cents ∧ OnCents cents ∧ |cents| ≤ largestLeg := by
  have bound := abs_quantizeMoney_le largestLeg_onCents within
  have small : |quantizeMoney amount| < 10 ^ 26 := bound.trans_lt (by norm_num [largestLeg])
  exact ⟨_, if_pos small, quantizeMoney_onCents amount, bound⟩

theorem buildAuthorizedLegs_ok {authorization : Authorization} (within : authorization.WithinColumn) :
    ∃ target rest, buildAuthorizedLegs authorization = .ok (target :: rest) ∧
      ∀ leg ∈ target :: rest, leg.Exact := by
  obtain ⟨target, targetOk, targetExact⟩ := quantizeCents_leg within.1
  unfold buildAuthorizedLegs
  rw [targetOk]
  cases source : authorization.sourceAmount with
  | none => exact ⟨_, [], rfl, by simpa [AuthorizedLeg.Exact] using targetExact⟩
  | some amount =>
    obtain ⟨cents, ok, precise⟩ := quantizeCents_leg (within.2 amount source)
    simp only [ok, bind, Except.bind]
    split
    · exact ⟨_, [], rfl, by simpa [AuthorizedLeg.Exact] using targetExact⟩
    · exact ⟨_, [_], rfl, by simpa [AuthorizedLeg.Exact] using ⟨targetExact, precise⟩⟩

theorem closestLeg_spec (settled : ℚ) (first : AuthorizedLeg) (rest : List AuthorizedLeg) :
    closestLeg settled first rest ∈ first :: rest ∧ ∀ leg ∈ first :: rest,
      |contextSubtract settled (closestLeg settled first rest).amount| ≤ |contextSubtract settled leg.amount| := by
  unfold closestLeg
  induction rest generalizing first with
  | nil => simp
  | cons next rest ih =>
    rw [List.foldl_cons]
    split
    next closer =>
      obtain ⟨member, least⟩ := ih next
      refine ⟨List.mem_cons_of_mem _ member, List.forall_mem_cons.mpr ⟨?_, least⟩⟩
      exact (least next List.mem_cons_self).trans closer.le
    next farther =>
      obtain ⟨member, least⟩ := ih first
      obtain ⟨atFirst, others⟩ := List.forall_mem_cons.mp least
      refine ⟨?_, List.forall_mem_cons.mpr ⟨atFirst, List.forall_mem_cons.mpr ⟨?_, others⟩⟩⟩
      · exact List.cons_subset_cons first (List.subset_cons_self next rest) member
      · exact atFirst.trans (not_lt.mp farther)

theorem smallestLeg_mem (first : AuthorizedLeg) (rest : List AuthorizedLeg) :
    ∃ leg ∈ first :: rest, rest.foldl (fun least leg => min least leg.amount) first.amount = leg.amount := by
  induction rest generalizing first with
  | nil => exact ⟨first, List.mem_cons_self, rfl⟩
  | cons next rest ih =>
    rw [List.foldl_cons]
    rcases min_choice first.amount next.amount with least | least <;> rw [least]
    · obtain ⟨leg, member, smallest⟩ := ih first
      exact ⟨leg, List.cons_subset_cons first (List.subset_cons_self next rest) member, smallest⟩
    · obtain ⟨leg, member, smallest⟩ := ih next
      exact ⟨leg, List.mem_cons_of_mem first member, smallest⟩

/-- Every leg the report is compatible with is farther away than a difference may be. -/
def VarianceTooWide (settled : ℚ) (currency : Option String) (legs : List AuthorizedLeg) : Prop :=
  compatibleLegs currency legs ≠ [] ∧ ∀ leg ∈ compatibleLegs currency legs, 10 ^ 26 ≤ |settled - leg.amount|

section Comparison

variable {settled : ℚ} {currency : Option String} {target : AuthorizedLeg} {legs : List AuthorizedLeg}

/-- A verdict of `amount_mismatch`, `matched` or `currency_mismatch`, with what it was given for. -/
def ComparedTo (settled : ℚ) (candidates : List AuthorizedLeg) (verification : SettlementVerification) : Prop :=
  (verification.outcome = .currencyMismatch ∧ candidates = []) ∨
  (verification.outcome = .matched ∧ ∃ leg ∈ candidates, |settled - leg.amount| ≤ settlementAmountTolerance) ∨
  (verification.outcome = .amountMismatch ∧
    (∀ leg ∈ candidates, settlementAmountTolerance < |settled - leg.amount|) ∧
    ∃ leg ∈ candidates, verification.variance = some (settled - leg.amount))

/-- A comparison gives its verdict, unless its variance is too wide. -/
theorem compareSettlement_cases (cents : OnCents settled) (precise : ∀ leg ∈ legs, leg.Exact) :
    (VarianceTooWide settled currency legs ∧
      compareSettlement settled currency target legs = .error (.uncaught "InvalidOperation")) ∨
    (∃ verification, compareSettlement settled currency target legs = .ok verification ∧
      verification.settledAmount = some (.finite settled) ∧ verification.settledCurrency = currency ∧
      ¬VarianceTooWide settled currency legs ∧ ComparedTo settled (compatibleLegs currency legs) verification) := by
  have grid : ∀ leg ∈ compatibleLegs currency legs, OnCents (settled - leg.amount) :=
    fun leg member => cents.sub (precise leg (List.mem_of_mem_filter member)).1
  unfold compareSettlement VarianceTooWide
  cases candidates : compatibleLegs currency legs with
  | nil => exact .inr ⟨_, rfl, rfl, rfl, fun wide => wide.1 rfl, .inl ⟨rfl, rfl⟩⟩
  | cons first rest =>
    rw [candidates] at grid
    simp only [bind, Except.bind]
    cases found : (first :: rest).find? fun leg => |contextSubtract settled leg.amount| ≤ settlementAmountTolerance with
    | some leg =>
      have member := List.mem_of_find?_eq_some found
      have near : |contextSubtract settled leg.amount| ≤ settlementAmountTolerance := by
        simpa using List.find?_some found
      have small : |settled - leg.amount| < 10 ^ 26 :=
        abs_contextSubtract_lt_iff.mp (near.trans_lt (by norm_num [settlementAmountTolerance]))
      rw [contextSubtract_exact small] at near
      simp only [contextSubtract_exact small, quantizeCents_ok (grid leg member) small]
      refine .inr ⟨_, rfl, rfl, rfl, ?_, .inr (.inl ⟨rfl, leg, member, near⟩)⟩
      exact fun wide => absurd (wide.2 leg member) (not_le.mpr small)
    | none =>
      have apart : ∀ other ∈ first :: rest, settlementAmountTolerance < |settled - other.amount| := by
        intro other member
        have far := List.find?_eq_none.mp found other member
        simp only [decide_eq_true_eq, not_le] at far
        by_cases small : |settled - other.amount| < 10 ^ 26
        · rwa [contextSubtract_exact small] at far
        · exact (by norm_num [settlementAmountTolerance] : settlementAmountTolerance < 10 ^ 26).trans_le (not_lt.mp small)
      obtain ⟨member, least⟩ := closestLeg_spec settled first rest
      by_cases small : |settled - (closestLeg settled first rest).amount| < 10 ^ 26
      · simp only [contextSubtract_exact small, quantizeCents_ok (grid _ member) small]
        refine .inr ⟨_, rfl, rfl, rfl, ?_, .inr (.inr ⟨rfl, apart, _, member, rfl⟩)⟩
        exact fun wide => absurd (wide.2 _ member) (not_le.mpr small)
      · have wide := le_abs_contextSubtract (not_lt.mp small)
        refine .inl ⟨⟨List.cons_ne_nil first rest, fun leg legMember => ?_⟩, ?_⟩
        · have far := wide.trans (least leg legMember)
          by_contra near
          exact absurd (abs_contextSubtract_lt_iff.mpr (not_le.mp near)) (not_lt.mpr far)
        · simp only [quantizeCents_wide wide]

theorem usableReportedAmount_cents (cents : OnCents settled) (small : |settled| < 10 ^ 26) :
    usableReportedAmount (.finite settled) = some settled := by
  rw [usableReportedAmount, quantizeCents_ok cents small]
  rfl

theorem fitsSettledAmount_cents (cents : OnCents settled) (small : |settled| < 10 ^ 26) :
    fitsSettledAmount (.finite settled) ↔ |settled| < 10 ^ 13 := by
  unfold fitsSettledAmount
  simp only
  rw [quantizeCents_ok cents small]
  exact decide_eq_true_iff

/-- What the columns hold after a usable figure. -/
theorem record_cents {verification : SettlementVerification} (cents : OnCents settled) (small : |settled| < 10 ^ 26)
    (figure : verification.settledAmount = some (.finite settled)) :
    SettlementColumns.blank.record verification =
      if |settled| < 10 ^ 13 then ⟨some settled, verification.settledCurrency, false⟩
      else ⟨none, verification.settledCurrency, true⟩ := by
  unfold SettlementColumns.record persistableSettledAmount
  rw [figure]
  simp only [usableReportedAmount_cents cents small, fitsSettledAmount_cents cents small, reduceCtorEq, if_false]
  by_cases fits : |settled| < 10 ^ 13
  · simp only [if_pos fits, cents.quantizeMoney_eq, SettlementColumns.blank]
  · simp only [if_neg fits, SettlementColumns.blank]

theorem settlementCoverage_cases {authorization : Authorization} (legsOk : buildAuthorizedLegs authorization = .ok legs)
    (precise : ∀ leg ∈ legs, leg.Exact) (cents : OnCents settled) (fits : |settled| < 10 ^ 13) :
    (compatibleLegs currency legs = [] ∧
      settlementCoverage ⟨some settled, currency, false⟩ authorization = .ok ⟨.uncertain, some .currencyUnknown, none⟩) ∨
    (∃ leg ∈ compatibleLegs currency legs, leg.amount - settlementAmountTolerance ≤ settled ∧
      settlementCoverage ⟨some settled, currency, false⟩ authorization = .ok ⟨.covered, none, none⟩) ∨
    (∃ shortfall, compatibleLegs currency legs ≠ [] ∧
      (∀ leg ∈ compatibleLegs currency legs, settled < leg.amount - settlementAmountTolerance) ∧
      settlementCoverage ⟨some settled, currency, false⟩ authorization =
        .ok ⟨.short, some .settledShort, some shortfall⟩) := by
  have small : |settled| < 10 ^ 26 := fits.trans (by norm_num)
  have legExact : ∀ leg ∈ compatibleLegs currency legs, leg.Exact :=
    fun leg member => precise leg (List.mem_of_mem_filter member)
  have owed : ∀ leg ∈ compatibleLegs currency legs,
      contextSubtract leg.amount settlementAmountTolerance = leg.amount - settlementAmountTolerance := by
    intro leg member
    have bound := abs_le.mp (legExact leg member).2
    norm_num [largestLeg] at bound
    refine contextSubtract_exact (abs_lt.mpr ?_)
    norm_num [settlementAmountTolerance]
    constructor <;> linarith
  unfold settlementCoverage
  simp only [legsOk, bind, Except.bind, Bool.false_eq_true, if_false, quantizeCents_ok cents small]
  cases candidates : compatibleLegs currency legs with
  | nil => exact .inl ⟨rfl, rfl⟩
  | cons first rest =>
    rw [candidates] at owed legExact
    right
    simp only
    by_cases covers : ∃ leg ∈ first :: rest, leg.amount - settlementAmountTolerance ≤ settled
    · obtain ⟨leg, member, enough⟩ := covers
      refine .inl ⟨leg, member, enough, if_pos (List.any_eq_true.mpr ⟨leg, member, ?_⟩)⟩
      rw [owed leg member]
      exact decide_eq_true enough
    · push Not at covers
      obtain ⟨leg, member, smallest⟩ := smallestLeg_mem first rest
      have bound := abs_le.mp (legExact leg member).2
      have range := abs_lt.mp fits
      norm_num [largestLeg] at bound
      have near : |leg.amount - settled| < 10 ^ 26 := abs_lt.mpr ⟨by linarith, by linarith⟩
      have shortOk : quantizeCents (contextSubtract leg.amount settled) = .ok (leg.amount - settled) := by
        rw [contextSubtract_exact near]
        exact quantizeCents_ok ((legExact leg member).1.sub cents) near
      refine .inr ⟨leg.amount - settled, List.cons_ne_nil first rest, covers, ?_⟩
      rw [if_neg, smallest, shortOk]
      · rfl
      · intro covered
        obtain ⟨other, otherMember, enough⟩ := List.any_eq_true.mp covered
        rw [owed other otherMember] at enough
        exact absurd (of_decide_eq_true enough) (not_le.mpr (covers other otherMember))

/-- The coverage that is read off the columns which hold a usable figure. -/
theorem coverage_recorded {authorization : Authorization} {verification : SettlementVerification}
    (legsOk : buildAuthorizedLegs authorization = .ok legs) (precise : ∀ leg ∈ legs, leg.Exact)
    (cents : OnCents settled) (small : |settled| < 10 ^ 26)
    (figure : verification.settledAmount = some (.finite settled)) (reportedIn : verification.settledCurrency = currency) :
    ∃ coverage, settlementCoverage (SettlementColumns.blank.record verification) authorization = .ok coverage ∧
      ((coverage.state = .uncertain ∧ (compatibleLegs currency legs = [] ∨ ¬|settled| < 10 ^ 13)) ∨
       (coverage.state = .covered ∧ |settled| < 10 ^ 13 ∧
          ∃ leg ∈ compatibleLegs currency legs, leg.amount - settlementAmountTolerance ≤ settled) ∨
       (coverage.state = .short ∧ |settled| < 10 ^ 13 ∧ compatibleLegs currency legs ≠ [] ∧
          ∀ leg ∈ compatibleLegs currency legs, settled < leg.amount - settlementAmountTolerance)) := by
  rw [record_cents cents small figure, reportedIn]
  by_cases fits : |settled| < 10 ^ 13
  · rw [if_pos fits]
    rcases settlementCoverage_cases legsOk precise cents fits with ⟨nothing, ok⟩ | ⟨leg, member, enough, ok⟩ | ⟨gap, candidate, low, ok⟩
    · exact ⟨_, ok, .inl ⟨rfl, .inl nothing⟩⟩
    · exact ⟨_, ok, .inr (.inl ⟨rfl, fits, leg, member, enough⟩)⟩
    · exact ⟨_, ok, .inr (.inr ⟨rfl, fits, candidate, low⟩)⟩
  · rw [if_neg fits]
    exact ⟨_, rfl, .inl ⟨rfl, .inr fits⟩⟩

end Comparison

theorem fitsSettledAmount_usable {figure : Decimal} {settled : ℚ} (usable : usableReportedAmount figure = some settled) :
    OnCents settled ∧ |settled| < 10 ^ 26 ∧ (fitsSettledAmount figure ↔ |settled| < 10 ^ 13) := by
  cases figure with
  | finite value =>
    have rounds : quantizeCents value = .ok settled := by
      simp only [usableReportedAmount] at usable
      cases result : quantizeCents value with
      | ok cents =>
        rw [result] at usable
        exact congrArg Except.ok (Option.some.inj usable)
      | error raised =>
        rw [result] at usable
        cases usable
    obtain ⟨cents, small, -⟩ := quantizeCents_spec rounds
    refine ⟨cents, small, ?_⟩
    unfold fitsSettledAmount
    simp only
    rw [rounds]
    exact decide_eq_true_iff
  | infinite negative => cases usable
  | nan => cases usable

/-- What a verdict and the coverage that is read later say about one report. -/
structure VerdictsAgree (reported : Option Decimal) (verification : SettlementVerification)
    (coverage : SettlementCoverage) : Prop where
  matched_covered : verification.outcome = .matched → coverage.state = .covered
  short_mismatch : coverage.state = .short →
    verification.outcome = .amountMismatch ∧ ∃ variance ∈ verification.variance, variance < 0
  uncertain_iff : coverage.state = .uncertain ↔ verification.outcome = .currencyMismatch ∨
    ∃ figure ∈ reported, usableReportedAmount figure = none ∨ ¬fitsSettledAmount figure
  unusable_not_covered : (∃ figure ∈ reported, usableReportedAmount figure = none) → coverage.state ≠ .covered
  silent_covered : reported = none → verification.outcome = .unverified ∧ coverage.state = .covered

/-- The verification returns a verdict, the coverage of the columns that are stored for it is known, and
the two agree. -/
def JudgementsAgree (reported : Option Decimal) (currency : Option String) (authorization : Authorization) : Prop :=
  ∃ verification coverage, verifySettlement reported currency authorization = .ok verification ∧
    settlementCoverage (SettlementColumns.blank.record verification) authorization = .ok coverage ∧
    VerdictsAgree reported verification coverage

/-- A usable figure is too wide to be compared with any leg it is compatible with. -/
def ReportTooWide (reported : Option Decimal) (currency : Option String) (authorization : Authorization) : Prop :=
  ∃ figure ∈ reported, ∃ settled ∈ usableReportedAmount figure,
    ∃ legs, buildAuthorizedLegs authorization = .ok legs ∧ VarianceTooWide settled currency legs

section Agreement

variable {currency : Option String} {authorization : Authorization} {target : AuthorizedLeg} {rest : List AuthorizedLeg}

theorem verifySettlement_none (legsOk : buildAuthorizedLegs authorization = .ok (target :: rest)) :
    verifySettlement none currency authorization = .ok ⟨.unverified, some .reportedNoAmount, none, none,
      if currency = some "" then none else currency, target⟩ := by
  unfold verifySettlement
  rw [legsOk]
  rfl

theorem verifySettlement_unusable {figure : Decimal} (legsOk : buildAuthorizedLegs authorization = .ok (target :: rest))
    (unusable : usableReportedAmount figure = none) : verifySettlement (some figure) currency authorization =
      .ok ⟨.unverified, some .reportedUnusableAmount, none, some figure, currency, target⟩ := by
  simp only [verifySettlement, legsOk, bind, Except.bind, unusable]
  rfl

theorem verifySettlement_usable {figure : Decimal} {settled : ℚ}
    (legsOk : buildAuthorizedLegs authorization = .ok (target :: rest)) (usable : usableReportedAmount figure = some settled) :
    verifySettlement (some figure) currency authorization = compareSettlement settled currency target (target :: rest) := by
  simp only [verifySettlement, legsOk, bind, Except.bind, usable]
  rfl

theorem judgementsAgree_none (legsOk : buildAuthorizedLegs authorization = .ok (target :: rest)) :
    JudgementsAgree none currency authorization := by
  refine ⟨_, ⟨.covered, some .noSettledAmount, none⟩, verifySettlement_none legsOk, rfl, ?_⟩
  constructor <;> simp

theorem judgementsAgree_unusable {figure : Decimal} (legsOk : buildAuthorizedLegs authorization = .ok (target :: rest))
    (unusable : usableReportedAmount figure = none) : JudgementsAgree (some figure) currency authorization := by
  have held : persistableSettledAmount (some figure) = (none, true) := by
    simp only [persistableSettledAmount, unusable, if_true]
  refine ⟨_, ⟨.uncertain, some .settledAmountUnstorable, none⟩, verifySettlement_unusable legsOk unusable, ?_, ?_⟩
  · unfold SettlementColumns.record
    rw [held]
    rfl
  · constructor <;> simp [unusable]

/-- What the comparison says of a stored figure fits what the coverage says of it. -/
theorem comparedTo_coverage {settled : ℚ} {candidates : List AuthorizedLeg} {verification : SettlementVerification}
    {coverage : SettlementCoverage} (precise : ∀ leg ∈ candidates, leg.Exact) (verdict : ComparedTo settled candidates verification)
    (states : (coverage.state = .uncertain ∧ (candidates = [] ∨ ¬|settled| < 10 ^ 13)) ∨
      (coverage.state = .covered ∧ |settled| < 10 ^ 13 ∧
        ∃ leg ∈ candidates, leg.amount - settlementAmountTolerance ≤ settled) ∨
      (coverage.state = .short ∧ |settled| < 10 ^ 13 ∧ candidates ≠ [] ∧
        ∀ leg ∈ candidates, settled < leg.amount - settlementAmountTolerance)) :
    (verification.outcome = .matched → coverage.state = .covered) ∧
    (coverage.state = .short → verification.outcome = .amountMismatch ∧ ∃ variance ∈ verification.variance, variance < 0) ∧
    (coverage.state = .uncertain ↔ verification.outcome = .currencyMismatch ∨ ¬|settled| < 10 ^ 13) := by
  rcases verdict with ⟨outcome, nothing⟩ | ⟨outcome, leg, member, near⟩ | ⟨outcome, apart, leg, member, variance⟩
  · subst nothing
    rcases states with ⟨state, -⟩ | ⟨-, -, leg, member, -⟩ | ⟨-, -, candidate, -⟩
    · simp [outcome, state]
    · cases member
    · exact absurd rfl candidate
  · have bound := abs_le.mp (precise leg member).2
    have close := abs_le.mp near
    norm_num [largestLeg, settlementAmountTolerance] at bound close
    have fits : |settled| < 10 ^ 13 := abs_lt.mpr ⟨by linarith, by linarith⟩
    rcases states with ⟨-, nothing | wide⟩ | ⟨state, -⟩ | ⟨-, -, -, low⟩
    · rw [nothing] at member
      cases member
    · exact absurd fits wide
    · simp [outcome, state, fits]
    · have far := low leg member
      norm_num [settlementAmountTolerance] at far
      linarith
  · rcases states with ⟨state, nothing | wide⟩ | ⟨state, fits, -⟩ | ⟨state, fits, -, low⟩
    · rw [nothing] at member
      cases member
    · simp [outcome, state, wide]
    · simp [outcome, state, fits]
    · have negative : settled - leg.amount < 0 := by
        have far := low leg member
        norm_num [settlementAmountTolerance] at far
        linarith
      simp [outcome, state, fits, variance, negative]

theorem judgementsAgree_usable {figure : Decimal} {settled : ℚ}
    (legsOk : buildAuthorizedLegs authorization = .ok (target :: rest)) (precise : ∀ leg ∈ target :: rest, leg.Exact)
    (usable : usableReportedAmount figure = some settled) :
    JudgementsAgree (some figure) currency authorization ↔ ¬VarianceTooWide settled currency (target :: rest) := by
  obtain ⟨cents, small, fitsIff⟩ := fitsSettledAmount_usable usable
  have unstorable : (∃ other ∈ some figure, usableReportedAmount other = none ∨ ¬fitsSettledAmount other) ↔
      ¬|settled| < 10 ^ 13 := by
    rw [← not_congr fitsIff]
    simp [usable]
  unfold JudgementsAgree
  simp only [verifySettlement_usable legsOk usable]
  rcases compareSettlement_cases cents precise with ⟨wide, raised⟩ | ⟨verification, ok, stored, reportedIn, narrow, verdict⟩
  · rw [raised]
    simp [wide]
  · obtain ⟨coverage, read, states⟩ := coverage_recorded legsOk precise cents small stored reportedIn
    refine ⟨fun _ => narrow, fun _ => ⟨verification, coverage, ok, read, ?_⟩⟩
    have legExact : ∀ leg ∈ compatibleLegs currency (target :: rest), leg.Exact :=
      fun leg member => precise leg (List.mem_of_mem_filter member)
    obtain ⟨matched, short, uncertain⟩ := comparedTo_coverage legExact verdict states
    refine ⟨matched, short, uncertain.trans (or_congr_right unstorable.symm), ?_, ?_⟩
    · rintro ⟨other, member, nothing⟩
      cases member
      rw [usable] at nothing
      cases nothing
    · intro nothing
      cases nothing

/-- The three judgements agree on every report that is not too wide to be compared. -/
theorem settlement_judgements_agree_iff (reported : Option Decimal) (currency : Option String)
    (authorization : Authorization) (within : authorization.WithinColumn) :
    JudgementsAgree reported currency authorization ↔ ¬ReportTooWide reported currency authorization := by
  obtain ⟨target, rest, legsOk, precise⟩ := buildAuthorizedLegs_ok within
  unfold ReportTooWide
  simp only [legsOk, Except.ok.injEq, exists_eq_left']
  cases reported with
  | none => simp [judgementsAgree_none legsOk]
  | some figure =>
    cases usable : usableReportedAmount figure with
    | none => simp [judgementsAgree_unusable legsOk usable, usable]
    | some settled => simp [judgementsAgree_usable legsOk precise usable, usable]

/-- A short report in the currency of the payment is compared, stored and held. -/
theorem settlement_judgements_agree_ninety :
    JudgementsAgree (some (.finite 90)) (some "usd") ⟨100, some "USD", none, none⟩ := by
  refine (settlement_judgements_agree_iff _ _ _ ⟨by norm_num [largestLeg], by simp⟩).mpr ?_
  rintro ⟨figure, member, settled, usable, legs, legsOk, -, wide⟩
  cases member
  have ninety : settled = 90 := by
    have value : usableReportedAmount (.finite 90) = some 90 := by decide +kernel
    rw [value] at usable
    exact (Option.some.inj usable).symm
  have single : legs = [⟨100, some "USD", .target⟩] := by
    have value : buildAuthorizedLegs ⟨100, some "USD", none, none⟩ = .ok [⟨100, some "USD", .target⟩] := by decide +kernel
    rw [value] at legsOk
    exact (Except.ok.inj legsOk).symm
  subst ninety single
  have far := wide ⟨100, some "USD", .target⟩ (by decide)
  norm_num at far

/-- A figure that is usable, and that no leg can be subtracted from: the verification raises. -/
theorem settlement_judgements_disagree :
    ¬JudgementsAgree (some (.finite (-9999999999999999999999999999 / 100))) none ⟨100, some "USD", none, none⟩ := by
  have raises : verifySettlement (some (.finite (-9999999999999999999999999999 / 100))) none ⟨100, some "USD", none, none⟩ =
      .error (.uncaught "InvalidOperation") := by decide +kernel
  rintro ⟨verification, coverage, ok, -, -⟩
  rw [raises] at ok
  cases ok

end Agreement

end Payables
