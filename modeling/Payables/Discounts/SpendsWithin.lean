import Mathlib.Data.List.Sort
import Payables.Discounts.Optimizer
import Payables.Lib.Sql

namespace Payables.Discounts
open Lib

section Claim

variable (cashBudget : Option ℚ) (costOfCapitalPct : ℚ) (today : Day) (reportingCurrency : Option String)

/-- What the result of an optimization has to do with its opportunities. -/
structure SpendsWithin (opportunities : List OfferOpportunity) (result : OptimizationResult) : Prop where
  within : ∀ budget ∈ cashBudget, result.totalOutlaySelected ≤ budget
  convertible : cashBudget.isSome = true → ∀ rec ∈ result.recommendations, rec.selected = true →
    rec.opportunity.unconvertible reportingCurrency = false
  outlay : result.totalOutlaySelected = ((result.recommendations.filter fun rec =>
    rec.selected && !rec.opportunity.unconvertible reportingCurrency).map fun rec => rec.opportunity.outlay costOfCapitalPct).sum
  saved : result.totalSavingsSelected = ((result.recommendations.filter fun rec =>
    rec.selected && !rec.opportunity.unconvertible reportingCurrency).map fun rec => (rec.opportunity.roi costOfCapitalPct).savings).sum
  available : result.totalSavingsAvailable = ((result.recommendations.filter fun rec =>
    rec.opportunity.eligible costOfCapitalPct today && !rec.opportunity.unconvertible reportingCurrency).map
      fun rec => (rec.opportunity.roi costOfCapitalPct).savings).sum
  sound : ∀ rec ∈ result.recommendations ++ result.unrankable, rec.selected = true →
    rec.opportunity.dueDate.isSome = true ∧ today ≤ rec.opportunity.payBy ∧
      (rec.opportunity.roi costOfCapitalPct).worthwhile = some true
  maximal : ∀ rec ∈ result.recommendations, rec.opportunity.eligible costOfCapitalPct today = true →
    rec.opportunity.unconvertible reportingCurrency = false → rec.selected = false →
      ∃ budget ∈ cashBudget, budget - result.totalOutlaySelected < rec.opportunity.outlay costOfCapitalPct
  scored : ∀ rec ∈ result.recommendations ++ result.unrankable, rec.roi = rec.opportunity.roi costOfCapitalPct ∧
    rec.unconvertible = rec.opportunity.unconvertible reportingCurrency
  ranked : ∀ rec ∈ result.recommendations, rec.opportunity.dueDate.isSome = true
  unranked : ∀ rec ∈ result.unrankable, rec.opportunity.dueDate = none
  parts : ((result.recommendations ++ result.unrankable).map (·.opportunity)).Perm opportunities

end Claim

section Outlay

/-- A result of the default context stays below an amount of cents that is short enough. -/
theorem contextRound_le_cents {value : ℚ} {cents : ℤ} (nonneg : 0 ≤ value) (short : cents < 10 ^ 25) (within : value ≤ cents / 100) :
    contextRound value ≤ cents / 100 := by
  rcases nonneg.eq_or_lt with rfl | positive
  · rw [contextRound_zero]
    exact within
  have unit := contextUnit_pos value
  -- the last digit that is kept is worth a cent at most
  obtain ⟨finer, power⟩ : ∃ finer : ℕ, (Int.log 10 |value| - 27) = -2 - finer := by
    have below : |value| < ((10 : ℕ) : ℚ) ^ (23 : ℤ) := by
      have bound : (cents : ℚ) < 10 ^ 25 := by exact_mod_cast short
      rw [abs_of_pos positive]
      norm_num at bound ⊢
      linarith
    have log := (Int.lt_zpow_iff_log_lt (by norm_num) (abs_pos.mpr positive.ne')).mp below
    exact ⟨(25 - Int.log 10 |value|).toNat, by omega⟩
  have whole : (cents : ℚ) / 100 = ((cents * 10 ^ finer : ℤ) : ℚ) * 10 ^ (Int.log 10 |value| - 27) := by
    rw [power, zpow_sub₀ (by norm_num : (10 : ℚ) ≠ 0), zpow_natCast]
    push_cast
    rw [mul_div_assoc', mul_right_comm, mul_div_assoc, div_self (by positivity), mul_one]
    norm_num
    ring
  rw [whole] at within ⊢
  have rounded : roundHalfEven (value / 10 ^ (Int.log 10 |value| - 27)) ≤ cents * 10 ^ finer :=
    roundHalfEven_le ((div_le_iff₀ unit).mpr within)
  exact mul_le_mul_of_nonneg_right (by exact_mod_cast rounded) unit.le

theorem OfferOpportunity.outlay_nonneg (costOfCapitalPct : ℚ) (opp : OfferOpportunity) (base : 0 ≤ opp.baseAmount.value)
    (low : 0 ≤ opp.discountPercent) (high : opp.discountPercent ≤ 100) : 0 ≤ opp.outlay costOfCapitalPct := by
  have size : opp.baseAmount.cents < 10 ^ 15 := (abs_lt.mp opp.baseAmount.fits).2
  have product : contextRound (opp.baseAmount.value * opp.discountPercent) ≤ (100 * opp.baseAmount.cents : ℤ) / 100 := by
    refine contextRound_le_cents (mul_nonneg base low) (by omega) ?_
    have scaled := mul_le_mul_of_nonneg_left high base
    rw [StoredMoney.value] at scaled ⊢
    push_cast
    linarith
  have positive := contextRound_nonneg (mul_nonneg base low)
  have quotient : contextRound (contextRound (opp.baseAmount.value * opp.discountPercent) / 100) ≤ opp.baseAmount.cents / 100 := by
    refine contextRound_le_cents (by positivity) (by omega) ?_
    push_cast at product
    linarith
  have nonneg : 0 ≤ contextRound (contextRound (opp.baseAmount.value * opp.discountPercent) / 100) :=
    contextRound_nonneg (by positivity)
  have savings := abs_quantizeMoney_le opp.baseAmount.onCents ((abs_of_nonneg nonneg).trans_le quotient)
  have parts : opp.outlay costOfCapitalPct =
      opp.baseAmount.value - roiSavings opp.baseAmount.value opp.discountPercent := by
    rw [OfferOpportunity.outlay, OfferOpportunity.roi, computeRoi_baseAmount, computeRoi_savings,
      opp.baseAmount.onCents.quantizeMoney_eq]
  rw [parts]
  exact sub_nonneg.mpr ((le_abs_self _).trans savings)

end Outlay

section Loop

variable {cashBudget : Option ℚ} {costOfCapitalPct : ℚ} {today : Day} {reportingCurrency : Option String}

/-- What one opportunity adds to the outlay. -/
theorem next_outlay (tally : Tally) (opp : OfferOpportunity) :
    (tally.next cashBudget costOfCapitalPct today reportingCurrency opp).cumulativeOutlay = tally.cumulativeOutlay +
      if tally.selects cashBudget costOfCapitalPct today reportingCurrency opp && !opp.unconvertible reportingCurrency then
        opp.outlay costOfCapitalPct else 0 := rfl

theorem next_within {budget : ℚ} {tally : Tally} (within : tally.cumulativeOutlay ≤ budget) (opp : OfferOpportunity) :
    (tally.next (some budget) costOfCapitalPct today reportingCurrency opp).cumulativeOutlay ≤ budget := by
  rw [next_outlay]
  split
  next counted =>
    have selects := (Bool.and_eq_true_iff.mp (Bool.and_eq_true_iff.mp counted).1).2
    have fits := (Bool.and_eq_true_iff.mp selects).2
    exact of_decide_eq_true fits
  next => rwa [add_zero]

theorem foldl_within {budget : ℚ} (opps : List OfferOpportunity) {tally : Tally} (within : tally.cumulativeOutlay ≤ budget) :
    (opps.foldl (Tally.next (some budget) costOfCapitalPct today reportingCurrency) tally).cumulativeOutlay ≤ budget := by
  induction opps generalizing tally with
  | nil => exact within
  | cons opp rest ih => exact ih (next_within within opp)

theorem le_foldl_outlay (opps : List OfferOpportunity) (nonneg : ∀ opp ∈ opps, 0 ≤ opp.outlay costOfCapitalPct) (tally : Tally) :
    tally.cumulativeOutlay ≤
      (opps.foldl (Tally.next cashBudget costOfCapitalPct today reportingCurrency) tally).cumulativeOutlay := by
  induction opps generalizing tally with
  | nil => exact le_rfl
  | cons opp rest ih =>
    obtain ⟨first, others⟩ := List.forall_mem_cons.mp nonneg
    refine le_trans ?_ (ih others _)
    rw [next_outlay]
    split
    · exact le_add_of_nonneg_right first
    · exact (add_zero _).ge

/-- A loop that starts anywhere ranks its opportunities in their order. -/
theorem map_recommend (opps : List OfferOpportunity) (tally : Tally) :
    (recommend cashBudget costOfCapitalPct today reportingCurrency tally opps).map (·.opportunity) = opps := by
  induction opps generalizing tally with
  | nil => rfl
  | cons opp rest ih => rw [recommend, List.map_cons, ih]

/-- A recommendation was decided at some tally of the loop. -/
theorem mem_recommend {opps : List OfferOpportunity} {tally : Tally} {rec : Recommendation}
    (member : rec ∈ recommend cashBudget costOfCapitalPct today reportingCurrency tally opps) :
    rec.roi = rec.opportunity.roi costOfCapitalPct ∧ rec.unconvertible = rec.opportunity.unconvertible reportingCurrency ∧
      ∃ reached : Tally, rec.selected = reached.selects cashBudget costOfCapitalPct today reportingCurrency rec.opportunity := by
  induction opps generalizing tally with
  | nil => cases member
  | cons opp rest ih =>
    rcases List.mem_cons.mp member with rfl | later
    · exact ⟨rfl, rfl, tally, rfl⟩
    · exact ih later

/-- What does not fit at its rank does not fit in the end. -/
theorem recommend_maximal {opps : List OfferOpportunity} (nonneg : ∀ opp ∈ opps, 0 ≤ opp.outlay costOfCapitalPct) {tally : Tally}
    {rec : Recommendation} (member : rec ∈ recommend cashBudget costOfCapitalPct today reportingCurrency tally opps)
    (eligible : rec.opportunity.eligible costOfCapitalPct today = true)
    (convertible : rec.opportunity.unconvertible reportingCurrency = false) (left : rec.selected = false) :
    ∃ budget ∈ cashBudget, budget -
      (opps.foldl (Tally.next cashBudget costOfCapitalPct today reportingCurrency) tally).cumulativeOutlay <
        rec.opportunity.outlay costOfCapitalPct := by
  induction opps generalizing tally with
  | nil => cases member
  | cons opp rest ih =>
    obtain ⟨_, others⟩ := List.forall_mem_cons.mp nonneg
    rcases List.mem_cons.mp member with rfl | later
    · have passed : tally.selects cashBudget costOfCapitalPct today reportingCurrency opp = false := left
      have grown := @le_foldl_outlay cashBudget costOfCapitalPct today reportingCurrency rest others
        (tally.next cashBudget costOfCapitalPct today reportingCurrency opp)
      rw [next_outlay, passed, Bool.false_and, if_neg Bool.false_ne_true, add_zero] at grown
      rw [Tally.selects, eligible, Bool.true_and] at passed
      cases cashBudget with
      | none => cases passed
      | some budget =>
        refine ⟨budget, rfl, ?_⟩
        rw [Option.all_some, convertible, Bool.not_false, Bool.true_and, decide_eq_false_iff_not, not_le] at passed
        exact lt_of_le_of_lt (sub_le_sub_left grown budget) (sub_lt_iff_lt_add'.mpr passed)
    · exact ih others later

/-- The totals of the loop, each summed over the recommendations it counts. -/
theorem foldl_totals (opps : List OfferOpportunity) (tally : Tally) :
    let final := opps.foldl (Tally.next cashBudget costOfCapitalPct today reportingCurrency) tally
    let recs := recommend cashBudget costOfCapitalPct today reportingCurrency tally opps
    final.cumulativeOutlay = tally.cumulativeOutlay + ((recs.filter fun rec =>
        rec.selected && !rec.opportunity.unconvertible reportingCurrency).map
          fun rec => rec.opportunity.outlay costOfCapitalPct).sum ∧
      final.totalSavingsSelected = tally.totalSavingsSelected + ((recs.filter fun rec =>
        rec.selected && !rec.opportunity.unconvertible reportingCurrency).map
          fun rec => (rec.opportunity.roi costOfCapitalPct).savings).sum ∧
      final.totalSavingsAvailable = tally.totalSavingsAvailable + ((recs.filter fun rec =>
        rec.opportunity.eligible costOfCapitalPct today && !rec.opportunity.unconvertible reportingCurrency).map
          fun rec => (rec.opportunity.roi costOfCapitalPct).savings).sum := by
  induction opps generalizing tally with
  | nil => exact ⟨(add_zero _).symm, (add_zero _).symm, (add_zero _).symm⟩
  | cons opp rest ih =>
    obtain ⟨outlay, saved, available⟩ := ih (tally.next cashBudget costOfCapitalPct today reportingCurrency opp)
    simp only [recommend, List.foldl_cons, Sql.sum_filter_cons, ← add_assoc]
    refine ⟨outlay, saved, available.trans ?_⟩
    rw [Bool.and_comm]
    rfl

end Loop

section Order

variable {costOfCapitalPct : ℚ} {opps : List OfferOpportunity}

/-- With distinct ids the ranking is decided by the opportunities alone. -/
theorem ranked_perm (distinct : (opps.map (·.offerId)).Nodup) {other : List OfferOpportunity} (same : other.Perm opps) :
    ranked costOfCapitalPct other = ranked costOfCapitalPct opps := by
  have sorted : ∀ rows : List OfferOpportunity, (ranked costOfCapitalPct rows).Pairwise fun one other =>
      one.rank costOfCapitalPct ≤ other.rank costOfCapitalPct := fun rows => List.pairwise_insertionSort _ _
  have perm : (ranked costOfCapitalPct other).Perm (ranked costOfCapitalPct opps) :=
    ((List.perm_insertionSort _ _).trans (same.filter _)).trans (List.perm_insertionSort _ _).symm
  refine perm.eq_of_pairwise (fun one two inOne inTwo le ge => ?_) (sorted other) (sorted opps)
  have ids : one.offerId = two.offerId := congrArg (fun key => (ofLex (ofLex key).2).2) (le_antisymm le ge)
  have member : ∀ opp ∈ ranked costOfCapitalPct opps, opp ∈ opps := fun opp ranked =>
    List.mem_of_mem_filter ((List.perm_insertionSort _ _).mem_iff.mp ranked)
  exact List.inj_on_of_nodup_map distinct (member one (perm.mem_iff.mp inOne)) (member two inTwo) ids

theorem mem_ranked {opp : OfferOpportunity} : opp ∈ ranked costOfCapitalPct opps ↔ opp ∈ opps ∧ opp.dueDate.isSome = true :=
  (List.perm_insertionSort _ _).mem_iff.trans List.mem_filter

theorem perm_ranked : (ranked costOfCapitalPct opps ++ opps.filter fun opp => opp.dueDate.isNone).Perm opps := by
  have ranks : (ranked costOfCapitalPct opps).Perm (opps.filter (·.dueDate.isSome)) := List.perm_insertionSort _ _
  have others : (opps.filter fun opp => opp.dueDate.isNone) = opps.filter fun opp => !opp.dueDate.isSome :=
    List.filter_congr fun opp _ => (Option.not_isSome opp.dueDate).symm
  rw [others]
  exact (ranks.append_right _).trans (List.filter_append_perm _ opps)

end Order

section Results

variable {cashBudget : Option ℚ} {costOfCapitalPct : ℚ} {today : Day} {reportingCurrency : Option String}

theorem eligible_eq_true {opp : OfferOpportunity} (eligible : opp.eligible costOfCapitalPct today = true) :
    today ≤ opp.payBy ∧ (opp.roi costOfCapitalPct).worthwhile = some true := by
  obtain ⟨worthwhile, open'⟩ := Bool.and_eq_true_iff.mp eligible
  refine ⟨of_decide_eq_true open', ?_⟩
  cases verdict : (opp.roi costOfCapitalPct).worthwhile with
  | none => rw [verdict] at worthwhile; cases worthwhile
  | some value => rw [verdict] at worthwhile; exact congrArg some worthwhile

theorem optimize_spendsWithin (opps : List OfferOpportunity) (nonneg : ∀ opp ∈ opps, 0 ≤ opp.outlay costOfCapitalPct)
    (budgets : ∀ budget ∈ cashBudget, 0 ≤ budget) :
    SpendsWithin cashBudget costOfCapitalPct today reportingCurrency opps
      (optimize cashBudget costOfCapitalPct today reportingCurrency opps) := by
  obtain ⟨outlay, saved, available⟩ := @foldl_totals cashBudget costOfCapitalPct today reportingCurrency
    (ranked costOfCapitalPct opps) ⟨0, 0, 0, 0⟩
  rw [zero_add] at outlay saved available
  have ranks : ∀ opp ∈ ranked costOfCapitalPct opps, 0 ≤ opp.outlay costOfCapitalPct := fun opp member =>
    nonneg opp (mem_ranked.mp member).1
  have opportunity : ∀ rec ∈ recommend cashBudget costOfCapitalPct today reportingCurrency ⟨0, 0, 0, 0⟩ (ranked costOfCapitalPct opps),
      rec.opportunity ∈ ranked costOfCapitalPct opps := by
    intro rec member
    have mapped := List.mem_map_of_mem (f := (·.opportunity)) member
    rwa [map_recommend] at mapped
  refine ⟨?within, ?convertible, outlay, saved, available, ?sound, ?maximal, ?scored, ?ranked, ?unranked, ?parts⟩
  case within =>
    intro budget given
    cases Option.mem_def.mp given
    exact foldl_within _ (budgets budget rfl)
  case convertible =>
    intro limited rec member selected
    obtain ⟨_, _, reached, decided⟩ := mem_recommend member
    obtain ⟨budget, rfl⟩ := Option.isSome_iff_exists.mp limited
    have fits := (Bool.and_eq_true_iff.mp (decided.symm.trans selected)).2
    exact (Bool.not_eq_true' _).mp (Bool.and_eq_true_iff.mp fits).1
  case sound =>
    intro rec member selected
    rcases List.mem_append.mp member with ranked | withheld
    · obtain ⟨_, _, reached, decided⟩ := mem_recommend ranked
      have eligible := (Bool.and_eq_true_iff.mp (decided.symm.trans selected)).1
      exact ⟨(mem_ranked.mp (opportunity rec ranked)).2, eligible_eq_true eligible⟩
    · obtain ⟨opp, _, rfl⟩ := List.mem_map.mp withheld
      cases selected
  case maximal =>
    intro rec member eligible convertible left
    exact recommend_maximal ranks member eligible convertible left
  case scored =>
    intro rec member
    rcases List.mem_append.mp member with ranked | withheld
    · obtain ⟨roi, unconvertible, _⟩ := mem_recommend ranked
      exact ⟨roi, unconvertible⟩
    · obtain ⟨opp, _, rfl⟩ := List.mem_map.mp withheld
      exact ⟨rfl, rfl⟩
  case ranked => exact fun rec member => (mem_ranked.mp (opportunity rec member)).2
  case unranked =>
    intro rec member
    obtain ⟨opp, inOpps, rfl⟩ := List.mem_map.mp member
    exact Option.isNone_iff_eq_none.mp (List.mem_filter.mp inOpps).2
  case parts =>
    have withheld : (opps.filter fun opp => opp.dueDate.isNone).map
        ((·.opportunity) ∘ withhold costOfCapitalPct reportingCurrency) = opps.filter fun opp => opp.dueDate.isNone :=
      List.map_id _
    rw [optimize, List.map_append, map_recommend, List.map_map, withheld]
    exact perm_ranked

end Results

/-- The optimizer spends within its budget on all that fits, in an order that is decided by the opportunities alone. -/
theorem optimize_spends_within (cashBudget : Option ℚ) (costOfCapitalPct : ℚ) (today : Day) (reportingCurrency : Option String)
    (opps : List OfferOpportunity) (distinct : (opps.map (·.offerId)).Nodup) (bases : ∀ opp ∈ opps, 0 ≤ opp.baseAmount.value)
    (percents : ∀ opp ∈ opps, 0 ≤ opp.discountPercent ∧ opp.discountPercent ≤ 100) (budgets : ∀ budget ∈ cashBudget, 0 ≤ budget) :
    SpendsWithin cashBudget costOfCapitalPct today reportingCurrency opps
        (optimize cashBudget costOfCapitalPct today reportingCurrency opps) ∧
      ∀ other : List OfferOpportunity, other.Perm opps → optimize cashBudget costOfCapitalPct today reportingCurrency other =
        { optimize cashBudget costOfCapitalPct today reportingCurrency opps with
          unrankable := (optimize cashBudget costOfCapitalPct today reportingCurrency other).unrankable } := by
  constructor
  · refine optimize_spendsWithin opps (fun opp member => ?_) budgets
    exact opp.outlay_nonneg costOfCapitalPct (bases opp member) (percents opp member).1 (percents opp member).2
  · intro other same
    rw [optimize, optimize, ranked_perm distinct same]

def twoTenNet30 : OfferOpportunity := ⟨"a", ⟨100000, by decide⟩, some "USD", 2, 739000, some 739020⟩

def euroNet60 : OfferOpportunity := ⟨"b", ⟨50000, by decide⟩, some "EUR", 1, 739000, some 739050⟩

/-- A dollar offer and a euro offer under a budget of 500 dollars. -/
theorem two_offers_spend_within : SpendsWithin (some 500) 10 738990 (some "USD") [twoTenNet30, euroNet60]
    (optimize (some 500) 10 738990 (some "USD") [twoTenNet30, euroNet60]) := by
  refine (optimize_spends_within (some 500) 10 738990 (some "USD") [twoTenNet30, euroNet60] (by decide) ?_ ?_ ?_).1
  · intro opp member
    rcases List.mem_pair.mp member with rfl | rfl
    · norm_num [twoTenNet30, StoredMoney.value]
    · norm_num [euroNet60, StoredMoney.value]
  · intro opp member
    rcases List.mem_pair.mp member with rfl | rfl
    · norm_num [twoTenNet30]
    · norm_num [euroNet60]
  · intro budget given
    cases Option.mem_def.mp given
    norm_num

end Payables.Discounts
