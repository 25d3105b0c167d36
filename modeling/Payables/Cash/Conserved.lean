import Payables.Cash.Scenarios

namespace Payables.Cash

open Lib

section Position

variable {opening threshold : ℚ} {inflows : InflowMap} {periods : List PeriodBucket}

theorem InflowMap.get_eq (inflows : InflowMap) (period : String) :
    inflows.get period = ((inflows.entries.filter fun entry => entry.1 = period).map Prod.snd).sum := by
  obtain ⟨entries, distinct⟩ := inflows
  rw [InflowMap.get]
  induction entries with
  | nil => rfl
  | cons entry rest ih =>
    obtain ⟨fresh, distinct⟩ := List.nodup_cons.mp distinct
    by_cases here : entry.1 = period
    · have others : rest.filter (fun other => other.1 = period) = [] := by
        refine List.filter_eq_nil_iff.mpr fun other member same => fresh ?_
        rw [here, ← of_decide_eq_true same]
        exact List.mem_map_of_mem member
      simp [here, others]
    · simpa [here] using ih distinct

/-- The balance after some periods. -/
def balanceAfter (opening : ℚ) (inflows : InflowMap) (periods : List PeriodBucket) : ℚ :=
  opening - (periods.map (·.scheduledAmount)).sum + (periods.map fun p => inflows.get p.period).sum

theorem balanceAfter_cons (opening : ℚ) (inflows : InflowMap) (p : PeriodBucket) (rest : List PeriodBucket) :
    balanceAfter opening inflows (p :: rest) =
      balanceAfter (opening - p.scheduledAmount + inflows.get p.period) inflows rest := by
  simp only [balanceAfter, List.map_cons, List.sum_cons]
  ring

/-- The row of a period in the position. -/
structure PositionOf (opening : ℚ) (inflows : InflowMap) (threshold : ℚ) (upTo : List PeriodBucket) (p : PeriodBucket)
    (row : PositionRow) : Prop where
  period : row.period = p.period
  closing : row.closing = quantizeMoney (balanceAfter opening inflows upTo)
  below : row.belowThreshold = decide (balanceAfter opening inflows upTo < threshold)

theorem position_row {row : PositionRow} (member : row ∈ computeCashPosition opening periods inflows (some threshold)) :
    ∃ before p after, periods = before ++ p :: after ∧ PositionOf opening inflows threshold (before ++ [p]) p row := by
  induction periods generalizing opening with
  | nil => cases member
  | cons p rest ih =>
    rw [computeCashPosition] at member
    rcases List.mem_cons.mp member with rfl | later
    · have balance : balanceAfter opening inflows [p] = opening - p.scheduledAmount + inflows.get p.period := by
        simp [balanceAfter]
      refine ⟨[], p, rest, rfl, rfl, ?_, ?_⟩
      · rw [List.nil_append, balance]
      · rw [List.nil_append, balance]
        rfl
    · obtain ⟨before, q, after, rfl, period, closing, below⟩ := ih later
      refine ⟨p :: before, q, after, rfl, period, ?_, ?_⟩
      · rw [List.cons_append, balanceAfter_cons]
        exact closing
      · rw [List.cons_append, balanceAfter_cons]
        exact below

theorem exists_position {before after : List PeriodBucket} {p : PeriodBucket} (split : periods = before ++ p :: after) :
    ∃ row ∈ computeCashPosition opening periods inflows (some threshold),
      PositionOf opening inflows threshold (before ++ [p]) p row := by
  induction before generalizing opening periods with
  | nil =>
    subst split
    have balance : balanceAfter opening inflows [p] = opening - p.scheduledAmount + inflows.get p.period := by
      simp [balanceAfter]
    refine ⟨_, List.mem_cons_self, rfl, ?_, ?_⟩
    · rw [List.nil_append, balance]
    · rw [List.nil_append, balance]
      rfl
  | cons first before ih =>
    subst split
    obtain ⟨row, member, period, closing, below⟩ := @ih (opening - first.scheduledAmount + inflows.get first.period) _ rfl
    refine ⟨row, List.mem_cons_of_mem _ member, period, ?_, ?_⟩
    · rw [List.cons_append, balanceAfter_cons]
      exact closing
    · rw [List.cons_append, balanceAfter_cons]
      exact below

theorem last_closing {last : PositionRow}
    (found : (computeCashPosition opening periods inflows (some threshold)).getLast? = some last) :
    last.closing = quantizeMoney (balanceAfter opening inflows periods) := by
  induction periods generalizing opening with
  | nil => cases found
  | cons p rest ih =>
    rw [computeCashPosition] at found
    rw [balanceAfter_cons]
    cases more : computeCashPosition (opening - p.scheduledAmount + inflows.get p.period) rest inflows (some threshold) with
    | nil =>
      have empty : rest = [] := by
        cases rest with
        | nil => rfl
        | cons q rest => cases more
      subst empty
      simp only [more, List.getLast?_singleton, Option.some.injEq] at found
      rw [← found]
      simp [balanceAfter]
    | cons row others =>
      simp only [more, List.getLast?_cons_cons] at found
      exact ih (more ▸ found)

/-- Each period opens with what the one before it closed with. -/
theorem opening_chained (opening : ℚ) (inflows : InflowMap) (periods : List PeriodBucket) (threshold : Option ℚ) :
    (computeCashPosition opening periods inflows threshold).IsChain fun row next => next.opening = row.closing := by
  induction periods generalizing opening with
  | nil => exact .nil
  | cons p rest ih =>
    have later := ih (opening - p.scheduledAmount + inflows.get p.period)
    cases rest with
    | nil => exact .singleton _
    | cons q rest => exact .cons_cons rfl later

theorem position_periods (opening : ℚ) (inflows : InflowMap) (periods : List PeriodBucket) (threshold : Option ℚ) :
    (computeCashPosition opening periods inflows threshold).map (·.period) = periods.map (·.period) := by
  induction periods generalizing opening with
  | nil => rfl
  | cons p rest ih => rw [computeCashPosition, List.map_cons, List.map_cons, ih]

/-- A breach is reported of the rows that close below the threshold. -/
theorem breached_iff (distinct : (periods.map (·.period)).Nodup) {row : PositionRow}
    (member : row ∈ computeCashPosition opening periods inflows (some threshold)) :
    (∃ breach ∈ detectThresholdBreaches (computeCashPosition opening periods inflows (some threshold)) threshold,
      breach.period = row.period) ↔ row.closing < threshold := by
  rw [← position_periods opening inflows periods (some threshold)] at distinct
  constructor
  · rintro ⟨breach, reported, same⟩
    obtain ⟨other, inside, rfl⟩ := List.mem_map.mp reported
    obtain ⟨listed, below⟩ := List.mem_filter.mp inside
    rw [← List.inj_on_of_nodup_map distinct listed member same]
    exact of_decide_eq_true below
  · intro below
    exact ⟨_, List.mem_map_of_mem (List.mem_filter.mpr ⟨member, decide_eq_true below⟩), rfl⟩

end Position

/-- The threshold lies between a balance and its rounding to cents. -/
def Separates (threshold balance : ℚ) : Prop :=
  min balance (quantizeMoney balance) < threshold ∧ threshold ≤ max balance (quantizeMoney balance)

theorem separates_iff {threshold balance : ℚ} :
    Separates threshold balance ↔ ¬(balance < threshold ↔ quantizeMoney balance < threshold) := by
  rw [Separates, min_lt_iff, le_max_iff]
  by_cases one : balance < threshold
  · by_cases other : quantizeMoney balance < threshold
    · simp [one, other]
    · simp [one, other, not_lt.mp other]
  · by_cases other : quantizeMoney balance < threshold
    · simp [one, other, not_lt.mp one]
    · simp [one, other]

variable (rows : List CommitmentRow) (granularity : Granularity) (scenario : TimingScenario) (graceDays : ℤ)
  (today : CalendarDate) (opening : ℚ) (inflows : InflowMap) (threshold : ℚ)

/-- The inflows expected in the periods of the rows, up to a period. -/
def inflowUpTo (period : String) : ℚ :=
  ((inflows.entries.filter fun entry => decide (some entry.1 ∈ rows.map (periodOf granularity)) && decide (entry.1 ≤ period)).map
    Prod.snd).sum

/-- What the rows of the periods up to a period add up to. -/
def outflowUpTo (period : String) : ℚ :=
  ((rows.filter fun row => (periodOf granularity row).any (· ≤ period)).map (·.amount)).sum

/-- The expected inflows of the periods in which a row falls due, and of the other ones. -/
def matchedInflow : ℚ :=
  ((inflows.entries.filter fun entry => decide (some entry.1 ∈ rows.map (periodOf granularity))).map Prod.snd).sum

def unmatchedInflow : ℚ :=
  ((inflows.entries.filter fun entry => !decide (some entry.1 ∈ rows.map (periodOf granularity))).map Prod.snd).sum

/-- The balance at the end of a period. -/
def balanceAt (period : String) : ℚ :=
  opening - outflowUpTo rows granularity period + inflowUpTo rows granularity inflows period

/-- The position of some periods loses no money, and flags what is reported. -/
structure Balances (periods : List PeriodBucket) : Prop where
  closes : ∀ last, (computeCashPosition opening periods inflows (some threshold)).getLast? = some last →
    last.closing = opening - (periods.map (·.scheduledAmount)).sum + (inflows.entries.map Prod.snd).sum
  chained : (computeCashPosition opening periods inflows (some threshold)).IsChain fun row next => next.opening = row.closing
  flagged : ∀ row ∈ computeCashPosition opening periods inflows (some threshold), row.belowThreshold = true ↔
    ∃ breach ∈ detectThresholdBreaches (computeCashPosition opening periods inflows (some threshold)) threshold,
      breach.period = row.period

/-- The forecast conserves money. -/
structure Conserves : Prop where
  outflows : ∃ periods, bucketOutflows rows granularity today = .ok periods ∧
    (periods.map (·.scheduledAmount)).sum = datedTotal rows ∧
    ∀ p ∈ periods, p.committedAmount + p.pendingAmount = p.scheduledAmount
  timed : ∃ forecast, applyPaymentTimingScenario rows scenario granularity graceDays today = .ok forecast ∧
    forecast.totalOutflow + forecast.totalDiscountCaptured = datedTotal rows ∧
    (forecast.periods.map (·.scheduledAmount)).sum = forecast.totalOutflow
  position : ∀ periods, bucketOutflows rows granularity today = .ok periods → Balances opening inflows threshold periods

/-- Where it does: every period is in the calendar, no rounding is lost, every expected inflow is matched by
an outflow, and the threshold does not fall between a balance and its rounding. -/
structure Conservable : Prop where
  dues : ∀ row ∈ rows, ∀ due, row.dueDate = some due → PeriodFits due granularity
  pays : ∀ row ∈ rows, ∀ due, row.dueDate = some due →
    ∃ day, payDay scenario graceDays today row due = some day ∧ PeriodFits day granularity
  discount : ¬HalfCent (discountTotal scenario today rows) ∨
    (0 < discountTotal scenario today rows ∧ datedTotal rows < discountTotal scenario today rows) ∨
    (discountTotal scenario today rows < 0 ∧ discountTotal scenario today rows < datedTotal rows)
  rounding : periodsOff granularity (paidRows scenario graceDays today rows) =
    centsOff (datedTotal rows - discountTotal scenario today rows)
  inflow : (∃ row ∈ rows, row.dueDate.isSome = true) →
    unmatchedInflow rows granularity inflows =
      centsOff (opening - datedTotal rows + matchedInflow rows granularity inflows)
  threshold : ∀ period, some period ∈ rows.map (periodOf granularity) →
    ¬Separates threshold (balanceAt rows granularity opening inflows period)

variable {rows granularity scenario graceDays today opening inflows threshold}

/-- The expected inflows of some of the periods. -/
theorem sum_inflow {names : List String} (distinct : names.Nodup) :
    (names.map inflows.get).sum = ((inflows.entries.filter fun entry => entry.1 ∈ names).map Prod.snd).sum := by
  rw [← Sql.sum_groups Prod.fst Prod.snd inflows.entries names distinct]
  exact congrArg List.sum (List.map_congr_left fun name _ => inflows.get_eq name)

section

variable {periods : List PeriodBucket} (forecasts : Forecasts granularity rows periods)
  (cents : ∀ row ∈ rows, OnCents row.amount)

include forecasts cents in
theorem balanceAfter_all (fits : ∀ row ∈ rows, ∀ due, row.dueDate = some due → PeriodFits due granularity) :
    balanceAfter opening inflows periods = opening - datedTotal rows + matchedInflow rows granularity inflows := by
  have inflow : (periods.map fun p => inflows.get p.period).sum = matchedInflow rows granularity inflows := by
    have named : ((periods.map (·.period)).map inflows.get).sum = _ := sum_inflow forecasts.distinct
    rw [List.map_map] at named
    refine Eq.trans named (congrArg (fun chosen : List (String × ℚ) => (chosen.map Prod.snd).sum) ?_)
    refine List.filter_congr fun entry _ => ?_
    rw [decide_eq_decide]
    exact forecasts.listed entry.1
  rw [balanceAfter, forecasts.scheduled_map_cents cents, forecasts.sum_exact fits, inflow]

include forecasts cents in
theorem balanceAfter_upTo {before after : List PeriodBucket} {p : PeriodBucket} (split : periods = before ++ p :: after) :
    balanceAfter opening inflows (before ++ [p]) = balanceAt rows granularity opening inflows p.period := by
  have sorted := forecasts.sorted
  have parts : periods = (before ++ [p]) ++ after := by rw [split, List.append_assoc, List.singleton_append]
  have distinct : ((before ++ [p]).map (·.period)).Nodup := by
    have all := forecasts.distinct
    rw [parts, List.map_append] at all
    exact (List.nodup_append.mp all).1
  -- the periods so far are those up to the last one of them
  have upTo : ∀ period, period ∈ (before ++ [p]).map (·.period) ↔
      some period ∈ rows.map (periodOf granularity) ∧ period ≤ p.period := by
    intro period
    rw [← forecasts.listed, split]
    rw [split, List.map_append, List.map_cons, List.pairwise_append, List.pairwise_cons] at sorted
    obtain ⟨-, ⟨later, -⟩, earlier⟩ := sorted
    simp only [List.map_append, List.map_cons, List.map_nil, List.mem_append, List.mem_cons, List.not_mem_nil, or_false]
    constructor
    · rintro (first | rfl)
      · exact ⟨.inl first, (earlier period first p.period List.mem_cons_self).le⟩
      · exact ⟨.inr (.inl rfl), le_rfl⟩
    · rintro ⟨first | rfl | last, le⟩
      · exact .inl first
      · exact .inr rfl
      · exact absurd (later period last) (not_lt.mpr le)
  have outflow : ((before ++ [p]).map (·.scheduledAmount)).sum = outflowUpTo rows granularity p.period := by
    have exact' : (before ++ [p]).map (·.scheduledAmount) = ((before ++ [p]).map (·.period)).map (amountIn granularity rows) := by
      rw [List.map_map]
      refine List.map_congr_left fun q member => forecasts.scheduled_cents cents ?_
      rw [parts]
      exact List.mem_append_left _ member
    rw [exact', sum_amountIn granularity rows distinct, outflowUpTo]
    refine congrArg (fun chosen : List CommitmentRow => (chosen.map (·.amount)).sum) (List.filter_congr fun row member => ?_)
    cases here : periodOf granularity row with
    | none => rfl
    | some period =>
      have listed : some period ∈ rows.map (periodOf granularity) := here ▸ List.mem_map_of_mem member
      simp only [Option.any_some, decide_eq_decide]
      rw [upTo]
      exact and_iff_right listed
  have inflow : ((before ++ [p]).map fun q => inflows.get q.period).sum = inflowUpTo rows granularity inflows p.period := by
    have named : (((before ++ [p]).map (·.period)).map inflows.get).sum = _ := sum_inflow distinct
    rw [List.map_map] at named
    refine Eq.trans named (congrArg (fun chosen : List (String × ℚ) => (chosen.map Prod.snd).sum) ?_)
    refine List.filter_congr fun entry _ => ?_
    rw [← Bool.decide_and, decide_eq_decide]
    exact upTo entry.1
  rw [balanceAfter, outflow, inflow, balanceAt]

include forecasts cents in
theorem balances_iff (fits : ∀ row ∈ rows, ∀ due, row.dueDate = some due → PeriodFits due granularity) :
    Balances opening inflows threshold periods ↔
      ((∃ row ∈ rows, row.dueDate.isSome = true) → unmatchedInflow rows granularity inflows =
        centsOff (opening - datedTotal rows + matchedInflow rows granularity inflows)) ∧
      ∀ period, some period ∈ rows.map (periodOf granularity) →
        ¬Separates threshold (balanceAt rows granularity opening inflows period) := by
  have total : balanceAfter opening inflows periods = _ := balanceAfter_all forecasts cents fits
  have sum : (periods.map (·.scheduledAmount)).sum = datedTotal rows := by
    rw [forecasts.scheduled_map_cents cents, forecasts.sum_exact fits]
  have whole : matchedInflow rows granularity inflows + unmatchedInflow rows granularity inflows =
      (inflows.entries.map Prod.snd).sum := Sql.sum_filter_not _ _ _
  have some' : (∃ row ∈ rows, row.dueDate.isSome = true) ↔ periods ≠ [] := by
    constructor
    · rintro ⟨row, member, dated⟩
      obtain ⟨period, here⟩ := Option.isSome_iff_exists.mp ((periodOf_isSome fits member).trans dated)
      obtain ⟨p, inside, -⟩ := List.mem_map.mp ((forecasts.listed period).mpr (here ▸ List.mem_map_of_mem member))
      exact List.ne_nil_of_mem inside
    · intro left
      obtain ⟨p, member⟩ := List.exists_mem_of_ne_nil periods left
      obtain ⟨row, inside, here⟩ := List.mem_map.mp ((forecasts.listed p.period).mp (List.mem_map_of_mem member))
      exact ⟨row, inside, (periodOf_isSome fits inside).symm.trans (by rw [here]; rfl)⟩
  constructor
  · rintro ⟨closes, -, flagged⟩
    refine ⟨fun dated => ?_, fun period listed => ?_⟩
    · have rowsLeft : computeCashPosition opening periods inflows (some threshold) ≠ [] := by
        cases periods with
        | nil => exact absurd rfl (some'.mp dated)
        | cons p rest => exact List.cons_ne_nil _ _
      have last := List.getLast?_eq_some_getLast rowsLeft
      have closing := (last_closing last).symm.trans (closes _ last)
      rw [total, sum] at closing
      rw [centsOff, closing, ← whole]
      ring
    · obtain ⟨p, member, rfl⟩ := List.mem_map.mp ((forecasts.listed period).mpr listed)
      obtain ⟨before, after, split⟩ := List.append_of_mem member
      obtain ⟨row, inside, here⟩ := @exists_position opening threshold inflows _ _ _ _ split
      have flag := flagged row inside
      rw [breached_iff forecasts.distinct inside, here.closing, here.below, decide_eq_true_eq,
        balanceAfter_upTo forecasts cents split] at flag
      rw [separates_iff, not_not]
      exact flag
  · rintro ⟨inflow, apart⟩
    refine ⟨fun last found => ?_, opening_chained opening inflows periods _, fun row member => ?_⟩
    · have dated : periods ≠ [] := by
        rintro rfl
        cases found
      have unmatched := inflow (some'.mpr dated)
      rw [centsOff] at unmatched
      rw [last_closing found, total, sum, ← whole, unmatched]
      ring
    · obtain ⟨before, p, after, split, here⟩ := position_row member
      have listed : some p.period ∈ rows.map (periodOf granularity) := by
        rw [← forecasts.listed, split]
        exact List.mem_map_of_mem (List.mem_append_right _ List.mem_cons_self)
      have same := apart p.period listed
      rw [separates_iff, not_not] at same
      rw [breached_iff forecasts.distinct member, here.closing, here.below, decide_eq_true_eq,
        balanceAfter_upTo forecasts cents split]
      exact same

end

/-- What a scenario returns, where it returns. -/
theorem forecast_of_ok {forecast : ScenarioForecast}
    (ok : applyPaymentTimingScenario rows scenario granularity graceDays today = .ok forecast) :
    forecast.totalOutflow = quantizeMoney (datedTotal rows - discountTotal scenario today rows) ∧
      forecast.totalDiscountCaptured = quantizeMoney (discountTotal scenario today rows) ∧
      bucketOutflows (paidRows scenario graceDays today rows) granularity today = .ok forecast.periods := by
  obtain ⟨totals, totalled, ok⟩ := bind_eq_ok.mp ok
  obtain ⟨periods, bucketed, ok⟩ := bind_eq_ok.mp ok
  cases pure_eq_ok.mp ok
  obtain ⟨outflow, discount, timed⟩ := totalled_of_ok totalled
  simp only [ScenarioTotals.start, zero_add, List.nil_append] at outflow discount timed
  rw [timed] at bucketed
  refine ⟨?_, ?_, bucketed⟩
  · simp only [outflow]
  · simp only [discount]

theorem paidRows_fit_iff :
    (∀ row ∈ rows, ∀ due, row.dueDate = some due →
      ∃ day, payDay scenario graceDays today row due = some day ∧ PeriodFits day granularity) ↔
      (∀ row ∈ rows, ∀ due, row.dueDate = some due → ∃ day, payDay scenario graceDays today row due = some day) ∧
        ∀ paid ∈ paidRows scenario graceDays today rows, ∀ day, paid.dueDate = some day → PeriodFits day granularity := by
  constructor
  · intro fits
    refine ⟨fun row member due dated => ?_, fun paid member day at' => ?_⟩
    · obtain ⟨day, pays, -⟩ := fits row member due dated
      exact ⟨day, pays⟩
    · obtain ⟨row, inside, due, day', dated, pays, rfl⟩ := mem_paidRows.mp member
      obtain ⟨found, pays', fit⟩ := fits row inside due dated
      cases pays.symm.trans pays'
      cases at'
      exact fit
  · rintro ⟨pays, fits⟩ row member due dated
    obtain ⟨day, found⟩ := pays row member due dated
    exact ⟨day, found, fits _ (mem_paidRows.mpr ⟨row, member, due, day, dated, found, rfl⟩) day rfl⟩

theorem applyPaymentTimingScenario_ok_iff :
    (∃ forecast, applyPaymentTimingScenario rows scenario granularity graceDays today = .ok forecast) ↔
      ∀ row ∈ rows, ∀ due, row.dueDate = some due →
        ∃ day, payDay scenario graceDays today row due = some day ∧ PeriodFits day granularity := by
  rw [paidRows_fit_iff]
  constructor
  · rintro ⟨forecast, ok⟩
    have bucketed := (forecast_of_ok ok).2.2
    obtain ⟨totals, totalled, -⟩ := bind_eq_ok.mp ok
    exact ⟨scenarioRows_ok_iff.mp ⟨totals, totalled⟩, bucketOutflows_ok_iff.mp ⟨_, bucketed⟩⟩
  · rintro ⟨pays, fits⟩
    have run : ∃ totals, scenarioRows scenario graceDays today rows .start = .ok totals := scenarioRows_ok_iff.mpr pays
    obtain ⟨totals, totalled⟩ := run
    obtain ⟨periods, bucketed⟩ := (@bucketOutflows_ok_iff _ today _).mpr fits
    have timed := (totalled_of_ok totalled).timed
    simp only [ScenarioTotals.start, List.nil_append] at timed
    rw [← timed] at bucketed
    exact ⟨_, bind_eq_ok.mpr ⟨totals, totalled, bind_eq_ok.mpr ⟨periods, bucketed, rfl⟩⟩⟩

/-- The periods of a scenario hold what it pays, and what rounding adds to each of them. -/
theorem sum_scenario_periods {periods : List PeriodBucket}
    (ok : bucketOutflows (paidRows scenario graceDays today rows) granularity today = .ok periods)
    (pays : ∀ row ∈ rows, ∀ due, row.dueDate = some due → ∃ day, payDay scenario graceDays today row due = some day) :
    (periods.map (·.scheduledAmount)).sum = datedTotal rows - discountTotal scenario today rows +
      periodsOff granularity (paidRows scenario graceDays today rows) := by
  have dated : ∀ paid ∈ paidRows scenario graceDays today rows, paid.dueDate.isSome = true := by
    intro paid member
    obtain ⟨row, -, due, day, -, -, rfl⟩ := mem_paidRows.mp member
    rfl
  rw [(forecasts_of_ok ok).sum_scheduled dated (bucketOutflows_ok_iff.mp ⟨periods, ok⟩), datedTotal_paidRows pays]

theorem not_halfCent_of_onCents {value : ℚ} (cents : OnCents value) : ¬HalfCent value := by
  obtain ⟨m, rfl⟩ := cents
  rintro ⟨n, half⟩
  have twice : (2 * m : ℚ) = 2 * n + 1 := by linarith
  have whole : 2 * m = 2 * n + 1 := by exact_mod_cast twice
  omega

theorem not_separates_of_onCents {balance : ℚ} (cents : OnCents balance) : ¬Separates threshold balance := by
  rw [Separates, cents.quantizeMoney_eq, min_self, max_self, not_and, not_le]
  exact id

/-- Nothing is lost where no discount, opening balance or inflow is finer than cents. -/
theorem conservable_of_cents (cents : ∀ row ∈ rows, OnCents row.amount)
    (captured : ∀ row ∈ rows, OnCents (capturedDiscount scenario today row)) (balance : OnCents opening)
    (expected : ∀ entry ∈ inflows.entries, OnCents entry.2)
    (dues : ∀ row ∈ rows, ∀ due, row.dueDate = some due → PeriodFits due granularity)
    (pays : ∀ row ∈ rows, ∀ due, row.dueDate = some due →
      ∃ day, payDay scenario graceDays today row due = some day ∧ PeriodFits day granularity)
    (unmatched : unmatchedInflow rows granularity inflows = 0) :
    Conservable rows granularity scenario graceDays today opening inflows threshold := by
  have discounts : OnCents (discountTotal scenario today rows) := by
    refine OnCents.sum fun value member => ?_
    obtain ⟨row, inside, rfl⟩ := List.mem_map.mp member
    exact captured row (List.mem_of_mem_filter inside)
  have paid : ∀ row ∈ paidRows scenario graceDays today rows, OnCents row.amount := by
    intro paid member
    obtain ⟨row, inside, -, -, -, -, rfl⟩ := mem_paidRows.mp member
    exact (cents row inside).sub (captured row inside)
  have received : ∀ chosen : String × ℚ → Bool, OnCents ((inflows.entries.filter chosen).map Prod.snd).sum := by
    intro chosen
    refine OnCents.sum fun value member => ?_
    obtain ⟨entry, inside, rfl⟩ := List.mem_map.mp member
    exact expected entry (List.mem_of_mem_filter inside)
  have balanced : ∀ period, OnCents (balanceAt rows granularity opening inflows period) := by
    intro period
    refine (balance.sub (OnCents.sum fun value member => ?_)).add (received _)
    obtain ⟨row, inside, rfl⟩ := List.mem_map.mp member
    exact cents row (List.mem_of_mem_filter inside)
  refine ⟨dues, pays, .inl (not_halfCent_of_onCents discounts), ?_, fun _ => ?_, fun period _ =>
    not_separates_of_onCents (balanced period)⟩
  · have offs : ∀ group ∈ Sql.groupBy (periodOf granularity) (paidRows scenario graceDays today rows),
        centsOff (group.2.map (·.amount)).sum = 0 := by
      intro group member
      obtain ⟨key, -, rfl⟩ := List.mem_map.mp member
      refine OnCents.centsOff_eq (OnCents.sum fun value listed => ?_)
      obtain ⟨row, inside, rfl⟩ := List.mem_map.mp listed
      exact paid row (List.mem_of_mem_filter inside)
    rw [OnCents.centsOff_eq ((datedTotal_onCents cents).sub discounts), periodsOff]
    exact List.sum_eq_zero fun value member => by
      obtain ⟨group, inside, rfl⟩ := List.mem_map.mp member
      exact offs group inside
  · have matched : OnCents (matchedInflow rows granularity inflows) := received _
    rw [unmatched, OnCents.centsOff_eq ((balance.sub (datedTotal_onCents cents)).add matched)]

theorem conserves_iff (cents : ∀ row ∈ rows, OnCents row.amount) :
    Conserves rows granularity scenario graceDays today opening inflows threshold ↔
      Conservable rows granularity scenario graceDays today opening inflows threshold := by
  constructor
  · rintro ⟨⟨periods, ok, -, -⟩, ⟨forecast, made, whole, periodic⟩, position⟩
    have dues := bucketOutflows_ok_iff.mp ⟨periods, ok⟩
    have pays := applyPaymentTimingScenario_ok_iff.mp ⟨forecast, made⟩
    obtain ⟨outflow, discount, bucketed⟩ := forecast_of_ok made
    obtain ⟨inflow, apart⟩ := (balances_iff (forecasts_of_ok ok) cents dues).mp (position periods ok)
    rw [outflow, discount] at whole
    rw [sum_scenario_periods bucketed (paidRows_fit_iff.mp pays).1, outflow] at periodic
    refine ⟨dues, pays, (quantizeMoney_parts_iff (datedTotal_onCents cents)).mp whole, ?_, inflow, apart⟩
    rw [centsOff, ← periodic]
    ring
  · rintro ⟨dues, pays, discount, rounding, inflow, apart⟩
    obtain ⟨periods, ok⟩ := (@bucketOutflows_ok_iff _ today _).mpr dues
    obtain ⟨forecast, made⟩ := applyPaymentTimingScenario_ok_iff.mpr pays
    obtain ⟨paidOut, captured, bucketed⟩ := forecast_of_ok made
    have forecasts := forecasts_of_ok ok
    refine ⟨⟨periods, ok, ?_, forecasts.parted cents⟩, ⟨forecast, made, ?_, ?_⟩, fun others ok' => ?_⟩
    · rw [forecasts.scheduled_map_cents cents, forecasts.sum_exact dues]
    · rw [paidOut, captured]
      exact (quantizeMoney_parts_iff (datedTotal_onCents cents)).mpr discount
    · rw [sum_scenario_periods bucketed (paidRows_fit_iff.mp pays).1, rounding, centsOff, paidOut]
      ring
    · exact (balances_iff (forecasts_of_ok ok') cents dues).mpr ⟨inflow, apart⟩

def springStart : CalendarDate := ⟨2029, 3, 1, by decide, by decide, by decide⟩

def windowEnd : CalendarDate := ⟨2029, 3, 10, by decide, by decide, by decide⟩

def springDue : CalendarDate := ⟨2029, 3, 31, by decide, by decide, by decide⟩

/-- An approved bill that is cheaper until the tenth. -/
def discountedBill (amount percent : ℚ) : CommitmentRow :=
  ⟨some springDue, amount, true, some windowEnd, some percent, false⟩

theorem windowEnd_open : discountWindowOpen (some windowEnd) springStart = true := by decide

theorem capturedDiscount_discountedBill {amount percent : ℚ} (positive : 0 < percent) :
    capturedDiscount .early springStart (discountedBill amount percent) = amount * percent / 100 := by
  have early : TimingScenario.early = .early ∧
      discountWindowOpen (discountedBill amount percent).discountDate springStart = true := ⟨rfl, windowEnd_open⟩
  have offered : ¬(discountedBill amount percent).discountPercent.getD 0 ≤ 0 := not_le.mpr positive
  rw [capturedDiscount, if_pos early, discountNet, if_neg offered]
  rfl

theorem discounted_bill_conserved : Conserves [discountedBill 100 2] .day .early 15 springStart 1000
    ⟨[("2029-03-31", 50)], List.nodup_singleton _⟩ 500 := by
  have cents : ∀ row ∈ [discountedBill 100 2], OnCents row.amount :=
    List.forall_mem_singleton.mpr ⟨10000, by norm_num [discountedBill]⟩
  refine (conserves_iff cents).mpr (conservable_of_cents cents ?_ ⟨100000, by norm_num⟩ ?_ (fun _ _ _ _ => trivial) ?_ ?_)
  · refine List.forall_mem_singleton.mpr ⟨200, ?_⟩
    rw [capturedDiscount_discountedBill (by norm_num)]
    norm_num
  · exact List.forall_mem_singleton.mpr ⟨5000, by norm_num⟩
  · refine List.forall_mem_singleton.mpr fun due _ => ⟨windowEnd, ?_, trivial⟩
    rw [payDay]
    exact if_pos windowEnd_open
  · have due : periodOf .day (discountedBill 100 2) = some "2029-03-31" := by decide
    rw [unmatchedInflow, List.map_singleton, due]
    simp

/-- Half a euro with one per cent off: the half cent is rounded up on both sides. -/
theorem half_cent_counted_twice : (∀ row ∈ [discountedBill (1 / 2) 1], OnCents row.amount) ∧
    ¬Conserves [discountedBill (1 / 2) 1] .week .early 15 springStart 0 ⟨[], List.nodup_nil⟩ 0 := by
  have cents : ∀ row ∈ [discountedBill (1 / 2) 1], OnCents row.amount :=
    List.forall_mem_singleton.mpr ⟨50, by norm_num [discountedBill]⟩
  have total : datedTotal [discountedBill (1 / 2) 1] = 1 / 2 := by
    rw [datedTotal_cons]
    simp [discountedBill, datedTotal]
  have discount : discountTotal .early springStart [discountedBill (1 / 2) 1] = 1 / 200 := by
    rw [discountTotal_cons, capturedDiscount_discountedBill (by norm_num)]
    norm_num [discountedBill, discountTotal]
  refine ⟨cents, fun conserves => ?_⟩
  obtain ⟨forecast, made, whole, -⟩ := conserves.timed
  obtain ⟨outflow, captured, -⟩ := forecast_of_ok made
  rw [outflow, captured, quantizeMoney_parts_iff (datedTotal_onCents cents), total, discount] at whole
  rcases whole with off | ⟨-, above⟩ | ⟨below, -⟩
  · exact off ⟨0, by norm_num⟩
  · norm_num at above
  · norm_num at below

end Payables.Cash
