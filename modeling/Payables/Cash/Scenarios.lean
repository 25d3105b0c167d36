import Payables.Cash.Tallies

namespace Payables.Cash

open Lib

/-- What rounding to cents adds to an amount. -/
def centsOff (value : ℚ) : ℚ := quantizeMoney value - value

theorem OnCents.centsOff_eq {value : ℚ} (cents : OnCents value) : centsOff value = 0 := by
  rw [centsOff, cents.quantizeMoney_eq, sub_self]

/-- A whole number of cents and a half. -/
def HalfCent (value : ℚ) : Prop := ∃ n : ℤ, value * 100 = n + 1 / 2

theorem roundHalfAway_half (n : ℤ) : roundHalfAway ((n : ℚ) + 1 / 2) = if 0 ≤ n then n + 1 else n := by
  by_cases nonneg : 0 ≤ n
  · have cast : (0 : ℚ) ≤ n := by exact_mod_cast nonneg
    have whole : (n : ℚ) + 1 / 2 + 1 / 2 = ((n + 1 : ℤ) : ℚ) := by
      push_cast
      ring
    rw [if_pos nonneg, roundHalfAway_of_nonneg (by linarith), whole, Int.floor_intCast]
  · have cast : (n : ℚ) ≤ -1 := by exact_mod_cast (by omega : n ≤ -1)
    have whole : -((n : ℚ) + 1 / 2) + 1 / 2 = ((-n : ℤ) : ℚ) := by
      push_cast
      ring
    rw [if_neg nonneg, roundHalfAway_of_neg (by linarith), whole, Int.floor_intCast, neg_neg]

/-- A number that is no integer and a half is nearer to one integer than to all others. -/
theorem exists_near {x : ℚ} (apart : ∀ n : ℤ, x ≠ n + 1 / 2) : ∃ n : ℤ, |x - n| < 1 / 2 := by
  have low := Int.floor_le (x + 1 / 2)
  have high := Int.lt_floor_add_one (x + 1 / 2)
  have other := apart (⌊x + 1 / 2⌋ - 1)
  refine ⟨⌊x + 1 / 2⌋, abs_lt.mpr ⟨lt_of_le_of_ne (by linarith) fun same => other ?_, by linarith⟩⟩
  push_cast
  linarith

/-- Two parts of a whole number of cents, each rounded, make it up again where the rounding of the parts
goes opposite ways. -/
theorem quantizeMoney_parts_iff {total part : ℚ} (cents : OnCents total) :
    quantizeMoney (total - part) + quantizeMoney part = total ↔
      ¬HalfCent part ∨ (0 < part ∧ total < part) ∨ (part < 0 ∧ part < total) := by
  obtain ⟨N, rfl⟩ := cents
  have scaled : ((N : ℚ) / 100 - part) * 100 = N - part * 100 := by ring
  have inCents : quantizeMoney ((N : ℚ) / 100 - part) + quantizeMoney part = N / 100 ↔
      roundHalfAway ((N : ℚ) - part * 100) + roundHalfAway (part * 100) = N := by
    rw [quantizeMoney_eq, quantizeMoney_eq, scaled, ← add_div, div_left_inj' (by norm_num : (100 : ℚ) ≠ 0)]
    exact_mod_cast Iff.rfl
  rw [inCents]
  by_cases half : HalfCent part
  · obtain ⟨n, at'⟩ := half
    have rest : (N : ℚ) - part * 100 = ((N - n - 1 : ℤ) : ℚ) + 1 / 2 := by
      rw [at']
      push_cast
      ring
    have positive : 0 < part ↔ 0 ≤ n := by
      constructor
      · intro pos
        have above : (-1 : ℚ) < n := by linarith
        have whole : (-1 : ℤ) < n := by exact_mod_cast above
        omega
      · intro nonneg
        have cast : (0 : ℚ) ≤ n := by exact_mod_cast nonneg
        linarith
    have smaller : (N : ℚ) / 100 < part ↔ N ≤ n := by
      constructor
      · intro below
        have above : (N : ℚ) < n + 1 := by linarith
        have whole : N < n + 1 := by exact_mod_cast above
        omega
      · intro le
        have cast : (N : ℚ) ≤ n := by exact_mod_cast le
        linarith
    have zero : part ≠ 0 := by
      rintro rfl
      have none : (2 * n + 1 : ℚ) = 0 := by linarith
      have whole : 2 * n + 1 = 0 := by exact_mod_cast none
      omega
    have unequal : part ≠ (N : ℚ) / 100 := by
      intro same
      have both : (2 * (N - n) : ℚ) = 1 := by
        rw [same] at at'
        linarith
      have whole : 2 * (N - n) = 1 := by exact_mod_cast both
      omega
    have negative : part < 0 ↔ n < 0 := by
      rw [← not_le, ← not_le, ← positive, le_iff_lt_or_eq, or_iff_left zero.symm]
    have larger : part < (N : ℚ) / 100 ↔ n < N := by
      rw [← not_le, ← not_le, ← smaller, le_iff_lt_or_eq, or_iff_left unequal.symm]
    rw [rest, at', roundHalfAway_half, roundHalfAway_half, positive, smaller, negative, larger]
    have found : HalfCent part := ⟨n, at'⟩
    simp only [found, not_true_eq_false, false_or]
    split <;> split <;> omega
  · obtain ⟨n, near⟩ := exists_near (x := part * 100) fun n at' => half ⟨n, at'⟩
    have rest : |(N : ℚ) - part * 100 - ((N - n : ℤ) : ℚ)| < 1 / 2 := by
      have turned : (N : ℚ) - part * 100 - ((N - n : ℤ) : ℚ) = -(part * 100 - n) := by
        push_cast
        ring
      rwa [turned, abs_neg]
    rw [roundHalfAway_eq_of_near near, roundHalfAway_eq_of_near rest]
    exact ⟨fun _ => .inl half, fun _ => by omega⟩

/-- What the rows with a due date add up to. -/
def datedTotal (rows : List CommitmentRow) : ℚ := ((rows.filter (·.dueDate.isSome)).map (·.amount)).sum

theorem datedTotal_cons (row : CommitmentRow) (rest : List CommitmentRow) :
    datedTotal (row :: rest) = (if row.dueDate.isSome then row.amount else 0) + datedTotal rest :=
  Sql.sum_filter_cons _ _ row rest

theorem datedTotal_onCents {rows : List CommitmentRow} (cents : ∀ row ∈ rows, OnCents row.amount) : OnCents (datedTotal rows) := by
  refine OnCents.sum fun value member => ?_
  obtain ⟨row, inside, rfl⟩ := List.mem_map.mp member
  exact cents row (List.mem_of_mem_filter inside)

theorem amountIn_onCents {rows : List CommitmentRow} (cents : ∀ row ∈ rows, OnCents row.amount) (granularity : Granularity)
    (period : String) : OnCents (amountIn granularity rows period) := by
  refine OnCents.sum fun value member => ?_
  obtain ⟨row, inside, rfl⟩ := List.mem_map.mp member
  exact cents row (List.mem_of_mem_filter inside)

section Outflows

variable {granularity : Granularity} {rows : List CommitmentRow} {periods : List PeriodBucket}

theorem periodOf_isSome (fits : ∀ row ∈ rows, ∀ due, row.dueDate = some due → PeriodFits due granularity)
    {row : CommitmentRow} (member : row ∈ rows) : (periodOf granularity row).isSome = row.dueDate.isSome := by
  cases dated : row.dueDate with
  | none => rw [periodOf_undated dated]; rfl
  | some due =>
    obtain ⟨bounds, made⟩ := periodBounds_ok_iff.mpr (fits row member due dated)
    rw [periodOf_dated dated made]
    rfl

/-- The rows of some of the periods, counted period by period. -/
theorem sum_amountIn (granularity : Granularity) (rows : List CommitmentRow) {names : List String} (distinct : names.Nodup) :
    (names.map (amountIn granularity rows)).sum =
      ((rows.filter fun row => (periodOf granularity row).any (· ∈ names)).map (·.amount)).sum := by
  have grouped := Sql.sum_groups (periodOf granularity) (·.amount) rows (names.map some)
    (distinct.map (Option.some_injective _))
  rw [List.map_map] at grouped
  refine Eq.trans grouped (congrArg (fun chosen : List CommitmentRow => (chosen.map (·.amount)).sum)
    (List.filter_congr fun row _ => ?_))
  cases periodOf granularity row with
  | none => simp
  | some period => simp

theorem Forecasts.distinct (forecasts : Forecasts granularity rows periods) : (periods.map (·.period)).Nodup :=
  forecasts.sorted.imp fun before => before.ne

/-- The periods hold the rows with a due date, each once. -/
theorem Forecasts.sum_exact (forecasts : Forecasts granularity rows periods)
    (fits : ∀ row ∈ rows, ∀ due, row.dueDate = some due → PeriodFits due granularity) :
    ((periods.map (·.period)).map (amountIn granularity rows)).sum = datedTotal rows := by
  rw [sum_amountIn granularity rows forecasts.distinct, datedTotal]
  refine congrArg (fun chosen : List CommitmentRow => (chosen.map (·.amount)).sum) (List.filter_congr fun row member => ?_)
  rw [← periodOf_isSome fits member]
  cases here : periodOf granularity row with
  | none => rfl
  | some period =>
    have listed := (forecasts.listed period).mpr (here ▸ List.mem_map_of_mem member)
    simpa using listed

theorem Forecasts.scheduled_map (forecasts : Forecasts granularity rows periods) :
    periods.map (·.scheduledAmount) = (periods.map (·.period)).map fun period => quantizeMoney (amountIn granularity rows period) := by
  rw [List.map_map]
  exact List.map_congr_left forecasts.scheduled

theorem sum_add_centsOff (values : List ℚ) : (values.map quantizeMoney).sum = values.sum + (values.map centsOff).sum := by
  induction values with
  | nil => simp
  | cons value rest ih =>
    simp only [List.map_cons, List.sum_cons, ih, centsOff]
    ring

/-- What rounding adds to the amounts of the periods of some rows. -/
def periodsOff (granularity : Granularity) (rows : List CommitmentRow) : ℚ :=
  ((Sql.groupBy (periodOf granularity) rows).map fun group => centsOff (group.2.map (·.amount)).sum).sum

theorem Forecasts.sum_scheduled (forecasts : Forecasts granularity rows periods)
    (dated : ∀ row ∈ rows, row.dueDate.isSome = true)
    (fits : ∀ row ∈ rows, ∀ due, row.dueDate = some due → PeriodFits due granularity) :
    (periods.map (·.scheduledAmount)).sum = datedTotal rows + periodsOff granularity rows := by
  have groups : ((rows.map (periodOf granularity)).dedup).Perm ((periods.map (·.period)).map some) := by
    refine (List.perm_ext_iff_of_nodup (List.nodup_dedup _) (forecasts.distinct.map (Option.some_injective _))).mpr fun key => ?_
    rw [List.mem_dedup]
    cases key with
    | none =>
      have keyed : none ∉ rows.map (periodOf granularity) := by
        intro listed
        obtain ⟨row, member, nowhere⟩ := List.mem_map.mp listed
        have found := (periodOf_isSome fits member).trans (dated row member)
        rw [nowhere] at found
        cases found
      simp [keyed]
    | some period =>
      rw [← forecasts.listed, List.mem_map_of_injective (Option.some_injective _)]
  have offs : periodsOff granularity rows =
      (((periods.map (·.period)).map (amountIn granularity rows)).map centsOff).sum := by
    rw [periodsOff, Sql.groupBy, List.map_map, (groups.map _).sum_eq]
    simp only [List.map_map, Function.comp_def, amountIn]
  rw [forecasts.scheduled_map, offs, ← forecasts.sum_exact fits, ← sum_add_centsOff]
  simp only [List.map_map, Function.comp_def]

/-- Amounts in cents are not rounded. -/
theorem Forecasts.scheduled_cents (forecasts : Forecasts granularity rows periods) (cents : ∀ row ∈ rows, OnCents row.amount)
    {p : PeriodBucket} (member : p ∈ periods) : p.scheduledAmount = amountIn granularity rows p.period := by
  rw [forecasts.scheduled p member, (amountIn_onCents cents granularity p.period).quantizeMoney_eq]

theorem Forecasts.scheduled_map_cents (forecasts : Forecasts granularity rows periods)
    (cents : ∀ row ∈ rows, OnCents row.amount) :
    periods.map (·.scheduledAmount) = (periods.map (·.period)).map (amountIn granularity rows) := by
  rw [List.map_map]
  exact List.map_congr_left fun p member => forecasts.scheduled_cents cents member

end Outflows

section Scenario

variable {scenario : TimingScenario} {graceDays : ℤ} {today : CalendarDate} {granularity : Granularity}
  {rows : List CommitmentRow} {totals result : ScenarioTotals}

/-- The discount a scenario captures on a row. -/
def capturedDiscount (scenario : TimingScenario) (today : CalendarDate) (row : CommitmentRow) : ℚ :=
  if scenario = .early ∧ discountWindowOpen row.discountDate today = true then (discountNet row.amount row.discountPercent).2
  else 0

/-- The day a scenario pays a row that is due, where that day is in the calendar. -/
def payDay (scenario : TimingScenario) (graceDays : ℤ) (today : CalendarDate) (row : CommitmentRow) (due : CalendarDate) :
    Option CalendarDate :=
  match scenario with
  | .early => if discountWindowOpen row.discountDate today then row.discountDate else some due
  | .onTime => some due
  | .late => due.plusDays? graceDays

/-- A row as a scenario pays it. -/
def paidRow (scenario : TimingScenario) (graceDays : ℤ) (today : CalendarDate) (row : CommitmentRow) : Option CommitmentRow :=
  row.dueDate.bind fun due => (payDay scenario graceDays today row due).map fun payDate =>
    ⟨some payDate, row.amount - capturedDiscount scenario today row, row.committed, none, none, row.unconverted⟩

def paidRows (scenario : TimingScenario) (graceDays : ℤ) (today : CalendarDate) (rows : List CommitmentRow) :
    List CommitmentRow :=
  rows.filterMap (paidRow scenario graceDays today)

def discountTotal (scenario : TimingScenario) (today : CalendarDate) (rows : List CommitmentRow) : ℚ :=
  ((rows.filter (·.dueDate.isSome)).map (capturedDiscount scenario today)).sum

theorem discountTotal_cons (row : CommitmentRow) (rest : List CommitmentRow) :
    discountTotal scenario today (row :: rest) =
      (if row.dueDate.isSome then capturedDiscount scenario today row else 0) + discountTotal scenario today rest :=
  Sql.sum_filter_cons _ _ row rest

theorem paidRow_undated {row : CommitmentRow} (undated : row.dueDate = none) :
    paidRow scenario graceDays today row = none := by
  rw [paidRow, undated, Option.bind_none]

theorem paidRow_dated {row : CommitmentRow} {due day : CalendarDate} (dated : row.dueDate = some due)
    (found : payDay scenario graceDays today row due = some day) :
    paidRow scenario graceDays today row =
      some ⟨some day, row.amount - capturedDiscount scenario today row, row.committed, none, none, row.unconverted⟩ := by
  rw [paidRow, dated, Option.bind_some, found, Option.map_some]

theorem paidRows_cons_undated {row : CommitmentRow} (undated : row.dueDate = none) (rest : List CommitmentRow) :
    paidRows scenario graceDays today (row :: rest) = paidRows scenario graceDays today rest :=
  List.filterMap_cons_none (paidRow_undated undated)

theorem paidRows_cons_dated {row : CommitmentRow} {due day : CalendarDate} (dated : row.dueDate = some due)
    (found : payDay scenario graceDays today row due = some day) (rest : List CommitmentRow) :
    paidRows scenario graceDays today (row :: rest) =
      ⟨some day, row.amount - capturedDiscount scenario today row, row.committed, none, none, row.unconverted⟩ ::
        paidRows scenario graceDays today rest :=
  List.filterMap_cons_some (paidRow_dated dated found)

theorem discountNet_fst (amount : ℚ) (percent : Option ℚ) : (discountNet amount percent).1 = amount - (discountNet amount percent).2 := by
  unfold discountNet
  split
  · rw [sub_zero]
  · rfl

theorem payment_eq_ok {row : CommitmentRow} {due : CalendarDate} {paid : Payment} :
    payment scenario graceDays today row due = .ok paid ↔
      payDay scenario graceDays today row due = some paid.payDate ∧
        paid.net = row.amount - capturedDiscount scenario today row ∧ paid.captured = capturedDiscount scenario today row := by
  obtain ⟨payDate, net, captured⟩ := paid
  have plain : ∀ day : CalendarDate, (Except.ok ⟨day, row.amount, 0⟩ : Except Raised Payment) = .ok ⟨payDate, net, captured⟩ ↔
      some day = some payDate ∧ net = row.amount - 0 ∧ captured = 0 := by
    intro day
    rw [sub_zero, Except.ok.injEq, Payment.mk.injEq, Option.some.injEq]
    exact ⟨fun ⟨one, two, three⟩ => ⟨one, two.symm, three.symm⟩, fun ⟨one, two, three⟩ => ⟨one, two.symm, three.symm⟩⟩
  cases scenario with
  | early =>
    cases dated : row.discountDate with
    | none =>
      have closed : ¬(TimingScenario.early = .early ∧ discountWindowOpen none today = true) := by simp [discountWindowOpen]
      have zero : capturedDiscount .early today row = 0 := by rw [capturedDiscount, dated, if_neg closed]
      simp only [payment, payDay, dated, zero]
      exact plain due
    | some day =>
      by_cases window : discountWindowOpen (some day) today = true
      · simp only [payment, payDay, capturedDiscount, dated, window, and_self, if_true, discountNet_fst, Except.ok.injEq,
          Payment.mk.injEq, Option.some.injEq]
        exact ⟨fun ⟨one, two, three⟩ => ⟨one, two.symm, three.symm⟩, fun ⟨one, two, three⟩ => ⟨one, two.symm, three.symm⟩⟩
      · simp only [payment, payDay, capturedDiscount, dated, window, and_false, Bool.false_eq_true, if_false]
        exact plain due
  | onTime =>
    have other : ¬(TimingScenario.onTime = .early ∧ discountWindowOpen row.discountDate today = true) := by simp
    simp only [payment, payDay, capturedDiscount, if_neg other]
    exact plain due
  | late =>
    have other : ¬(TimingScenario.late = .early ∧ discountWindowOpen row.discountDate today = true) := by simp
    simp only [payment, payDay, capturedDiscount, if_neg other, sub_zero, bind_eq_ok, pure_eq_ok, Payment.mk.injEq,
      addDays_eq_ok, CalendarDate.plusDays?_eq_some]
    constructor
    · rintro ⟨day, later, rfl, rfl, rfl⟩
      exact ⟨later, rfl, rfl⟩
    · rintro ⟨later, rfl, rfl⟩
      exact ⟨payDate, later, rfl, rfl, rfl⟩

theorem exists_payment {row : CommitmentRow} {due : CalendarDate} :
    (∃ paid, payment scenario graceDays today row due = .ok paid) ↔ ∃ day, payDay scenario graceDays today row due = some day := by
  constructor
  · rintro ⟨paid, ok⟩
    exact ⟨_, (payment_eq_ok.mp ok).1⟩
  · rintro ⟨day, found⟩
    exact ⟨⟨day, _, _⟩, payment_eq_ok.mpr ⟨found, rfl, rfl⟩⟩

/-- What the loop of a scenario has added up. -/
structure Totalled (scenario : TimingScenario) (graceDays : ℤ) (today : CalendarDate) (rows : List CommitmentRow)
    (before after : ScenarioTotals) : Prop where
  outflow : after.outflow = before.outflow + (datedTotal rows - discountTotal scenario today rows)
  discount : after.discount = before.discount + discountTotal scenario today rows
  timed : after.timedRows = before.timedRows ++ paidRows scenario graceDays today rows

theorem totalled_of_ok (ok : scenarioRows scenario graceDays today rows totals = .ok result) :
    Totalled scenario graceDays today rows totals result := by
  induction rows generalizing totals with
  | nil =>
    cases ok
    refine ⟨?_, ?_, ?_⟩
    · simp [datedTotal, discountTotal]
    · simp [discountTotal]
    · simp [paidRows]
  | cons row rest ih =>
    cases dated : row.dueDate with
    | none =>
      simp only [scenarioRows, dated] at ok
      obtain ⟨outflow, discount, timed⟩ := ih ok
      refine ⟨?_, ?_, ?_⟩
      · simp only [datedTotal_cons, discountTotal_cons, dated, Option.isSome_none, Bool.false_eq_true, if_false, zero_add]
        exact outflow
      · simp only [discountTotal_cons, dated, Option.isSome_none, Bool.false_eq_true, if_false, zero_add]
        exact discount
      · rw [paidRows_cons_undated dated]
        exact timed
    | some due =>
      simp only [scenarioRows, dated] at ok
      obtain ⟨paid, made, ok⟩ := bind_eq_ok.mp ok
      obtain ⟨outflow, discount, timed⟩ := ih ok
      obtain ⟨day, net, captured⟩ := payment_eq_ok.mp made
      simp only [ScenarioTotals.add] at outflow discount timed
      refine ⟨?_, ?_, ?_⟩
      · simp only [datedTotal_cons, discountTotal_cons, dated, Option.isSome_some, if_true]
        rw [outflow, net]
        ring
      · simp only [discountTotal_cons, dated, Option.isSome_some, if_true]
        rw [discount, captured]
        ring
      · rw [timed, paidRows_cons_dated dated day, List.append_assoc, List.singleton_append, net]

theorem scenarioRows_ok_iff :
    (∃ result, scenarioRows scenario graceDays today rows totals = .ok result) ↔
      ∀ row ∈ rows, ∀ due, row.dueDate = some due → ∃ day, payDay scenario graceDays today row due = some day := by
  induction rows generalizing totals with
  | nil => simp [scenarioRows]
  | cons row rest ih =>
    rw [List.forall_mem_cons]
    cases dated : row.dueDate with
    | none =>
      simp only [scenarioRows, dated]
      rw [ih]
      simp
    | some due =>
      simp only [scenarioRows, dated, Option.some.injEq, forall_eq']
      rw [← exists_payment]
      constructor
      · rintro ⟨result, ok⟩
        obtain ⟨paid, made, ok⟩ := bind_eq_ok.mp ok
        exact ⟨⟨paid, made⟩, ih.mp ⟨result, ok⟩⟩
      · rintro ⟨⟨paid, made⟩, others⟩
        obtain ⟨result, ok⟩ := ih.mpr others
        exact ⟨result, bind_eq_ok.mpr ⟨paid, made, ok⟩⟩

theorem mem_paidRows {paid : CommitmentRow} :
    paid ∈ paidRows scenario graceDays today rows ↔ ∃ row ∈ rows, ∃ due day, row.dueDate = some due ∧
      payDay scenario graceDays today row due = some day ∧
      paid = ⟨some day, row.amount - capturedDiscount scenario today row, row.committed, none, none, row.unconverted⟩ := by
  rw [paidRows, List.mem_filterMap]
  constructor
  · rintro ⟨row, member, found⟩
    obtain ⟨due, dated, found⟩ := Option.bind_eq_some_iff.mp found
    obtain ⟨day, pays, rfl⟩ := Option.map_eq_some_iff.mp found
    exact ⟨row, member, due, day, dated, pays, rfl⟩
  · rintro ⟨row, member, due, day, dated, pays, rfl⟩
    exact ⟨row, member, paidRow_dated dated pays⟩

theorem datedTotal_paidRows
    (pays : ∀ row ∈ rows, ∀ due, row.dueDate = some due → ∃ day, payDay scenario graceDays today row due = some day) :
    datedTotal (paidRows scenario graceDays today rows) = datedTotal rows - discountTotal scenario today rows := by
  induction rows with
  | nil => simp [paidRows, datedTotal, discountTotal]
  | cons row rest ih =>
    obtain ⟨here, others⟩ := List.forall_mem_cons.mp pays
    have later := ih others
    cases dated : row.dueDate with
    | none =>
      rw [paidRows_cons_undated dated, later, datedTotal_cons, discountTotal_cons, dated]
      simp
    | some due =>
      obtain ⟨day, found⟩ := here due dated
      rw [paidRows_cons_dated dated found, datedTotal_cons, later, datedTotal_cons, discountTotal_cons, dated]
      simp only [Option.isSome_some, if_true]
      ring

end Scenario

end Payables.Cash
