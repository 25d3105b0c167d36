import Payables.Cash.Forecast
import Payables.Lib.Raising
import Payables.Lib.Sql
import Payables.Money

namespace Payables.Cash

open Lib

theorem inCalendar_eq_ok {found : Option CalendarDate} {date : CalendarDate} :
    inCalendar found = .ok date ↔ found = some date := by
  cases found with
  | none => simp [inCalendar]
  | some day => simp [inCalendar]

theorem addDays_eq_ok {date later : CalendarDate} {days : ℤ} :
    addDays date days = .ok later ↔ (later.ordinal : ℤ) = date.ordinal + days := by
  rw [addDays, inCalendar_eq_ok, CalendarDate.plusDays?_eq_some]

theorem exists_addDays {date : CalendarDate} {days : ℤ} :
    (∃ later, addDays date days = .ok later) ↔
      1 ≤ date.ordinal + days ∧ date.ordinal + days ≤ CalendarDate.lastOrdinal := by
  rw [← CalendarDate.exists_plusDays?]
  exact exists_congr fun _ => addDays_eq_ok.trans CalendarDate.plusDays?_eq_some.symm

theorem nextMonth_eq_ok {start next : CalendarDate} :
    nextMonth start = .ok next ↔ next.months = start.months + 1 ∧ next.day = start.day := by
  have month := start.monthRange
  have month' := next.monthRange
  have dates : (if start.month = 12 then CalendarDate.of? (start.year + 1) 1 start.day
      else CalendarDate.of? start.year (start.month + 1) start.day) = some next ↔
      next.months = start.months + 1 ∧ next.day = start.day := by
    rw [CalendarDate.months, CalendarDate.months]
    by_cases december : start.month = 12
    · rw [if_pos december, CalendarDate.of?_eq_some]
      omega
    · rw [if_neg december, CalendarDate.of?_eq_some]
      omega
  rw [← dates, nextMonth]
  split
  · rename_i later made
    rw [made]
    simp
  · rename_i made
    rw [made]
    simp

/-- The period of a date lies within the calendar, and so does, for a month, the first day after it. -/
def PeriodFits (date : CalendarDate) : Granularity → Prop
  | .day => True
  | .week => date.ordinal - date.weekday + 6 ≤ CalendarDate.lastOrdinal
  | .month => date.year < 9999 ∨ date.month < 12

theorem periodBounds_ok_iff {date : CalendarDate} {granularity : Granularity} :
    (∃ bounds, periodBounds date granularity = .ok bounds) ↔ PeriodFits date granularity := by
  have weekday := date.weekday_lt_ordinal
  have last := date.ordinal_le_last
  cases granularity with
  | day => exact ⟨fun _ => trivial, fun _ => ⟨_, rfl⟩⟩
  | week =>
    constructor
    · rintro ⟨bounds, ok⟩
      obtain ⟨monday, first, ok⟩ := bind_eq_ok.mp ok
      obtain ⟨sunday, sixth, -⟩ := bind_eq_ok.mp ok
      have start := addDays_eq_ok.mp first
      have within := (exists_addDays.mp ⟨sunday, sixth⟩).2
      rw [PeriodFits]
      omega
    · intro fits
      rw [PeriodFits] at fits
      obtain ⟨monday, first⟩ := (@exists_addDays date (-date.weekday)).mpr (by omega)
      have start := addDays_eq_ok.mp first
      obtain ⟨sunday, sixth⟩ := (@exists_addDays monday 6).mpr (by omega)
      exact ⟨_, bind_eq_ok.mpr ⟨monday, first, bind_eq_ok.mpr ⟨sunday, sixth, rfl⟩⟩⟩
  | month =>
    have years := date.yearRange
    have range := date.monthRange
    have start : date.monthStart.months = date.months := rfl
    constructor
    · rintro ⟨bounds, ok⟩
      obtain ⟨next, made, -⟩ := bind_eq_ok.mp ok
      have later := (nextMonth_eq_ok.mp made).1
      have bound := next.months_lt
      rw [start, CalendarDate.months.eq_def date] at later
      rw [PeriodFits]
      omega
    · intro fits
      rw [PeriodFits] at fits
      have valid : (1 ≤ (date.months + 1) / 12 ∧ (date.months + 1) / 12 ≤ 9999) ∧
          (1 ≤ (date.months + 1) % 12 + 1 ∧ (date.months + 1) % 12 + 1 ≤ 12) := by
        rw [CalendarDate.months]
        omega
      have days := daysInMonth_ge ((date.months + 1) / 12) ((date.months + 1) % 12 + 1)
      obtain ⟨next, made⟩ : ∃ next, CalendarDate.ofMonths? (date.months + 1) 1 = some next :=
        ⟨_, dif_pos ⟨valid.1, valid.2, le_rfl, by omega⟩⟩
      have following := CalendarDate.ofMonths?_eq_some.mp made
      have made' : nextMonth date.monthStart = .ok next := nextMonth_eq_ok.mpr following
      -- the day before the first of a later month is a day of the calendar
      have before := daysBefore_lt date.months_ge (by omega : date.months < next.months)
      have ordinal : next.ordinal = daysBefore next.months + 1 := by rw [CalendarDate.ordinal, following.2]
      have length := daysInMonth_ge (date.months / 12) (date.months % 12 + 1)
      have highest := next.ordinal_le_last
      obtain ⟨final, made''⟩ := (@exists_addDays next (-1)).mpr (by omega)
      exact ⟨_, bind_eq_ok.mpr ⟨next, made', bind_eq_ok.mpr ⟨final, made'', rfl⟩⟩⟩

/-- The period of the due date of a row. -/
def periodOf (granularity : Granularity) (row : CommitmentRow) : Option String :=
  row.dueDate.bind fun due => (periodBounds due granularity).toOption.map (·.period)

theorem periodOf_undated {granularity : Granularity} {row : CommitmentRow} (undated : row.dueDate = none) :
    periodOf granularity row = none := by
  rw [periodOf, undated, Option.bind_none]

theorem periodOf_dated {granularity : Granularity} {row : CommitmentRow} {due : CalendarDate} {bounds : PeriodBounds}
    (dated : row.dueDate = some due) (made : periodBounds due granularity = .ok bounds) :
    periodOf granularity row = some bounds.period := by
  rw [periodOf, dated, Option.bind_some, made]
  rfl

/-- What the rows of one period add up to. -/
def amountIn (granularity : Granularity) (rows : List CommitmentRow) (period : String) : ℚ :=
  ((rows.filter fun row => periodOf granularity row = some period).map (·.amount)).sum

theorem amountIn_append (granularity : Granularity) (rows : List CommitmentRow) (row : CommitmentRow) (period : String) :
    amountIn granularity (rows ++ [row]) period =
      amountIn granularity rows period + if periodOf granularity row = some period then row.amount else 0 := by
  rw [amountIn, List.filter_append, List.map_append, List.sum_append, ← amountIn]
  by_cases here : periodOf granularity row = some period
  · simp [here]
  · simp [here]

section Buckets

variable {bounds : PeriodBounds} {change : PeriodBucket → PeriodBucket} {buckets : List PeriodBucket}

theorem addToBucket_periods (keeps : ∀ b, (change b).period = b.period) :
    (addToBucket bounds change buckets).map (·.period) =
      if bounds.period ∈ buckets.map (·.period) then buckets.map (·.period)
      else buckets.map (·.period) ++ [bounds.period] := by
  induction buckets with
  | nil => simp [addToBucket, keeps, PeriodBucket.new]
  | cons b rest ih =>
    by_cases here : b.period = bounds.period
    · simp [addToBucket, here, keeps]
    · have apart : bounds.period ≠ b.period := fun same => here same.symm
      rw [addToBucket, if_neg here, List.map_cons, ih, List.map_cons]
      by_cases later : bounds.period ∈ rest.map (·.period)
      · rw [if_pos later, if_pos (List.mem_cons_of_mem _ later)]
      · have absent : bounds.period ∉ b.period :: rest.map (·.period) := by
          rw [List.mem_cons]
          exact not_or.mpr ⟨apart, later⟩
        rw [if_neg later, if_neg absent, List.cons_append]

/-- A bucket is an earlier one of another period, or the one changed: the earlier one of this period, or a
new one where there is none. -/
theorem mem_addToBucket (distinct : (buckets.map (·.period)).Nodup) {b : PeriodBucket}
    (member : b ∈ addToBucket bounds change buckets) :
    (b ∈ buckets ∧ b.period ≠ bounds.period) ∨
      (∃ old ∈ buckets, old.period = bounds.period ∧ b = change old) ∨
      (bounds.period ∉ buckets.map (·.period) ∧ b = change (.new bounds)) := by
  induction buckets with
  | nil => exact .inr (.inr ⟨List.not_mem_nil, List.mem_singleton.mp member⟩)
  | cons first rest ih =>
    obtain ⟨fresh, distinct⟩ := List.nodup_cons.mp distinct
    by_cases here : first.period = bounds.period
    · rw [addToBucket, if_pos here, List.mem_cons] at member
      rcases member with rfl | later
      · exact .inr (.inl ⟨first, List.mem_cons_self, here, rfl⟩)
      · have listed : b.period ∈ rest.map (·.period) := List.mem_map_of_mem later
        refine .inl ⟨List.mem_cons_of_mem _ later, fun same => fresh ?_⟩
        rwa [same.trans here.symm] at listed

    · rw [addToBucket, if_neg here, List.mem_cons] at member
      rcases member with rfl | later
      · exact .inl ⟨List.mem_cons_self, here⟩
      · rcases ih distinct later with ⟨kept, other⟩ | ⟨old, listed, period, rfl⟩ | ⟨absent, rfl⟩
        · exact .inl ⟨List.mem_cons_of_mem _ kept, other⟩
        · exact .inr (.inl ⟨old, List.mem_cons_of_mem _ listed, period, rfl⟩)
        · refine .inr (.inr ⟨?_, rfl⟩)
          rw [List.map_cons, List.mem_cons]
          exact not_or.mpr ⟨fun same => here same.symm, absent⟩

end Buckets

/-- The amounts of a bucket: committed and pending make up what is scheduled. -/
structure Parted (b : PeriodBucket) : Prop where
  committedCents : OnCents b.committedAmount
  pendingCents : OnCents b.pendingAmount
  parts : b.committedAmount + b.pendingAmount = b.scheduledAmount

theorem Parted.add {b : PeriodBucket} (parted : Parted b) {row : CommitmentRow} (cents : OnCents row.amount)
    (today : CalendarDate) : Parted (b.add today row) := by
  obtain ⟨committed, pending, parts⟩ := parted
  by_cases firm : row.committed = true
  · refine ⟨?_, ?_, ?_⟩
    · simpa only [PeriodBucket.add, if_pos firm] using committed.add cents
    · simpa only [PeriodBucket.add, if_pos firm] using pending
    · simp only [PeriodBucket.add, if_pos firm]
      linarith
  · refine ⟨?_, ?_, ?_⟩
    · simpa only [PeriodBucket.add, if_neg firm] using committed
    · simpa only [PeriodBucket.add, if_neg firm] using pending.add cents
    · simp only [PeriodBucket.add, if_neg firm]
      linarith

/-- What the buckets hold once some rows are in them. -/
structure Tallied (granularity : Granularity) (done : List CommitmentRow) (buckets : List PeriodBucket) : Prop where
  distinct : (buckets.map (·.period)).Nodup
  listed : ∀ period, period ∈ buckets.map (·.period) ↔ some period ∈ done.map (periodOf granularity)
  scheduled : ∀ b ∈ buckets, b.scheduledAmount = amountIn granularity done b.period
  parted : (∀ row ∈ done, OnCents row.amount) → ∀ b ∈ buckets, Parted b

variable {granularity : Granularity} {today : CalendarDate} {done rows : List CommitmentRow} {row : CommitmentRow}
  {buckets : List PeriodBucket}

theorem tallied_nil : Tallied granularity [] [] where
  distinct := .nil
  listed := by simp
  scheduled := by simp
  parted := by simp

theorem Tallied.amountIn_absent (tallied : Tallied granularity done buckets) {period : String}
    (absent : period ∉ buckets.map (·.period)) : amountIn granularity done period = 0 := by
  have none' : done.filter (fun row => periodOf granularity row = some period) = [] := by
    refine List.filter_eq_nil_iff.mpr fun row member here => absent ((tallied.listed period).mpr ?_)
    rw [← of_decide_eq_true here]
    exact List.mem_map_of_mem member
  rw [amountIn, none']
  rfl

/-- A row without a due date is in no bucket. -/
theorem Tallied.skip (tallied : Tallied granularity done buckets) (undated : row.dueDate = none) :
    Tallied granularity (done ++ [row]) buckets := by
  have nowhere : periodOf granularity row = none := periodOf_undated undated
  refine ⟨tallied.distinct, fun period => ?_, fun b member => ?_, fun cents => ?_⟩
  · rw [tallied.listed, List.map_append, List.mem_append, List.map_singleton, List.mem_singleton, nowhere]
    simp
  · rw [amountIn_append, nowhere, tallied.scheduled b member]
    simp
  · exact tallied.parted fun row member => cents row (List.mem_append_left _ member)

theorem Tallied.add (tallied : Tallied granularity done buckets) {due : CalendarDate} {bounds : PeriodBounds}
    (dated : row.dueDate = some due) (made : periodBounds due granularity = .ok bounds) :
    Tallied granularity (done ++ [row]) (addToBucket bounds (.add today row) buckets) := by
  have here := periodOf_dated dated made
  have periods := @addToBucket_periods bounds (PeriodBucket.add today row) buckets fun _ => rfl
  refine ⟨?_, fun period => ?_, fun b member => ?_, fun cents b member => ?_⟩
  · rw [periods]
    split
    · exact tallied.distinct
    · rename_i absent
      exact List.nodup_append.mpr ⟨tallied.distinct, List.nodup_singleton _, by
        rintro one listed other only rfl
        rw [List.mem_singleton] at only
        exact absent (only ▸ listed)⟩
  · rw [periods, List.map_append, List.mem_append, List.map_singleton, List.mem_singleton, here, Option.some.injEq,
      ← tallied.listed]
    split
    · rename_i present
      constructor
      · exact .inl
      · rintro (listed | rfl)
        · exact listed
        · exact present
    · rw [List.mem_append, List.mem_singleton]
  · rw [amountIn_append, here]
    rcases mem_addToBucket tallied.distinct member with ⟨kept, other⟩ | ⟨old, listed, period, rfl⟩ | ⟨absent, rfl⟩
    · rw [if_neg fun same => other (Option.some.inj same).symm, add_zero]
      exact tallied.scheduled b kept
    · have sum := tallied.scheduled old listed
      simp only [PeriodBucket.add, period, if_true, sum]
    · have sum := tallied.amountIn_absent absent
      simp only [PeriodBucket.add, PeriodBucket.new, if_true, sum]
  · have cent : OnCents row.amount := cents row (List.mem_append_right _ (List.mem_singleton_self _))
    have earlier := tallied.parted fun row member => cents row (List.mem_append_left _ member)
    rcases mem_addToBucket tallied.distinct member with ⟨kept, -⟩ | ⟨old, listed, -, rfl⟩ | ⟨-, rfl⟩
    · exact earlier b kept
    · exact (earlier old listed).add cent today
    · exact Parted.add ⟨.zero, .zero, add_zero 0⟩ cent today

/-- The loop keeps the tally, row by row. -/
theorem Tallied.run {result : List PeriodBucket} (tallied : Tallied granularity done buckets)
    (ok : bucketRows granularity today rows buckets = .ok result) : Tallied granularity (done ++ rows) result := by
  induction rows generalizing done buckets with
  | nil =>
    cases ok
    rwa [List.append_nil]
  | cons row rest ih =>
    rw [List.append_cons]
    cases dated : row.dueDate with
    | none =>
      simp only [bucketRows, dated] at ok
      exact ih (tallied.skip dated) ok
    | some due =>
      simp only [bucketRows, dated] at ok
      obtain ⟨bounds, made, ok⟩ := bind_eq_ok.mp ok
      exact ih (tallied.add dated made) ok

/-- The loop returns where the period of each due date is in the calendar. -/
theorem bucketRows_ok_iff :
    (∃ result, bucketRows granularity today rows buckets = .ok result) ↔
      ∀ row ∈ rows, ∀ due, row.dueDate = some due → PeriodFits due granularity := by
  induction rows generalizing buckets with
  | nil => simp [bucketRows]
  | cons row rest ih =>
    rw [List.forall_mem_cons]
    cases dated : row.dueDate with
    | none =>
      simp only [bucketRows, dated]
      rw [ih]
      simp
    | some due =>
      simp only [bucketRows, dated, Option.some.injEq, forall_eq']
      rw [← periodBounds_ok_iff]
      constructor
      · rintro ⟨result, ok⟩
        obtain ⟨bounds, made, ok⟩ := bind_eq_ok.mp ok
        exact ⟨⟨bounds, made⟩, ih.mp ⟨result, ok⟩⟩
      · rintro ⟨⟨bounds, made⟩, others⟩
        obtain ⟨result, ok⟩ := ih.mpr others
        exact ⟨result, bind_eq_ok.mpr ⟨bounds, made, ok⟩⟩

/-- What `bucket_outflows` returns: the periods of the rows in their order, each with what its rows add up
to. -/
structure Forecasts (granularity : Granularity) (rows : List CommitmentRow) (periods : List PeriodBucket) : Prop where
  sorted : (periods.map (·.period)).Pairwise (· < ·)
  listed : ∀ period, period ∈ periods.map (·.period) ↔ some period ∈ rows.map (periodOf granularity)
  scheduled : ∀ p ∈ periods, p.scheduledAmount = quantizeMoney (amountIn granularity rows p.period)
  parted : (∀ row ∈ rows, OnCents row.amount) → ∀ p ∈ periods, p.committedAmount + p.pendingAmount = p.scheduledAmount

theorem sortedBuckets_perm (buckets : List PeriodBucket) : (sortedBuckets buckets).Perm buckets :=
  List.perm_insertionSort _ _

theorem sortedBuckets_sorted (buckets : List PeriodBucket) :
    (sortedBuckets buckets).Pairwise fun one other => one.period ≤ other.period := by
  have total : Std.Total fun one other : PeriodBucket => one.period ≤ other.period :=
    ⟨fun one other => le_total one.period other.period⟩
  have trans : IsTrans PeriodBucket fun one other => one.period ≤ other.period := ⟨fun _ _ _ => le_trans⟩
  exact List.pairwise_insertionSort _ buckets

theorem forecasts_of_ok {periods : List PeriodBucket} (ok : bucketOutflows rows granularity today = .ok periods) :
    Forecasts granularity rows periods := by
  obtain ⟨buckets, made, ok⟩ := bind_eq_ok.mp ok
  cases pure_eq_ok.mp ok
  have tallied : Tallied granularity rows buckets := tallied_nil.run made
  have perm := sortedBuckets_perm buckets
  have names : ((sortedBuckets buckets).map PeriodBucket.inCents).map (·.period) = (sortedBuckets buckets).map (·.period) := by
    rw [List.map_map]
    rfl
  refine ⟨?_, fun period => ?_, fun p member => ?_, fun cents p member => ?_⟩
  · have distinct : ((sortedBuckets buckets).map (·.period)).Nodup := (perm.map _).nodup_iff.mpr tallied.distinct
    have ordered : ((sortedBuckets buckets).map (·.period)).Pairwise (· ≤ ·) :=
      List.pairwise_map.mpr (sortedBuckets_sorted buckets)
    rw [names]
    exact (List.pairwise_and_iff.mpr ⟨ordered, distinct⟩).imp fun both => lt_of_le_of_ne both.1 both.2
  · rw [names, (perm.map _).mem_iff, tallied.listed]
  · obtain ⟨b, inside, rfl⟩ := List.mem_map.mp member
    have sum := tallied.scheduled b (perm.mem_iff.mp inside)
    exact congrArg quantizeMoney sum
  · obtain ⟨b, inside, rfl⟩ := List.mem_map.mp member
    obtain ⟨committed, pending, parts⟩ := tallied.parted cents b (perm.mem_iff.mp inside)
    have whole : OnCents b.scheduledAmount := parts ▸ committed.add pending
    simp only [PeriodBucket.inCents, committed.quantizeMoney_eq, pending.quantizeMoney_eq, whole.quantizeMoney_eq]
    exact parts

theorem bucketOutflows_ok_iff :
    (∃ periods, bucketOutflows rows granularity today = .ok periods) ↔
      ∀ row ∈ rows, ∀ due, row.dueDate = some due → PeriodFits due granularity := by
  rw [← @bucketRows_ok_iff granularity today rows []]
  constructor
  · rintro ⟨periods, ok⟩
    obtain ⟨buckets, made, -⟩ := bind_eq_ok.mp ok
    exact ⟨buckets, made⟩
  · rintro ⟨buckets, made⟩
    exact ⟨_, bind_eq_ok.mpr ⟨buckets, made, rfl⟩⟩

end Payables.Cash
