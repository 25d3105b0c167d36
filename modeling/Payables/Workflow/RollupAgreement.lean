import Mathlib
import Payables.Workflow.CurrencyRollup

namespace Payables
open Lib

/-- The figures of a breakdown, as one vector. -/
abbrev Figures := ℚ × ℚ × ℕ × ℕ

def CurrencyBreakdownEntry.figures (entry : CurrencyBreakdownEntry) : Figures :=
  (entry.originalAmount, entry.reportingAmount, entry.count, entry.unconvertedCount)

def CurrencyBucket.figures (bucket : CurrencyBucket) : Figures :=
  (bucket.originalAmount, bucket.reportingAmount, bucket.count, bucket.unconvertedCount)

/-- The components of a sum of figures. -/
theorem sum_figures {α : Type*} (figures : α → Figures) (values : List α) : (values.map figures).sum =
    ((values.map fun value => (figures value).1).sum, (values.map fun value => (figures value).2.1).sum,
      (values.map fun value => (figures value).2.2.1).sum, (values.map fun value => (figures value).2.2.2).sum) := by
  induction values with
  | nil => rfl
  | cons value rest ih =>
    rw [List.map_cons, List.sum_cons, ih]
    rfl

/-- What a rollup says of one currency. -/
def ReportingRollup.figuresOf (rollup : ReportingRollup) (currency : String) : Figures :=
  ((rollup.byCurrency.filter fun entry => entry.currency = currency).map (·.figures)).sum

/-- Two rollups with the same totals, the same counts and the same figures in each currency. -/
structure SameFigures (a b : ReportingRollup) : Prop where
  reportingCurrency : a.reportingCurrency = b.reportingCurrency
  total : a.totalReportingAmount = b.totalReportingAmount
  totalCount : a.totalCount = b.totalCount
  unconvertedCount : a.unconvertedCount = b.unconvertedCount
  perCurrency : ∀ currency, a.figuresOf currency = b.figuresOf currency

section Loop

variable {tgt : String}

/-- What one row adds. -/
def ReportingRow.figures (tgt : String) (row : ReportingRow) : Figures :=
  (row.amount, (row.reported tgt).1, 1, (row.reported tgt).2.toNat)

/-- The figures of the rows whose bucket is chosen. -/
def rowFigures (tgt : String) (chosen : String → Bool) (rows : List ReportingRow) : Figures :=
  ((rows.filter fun row => chosen (row.bucketCurrency tgt)).map (·.figures tgt)).sum

def bucketFigures (chosen : String → Bool) (buckets : List (String × CurrencyBucket)) : Figures :=
  ((buckets.filter fun bucket => chosen bucket.1).map (·.2.figures)).sum

theorem bucketFigures_add (chosen : String → Bool) (currency : String) (amount reported : ℚ) (unconverted : Bool)
    (buckets : List (String × CurrencyBucket)) :
    bucketFigures chosen (addToBucket currency amount reported unconverted buckets) =
      bucketFigures chosen buckets + if chosen currency then (amount, reported, 1, unconverted.toNat) else 0 := by
  unfold bucketFigures
  induction buckets with
  | nil => cases found : chosen currency <;> simp [addToBucket, found, CurrencyBucket.figures]
  | cons first rest ih =>
    obtain ⟨key, bucket⟩ := first
    by_cases same : key = currency
    · subst same
      cases found : chosen key
      · simp [addToBucket, found]
      · simp only [addToBucket, if_true, List.filter_cons, found, List.map_cons, List.sum_cons, CurrencyBucket.figures]
        rw [add_right_comm]
        rfl
    · simp only [addToBucket, if_neg same, List.filter_cons]
      cases found : chosen key
      · simpa using ih
      · simp only [if_true, List.map_cons, List.sum_cons, ih, add_assoc]

/-- The loop adds up the rows, whatever it has met before. -/
theorem foldl_rollup (rows : List ReportingRow) (loop : RollupLoop) :
    (rows.foldl (RollupLoop.add tgt) loop).total = loop.total + (rows.map fun row => (row.reported tgt).1).sum ∧
    (rows.foldl (RollupLoop.add tgt) loop).unconverted =
      loop.unconverted + (rows.map fun row => (row.reported tgt).2.toNat).sum ∧
    ∀ chosen, bucketFigures chosen (rows.foldl (RollupLoop.add tgt) loop).buckets =
      bucketFigures chosen loop.buckets + rowFigures tgt chosen rows := by
  induction rows generalizing loop with
  | nil => simp [rowFigures]
  | cons row rest ih =>
    obtain ⟨total, unconverted, buckets⟩ := ih (loop.add tgt row)
    refine ⟨?_, ?_, fun chosen => ?_⟩
    · rw [List.foldl_cons, total, List.map_cons, List.sum_cons, ← add_assoc]
      rfl
    · rw [List.foldl_cons, unconverted, List.map_cons, List.sum_cons, ← add_assoc]
      rfl
    · rw [List.foldl_cons, buckets, RollupLoop.add, bucketFigures_add, add_assoc]
      congr 1
      unfold rowFigures
      rw [List.filter_cons]
      cases chosen (row.bucketCurrency tgt)
      · simp
      · simp only [if_true, List.map_cons, List.sum_cons]
        rfl

theorem ReportingRow.reported_cents (row : ReportingRow) : OnCents (row.reported tgt).1 := by
  unfold ReportingRow.reported reportingAmountForRow
  simp only
  split <;> split_ifs <;> exact quantizeMoney_onCents _

/-- Every bucket holds whole cents. -/
def BucketsOnCents (buckets : List (String × CurrencyBucket)) : Prop :=
  ∀ bucket ∈ buckets, OnCents bucket.2.originalAmount ∧ OnCents bucket.2.reportingAmount

theorem BucketsOnCents.add {buckets : List (String × CurrencyBucket)} (cents : BucketsOnCents buckets) {currency : String}
    {amount reported : ℚ} {unconverted : Bool} (amountCents : OnCents amount) (reportedCents : OnCents reported) :
    BucketsOnCents (addToBucket currency amount reported unconverted buckets) := by
  induction buckets with
  | nil =>
    intro bucket member
    rw [addToBucket, List.mem_singleton] at member
    subst member
    exact ⟨amountCents, reportedCents⟩
  | cons first rest ih =>
    obtain ⟨atFirst, others⟩ := List.forall_mem_cons.mp cents
    rw [addToBucket]
    split
    · exact List.forall_mem_cons.mpr ⟨⟨atFirst.1.add amountCents, atFirst.2.add reportedCents⟩, others⟩
    · exact List.forall_mem_cons.mpr ⟨atFirst, ih others⟩

theorem foldl_rollup_cents (rows : List ReportingRow) (loop : RollupLoop) (cents : BucketsOnCents loop.buckets) :
    BucketsOnCents (rows.foldl (RollupLoop.add tgt) loop).buckets := by
  induction rows generalizing loop with
  | nil => exact cents
  | cons row rest ih => exact ih (loop.add tgt row) (cents.add row.amount_cents row.reported_cents)

theorem breakdownEntry_figures {currency : String} {bucket : CurrencyBucket} (original : OnCents bucket.originalAmount)
    (reporting : OnCents bucket.reportingAmount) : (breakdownEntry currency bucket).figures = bucket.figures := by
  simp only [breakdownEntry, CurrencyBreakdownEntry.figures, CurrencyBucket.figures, original.quantizeMoney_eq,
    reporting.quantizeMoney_eq]

/-- The entries of buckets in whole cents add up to the buckets, in any order. -/
theorem sum_breakdownEntries {buckets sorted : List (String × CurrencyBucket)} (cents : BucketsOnCents buckets)
    (order : sorted.Perm buckets) (chosen : String → Bool) :
    (((sorted.map fun bucket => breakdownEntry bucket.1 bucket.2).filter fun entry => chosen entry.currency).map
      (·.figures)).sum = bucketFigures chosen buckets := by
  have figures : (sorted.filter fun bucket => chosen bucket.1).map (fun bucket => (breakdownEntry bucket.1 bucket.2).figures) =
      (sorted.filter fun bucket => chosen bucket.1).map (·.2.figures) := by
    refine List.map_congr_left fun bucket member => ?_
    obtain ⟨original, reporting⟩ := cents bucket (order.mem_iff.mp (List.mem_of_mem_filter member))
    exact breakdownEntry_figures original reporting
  rw [List.filter_map, List.map_map, bucketFigures, ← ((order.filter _).map _).sum_eq, ← figures]
  rfl

end Loop

/-- What the rows of a list add up to, one at a time. -/
theorem rollupToReportingCurrency_spec (rows : List ReportingRow) (reportingCurrency : String) :
    (rollupToReportingCurrency rows reportingCurrency).totalReportingAmount =
      (rows.map fun row => (row.reported (pyUpper reportingCurrency)).1).sum ∧
    (rollupToReportingCurrency rows reportingCurrency).unconvertedCount =
      (rows.map fun row => (row.reported (pyUpper reportingCurrency)).2.toNat).sum ∧
    (rollupToReportingCurrency rows reportingCurrency).totalCount = rows.length ∧
    ∀ currency, (rollupToReportingCurrency rows reportingCurrency).figuresOf currency =
      rowFigures (pyUpper reportingCurrency) (fun key => key = currency) rows := by
  obtain ⟨total, unconverted, buckets⟩ := @foldl_rollup (pyUpper reportingCurrency) rows ⟨0, 0, []⟩
  have cents := @foldl_rollup_cents (pyUpper reportingCurrency) rows ⟨0, 0, []⟩ (fun bucket member => by cases member)
  have order := List.mergeSort_perm (rows.foldl (RollupLoop.add (pyUpper reportingCurrency)) ⟨0, 0, []⟩).buckets
    fun a b => decide (b.2.reportingAmount ≤ a.2.reportingAmount)
  have entries := sum_breakdownEntries cents order
  refine ⟨?_, ?_, ?_, fun currency => ?_⟩
  · rw [zero_add] at total
    have whole : OnCents (rows.map fun row => (row.reported (pyUpper reportingCurrency)).1).sum :=
      .sum (List.forall_mem_map.mpr fun row _ => row.reported_cents)
    rw [rollupToReportingCurrency, total, whole.quantizeMoney_eq]
  · rw [rollupToReportingCurrency, unconverted, Nat.zero_add]
  · have counts := congrArg (·.2.2.1) ((entries fun _ => true).trans ((buckets fun _ => true).trans (zero_add _)))
    simp only [rowFigures, List.filter_true, sum_figures, ReportingRow.figures, List.map_const', List.sum_replicate,
      nsmul_one, Nat.cast_id] at counts
    exact counts
  · exact (entries fun key => key = currency).trans ((buckets _).trans (zero_add _))

section Groups

variable {reportingCurrency : String}

/-- The amount that a `GROUP BY` sums. -/
def ReportingRow.sqlFigure (reportingCurrency : String) (row : ReportingRow) : ℚ :=
  (row.sqlAmount reportingCurrency).getD 0

theorem ReportingRow.hasLock_eq (row : ReportingRow) : row.hasLock reportingCurrency = some
    (row.reportingAmount.isSome && decide (row.reportingCurrency.map pyUpper = some (sqlTarget reportingCurrency))) := by
  unfold ReportingRow.hasLock
  cases row.reportingAmount with
  | none => rfl
  | some value =>
    cases row.reportingCurrency with
    | none => rfl
    | some code => by_cases same : pyUpper code = sqlTarget reportingCurrency <;> simp [Sql.all, Sql.isNotNull, Sql.eq, Sql.and, same]

theorem ReportingRow.sqlAmount_eq (row : ReportingRow) :
    row.sqlAmount reportingCurrency = some (row.sqlFigure reportingCurrency) := by
  unfold ReportingRow.sqlFigure ReportingRow.sqlAmount Sql.caseWhen
  rw [row.hasLock_eq, Sql.holds_some]
  cases row.reportingAmount with
  | none => rfl
  | some value => split <;> rfl

theorem ReportingRow.sqlFigure_cents (row : ReportingRow) : OnCents (row.sqlFigure reportingCurrency) := by
  unfold ReportingRow.sqlFigure ReportingRow.sqlAmount Sql.caseWhen
  split
  · cases locked : row.reportingAmount with
    | none => exact .zero
    | some value => exact row.reporting_cents value locked
  · exact row.amount_cents

/-- What one row adds to its group. -/
def ReportingRow.sqlFigures (reportingCurrency : String) (row : ReportingRow) : Figures :=
  (row.amount, row.sqlFigure reportingCurrency, 1, row.sqlUnconverted reportingCurrency)

theorem groupedRow_figures (group : String × List ReportingRow) :
    (groupedRow reportingCurrency group).figures = (group.2.map (·.sqlFigures reportingCurrency)).sum := by
  have amounts := Sql.coalesce_sum (group.2.map (·.amount))
  have figures := Sql.coalesce_sum (group.2.map (·.sqlFigure reportingCurrency))
  have unconverted := Sql.coalesce_sum (group.2.map (·.sqlUnconverted reportingCurrency))
  rw [List.map_map] at amounts figures unconverted
  simp only [groupedRow, CurrencyBreakdownEntry.figures, sum_figures, ReportingRow.sqlFigures, ReportingRow.sqlAmount_eq,
    List.map_const', List.sum_replicate, nsmul_one, Nat.cast_id]
  exact Prod.ext amounts (Prod.ext figures (Prod.ext rfl unconverted))

theorem mem_select_cents {rows : List ReportingRow} {entry : CurrencyBreakdownEntry}
    (member : entry ∈ invoiceCurrencyRollupSelect rows reportingCurrency) :
    OnCents entry.originalAmount ∧ OnCents entry.reportingAmount := by
  obtain ⟨group, -, rfl⟩ := List.mem_map.mp member
  have figures := @groupedRow_figures reportingCurrency group
  rw [sum_figures] at figures
  have original := congrArg (·.1) figures
  have reporting := congrArg (·.2.1) figures
  simp only [CurrencyBreakdownEntry.figures, ReportingRow.sqlFigures] at original reporting
  rw [original, reporting]
  exact ⟨.sum (List.forall_mem_map.mpr fun row _ => row.amount_cents),
    .sum (List.forall_mem_map.mpr fun row _ => row.sqlFigure_cents)⟩

/-- The currency of a group, once it is rolled up. -/
def rolledCurrency (reportingCurrency key : String) : String := pyUpper (orDefault (some key) (pyUpper reportingCurrency))

/-- The breakdown entry of a group. -/
def rolledEntry (reportingCurrency : String) (group : CurrencyBreakdownEntry) : CurrencyBreakdownEntry :=
  ⟨rolledCurrency reportingCurrency group.currency, quantizeMoney group.originalAmount, quantizeMoney group.reportingAmount,
    group.count, group.unconvertedCount⟩

theorem sum_rolledEntries {rows : List ReportingRow} {groups sorted : List CurrencyBreakdownEntry}
    (order : groups.Perm (invoiceCurrencyRollupSelect rows reportingCurrency))
    (sorting : sorted.Perm (groups.map (rolledEntry reportingCurrency))) (chosen : String → Bool) :
    ((sorted.filter fun entry => chosen entry.currency).map (·.figures)).sum =
      ((rows.filter fun row => chosen (rolledCurrency reportingCurrency (row.currencyKey reportingCurrency))).map
        (·.sqlFigures reportingCurrency)).sum := by
  have grouped := Sql.sum_groupBy (fun row : ReportingRow => row.currencyKey reportingCurrency)
    (fun row => row.sqlFigures reportingCurrency) (fun key => chosen (rolledCurrency reportingCurrency key)) rows
  have listed : sorted.Perm ((invoiceCurrencyRollupSelect rows reportingCurrency).map (rolledEntry reportingCurrency)) :=
    sorting.trans (order.map _)
  rw [((listed.filter _).map _).sum_eq, ← grouped, List.filter_map, List.map_map, invoiceCurrencyRollupSelect,
    List.filter_map, List.map_map]
  refine congrArg List.sum (List.map_congr_left fun group member => ?_)
  have cents := mem_select_cents (List.mem_map_of_mem (List.mem_of_mem_filter member))
  simp only [Function.comp_apply, ← groupedRow_figures, CurrencyBreakdownEntry.figures, rolledEntry,
    cents.1.quantizeMoney_eq, cents.2.quantizeMoney_eq]

/-- What the rows add up to, grouped in any order. -/
theorem rollupFromGroupedRows_spec {rows : List ReportingRow} {groups : List CurrencyBreakdownEntry}
    (order : groups.Perm (invoiceCurrencyRollupSelect rows reportingCurrency)) :
    (rollupFromGroupedRows groups reportingCurrency).totalReportingAmount =
      (rows.map fun row => row.sqlFigure reportingCurrency).sum ∧
    (rollupFromGroupedRows groups reportingCurrency).unconvertedCount =
      (rows.map fun row => row.sqlUnconverted reportingCurrency).sum ∧
    (rollupFromGroupedRows groups reportingCurrency).totalCount = rows.length ∧
    ∀ currency, (rollupFromGroupedRows groups reportingCurrency).figuresOf currency =
      ((rows.filter fun row => rolledCurrency reportingCurrency (row.currencyKey reportingCurrency) = currency).map
        (·.sqlFigures reportingCurrency)).sum := by
  have entries := sum_rolledEntries order (List.mergeSort_perm (groups.map (rolledEntry reportingCurrency))
    fun a b => decide (b.reportingAmount ≤ a.reportingAmount))
  have all := entries fun _ => true
  simp only [List.filter_true, sum_figures, Prod.mk.injEq] at all
  obtain ⟨-, reporting, counts, unconverted⟩ := all
  refine ⟨?_, unconverted, ?_, fun currency => entries fun key => key = currency⟩
  · have whole : OnCents (rows.map fun row => row.sqlFigure reportingCurrency).sum :=
      .sum (List.forall_mem_map.mpr fun row _ => row.sqlFigure_cents)
    exact (congrArg quantizeMoney reporting).trans whole.quantizeMoney_eq
  · refine counts.trans ?_
    simp [ReportingRow.sqlFigures]

end Groups

/-- A reporting currency as the organisation's settings give it: there is one, and no blank stands around it. -/
def TrimmedCode (reportingCurrency : String) : Prop := reportingCurrency ≠ "" ∧ pyStripText reportingCurrency = reportingCurrency

instance (reportingCurrency : String) : Decidable (TrimmedCode reportingCurrency) :=
  inferInstanceAs (Decidable (_ ∧ _))

namespace ReportingRow

/-- The persisted amount is in the reporting currency. -/
def Locked (reportingCurrency : String) (row : ReportingRow) : Prop :=
  row.reportingAmount.isSome ∧ row.reportingCurrency.map pyUpper = some (pyUpper reportingCurrency)

instance (reportingCurrency : String) (row : ReportingRow) : Decidable (row.Locked reportingCurrency) :=
  inferInstanceAs (Decidable (_ ∧ _))

/-- The row that `COALESCE` and `or` read differently. -/
def Misread (reportingCurrency : String) (row : ReportingRow) : Prop := row.currency = some "" ∧ ¬row.Locked reportingCurrency

instance (reportingCurrency : String) (row : ReportingRow) : Decidable (row.Misread reportingCurrency) :=
  inferInstanceAs (Decidable (_ ∧ _))

end ReportingRow

theorem toUpper_toUpper (c : Char) : c.toUpper.toUpper = c.toUpper := by
  have raised : ¬('a'.val ≤ c.toUpper.val ∧ c.toUpper.val ≤ 'z'.val) := by
    simp only [Char.toUpper]
    split <;> grind [UInt32.toNat_add]
  rw [Char.toUpper, dif_neg raised]

theorem pyUpper_pyUpper (text : String) : pyUpper (pyUpper text) = pyUpper text := by
  simp only [pyUpper, String.toList_ofList, List.map_map, Function.comp_def, toUpper_toUpper]

theorem pyUpper_eq_empty {text : String} : pyUpper text = "" ↔ text = "" := by
  rw [pyUpper, String.ofList_eq_empty_iff, List.map_eq_nil_iff, String.toList_eq_nil_iff]

theorem orDefault_some {text default : String} (given : text ≠ "") : orDefault (some text) default = text := by
  unfold orDefault
  split
  next same => exact absurd (Option.some.inj same) given
  next same => exact (Option.some.inj same).symm
  next same => cases same

theorem reportingAmountForRow_locked {amount value : ℚ} {currency : Option String} {code reportingCurrency : String}
    (same : pyUpper code = pyUpper reportingCurrency) :
    reportingAmountForRow amount currency reportingCurrency (some code) (some value) = (quantizeMoney value, false) := if_pos same

/-- Without a usable lock the face amount is taken. -/
theorem reportingAmountForRow_face {amount : ℚ} {currency code : Option String} {reportingCurrency : String}
    {persisted : Option ℚ} (unlocked : ¬(persisted.isSome ∧ code.map pyUpper = some (pyUpper reportingCurrency))) :
    reportingAmountForRow amount currency reportingCurrency code persisted =
      (quantizeMoney amount, decide (pyUpper (orDefault currency (pyUpper reportingCurrency)) ≠ pyUpper reportingCurrency)) := by
  unfold reportingAmountForRow
  simp only
  split
  next value text =>
    have apart : pyUpper text ≠ pyUpper reportingCurrency := by simpa using unlocked
    rw [if_neg apart]
    split <;> simp [*]
  next => split <;> simp [*]

section Trimmed

variable {reportingCurrency : String} (trimmed : TrimmedCode reportingCurrency)
include trimmed

theorem sqlTarget_eq : sqlTarget reportingCurrency = pyUpper reportingCurrency := by
  rw [sqlTarget, if_neg trimmed.1, trimmed.2]

theorem rolledCurrency_eq (row : ReportingRow) :
    rolledCurrency reportingCurrency (row.currencyKey reportingCurrency) = row.bucketCurrency (pyUpper reportingCurrency) := by
  have target : pyUpper reportingCurrency ≠ "" := pyUpper_eq_empty.not.mpr trimmed.1
  unfold rolledCurrency ReportingRow.currencyKey ReportingRow.bucketCurrency
  rw [sqlTarget_eq trimmed]
  cases row.currency with
  | none =>
    rw [Option.getD_none, pyUpper_pyUpper, orDefault_some target]
    rfl
  | some code =>
    by_cases empty : code = ""
    · subst empty
      rfl
    · rw [Option.getD_some, orDefault_some (pyUpper_eq_empty.not.mpr empty), pyUpper_pyUpper, orDefault_some empty]

/-- The bucket of a row is in capitals and never empty. -/
theorem orDefault_bucketCurrency (row : ReportingRow) :
    pyUpper (orDefault (some (row.bucketCurrency (pyUpper reportingCurrency))) (pyUpper reportingCurrency)) =
      row.bucketCurrency (pyUpper reportingCurrency) := by
  have given : row.bucketCurrency (pyUpper reportingCurrency) ≠ "" := by
    refine pyUpper_eq_empty.not.mpr ?_
    have target : pyUpper reportingCurrency ≠ "" := pyUpper_eq_empty.not.mpr trimmed.1
    cases row.currency with
    | none => exact target
    | some code =>
      by_cases empty : code = ""
      · subst empty
        exact target
      · rwa [orDefault_some empty]
  rw [orDefault_some given]
  exact pyUpper_pyUpper _

theorem holds_hasLock (row : ReportingRow) : Sql.holds (row.hasLock reportingCurrency) ↔ row.Locked reportingCurrency := by
  rw [row.hasLock_eq, Sql.holds_some, sqlTarget_eq trimmed, Bool.and_eq_true, decide_eq_true_eq]
  rfl

theorem reported_eq (row : ReportingRow) : row.reported (pyUpper reportingCurrency) =
    (row.sqlFigure reportingCurrency,
      decide (¬row.Locked reportingCurrency ∧ row.bucketCurrency (pyUpper reportingCurrency) ≠ pyUpper reportingCurrency)) := by
  have lock := holds_hasLock trimmed row
  unfold ReportingRow.reported ReportingRow.sqlFigure ReportingRow.sqlAmount Sql.caseWhen
  by_cases locked : row.Locked reportingCurrency
  · rw [if_pos (lock.mpr locked)]
    obtain ⟨present, mine⟩ := locked
    obtain ⟨value, persisted⟩ := Option.isSome_iff_exists.mp present
    obtain ⟨code, coded, same⟩ := Option.map_eq_some_iff.mp mine
    rw [persisted, coded, reportingAmountForRow_locked (same.trans (pyUpper_pyUpper _).symm),
      (row.reporting_cents value persisted).quantizeMoney_eq]
    simp [show row.Locked reportingCurrency from ⟨present, mine⟩]
  · rw [if_neg (lock.not.mpr locked), reportingAmountForRow_face (by rwa [pyUpper_pyUpper]), row.amount_cents.quantizeMoney_eq,
      pyUpper_pyUpper, orDefault_bucketCurrency trimmed]
    simp [locked]

theorem sqlUnconverted_eq (row : ReportingRow) : row.sqlUnconverted reportingCurrency =
    (row.reported (pyUpper reportingCurrency)).2.toNat + if row.Misread reportingCurrency then 1 else 0 := by
  have target : pyUpper reportingCurrency ≠ "" := pyUpper_eq_empty.not.mpr trimmed.1
  have lock : Sql.holds (Sql.not (row.hasLock reportingCurrency)) ↔ ¬row.Locked reportingCurrency := by
    rw [row.hasLock_eq, Sql.holds_not_some, ← Sql.holds_some (_ && _), ← row.hasLock_eq, Bool.not_eq_true', ← Bool.not_eq_true,
      holds_hasLock trimmed]
  have differs : Sql.holds (Sql.not (Sql.eq (some (row.currencyKey reportingCurrency)) (some (sqlTarget reportingCurrency)))) ↔
      row.currencyKey reportingCurrency ≠ pyUpper reportingCurrency := by
    rw [sqlTarget_eq trimmed]
    simp [Sql.eq, Sql.not]
  rw [reported_eq trimmed, ReportingRow.sqlUnconverted, Sql.caseWhen]
  simp only [Sql.holds_and, Bool.and_eq_true, lock, differs, ReportingRow.Misread]
  by_cases locked : row.Locked reportingCurrency
  · simp [locked]
  · simp only [locked, not_false_eq_true, true_and, and_true, ReportingRow.currencyKey, ReportingRow.bucketCurrency,
      sqlTarget_eq trimmed]
    cases row.currency with
    | none => simp [pyUpper_pyUpper, orDefault]
    | some code =>
      by_cases empty : code = ""
      · subst empty
        have blank : pyUpper "" = "" := rfl
        simp [orDefault, pyUpper_pyUpper, blank, target.symm]
      · by_cases same : pyUpper code = pyUpper reportingCurrency <;> simp [orDefault_some empty, empty, same]


/-- For a trimmed code the two rollups differ by the rows that are misread, and by nothing else. -/
theorem sameFigures_iff {rows : List ReportingRow} {groups : List CurrencyBreakdownEntry}
    (order : groups.Perm (invoiceCurrencyRollupSelect rows reportingCurrency)) :
    SameFigures (rollupFromGroupedRows groups reportingCurrency) (rollupToReportingCurrency rows reportingCurrency) ↔
      ∀ row ∈ rows, ¬row.Misread reportingCurrency := by
  obtain ⟨total, unconverted, count, perCurrency⟩ := rollupFromGroupedRows_spec order
  obtain ⟨total', unconverted', count', perCurrency'⟩ := rollupToReportingCurrency_spec rows reportingCurrency
  have misread : (rows.map fun row => row.sqlUnconverted reportingCurrency).sum =
      (rows.map fun row => (row.reported (pyUpper reportingCurrency)).2.toNat).sum +
        (rows.map fun row => if row.Misread reportingCurrency then 1 else 0).sum := by
    simp only [sqlUnconverted_eq trimmed, List.sum_map_add]
  constructor
  · intro same row member misreads
    have equal := same.unconvertedCount
    rw [unconverted, unconverted', misread, Nat.add_eq_left] at equal
    have zero := List.sum_eq_zero_iff_forall_eq_nat.mp equal _ (List.mem_map_of_mem member)
    simp [misreads] at zero
  · intro read
    have figures (row : ReportingRow) (member : row ∈ rows) :
        row.sqlFigures reportingCurrency = row.figures (pyUpper reportingCurrency) := by
      simp [ReportingRow.sqlFigures, ReportingRow.figures, sqlUnconverted_eq trimmed, read row member, reported_eq trimmed]
    refine ⟨rfl, ?_, ?_, ?_, fun currency => ?_⟩
    · rw [total, total']
      simp only [reported_eq trimmed]
    · rw [count, count']
    · have zero : (rows.map fun row => if row.Misread reportingCurrency then 1 else 0).sum = 0 :=
        List.sum_eq_zero (List.forall_mem_map.mpr fun row member => if_neg (read row member))
      rw [unconverted, unconverted', misread, zero, Nat.add_zero]
    · rw [perCurrency, perCurrency', rowFigures]
      simp only [rolledCurrency_eq trimmed]
      exact congrArg List.sum (List.map_congr_left fun row member => figures row (List.mem_of_mem_filter member))

end Trimmed

/-- A row of nothing, in a given currency. -/
def emptyRow (code : String) : ReportingRow := ⟨0, some code, none, none, .zero, fun _ member => by cases member⟩

theorem emptyRow_reported (code reportingCurrency : String) : (emptyRow code).reported (pyUpper reportingCurrency) =
    (quantizeMoney 0, decide (pyUpper (orDefault (some ((emptyRow code).bucketCurrency (pyUpper reportingCurrency)))
      (pyUpper reportingCurrency)) ≠ pyUpper reportingCurrency)) := by
  have face := @reportingAmountForRow_face 0 (some ((emptyRow code).bucketCurrency (pyUpper reportingCurrency))) none
    (pyUpper reportingCurrency) none (by simp)
  rw [pyUpper_pyUpper] at face
  exact face

theorem emptyRow_sqlUnconverted (code reportingCurrency : String) : (emptyRow code).sqlUnconverted reportingCurrency =
    if pyUpper code = sqlTarget reportingCurrency then 0 else 1 := by
  unfold ReportingRow.sqlUnconverted Sql.caseWhen
  rw [Sql.holds_and, ReportingRow.hasLock_eq]
  by_cases same : pyUpper code = sqlTarget reportingCurrency <;>
    simp [emptyRow, ReportingRow.currencyKey, Sql.eq, Sql.not, same]

theorem pyStrip_sublist (text : List Char) : (pyStrip text).Sublist text :=
  (List.rdropWhile_prefix _ _).sublist.trans (List.dropWhile_sublist _)

/-- Taking a blank away shows in the length, which capitals do not change. -/
theorem pyUpper_pyStripText_ne {text : String} (untrimmed : pyStripText text ≠ text) :
    pyUpper text ≠ pyUpper (pyStripText text) := by
  intro same
  have lengths := congrArg (fun upper : String => upper.toList.length) same
  simp only [pyUpper, pyStripText, String.toList_ofList, List.length_map] at lengths
  have whole := (pyStrip_sublist text.toList).eq_of_length lengths.symm
  exact untrimmed (by rw [pyStripText, whole, String.ofList_toList])

/-- A row in the code itself, or in the default when there is none, is judged differently against a code
that is not trimmed. -/
theorem not_sameFigures_of_not_trimmed {reportingCurrency : String} (untrimmed : ¬TrimmedCode reportingCurrency) :
    ∃ row : ReportingRow, row.currency ≠ some "" ∧ ¬SameFigures
      (rollupFromGroupedRows (invoiceCurrencyRollupSelect [row] reportingCurrency) reportingCurrency)
      (rollupToReportingCurrency [row] reportingCurrency) := by
  have judged (code : String) (same : SameFigures
      (rollupFromGroupedRows (invoiceCurrencyRollupSelect [emptyRow code] reportingCurrency) reportingCurrency)
      (rollupToReportingCurrency [emptyRow code] reportingCurrency)) :
      (emptyRow code).sqlUnconverted reportingCurrency = ((emptyRow code).reported (pyUpper reportingCurrency)).2.toNat := by
    have equal := same.unconvertedCount
    rw [(rollupFromGroupedRows_spec (List.Perm.refl _)).2.1, (rollupToReportingCurrency_spec _ _).2.1] at equal
    simpa using equal
  by_cases empty : reportingCurrency = ""
  · subst empty
    refine ⟨emptyRow "USD", by decide, fun same => ?_⟩
    have equal := judged "USD" same
    rw [emptyRow_sqlUnconverted, emptyRow_reported] at equal
    exact absurd equal (by decide)
  · refine ⟨emptyRow reportingCurrency, by simpa [emptyRow] using empty, fun same => ?_⟩
    have untouched : pyStripText reportingCurrency ≠ reportingCurrency := fun trimmed => untrimmed ⟨empty, trimmed⟩
    have apart : pyUpper reportingCurrency ≠ sqlTarget reportingCurrency := by
      rw [sqlTarget, if_neg empty]
      exact pyUpper_pyStripText_ne untouched
    have bucket : (emptyRow reportingCurrency).bucketCurrency (pyUpper reportingCurrency) = pyUpper reportingCurrency := by
      rw [ReportingRow.bucketCurrency, emptyRow, orDefault_some empty]
    have equal := judged reportingCurrency same
    rw [emptyRow_sqlUnconverted, emptyRow_reported, if_neg apart, bucket, orDefault_some (pyUpper_eq_empty.not.mpr empty),
      pyUpper_pyUpper] at equal
    simp at equal

end Payables
