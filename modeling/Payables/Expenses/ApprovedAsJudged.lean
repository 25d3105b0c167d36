import Payables.Expenses.Reports
import Payables.Lib.Raising
import Payables.Money

namespace Payables.ExpenseReports
open Lib

/-- The status of the report that a submitted or approved line is on. -/
def ExpenseStatus.reportStatus : ExpenseStatus → Option ExpenseReportStatus
  | submitted => some .submitted
  | approved => some .approved
  | _ => none

namespace ExpenseReport

variable (report : ExpenseReport)

def IsJudged : Prop := report.status = .submitted ∨ report.status = .approved

instance : Decidable report.IsJudged := inferInstanceAs (Decidable (_ ∨ _))

/-- A report whose total is the one of the given lines, which are those that were judged. -/
structure Totals (lines : List Expense) : Prop where
  convertible : ∀ line ∈ lines, (line.contribution report.currency).isSome
  total : report.totalAmount = (lines.filterMap (·.contribution report.currency)).sum
  judged : lines.map (·.judgedLine) = report.judged
  priced : ∀ amount ∈ report.reportingAmount, ∃ rate, 0 < rate ∧ amount = quantizeMoney (report.totalAmount * rate)

/-- The total can be told in the reporting currency and is at or below the threshold, if there is one. -/
def WithinThreshold (signature : Signature) : Prop :=
  ∃ amount, report.amountForGate signature.reportingCurrency = some amount ∧
    (signature.cfoThresholdRaw = .unset ∨
      ∃ threshold, finiteMoneyThreshold signature.cfoThresholdRaw = some threshold ∧ amount ≤ threshold)

/-- Approved by someone else than the employee, with the rights that the total asks for. -/
def Signed : Prop :=
  ∃ signature, report.signature = some signature ∧ report.approvedBy = some signature.approver ∧
    signature.approver ≠ report.employeeUserId ∧ (signature.mayExceed ∨ report.WithinThreshold signature)

end ExpenseReport

/-- A submitted or approved line is on one report, of the same status. -/
def ReportTables.Attached (tables : ReportTables) (expense : Expense) : Prop :=
  ∀ status ∈ expense.status.reportStatus, ∃ report ∈ tables.reports, report.status = status ∧
    ∀ other ∈ tables.reports, expense.reportId = some other.id ↔ other = report

structure ApprovedAsJudged (tables : ReportTables) : Prop where
  totals : ∀ report ∈ tables.reports, report.IsJudged → report.Totals (tables.lines report.id)
  signed : ∀ report ∈ tables.reports, report.status = .approved → report.Signed
  attached : ∀ expense ∈ tables.expenses, tables.Attached expense

/-- A line on a report that is locked for its approval. -/
def ReportTables.OnLocked (tables : ReportTables) (reportId : Option Nat) : Prop :=
  ∃ report ∈ tables.reports, reportId = some report.id ∧ report.status.isLocked = true
  deriving Decidable

/-- The writes of an edit change no locked report and no line of one, and put no line on one. -/
structure Transaction.SparesLocked (tx : Transaction) (tables : ReportTables) : Prop where
  expenses : ∀ row ∈ tables.expenses, tx.deleted = some row.id ∨ tx.writeExpense row ≠ row →
    ¬tables.OnLocked row.reportId ∧ ¬tables.OnLocked (tx.writeExpense row).reportId
  reports : ∀ row ∈ tables.reports, tx.writeReport row ≠ row → row.status.isLocked = false
  created : ∀ expense ∈ tx.created, ¬tables.OnLocked expense.reportId

instance (tx : Transaction) (tables : ReportTables) : Decidable (tx.SparesLocked tables) :=
  decidable_of_iff
    ((∀ row ∈ tables.expenses, tx.deleted = some row.id ∨ tx.writeExpense row ≠ row →
      ¬tables.OnLocked row.reportId ∧ ¬tables.OnLocked (tx.writeExpense row).reportId) ∧
      (∀ row ∈ tables.reports, tx.writeReport row ≠ row → row.status.isLocked = false) ∧
      ∀ expense ∈ tx.created, ¬tables.OnLocked expense.reportId)
    ⟨fun all => ⟨all.1, all.2.1, all.2.2⟩, fun spares => ⟨spares.expenses, spares.reports, spares.created⟩⟩

/-- An edit commits without a write to what is locked by then; a submission totals and commits on the report and the lines
that were loaded; an approval or a rejection commits on a report that is still submitted. -/
def CommitsInTime (tables : ReportTables) : ReportCall → Unit → Prop
  | .editing _, _ => True
  | .edited tx, _ => tx.SparesLocked tables
  | .submitting report children _, _ => tables.lines report.id = children
  | .submitted report children _, _ => report ∈ tables.reports ∧ tables.lines report.id = children
  | .deciding report _ _ _, _ => ∃ current ∈ tables.reports, current.id = report.id ∧ current.status = .submitted

instance (tables : ReportTables) : (call : ReportCall) → (input : Unit) → Decidable (CommitsInTime tables call input)
  | .editing _, _ => inferInstanceAs (Decidable True)
  | .edited tx, _ => inferInstanceAs (Decidable (tx.SparesLocked tables))
  | .submitting report children _, _ => inferInstanceAs (Decidable (tables.lines report.id = children))
  | .submitted report children _, _ =>
    inferInstanceAs (Decidable (report ∈ tables.reports ∧ tables.lines report.id = children))
  | .deciding report _ _ _, _ =>
    inferInstanceAs (Decidable (∃ current ∈ tables.reports, current.id = report.id ∧ current.status = .submitted))

section Writes

variable {tables : ReportTables} {tx : Transaction}

theorem writeExpense_id (tx : Transaction) (row : Expense) : (tx.writeExpense row).id = row.id := by
  rw [Transaction.writeExpense]
  split <;> rfl

theorem writeReport_id (tx : Transaction) (row : ExpenseReport) : (tx.writeReport row).id = row.id := by
  rw [Transaction.writeReport]
  split <;> rfl

/-- An edit writes no status, and a line that it creates is a draft. -/
structure Transaction.Plain (tx : Transaction) : Prop where
  expenses : ∀ change ∈ tx.expenses, change.written.status = change.loaded.status
  reports : ∀ change ∈ tx.reports, change.written.status = change.loaded.status
  created : ∀ expense ∈ tx.created, expense.status = .draft

theorem Transaction.Plain.writeExpense_status (plain : tx.Plain) (row : Expense) :
    (tx.writeExpense row).status = row.status := by
  rw [Transaction.writeExpense]
  split
  next change found =>
    show writeBack change.loaded.status change.written.status row.status = row.status
    rw [plain.expenses change (List.mem_of_find?_eq_some found), writeBack_self]
  next => rfl

theorem Transaction.Plain.writeReport_status (plain : tx.Plain) (row : ExpenseReport) :
    (tx.writeReport row).status = row.status := by
  rw [Transaction.writeReport]
  split
  next change found =>
    show writeBack change.loaded.status change.written.status row.status = row.status
    rw [plain.reports change (List.mem_of_find?_eq_some found), writeBack_self]
  next => rfl

theorem Transaction.Plain.recomputeTotals (plain : tx.Plain) (tables : ReportTables) : (tx.recomputeTotals tables).Plain := by
  refine ⟨plain.expenses, ?_, plain.created⟩
  intro change member
  obtain ⟨id, _, made⟩ := List.mem_filterMap.mp member
  obtain ⟨source, found, rfl⟩ := Option.map_eq_some_iff.mp made
  show source.written.status = source.loaded.status
  cases inTx : tx.reports.find? fun change => change.loaded.id = id with
  | some change =>
    rw [inTx] at found
    obtain rfl := Option.some.inj found
    exact plain.reports change (List.mem_of_find?_eq_some inTx)
  | none =>
    rw [inTx] at found
    obtain ⟨report, _, rfl⟩ := Option.map_eq_some_iff.mp found
    rfl

/-- What a transaction leaves among the expenses: the rows that it has not deleted, written over, and the one it creates. -/
theorem mem_flushed {row : Expense} (member : row ∈ tx.flushed tables) :
    (∃ old ∈ tables.expenses, tx.deleted ≠ some old.id ∧ tx.writeExpense old = row) ∨
      ∃ expense ∈ tx.created, row = { expense with id := tables.nextExpense } := by
  rcases List.mem_append.mp member with kept | new
  · obtain ⟨old, stays, rfl⟩ := List.mem_map.mp kept
    obtain ⟨stored, present⟩ := List.mem_filter.mp stays
    exact .inl ⟨old, stored, of_decide_eq_true present, rfl⟩
  · obtain ⟨expense, created, rfl⟩ := Option.map_eq_some_iff.mp (Option.mem_toList.mp new)
    exact .inr ⟨expense, created, rfl⟩

/-- A commit does nothing, or all of what its transaction writes. -/
theorem commit_cases (tables : ReportTables) (tx : Transaction) :
    tables.commit tx = tables ∨
      tables.commit tx = ⟨tables.reports.map tx.writeReport, tx.flushed tables, tables.nextExpense + 1⟩ := by
  rw [ReportTables.commit]
  split
  · exact .inl rfl
  · exact .inr rfl

theorem isLocked_of_isJudged {report : ExpenseReport} (judged : report.IsJudged) : report.status.isLocked = true := by
  rcases judged with submitted | approved
  · rw [submitted]
    rfl
  · rw [approved]
    rfl

/-- An edit that spares what is locked leaves the lines of a locked report as they are. -/
theorem lines_flushed (spares : tx.SparesLocked tables) {report : ExpenseReport} (stored : report ∈ tables.reports)
    (locked : report.status.isLocked = true) : linesOf report.id (tx.flushed tables) = tables.lines report.id := by
  have onLocked : ∀ reportId, reportId = some report.id → tables.OnLocked reportId :=
    fun reportId same => ⟨report, stored, same, locked⟩
  have new : linesOf report.id (tx.created.map fun expense => { expense with id := tables.nextExpense }).toList = [] := by
    refine List.filter_eq_nil_iff.mpr fun row member => ?_
    obtain ⟨expense, created, rfl⟩ := Option.map_eq_some_iff.mp (Option.mem_toList.mp member)
    intro on
    exact spares.created expense created (onLocked _ (of_decide_eq_true on))
  have old : linesOf report.id ((tables.expenses.filter fun row => tx.deleted ≠ some row.id).map tx.writeExpense) =
      tables.lines report.id := by
    refine filter_map_filter (fun row member on => ?_) fun row member off now => ?_
    · have touched := spares.expenses row member
      have on := onLocked _ (of_decide_eq_true on)
      refine ⟨decide_eq_true fun gone => (touched (.inl gone)).1 on, ?_⟩
      by_contra changed
      exact (touched (.inr changed)).1 on
    · have now := of_decide_eq_true now
      by_cases same : tx.writeExpense row = row
      · rw [same] at now
        exact off (decide_eq_true now)
      · exact (spares.expenses row member (.inr same)).2 (onLocked _ now)
  show linesOf report.id (_ ++ _) = _
  rw [linesOf, List.filter_append]
  exact (congrArg₂ (· ++ ·) old new).trans (List.append_nil _)

theorem writeReport_locked (plain : tx.Plain) (spares : tx.SparesLocked tables) {row : ExpenseReport}
    (stored : row ∈ tables.reports) (locked : (tx.writeReport row).status.isLocked = true) : tx.writeReport row = row := by
  by_contra changed
  have unlocked := spares.reports row stored changed
  rw [plain.writeReport_status, unlocked] at locked
  cases locked

end Writes

/-- What holds of the tables in every run whose commits are in time. -/
structure ReportInv (tables : ReportTables) : Prop extends ApprovedAsJudged tables where
  reportIds : (tables.reports.map (·.id)).Nodup
  expenseIds : (tables.expenses.map (·.id)).Nodup
  fresh : ∀ expense ∈ tables.expenses, expense.id < tables.nextExpense

namespace ReportInv

variable {tables : ReportTables} {tx : Transaction}

theorem report_unique (inv : ReportInv tables) {report other : ExpenseReport} (stored : report ∈ tables.reports)
    (also : other ∈ tables.reports) (same : report.id = other.id) : report = other :=
  List.inj_on_of_nodup_map inv.reportIds stored also same

theorem expense_unique (inv : ReportInv tables) {expense other : Expense} (stored : expense ∈ tables.expenses)
    (also : other ∈ tables.expenses) (same : expense.id = other.id) : expense = other :=
  List.inj_on_of_nodup_map inv.expenseIds stored also same

theorem onLocked_of_attached {expense : Expense} {status : ExpenseReportStatus} (attached : tables.Attached expense)
    (judged : status ∈ expense.status.reportStatus) : tables.OnLocked expense.reportId := by
  obtain ⟨report, stored, same, only⟩ := attached status judged
  refine ⟨report, stored, (only report stored).mpr rfl, ?_⟩
  rw [same]
  cases kind : expense.status <;> rw [kind] at judged <;> cases judged <;> rfl

theorem expenseIds_flushed (inv : ReportInv tables) : ((tx.flushed tables).map (·.id)).Nodup := by
  have old : ((tables.expenses.filter fun row => tx.deleted ≠ some row.id).map tx.writeExpense).map (·.id) =
      (tables.expenses.filter fun row => tx.deleted ≠ some row.id).map (·.id) := by
    rw [List.map_map]
    exact List.map_congr_left fun row _ => writeExpense_id tx row
  rw [Transaction.flushed, List.map_append, old]
  refine List.Nodup.append (inv.expenseIds.sublist (List.filter_sublist.map _)) ?_ ?_
  · cases tx.created with
    | none => exact List.nodup_nil
    | some expense => exact List.nodup_singleton _
  · intro id among new
    obtain ⟨row, kept, rfl⟩ := List.mem_map.mp among
    obtain ⟨fresh, made, same⟩ := List.mem_map.mp new
    obtain ⟨expense, _, rfl⟩ := Option.map_eq_some_iff.mp (Option.mem_toList.mp made)
    have below := inv.fresh row (List.mem_of_mem_filter kept)
    change tables.nextExpense = row.id at same
    omega

/-- What an edit that commits in time keeps. -/
theorem edited (inv : ReportInv tables) (plain : tx.Plain) (spares : tx.SparesLocked tables) :
    ReportInv (tables.commit tx) := by
  rcases commit_cases tables tx with none | all
  · rw [none]
    exact inv
  rw [all]
  have sameReport : ∀ report ∈ tables.reports.map tx.writeReport, report.status.isLocked = true →
      report ∈ tables.reports ∧ linesOf report.id (tx.flushed tables) = tables.lines report.id := by
    intro report member locked
    obtain ⟨row, stored, rfl⟩ := List.mem_map.mp member
    have same := writeReport_locked plain spares stored locked
    rw [same] at locked ⊢
    exact ⟨stored, lines_flushed spares stored locked⟩
  refine ⟨⟨?totals, ?signed, ?attached⟩, ?reportIds, ?expenseIds, ?fresh⟩
  case totals =>
    intro report member judged
    obtain ⟨stored, lines⟩ := sameReport report member (isLocked_of_isJudged judged)
    show report.Totals (linesOf report.id (tx.flushed tables))
    rw [lines]
    exact inv.totals report stored judged
  case signed =>
    intro report member approved
    exact inv.signed report (sameReport report member (isLocked_of_isJudged (.inr approved))).1 approved
  case attached =>
    intro row member status judged
    rcases mem_flushed member with ⟨old, stored, _, rfl⟩ | ⟨expense, created, rfl⟩
    · rw [plain.writeExpense_status] at judged
      have attached := inv.attached old stored
      have locked := onLocked_of_attached attached judged
      have same : tx.writeExpense old = old := by
        by_contra changed
        exact (spares.expenses old stored (.inr changed)).1 locked
      rw [same]
      obtain ⟨report, among, agrees, only⟩ := attached status judged
      have kept : tx.writeReport report = report := by
        refine writeReport_locked plain spares among ?_
        obtain ⟨other, also, on, lock⟩ := locked
        rw [plain.writeReport_status, ← (only other also).mp on]
        exact lock
      refine ⟨report, List.mem_map.mpr ⟨report, among, kept⟩, agrees, fun other member => ?_⟩
      obtain ⟨source, also, rfl⟩ := List.mem_map.mp member
      rw [writeReport_id, only source also]
      constructor
      · rintro rfl
        exact kept
      · intro written
        refine inv.report_unique also among ?_
        rw [← written, writeReport_id]
    · rw [show ({ expense with id := tables.nextExpense } : Expense).status = .draft from plain.created expense created]
        at judged
      cases judged
  case reportIds =>
    show ((tables.reports.map tx.writeReport).map (·.id)).Nodup
    have same : (tables.reports.map tx.writeReport).map (·.id) = tables.reports.map (·.id) := by
      rw [List.map_map]
      exact List.map_congr_left fun row _ => writeReport_id tx row
    rw [same]
    exact inv.reportIds
  case expenseIds => exact inv.expenseIds_flushed
  case fresh =>
    intro row member
    show row.id < tables.nextExpense + 1
    rcases mem_flushed member with ⟨old, stored, _, rfl⟩ | ⟨expense, _, rfl⟩
    · have below := inv.fresh old stored
      rw [writeExpense_id]
      omega
    · exact Nat.lt_succ_self _

end ReportInv

/-- The tables after a submission or a decision that meets what it has loaded. -/
def ReportTables.settle (tables : ReportTables) (written : ExpenseReport) (status : ExpenseStatus) : ReportTables where
  reports := putRow (·.id) written tables.reports
  expenses := tables.expenses.map fun row => if row.reportId = some written.id then { row with status } else row
  nextExpense := tables.nextExpense + 1

section Settles

variable {tables : ReportTables} {report written : ExpenseReport} {status : ExpenseStatus}

theorem overwrite_loaded (id : written.id = report.id) (employee : written.employeeUserId = report.employeeUserId) :
    ExpenseReport.overwrite report written report = written := by
  cases written
  simp only [ExpenseReport.overwrite, writeBack_current] at id employee ⊢
  rw [id, employee]

theorem mem_lines {row : Expense} {id : Nat} : row ∈ tables.lines id ↔ row ∈ tables.expenses ∧ row.reportId = some id := by
  rw [ReportTables.lines, linesOf, List.mem_filter, decide_eq_true_eq]

theorem writeExpense_settles (inv : ReportInv tables) {row : Expense} (stored : row ∈ tables.expenses) :
    (statusTransaction report written (tables.lines report.id) status).writeExpense row =
      if row.reportId = some report.id then { row with status } else row := by
  have search : ((tables.lines report.id).map fun child => (⟨child, { child with status }⟩ : Change Expense)).find?
      (fun change => change.loaded.id = row.id) =
        (getRow (·.id) row.id (tables.lines report.id)).map fun child => ⟨child, { child with status }⟩ := List.find?_map ..
  rw [Transaction.writeExpense, statusTransaction, search]
  by_cases on : row.reportId = some report.id
  · have keys : ((tables.lines report.id).map (·.id)).Nodup := inv.expenseIds.sublist (List.filter_sublist.map _)
    have found : getRow (·.id) row.id (tables.lines report.id) = some row :=
      getRow_of_mem keys (mem_lines.mpr ⟨stored, on⟩)
    rw [found, if_pos on]
    show Expense.overwrite row { row with status } row = { row with status }
    simp only [Expense.overwrite, writeBack_self, writeBack_current]
  · have absent : getRow (·.id) row.id (tables.lines report.id) = none := by
      refine List.find?_eq_none.mpr fun child member same => on ?_
      obtain ⟨also, under⟩ := mem_lines.mp member
      rw [← inv.expense_unique also stored (of_decide_eq_true same)]
      exact under
    rw [absent, if_neg on]
    rfl

theorem writeReport_settles (inv : ReportInv tables) (stored : report ∈ tables.reports) (id : written.id = report.id)
    (employee : written.employeeUserId = report.employeeUserId) {children : List Expense} {row : ExpenseReport}
    (member : row ∈ tables.reports) :
    (statusTransaction report written children status).writeReport row = if row.id = written.id then written else row := by
  rw [Transaction.writeReport, statusTransaction, List.find?_singleton]
  by_cases same : report.id = row.id
  · have here := inv.report_unique stored member same
    subst here
    rw [if_pos (decide_eq_true rfl), if_pos id.symm]
    exact overwrite_loaded id employee
  · rw [if_neg (by simpa using same), if_neg]
    rw [id]
    exact Ne.symm same

theorem commit_settles (inv : ReportInv tables) (stored : report ∈ tables.reports) (id : written.id = report.id)
    (employee : written.employeeUserId = report.employeeUserId) :
    tables.commit (statusTransaction report written (tables.lines report.id) status) = tables.settle written status := by
  have fresh : (statusTransaction report written (tables.lines report.id) status).stale tables = false := by
    refine List.any_eq_false.mpr fun change member => ?_
    obtain ⟨child, line, rfl⟩ := List.mem_map.mp member
    have found : tables.expense? child.id = some child := getRow_of_mem inv.expenseIds (mem_lines.mp line).1
    rw [found]
    simp
  rw [ReportTables.commit, fresh, if_neg (by simp), ReportTables.settle, putRow]
  congr 1
  · exact List.map_congr_left fun row member => writeReport_settles inv stored id employee member
  · have all : (tables.expenses.filter fun row =>
        (statusTransaction report written (tables.lines report.id) status).deleted ≠ some row.id) = tables.expenses :=
      List.filter_eq_self.mpr fun row _ => rfl
    rw [Transaction.flushed, all, id]
    exact (List.append_nil _).trans (List.map_congr_left fun row member => writeExpense_settles inv member)

theorem lines_settle (id : Nat) :
    (tables.settle written status).lines id =
      (tables.lines id).map fun row => if id = written.id then { row with status } else row := by
  rw [ReportTables.lines, linesOf, ReportTables.settle, List.filter_map]
  have same : tables.expenses.filter ((fun row : Expense => decide (row.reportId = some id)) ∘ fun row =>
      if row.reportId = some written.id then { row with status } else row) = tables.lines id := by
    refine List.filter_congr fun row _ => ?_
    simp only [Function.comp_apply]
    split <;> rfl
  rw [same]
  refine List.map_congr_left fun row member => ?_
  rw [(mem_lines.mp member).2]
  by_cases here : id = written.id
  · rw [if_pos here, if_pos (congrArg some here)]
  · rw [if_neg here, if_neg fun clash => here (Option.some.inj clash)]

theorem lines_settle_of_ne {id : Nat} (different : id ≠ written.id) :
    (tables.settle written status).lines id = tables.lines id := by
  rw [lines_settle]
  simp only [if_neg different, List.map_id']

/-- The status of its lines is nothing to the total of a report. -/
theorem ExpenseReport.Totals.settle {lines : List Expense} (totals : written.Totals lines) :
    written.Totals (lines.map fun row => { row with status }) := by
  refine ⟨?_, ?_, ?_, totals.priced⟩
  · intro line member
    obtain ⟨row, among, rfl⟩ := List.mem_map.mp member
    exact totals.convertible row among
  · rw [totals.total, List.filterMap_map]
    rfl
  · rw [← totals.judged, List.map_map]
    rfl

theorem ReportInv.settle (inv : ReportInv tables) (stored : report ∈ tables.reports) (id : written.id = report.id)
    (totals : written.IsJudged → written.Totals (tables.lines written.id))
    (signed : written.status = .approved → written.Signed)
    (follows : ∀ kind ∈ status.reportStatus, written.status = kind) : ReportInv (tables.settle written status) := by
  refine ⟨⟨?totals, ?signed, ?attached⟩, ?reportIds, ?expenseIds, ?fresh⟩
  case totals =>
    intro row member judged
    rcases mem_putRow member with rfl | ⟨old, different⟩
    · rw [lines_settle]
      simp only [if_true]
      exact (totals judged).settle
    · rw [lines_settle_of_ne different]
      exact inv.totals row old judged
  case signed =>
    intro row member approved
    rcases mem_putRow member with rfl | ⟨old, _⟩
    · exact signed approved
    · exact inv.signed row old approved
  case attached =>
    intro row member kind judged
    obtain ⟨old, among, rfl⟩ := List.mem_map.mp member
    by_cases here : old.reportId = some written.id
    · rw [if_pos here] at judged ⊢
      refine ⟨written, mem_putRow_self stored id.symm, follows kind judged, fun other member => ?_⟩
      show old.reportId = some other.id ↔ other = written
      rw [here]
      rcases mem_putRow member with rfl | ⟨_, different⟩
      · simp
      · have apart : other ≠ written := fun same => different (congrArg _ same)
        simp [apart, Ne.symm different]
    · rw [if_neg here] at judged ⊢
      obtain ⟨holder, also, agrees, only⟩ := inv.attached old among kind judged
      have on : old.reportId = some holder.id := (only holder also).mpr rfl
      have apart : holder.id ≠ written.id := fun same => here (on.trans (congrArg some same))
      refine ⟨holder, mem_putRow_of_ne also apart, agrees, fun other member => ?_⟩
      rcases mem_putRow member with rfl | ⟨stays, _⟩
      · have different : other ≠ holder := fun same => apart (congrArg _ same.symm)
        simp [here, different]
      · exact only other stays
  case reportIds =>
    show ((putRow (·.id) written tables.reports).map (·.id)).Nodup
    rw [map_ident_putRow]
    exact inv.reportIds
  case expenseIds =>
    have same : (tables.settle written status).expenses.map (·.id) = tables.expenses.map (·.id) := by
      rw [ReportTables.settle, List.map_map]
      refine List.map_congr_left fun row _ => ?_
      simp only [Function.comp_apply]
      split <;> rfl
    rw [same]
    exact inv.expenseIds
  case fresh =>
    intro row member
    obtain ⟨old, among, rfl⟩ := List.mem_map.mp member
    have below := inv.fresh old among
    show Expense.id (if old.reportId = some written.id then { old with status } else old) < tables.nextExpense + 1
    split
    · exact Nat.lt_succ_of_lt below
    · exact Nat.lt_succ_of_lt below

end Settles

/-- What a submission is about to write of a draft report and the lines that were loaded with it. -/
structure ExpenseReport.Submits (report written : ExpenseReport) (children : List Expense) : Prop where
  draft : report.status = .draft
  id : written.id = report.id
  employee : written.employeeUserId = report.employeeUserId
  status : written.status = .submitted
  totals : written.Totals children

/-- What an approval or a rejection is about to write of a report: the total and what was judged stay. -/
structure ExpenseReport.Decides (report written : ExpenseReport) (status : ExpenseStatus) : Prop where
  id : written.id = report.id
  employee : written.employeeUserId = report.employeeUserId
  outcome : written.status = .approved ∧ written.Signed ∧ status = .approved ∨ written.status = .rejected ∧ status = .draft
  totals : ∀ lines, report.Totals lines → written.Totals lines

/-- The report of a decision has been submitted, and while it is submitted it is as loaded. -/
def ReportTables.Loaded (tables : ReportTables) (report : ExpenseReport) (children : List Expense) : Prop :=
  ∃ current ∈ tables.reports, current.id = report.id ∧ current.status ≠ .draft ∧
    (current.status = .submitted → current = report ∧ tables.lines report.id = children)

/-- What holds of a request in flight. -/
def ReportHeld (tables : ReportTables) : ReportCall → Prop
  | .editing tx => tx.Plain
  | .edited tx => tx.Plain
  | .submitting report _ _ => report.status = .draft
  | .submitted report children written => report.Submits written children
  | .deciding report children written status => report.Decides written status ∧ tables.Loaded report children

section Prepare

variable {tables : ReportTables}

theorem getReport_ok {id : Nat} {report : ExpenseReport} (ok : tables.getReport id = .ok report) :
    report ∈ tables.reports ∧ report.id = id := by
  rw [ReportTables.getReport] at ok
  split at ok
  next found found? =>
    obtain rfl := Except.ok.inj ok
    exact getRow_some found?
  next => cases ok

theorem lockLineConversion_ok {fxAdapter : Option FxRates} {reportCurrency : String} {expense locked : Expense}
    (ok : lockLineConversion fxAdapter reportCurrency expense = .ok locked) : locked.status = expense.status := by
  simp only [lockLineConversion] at ok
  split at ok
  · cases ok
  · split at ok
    · rw [← Except.ok.inj ok]
    · cases ok

theorem lockChange_ok {fxAdapter : Option FxRates} {reportCurrency : String} {reportId : Nat} {loaded : Expense}
    {change : Change Expense} (ok : ReportTables.lockChange fxAdapter reportCurrency reportId loaded = .ok change) :
    change.written.status = change.loaded.status := by
  rw [ReportTables.lockChange] at ok
  obtain ⟨locked, locks, ok⟩ := bind_eq_ok.mp ok
  rw [← pure_eq_ok.mp ok]
  show locked.status = loaded.status
  rw [lockLineConversion_ok locks]

theorem plain_createExpense {body : ExpenseCreate} {fxAdapter : Option FxRates} {tx : Transaction}
    (ok : tables.createExpense body fxAdapter = .ok tx) : tx.Plain := by
  rw [ReportTables.createExpense] at ok
  cases target : body.reportId with
  | some reportId =>
    simp only [target] at ok
    obtain ⟨report, _, ok⟩ := bind_eq_ok.mp ok
    obtain ⟨_, _, ok⟩ := bind_eq_ok.mp ok
    obtain ⟨locked, locks, ok⟩ := bind_eq_ok.mp ok
    obtain rfl := pure_eq_ok.mp ok
    refine ⟨by simp, by simp, fun expense created => ?_⟩
    obtain rfl := Option.some.inj created
    rw [lockLineConversion_ok locks]
  | none =>
    simp only [target] at ok
    obtain rfl := Except.ok.inj ok
    refine ⟨by simp, by simp, fun expense created => ?_⟩
    rw [← Option.some.inj created]

theorem reconvert_ok {fxAdapter : Option FxRates} {affected : List Nat} {expense converted : Expense}
    (ok : tables.reconvert fxAdapter affected expense = .ok converted) : converted.status = expense.status := by
  rw [ReportTables.reconvert] at ok
  split at ok
  · rw [← Except.ok.inj ok]
  · split at ok
    · obtain ⟨report, _, ok⟩ := bind_eq_ok.mp ok
      exact lockLineConversion_ok ok
    · rw [← Except.ok.inj ok]
      rfl

theorem plain_updateExpense {expenseId : Nat} {patch : ExpenseUpdate} {fxAdapter : Option FxRates} {tx : Transaction}
    (ok : tables.updateExpense expenseId patch fxAdapter = .ok tx) : tx.Plain := by
  rw [ReportTables.updateExpense] at ok
  obtain ⟨expense, _, ok⟩ := bind_eq_ok.mp ok
  obtain ⟨_, _, ok⟩ := bind_eq_ok.mp ok
  obtain ⟨_, _, ok⟩ := bind_eq_ok.mp ok
  obtain ⟨edited, converts, ok⟩ := bind_eq_ok.mp ok
  obtain rfl := pure_eq_ok.mp ok
  refine ⟨fun change member => ?_, by simp, by simp⟩
  rw [List.mem_singleton.mp member]
  show edited.status = expense.status
  rw [reconvert_ok converts]
  rfl

theorem plain_deleteExpense {expenseId : Nat} {linkedTxnId : Option String} {tx : Transaction}
    (ok : tables.deleteExpense expenseId linkedTxnId = .ok tx) : tx.Plain := by
  rw [ReportTables.deleteExpense] at ok
  obtain ⟨expense, _, ok⟩ := bind_eq_ok.mp ok
  obtain ⟨_, _, ok⟩ := bind_eq_ok.mp ok
  cases linkedTxnId with
  | some txnId => cases ok
  | none =>
    obtain rfl := Except.ok.inj ok
    exact ⟨by simp, by simp, by simp⟩

theorem plain_attachExpenses {reportId : Nat} {expenseIds : List Nat} {detach : Bool} {fxAdapter : Option FxRates}
    {tx : Transaction} (ok : tables.attachExpenses reportId expenseIds detach fxAdapter = .ok tx) : tx.Plain := by
  rw [ReportTables.attachExpenses] at ok
  obtain ⟨report, _, ok⟩ := bind_eq_ok.mp ok
  obtain ⟨_, _, ok⟩ := bind_eq_ok.mp ok
  obtain ⟨loaded, _, ok⟩ := bind_eq_ok.mp ok
  have same : ∀ change ∈ [(⟨report, report⟩ : Change ExpenseReport)], change.written.status = change.loaded.status := by
    simp
  cases detach with
  | true =>
    obtain rfl := pure_eq_ok.mp ok
    refine ⟨fun change member => ?_, same, by simp⟩
    obtain ⟨expense, _, rfl⟩ := List.mem_map.mp member
    rfl
  | false =>
    obtain ⟨_, _, ok⟩ := bind_eq_ok.mp ok
    obtain ⟨attached, locks, ok⟩ := bind_eq_ok.mp ok
    obtain rfl := pure_eq_ok.mp ok
    refine ⟨fun change member => ?_, same, by simp⟩
    obtain ⟨expense, _, made⟩ := source_of_mapM_eq_ok locks member
    exact lockChange_ok made

theorem plain_updateReport {reportId : Nat} {currency : Option String} {fxAdapter : Option FxRates} {tx : Transaction}
    (ok : tables.updateReport reportId currency fxAdapter = .ok tx) : tx.Plain := by
  rw [ReportTables.updateReport] at ok
  obtain ⟨report, _, ok⟩ := bind_eq_ok.mp ok
  obtain ⟨_, _, ok⟩ := bind_eq_ok.mp ok
  split at ok
  next changed _ =>
    obtain ⟨locked, locks, ok⟩ := bind_eq_ok.mp ok
    obtain rfl := pure_eq_ok.mp ok
    refine ⟨fun change member => ?_, by simp, by simp⟩
    obtain ⟨expense, _, made⟩ := source_of_mapM_eq_ok locks member
    exact lockChange_ok made
  next =>
    obtain rfl := Except.ok.inj ok
    exact ⟨by simp, by simp, by simp⟩

theorem requireStatus_ok {report : ExpenseReport} {verb : String} {status : ExpenseReportStatus}
    (ok : report.requireStatus verb status = .ok ()) : report.status = status := by
  rw [ExpenseReport.requireStatus] at ok
  split at ok
  · assumption
  · cases ok

/-- An approver with too few rights has a total within the threshold. -/
theorem requireCfo_ok {report : ExpenseReport} {signature : Signature} (ok : report.requireCfo signature = .ok ()) :
    signature.mayExceed ∨ report.WithinThreshold signature := by
  cases may : signature.mayExceed with
  | true => exact .inl rfl
  | false =>
    refine .inr ?_
    cases gate : report.amountForGate signature.reportingCurrency with
    | none =>
      rw [ExpenseReport.requireCfo, gate, may] at ok
      cases ok
    | some total =>
      refine ⟨total, gate, ?_⟩
      by_cases unset : signature.cfoThresholdRaw = .unset
      · exact .inl unset
      · refine .inr ?_
        simp only [ExpenseReport.requireCfo, gate, may, Option.all_some, cfoGateApplies, moneyGateApplies, unset,
          if_false, Bool.not_false, Bool.and_true] at ok
        cases read : finiteMoneyThreshold signature.cfoThresholdRaw with
        | none =>
          rw [read] at ok
          cases ok
        | some threshold =>
          refine ⟨threshold, rfl, ?_⟩
          by_contra above
          rw [read] at ok
          simp [not_le.mp above] at ok

theorem checkSegregation_ok {employee actor : UserId}
    (ok : checkSegregation (some employee) [] actor { ApprovalConfig.empty with requireSegregation := some true } = .ok ()) :
    actor ≠ employee := by
  rintro rfl
  simp [checkSegregation, violatesSegregation] at ok

theorem held_approveReport {reportId : Nat} {signature : Signature} {call : ReportCall}
    (ok : tables.approveReport reportId signature = .ok call) : ReportHeld tables call := by
  rw [ReportTables.approveReport] at ok
  obtain ⟨report, found, ok⟩ := bind_eq_ok.mp ok
  obtain ⟨_, open_, ok⟩ := bind_eq_ok.mp ok
  obtain ⟨_, segregated, ok⟩ := bind_eq_ok.mp ok
  obtain ⟨_, rights, ok⟩ := bind_eq_ok.mp ok
  obtain rfl := pure_eq_ok.mp ok
  obtain ⟨stored, rfl⟩ := getReport_ok found
  have submitted := requireStatus_ok open_
  have signed : (report.approve signature).Signed :=
    ⟨signature, rfl, rfl, checkSegregation_ok segregated, requireCfo_ok rights⟩
  refine ⟨⟨rfl, rfl, .inl ⟨rfl, signed, rfl⟩, fun lines totals => ?_⟩, report, stored, rfl, ?_, fun _ => ⟨rfl, rfl⟩⟩
  · exact ⟨totals.convertible, totals.total, totals.judged, totals.priced⟩
  · rw [submitted]
    simp

theorem held_rejectReport {reportId : Nat} {call : ReportCall} (ok : tables.rejectReport reportId = .ok call) :
    ReportHeld tables call := by
  rw [ReportTables.rejectReport] at ok
  obtain ⟨report, found, ok⟩ := bind_eq_ok.mp ok
  obtain ⟨_, open_, ok⟩ := bind_eq_ok.mp ok
  obtain rfl := pure_eq_ok.mp ok
  obtain ⟨stored, rfl⟩ := getReport_ok found
  have submitted := requireStatus_ok open_
  refine ⟨⟨rfl, rfl, .inr ⟨rfl, rfl⟩, fun lines totals => ?_⟩, report, stored, rfl, ?_, fun _ => ⟨rfl, rfl⟩⟩
  · exact ⟨totals.convertible, totals.total, totals.judged, totals.priced⟩
  · rw [submitted]
    simp

theorem held_submitReport {reportId : Nat} {submission : Submission} {call : ReportCall}
    (ok : tables.submitReport reportId submission = .ok call) : ReportHeld tables call := by
  rw [ReportTables.submitReport] at ok
  obtain ⟨report, _, ok⟩ := bind_eq_ok.mp ok
  obtain ⟨_, open_, ok⟩ := bind_eq_ok.mp ok
  obtain rfl := pure_eq_ok.mp ok
  exact requireStatus_ok open_

theorem map_eq_ok {ε α β : Type*} {x : Except ε α} {f : α → β} {b : β} (ok : x.map f = .ok b) :
    ∃ a, x = .ok a ∧ f a = b := by
  cases x with
  | error raised => cases ok
  | ok a => exact ⟨a, rfl, Except.ok.inj ok⟩

theorem held_of_prepare {request : ReportRequest} {call : ReportCall} (ok : tables.prepare request = .ok call) :
    ReportHeld tables call := by
  cases request with
  | createExpense body fxAdapter =>
    obtain ⟨tx, made, rfl⟩ := map_eq_ok ok
    exact plain_createExpense made
  | updateExpense expenseId patch fxAdapter =>
    obtain ⟨tx, made, rfl⟩ := map_eq_ok ok
    exact plain_updateExpense made
  | deleteExpense expenseId linkedTxnId =>
    obtain ⟨tx, made, rfl⟩ := map_eq_ok ok
    exact plain_deleteExpense made
  | attachExpenses reportId expenseIds detach fxAdapter =>
    obtain ⟨tx, made, rfl⟩ := map_eq_ok ok
    exact plain_attachExpenses made
  | updateReport reportId currency fxAdapter =>
    obtain ⟨tx, made, rfl⟩ := map_eq_ok ok
    exact plain_updateReport made
  | submitReport reportId submission => exact held_submitReport ok
  | approveReport reportId signature => exact held_approveReport ok
  | rejectReport reportId => exact held_rejectReport ok

end Prepare

section Submission

theorem contribution_onCents {expense : Expense} {reportCurrency : String} {amount : ℚ}
    (contributes : expense.contribution reportCurrency = some amount) : OnCents amount := by
  simp only [Expense.contribution, lineAmountInReportCurrency] at contributes
  split at contributes
  · rw [← Option.some.inj contributes]
    exact quantizeMoney_onCents _
  · split at contributes
    · rw [← Option.some.inj contributes]
      exact quantizeMoney_onCents _
    · cases contributes

/-- The total is the sum of what the lines add, which is in cents already. -/
theorem rollup_total (lines : List Expense) (reportCurrency : String) :
    (rollupReportLines lines reportCurrency).total = (lines.filterMap (·.contribution reportCurrency)).sum := by
  refine OnCents.quantizeMoney_eq (OnCents.sum fun amount member => ?_)
  obtain ⟨line, _, contributes⟩ := List.mem_filterMap.mp member
  exact contribution_onCents contributes

theorem convertible_of_rollup {lines : List Expense} {reportCurrency : String}
    (all : (rollupReportLines lines reportCurrency).unconvertedIds = []) :
    ∀ line ∈ lines, (line.contribution reportCurrency).isSome := by
  intro line member
  have nothing := List.filter_eq_nil_iff.mp (List.map_eq_nil_iff.mp all) line member
  cases contributes : line.contribution reportCurrency with
  | none =>
    rw [contributes] at nothing
    simp at nothing
  | some amount => rfl

theorem adapterRate_pos {fxAdapter : Option FxRates} {source target : String} {rate : ℚ}
    (found : adapterRate fxAdapter source target = some rate) : 0 < rate := by
  rw [adapterRate, conversionRate] at found
  split at found
  · rw [← Option.some.inj found]
    exact one_pos
  · have positive := (Option.filter_eq_some_iff.mp found).2
    exact of_decide_eq_true positive

/-- A submission writes the total of the lines it reads, with what it has judged. -/
theorem submits_of_submit {report written : ExpenseReport} {children : List Expense} {submission : Submission}
    (draft : report.status = .draft) (ok : report.submit children children submission = .ok written) :
    report.Submits written children := by
  simp only [ExpenseReport.submit] at ok
  split at ok
  · cases ok
  next all =>
    split at ok
    · cases ok
    · have convertible := convertible_of_rollup (not_not.mp all)
      have total := rollup_total children report.currency
      obtain rfl := Except.ok.inj ok
      split
      · exact ⟨draft, rfl, rfl, rfl, convertible, total, rfl, by simp [ExpenseReport.recomputeTotal,
          ExpenseReport.clearReportingAmount]⟩
      · simp only [ExpenseReport.lockReportingAmount]
        split
        next rate found =>
          refine ⟨draft, rfl, rfl, rfl, convertible, total, rfl, fun amount priced => ?_⟩
          exact ⟨rate, adapterRate_pos found, (Option.some.inj priced).symm⟩
        next =>
          exact ⟨draft, rfl, rfl, rfl, convertible, total, rfl, by simp [ExpenseReport.recomputeTotal,
            ExpenseReport.clearReportingAmount]⟩

end Submission

section Steps

variable {tables : ReportTables} {report written : ExpenseReport} {children : List Expense}

theorem ReportTables.Loaded.edited (loaded : tables.Loaded report children) {tx : Transaction} (plain : tx.Plain)
    (spares : tx.SparesLocked tables) : (tables.commit tx).Loaded report children := by
  rcases commit_cases tables tx with none | all
  · rw [none]
    exact loaded
  rw [all]
  obtain ⟨current, stored, id, left, asLoaded⟩ := loaded
  refine ⟨tx.writeReport current, List.mem_map.mpr ⟨current, stored, rfl⟩, (writeReport_id tx current).trans id, ?_, ?_⟩
  · rw [plain.writeReport_status]
    exact left
  · intro submitted
    have locked := isLocked_of_isJudged (.inl submitted)
    have same := writeReport_locked plain spares stored locked
    rw [same] at submitted locked ⊢
    obtain ⟨rfl, lines⟩ := asLoaded submitted
    exact ⟨rfl, (lines_flushed spares stored locked).trans lines⟩

/-- A submission is of another report, and after a decision the report is submitted no more. -/
theorem ReportTables.Loaded.settle (loaded : tables.Loaded report children) (inv : ReportInv tables)
    {row : ExpenseReport} (stored : row ∈ tables.reports) (id : written.id = row.id)
    (closes : row.status = .draft ∨ written.status = .approved ∨ written.status = .rejected) (status : ExpenseStatus) :
    (tables.settle written status).Loaded report children := by
  obtain ⟨current, among, same, left, asLoaded⟩ := loaded
  by_cases here : current.id = written.id
  · have one := inv.report_unique among stored (here.trans id)
    have closed : written.status = .approved ∨ written.status = .rejected := by
      rcases closes with draft | closed
      · rw [one] at left
        exact absurd draft left
      · exact closed
    refine ⟨written, mem_putRow_self stored id.symm, here.symm.trans same, ?_, ?_⟩
    · rcases closed with approved | rejected
      · rw [approved]
        simp
      · rw [rejected]
        simp
    · intro submitted
      rcases closed with approved | rejected
      · rw [approved] at submitted
        cases submitted
      · rw [rejected] at submitted
        cases submitted
  · refine ⟨current, mem_putRow_of_ne among here, same, left, fun submitted => ?_⟩
    obtain ⟨rfl, lines⟩ := asLoaded submitted
    exact ⟨rfl, (lines_settle_of_ne here).trans lines⟩

/-- What a commit has to keep for the other requests in flight. -/
theorem ReportHeld.frame {after : ReportTables} {call : ReportCall} (held : ReportHeld tables call)
    (loaded : ∀ report children, tables.Loaded report children → after.Loaded report children) : ReportHeld after call := by
  cases call with
  | editing tx => exact held
  | edited tx => exact held
  | submitting report children submission => exact held
  | submitted report children written => exact held
  | deciding report children written status => exact ⟨held.1, loaded _ _ held.2⟩

theorem edited_respects (inv : ReportInv tables) {tx : Transaction} (plain : tx.Plain) (spares : tx.SparesLocked tables)
    {mine : Option ReportCall} :
    Service.Respects ReportInv ReportHeld Service.Free tables mine (tables.commit tx, none) :=
  .ended (inv.edited plain spares) fun _ held => held.frame fun _ _ loaded => loaded.edited plain spares

theorem submitted_respects (inv : ReportInv tables) (submits : report.Submits written children)
    (stored : report ∈ tables.reports) (lines : tables.lines report.id = children) {mine : Option ReportCall} :
    Service.Respects ReportInv ReportHeld Service.Free tables mine
      (tables.commit (statusTransaction report written children .submitted), none) := by
  rw [← lines, commit_settles inv stored submits.id submits.employee]
  refine .ended ?_ fun _ held => held.frame fun _ _ loaded =>
    loaded.settle inv stored submits.id (.inl submits.draft) .submitted
  refine inv.settle stored submits.id (fun _ => ?_) (fun approved => ?_) fun kind follows => ?_
  · rw [submits.id, lines]
    exact submits.totals
  · rw [submits.status] at approved
    cases approved
  · rw [submits.status]
    exact Option.some.inj follows

theorem deciding_respects (inv : ReportInv tables) {status : ExpenseStatus} (decides : report.Decides written status)
    (loaded : tables.Loaded report children)
    (inTime : ∃ current ∈ tables.reports, current.id = report.id ∧ current.status = .submitted)
    {mine : Option ReportCall} :
    Service.Respects ReportInv ReportHeld Service.Free tables mine
      (tables.commit (statusTransaction report written children status), none) := by
  -- The row that is still submitted is the one that was loaded.
  obtain ⟨current, stored, same, submitted⟩ := inTime
  obtain ⟨found, also, id, _, asLoaded⟩ := loaded
  obtain rfl := inv.report_unique stored also (same.trans id.symm)
  obtain ⟨rfl, lines⟩ := asLoaded submitted
  have closed : written.status = .approved ∨ written.status = .rejected := by
    rcases decides.outcome with ⟨approved, _⟩ | ⟨rejected, _⟩
    · exact .inl approved
    · exact .inr rejected
  rw [← lines, commit_settles inv stored decides.id decides.employee]
  refine .ended ?_ fun _ held => held.frame fun _ _ loaded => loaded.settle inv stored decides.id (.inr closed) status
  refine inv.settle stored decides.id (fun _ => ?_) (fun approved => ?_) fun kind follows => ?_
  · rw [decides.id]
    exact decides.totals _ (inv.totals current stored (.inl submitted))
  · rcases decides.outcome with ⟨_, signed, _⟩ | ⟨rejected, _⟩
    · exact signed
    · rw [rejected] at approved
      cases approved
  · rcases decides.outcome with ⟨approved, _, rfl⟩ | ⟨_, rfl⟩
    · rw [approved]
      exact Option.some.inj follows
    · cases follows

theorem advance_respects (inv : ReportInv tables) {call : ReportCall} (held : ReportHeld tables call)
    (inTime : CommitsInTime tables call ()) :
    Service.Respects ReportInv ReportHeld Service.Free tables (some call) (tables.advance call) := by
  cases call with
  | editing tx => exact .read inv (Transaction.Plain.recomputeTotals held tables)
  | edited tx => exact edited_respects inv held inTime
  | submitting report children submission =>
    rw [ReportTables.advance, inTime]
    cases ok : report.submit children children submission with
    | error raised => exact .refused inv
    | ok written => exact .read inv (submits_of_submit held ok)
  | submitted report children written => exact submitted_respects inv held inTime.1 inTime.2
  | deciding report children written status => exact deciding_respects inv held.1 held.2 inTime

theorem arrive_respects (inv : ReportInv tables) (request : ReportRequest) :
    Service.Respects ReportInv ReportHeld Service.Free tables none (tables.arrive request) := by
  rw [ReportTables.arrive]
  cases ok : tables.prepare request with
  | error raised => exact .refused inv
  | ok call => exact .read inv (held_of_prepare ok)

end Steps

theorem reports_sustain :
    Service.Sustains reportService (fun _ _ => True) CommitsInTime ReportInv ReportHeld Service.Free where
  symm _ _ _ := trivial
  start tables first := by
    have unlocked : ∀ report ∈ tables.reports, ¬report.IsJudged := by
      intro report stored judged
      have locked := isLocked_of_isJudged judged
      rw [first.reports report stored] at locked
      cases locked
    refine ⟨⟨fun report stored judged => absurd judged (unlocked report stored), ?_, ?_⟩, first.reportIds,
      first.expenseIds, first.fresh⟩
    · exact fun report stored approved => absurd (.inr approved) (unlocked report stored)
    · intro expense stored status judged
      rw [first.expenses expense stored] at judged
      cases judged
  arrive _ request inv _ := arrive_respects inv request
  advance _ _ _ inv held inTime := advance_respects inv held inTime
  abort _ _ inv _ := .refused inv

/-- The parts of a run whose commits are in time. -/
abbrev InTime : Served ReportTables ReportCall → Part ReportRequest Unit → Prop :=
  Service.Guarded (fun _ _ => True) CommitsInTime

/-- In a run whose commits are in time every submitted or approved report is what was judged. -/
theorem approved_as_judged {state : Served ReportTables ReportCall} (reach : reportService.machine.Reach InTime state) :
    ApprovedAsJudged state.tables :=
  (reports_sustain.reach reach).tables.toApprovedAsJudged

def tripReport : ExpenseReport := ⟨0, "ada", .draft, none, 40, "EUR", none, none, [], none⟩

def tripLunch : Expense := ⟨0, some 0, some "meals", 40, "EUR", some "EUR", some 40, .draft⟩

/-- A draft report with one line. -/
def oneTrip : ReportTables := ⟨[tripReport], [tripLunch], 1⟩

theorem nothingSubmitted_oneTrip : NothingSubmitted oneTrip where
  reports := by decide
  expenses := by decide
  reportIds := by decide
  expenseIds := by decide
  fresh := by decide

/-- A submission of the report, with no policy against it. -/
def tripSubmission : ReportRequest := .submitReport 0 ⟨none, "EUR", fun _ _ => false⟩

/-- After its submission a manager approves the report, who needs no further rights where no threshold is set. -/
def tripApproved : List (Part ReportRequest Unit) :=
  [.arrive 0 tripSubmission, .advance 0 (), .advance 0 (),
    .arrive 1 (.approveReport 0 ⟨"bob", ["ap_manager"], some .unset, "EUR"⟩), .advance 1 ()]

theorem trip_approved_as_judged :
    (reportService.machine.exec (Service.begun oneTrip) tripApproved).tables.reports.map (·.status) = [.approved] ∧
      ApprovedAsJudged (reportService.machine.exec (Service.begun oneTrip) tripApproved).tables := by
  have first : reportService.machine.Reach (Service.Guarded (fun _ _ => True) CommitsInTime) (Service.begun oneTrip) :=
    .start (Service.init_begun nothingSubmitted_oneTrip)
  exact ⟨by decide, approved_as_judged (first.exec (by decide))⟩

/-- A line is created on the draft report, which is submitted before the line commits. -/
def lineCreatedLate : List (Part ReportRequest Unit) :=
  [.arrive 1 (.createExpense ⟨some 0, some "travel", 90, "EUR"⟩ none), .arrive 0 tripSubmission, .advance 0 (), .advance 0 (),
    .advance 1 (), .advance 1 ()]

theorem line_not_judged : ¬∀ state : Served ReportTables ReportCall,
    reportService.machine.Reach Machine.Anything state → ApprovedAsJudged state.tables := by
  intro always
  have judged := always (reportService.machine.exec (Service.begun oneTrip) lineCreatedLate)
    (Machine.reach_exec (Service.init_begun nothingSubmitted_oneTrip) _)
  generalize reached : (reportService.machine.exec (Service.begun oneTrip) lineCreatedLate).tables = tables at judged
  have reports : tables.reports.map (fun report => (report.id, report.status, report.judged.map (·.id))) =
      [(0, .submitted, [0])] := by
    rw [← reached]
    decide
  have lines : (tables.lines 0).map (·.judgedLine.id) = [0, 2] := by
    rw [← reached]
    decide
  obtain ⟨report, stored, found⟩ := List.mem_map.mp (reports ▸ List.mem_singleton_self _)
  obtain ⟨id, status, ids⟩ : report.id = 0 ∧ report.status = .submitted ∧ report.judged.map (·.id) = [0] := by
    simpa using found
  have same := congrArg (List.map (·.id)) (judged.totals report stored (.inl status)).judged
  rw [ids, id, List.map_map] at same
  exact absurd (lines.symm.trans same) (by decide)

end Payables.ExpenseReports
