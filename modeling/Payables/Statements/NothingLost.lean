import Payables.Statements.Reconcile

namespace Payables.Statements
open Lib

/-- The line that a result is about. -/
def ReconLineResult.line (result : ReconLineResult) : StatementLine :=
  ⟨result.statementInvoiceNumber, result.statementDate, result.statementAmount, result.statementStatus⟩

/-- Some line is matched with an invoice. -/
def MatchedIn (results : List ReconLineResult) (invoice : LedgerInvoice) : Prop :=
  ∃ result ∈ results, result.classification ≠ .missingTheirSide ∧ result.matchedInvoiceId = some invoice.id
  deriving Decidable

/-- Every line has one result, in the order of the lines, and every invoice is in one result. The counts and the totals say
so: the ledger total is the one of the invoices that lines are matched with. -/
structure NothingLost (lines : List StatementLine) (ledger : Ledger) (outcome : List ReconLineResult × ReconSummary) : Prop where
  ofLines : (outcome.1.filter (·.classification ≠ .missingTheirSide)).map (·.line) = lines
  ofInvoices : (outcome.1.filterMap (·.matchedInvoiceId)).Perm (ledger.invoices.map (·.id))
  lineCounts : outcome.2.matchedCount + outcome.2.amountMismatchCount + outcome.2.missingOurSideCount = lines.length
  missingCount : outcome.2.missingTheirSideCount = (ledger.invoices.filter fun invoice => ¬MatchedIn outcome.1 invoice).length
  lineCount : outcome.2.lineCount = lines.length + outcome.2.missingTheirSideCount
  statementTotal : outcome.2.statementTotal = (lines.filterMap (·.amount)).sum
  ledgerTotal : outcome.2.ledgerTotal = ((ledger.invoices.filter fun invoice => MatchedIn outcome.1 invoice).map (·.amount)).sum

section Results

variable {ledger : Ledger} {lines : List StatementLine} {amountTolerance : ℚ} {dateWindowDays : Nat}

/-- The results of the lines. -/
def lineResults (lines : List StatementLine) (ledger : Ledger) (amountTolerance : ℚ) (dateWindowDays : Nat) : List ReconLineResult :=
  ((matching ledger dateWindowDays).pass ∅ lines).map fun (line, taken) => line.result amountTolerance taken

/-- The invoices that lines are matched with, in the order of the lines. -/
def takenInvoices (lines : List StatementLine) (ledger : Ledger) (dateWindowDays : Nat) : List LedgerInvoice :=
  ((matching ledger dateWindowDays).choices ∅ lines).map (·.1)

/-- The invoices that no line is matched with. -/
def missingInvoices (lines : List StatementLine) (ledger : Ledger) (dateWindowDays : Nat) : List LedgerInvoice :=
  ledger.invoices.filter (·.id ∉ (matching ledger dateWindowDays).takenAfter ∅ lines)

/-- The result of an invoice that no line is matched with. -/
def LedgerInvoice.missing (invoice : LedgerInvoice) : ReconLineResult :=
  ⟨.missingTheirSide, none, none, none, none, some invoice.id, some invoice.amount, none, none⟩

theorem reconcile_results : (reconcile lines ledger amountTolerance dateWindowDays).1 =
    lineResults lines ledger amountTolerance dateWindowDays ++ (missingInvoices lines ledger dateWindowDays).map (·.missing) := rfl

theorem takenInvoices_perm : (takenInvoices lines ledger dateWindowDays ++ missingInvoices lines ledger dateWindowDays).Perm
    ledger.invoices := by
  have chosen : ∀ taken line choice, (matching ledger dateWindowDays).choose taken line = some choice → choice.1 ∈ ledger.invoices :=
    fun _ _ _ found => (matchLine_open found).1
  have conserved : (takenInvoices lines ledger dateWindowDays ++ missingInvoices lines ledger dateWindowDays).Perm
      (ledger.invoices.filter fun other => other.id ∉ (∅ : Finset InvoiceId)) :=
    Claimant.conserves ledger.distinct (fun _ => rfl) chosen lines
  simpa only [Finset.notMem_empty, not_false_eq_true, decide_true, List.filter_true] using conserved

section Line

variable {line : StatementLine} {taken : Option (LedgerInvoice × MatchMethod)}

theorem line_result : (line.result amountTolerance taken).line = line := by
  cases taken <;> rfl

theorem matchedInvoiceId_result : (line.result amountTolerance taken).matchedInvoiceId = taken.map (·.1.id) := by
  cases taken <;> rfl

theorem ledgerAmount_result : (line.result amountTolerance taken).ledgerAmount = taken.map (·.1.amount) := by
  cases taken <;> rfl

/-- A line is missing on our side, matched, or matched with a difference. -/
theorem classification_result : (line.result amountTolerance taken).classification ≠ .missingTheirSide ∧
    ((line.result amountTolerance taken).classification = .matched ∨
      (line.result amountTolerance taken).classification = .amountMismatch ↔ taken.isSome) := by
  cases taken with
  | none => simp [StatementLine.result]
  | some taken =>
    simp only [StatementLine.result]
    split <;> simp

end Line

theorem mem_lineResults {result : ReconLineResult} (listed : result ∈ lineResults lines ledger amountTolerance dateWindowDays) :
    result.classification ≠ .missingTheirSide := by
  obtain ⟨⟨line, taken⟩, -, rfl⟩ := List.mem_map.mp listed
  exact classification_result.1

theorem filter_missing (invoices : List LedgerInvoice) :
    (invoices.map (·.missing)).filter (·.classification ≠ .missingTheirSide) = [] := by
  refine List.filter_eq_nil_iff.mpr fun result listed => ?_
  obtain ⟨invoice, -, rfl⟩ := List.mem_map.mp listed
  simp [LedgerInvoice.missing]

theorem filter_results : (reconcile lines ledger amountTolerance dateWindowDays).1.filter (·.classification ≠ .missingTheirSide) =
    lineResults lines ledger amountTolerance dateWindowDays := by
  have kept : (lineResults lines ledger amountTolerance dateWindowDays).filter (·.classification ≠ .missingTheirSide) =
      lineResults lines ledger amountTolerance dateWindowDays :=
    List.filter_eq_self.mpr fun result listed => decide_eq_true (mem_lineResults listed)
  rw [reconcile_results, List.filter_append, filter_missing, List.append_nil, kept]

theorem map_line_lineResults : (lineResults lines ledger amountTolerance dateWindowDays).map (·.line) = lines := by
  have turns : ∀ turn : StatementLine × Option (LedgerInvoice × MatchMethod),
      (turn.1.result amountTolerance turn.2).line = turn.1 := fun _ => line_result
  rw [lineResults, List.map_map]
  exact (List.map_congr_left fun turn _ => turns turn).trans Claimant.pass_map_fst

/-- What the results of lines carry of the invoices that they are matched with. -/
theorem filterMap_lineResults {α : Type} {carried : ReconLineResult → Option α} {read : LedgerInvoice → α}
    (carries : ∀ (line : StatementLine) taken, carried (line.result amountTolerance taken) = taken.map (read ·.1)) :
    (lineResults lines ledger amountTolerance dateWindowDays).filterMap carried =
      (takenInvoices lines ledger dateWindowDays).map read := by
  rw [lineResults, List.filterMap_map, takenInvoices, Claimant.choices, List.map_map, List.map_filterMap]
  exact List.filterMap_congr fun turn _ => carries turn.1 turn.2

theorem matchedIn_iff {invoice : LedgerInvoice} (listed : invoice ∈ ledger.invoices) :
    MatchedIn (reconcile lines ledger amountTolerance dateWindowDays).1 invoice ↔
      invoice ∈ takenInvoices lines ledger dateWindowDays := by
  have ids := @filterMap_lineResults ledger lines amountTolerance dateWindowDays _ (·.matchedInvoiceId) (·.id)
    fun _ _ => matchedInvoiceId_result
  have taken : ∀ other ∈ takenInvoices lines ledger dateWindowDays, other ∈ ledger.invoices := fun other member =>
    takenInvoices_perm.subset (List.mem_append_left _ member)
  constructor
  · rintro ⟨result, inResults, ofLine, found⟩
    have inLines : result ∈ lineResults lines ledger amountTolerance dateWindowDays := by
      rw [← filter_results]
      exact List.mem_filter.mpr ⟨inResults, decide_eq_true ofLine⟩
    have carried : invoice.id ∈ (takenInvoices lines ledger dateWindowDays).map (·.id) := by
      rw [← ids]
      exact List.mem_filterMap.mpr ⟨result, inLines, found⟩
    obtain ⟨other, member, same⟩ := List.mem_map.mp carried
    rw [← List.inj_on_of_nodup_map ledger.distinct (taken other member) listed same]
    exact member
  · intro member
    have carried : invoice.id ∈ (takenInvoices lines ledger dateWindowDays).map (·.id) := List.mem_map_of_mem member
    rw [← ids] at carried
    obtain ⟨result, inLines, found⟩ := List.mem_filterMap.mp carried
    refine ⟨result, ?_, mem_lineResults inLines, found⟩
    rw [reconcile_results]
    exact List.mem_append_left _ inLines

/-- The invoices that lines are matched with, and those that none is, as the results tell them. -/
theorem matched_perm :
    (takenInvoices lines ledger dateWindowDays).Perm
        (ledger.invoices.filter fun invoice => MatchedIn (reconcile lines ledger amountTolerance dateWindowDays).1 invoice) ∧
      (missingInvoices lines ledger dateWindowDays).Perm
        (ledger.invoices.filter fun invoice => ¬MatchedIn (reconcile lines ledger amountTolerance dateWindowDays).1 invoice) := by
  have conserved := @takenInvoices_perm ledger lines dateWindowDays
  have distinct : (takenInvoices lines ledger dateWindowDays ++ missingInvoices lines ledger dateWindowDays).Nodup :=
    conserved.nodup_iff.mpr ledger.distinct.of_map
  obtain ⟨takenNodup, missingNodup, apart⟩ := List.nodup_append.mp distinct
  have all := ledger.distinct.of_map
  constructor
  · refine (List.perm_ext_iff_of_nodup takenNodup (all.filter _)).mpr fun invoice => ?_
    rw [List.mem_filter, decide_eq_true_eq]
    constructor
    · intro member
      have listed := conserved.subset (List.mem_append_left _ member)
      exact ⟨listed, (matchedIn_iff listed).mpr member⟩
    · rintro ⟨listed, matched⟩
      exact (matchedIn_iff listed).mp matched
  · refine (List.perm_ext_iff_of_nodup missingNodup (all.filter _)).mpr fun invoice => ?_
    rw [List.mem_filter, decide_eq_true_eq]
    constructor
    · intro member
      have listed := conserved.subset (List.mem_append_right _ member)
      exact ⟨listed, fun matched => apart invoice ((matchedIn_iff listed).mp matched) invoice member rfl⟩
    · rintro ⟨listed, unmatched⟩
      rcases List.mem_append.mp (conserved.symm.subset listed) with taken | missing
      · exact absurd ((matchedIn_iff listed).mpr taken) unmatched
      · exact missing

/-- The results of lines fall under three of the classifications. -/
theorem countP_classifications (results : List ReconLineResult) :
    results.countP (·.classification = .matched) + results.countP (·.classification = .amountMismatch) +
        results.countP (·.classification = .missingOurSide) = (results.filter (·.classification ≠ .missingTheirSide)).length ∧
      (results.filter (·.classification ≠ .missingTheirSide)).length + results.countP (·.classification = .missingTheirSide) =
        results.length := by
  induction results with
  | nil => simp
  | cons result results ih =>
    obtain ⟨ofLines, all⟩ := ih
    simp only [ne_eq, decide_not] at ofLines all
    simp only [List.countP_cons, List.filter_cons, List.length_cons, ne_eq, decide_not]
    cases result.classification <;> simp <;> omega

end Results

/-- No line and no invoice of a reconciliation is lost. -/
theorem nothing_lost (lines : List StatementLine) (ledger : Ledger) (amountTolerance : ℚ) (dateWindowDays : Nat) :
    NothingLost lines ledger (reconcile lines ledger amountTolerance dateWindowDays) := by
  have results := @filter_results ledger lines amountTolerance dateWindowDays
  have ofLines := @map_line_lineResults ledger lines amountTolerance dateWindowDays
  have conserved := @takenInvoices_perm ledger lines dateWindowDays
  obtain ⟨taken, missing⟩ := @matched_perm ledger lines amountTolerance dateWindowDays
  obtain ⟨counts, all⟩ := countP_classifications (reconcile lines ledger amountTolerance dateWindowDays).1
  have lineLength : (lineResults lines ledger amountTolerance dateWindowDays).length = lines.length := by
    rw [← ofLines, List.length_map, ofLines]
  rw [results, lineLength] at counts all
  constructor
  case ofLines =>
    rw [results]
    exact ofLines
  case ofInvoices =>
    have ids := @filterMap_lineResults ledger lines amountTolerance dateWindowDays _ (·.matchedInvoiceId) (·.id)
      fun _ _ => matchedInvoiceId_result
    have missingIds : ((missingInvoices lines ledger dateWindowDays).map (·.missing)).filterMap (·.matchedInvoiceId) =
        (missingInvoices lines ledger dateWindowDays).map (·.id) := by
      rw [List.filterMap_map]
      exact congrFun List.filterMap_eq_map _
    rw [reconcile_results, List.filterMap_append, ids, missingIds, ← List.map_append]
    exact conserved.map _
  case lineCounts => exact counts
  case missingCount =>
    have lengths := conserved.length_eq
    have missingLength := missing.length_eq
    rw [← missingLength]
    show (reconcile lines ledger amountTolerance dateWindowDays).1.countP (·.classification = .missingTheirSide) = _
    rw [reconcile_results, List.length_append, List.length_map, lineLength] at all
    rw [reconcile_results]
    omega
  case lineCount => exact all.symm
  case statementTotal =>
    show (((reconcile lines ledger amountTolerance dateWindowDays).1.filter _).filterMap _).sum = _
    have amounts : (lineResults lines ledger amountTolerance dateWindowDays).filterMap (·.statementAmount) =
        lines.filterMap (·.amount) := by
      conv_rhs => rw [← ofLines]
      rw [List.filterMap_map]
      rfl
    rw [results, amounts]
  case ledgerTotal =>
    show (((reconcile lines ledger amountTolerance dateWindowDays).1.filter _).filterMap _).sum = _
    have unmatched : ((missingInvoices lines ledger dateWindowDays).map (·.missing)).filter (fun result =>
        result.classification = .matched ∨ result.classification = .amountMismatch) = [] := by
      refine List.filter_eq_nil_iff.mpr fun result listed => ?_
      obtain ⟨invoice, -, rfl⟩ := List.mem_map.mp listed
      simp [LedgerInvoice.missing]
    have amounts := @filterMap_lineResults ledger lines amountTolerance dateWindowDays ℚ
      (fun result => if decide (result.classification = .matched ∨ result.classification = .amountMismatch) then result.ledgerAmount
        else none) (·.amount) ?_
    · rw [reconcile_results, List.filter_append, unmatched, List.append_nil, List.filterMap_filter, amounts]
      exact (taken.map _).sum_eq
    · intro line choice
      have kind := (@classification_result amountTolerance line choice).2
      simp only [kind, ledgerAmount_result]
      cases choice <;> simp

/-- The ledger total leaves an invoice out that no line is matched with. -/
theorem unmatched_not_totalled : ¬∀ (lines : List StatementLine) (ledger : Ledger),
    (reconcile lines ledger defaultAmountTolerance defaultDateWindowDays).2.ledgerTotal = (ledger.invoices.map (·.amount)).sum := by
  intro totals
  have one := totals [] ⟨[⟨7, "INV-7", 100, none⟩], by simp⟩
  have left : (reconcile [] ⟨[⟨7, "INV-7", 100, none⟩], by simp⟩ defaultAmountTolerance defaultDateWindowDays).2.ledgerTotal = 0 := by
    decide
  rw [left] at one
  norm_num at one

end Payables.Statements
