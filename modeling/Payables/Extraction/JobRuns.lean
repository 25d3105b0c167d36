import Payables.Extraction.Jobs

namespace Payables
open Lib

/-- The status a job goes by. -/
def ExtractionJob.read (job : ExtractionJob) : InvoiceStatus :=
  match job.phase with
  | .loaded row => row.status
  | .failing read => read
  | .fallback read => read

namespace ExtractionLabel

def isJob : ExtractionLabel → Bool
  | jobSucceeds _ _ _ _ => true
  | jobFails _ => true
  | commitFailure _ => true
  | commitFallback _ => true
  | crash _ => true
  | _ => false

end ExtractionLabel

/-- The job read `pending`, and the invoice has not left that `pending` period since. -/
def ExtractionStore.current (store : ExtractionStore) (job : ExtractionJob) : Bool :=
  job.read = .pending && job.period = store.period

/-- A step that commits nothing of a job whose read of the row is late. -/
def inTime (store : ExtractionStore) : ExtractionLabel → Bool
  | .jobSucceeds index _ _ autoApproved => (store.jobs[index]?).all fun job =>
    match job.phase with
    | .loaded _ => extractionTarget job.options autoApproved ∉ job.read.validTransitions || store.current job
    | _ => true
  | .commitFailure index => (store.jobs[index]?).all fun job =>
    match job.phase with
    | .failing _ => InvoiceStatus.failed ∉ job.read.validTransitions || store.current job
    | _ => true
  | .commitFallback index => (store.jobs[index]?).all fun job =>
    match job.phase with
    | .fallback _ => job.read ≠ .pending || store.current job
    | _ => true
  | _ => true

/-- No job read in a period to come, and what a job read in the present one is `pending` only if the
invoice still is. -/
def ReadsSound (store : ExtractionStore) : Prop :=
  ∀ job ∈ store.jobs, job.period ≤ store.period ∧ (store.current job = true → store.row.status = .pending)

section
variable {store : ExtractionStore} (index : Nat) (row : ExtractedRow)

@[simp] theorem ExtractionStore.write_row : (store.write row).row = row := rfl

@[simp] theorem ExtractionStore.write_jobs : (store.write row).jobs = store.jobs := rfl

@[simp] theorem ExtractionStore.dropJob_row : (store.dropJob index).row = store.row := rfl

@[simp] theorem ExtractionStore.dropJob_period : (store.dropJob index).period = store.period := rfl

@[simp] theorem ExtractionStore.readAgain_row (job : ExtractionJob) (phase : InvoiceStatus → JobPhase) :
    (store.readAgain index job phase).row = store.row := rfl

theorem ExtractionStore.current_iff {job : ExtractionJob} :
    store.current job = true ↔ job.read = .pending ∧ job.period = store.period := by
  simp only [current, Bool.and_eq_true, decide_eq_true_eq]

theorem ExtractionStore.write_period_of_left (pending : store.row.status = .pending) (left : row.status ≠ .pending) :
    (store.write row).period = store.period + 1 := if_pos ⟨pending, left⟩

theorem extractionTarget_ne_pending (options : ExtractionOptions) (autoApproved : Bool) :
    extractionTarget options autoApproved ≠ .pending := by
  unfold extractionTarget
  split <;> decide

/-- A commit that ends the period leaves every read behind, and one that does not leaves it current. -/
theorem ReadsSound.write (sound : ReadsSound store) : ReadsSound (store.write row) := by
  intro job member
  obtain ⟨begun, still⟩ := sound job member
  by_cases left : store.row.status = .pending ∧ row.status ≠ .pending
  · have later : (store.write row).period = store.period + 1 := if_pos left
    rw [ExtractionStore.current_iff, later]
    exact ⟨by omega, fun current => by omega⟩
  · have same : (store.write row).period = store.period := if_neg left
    refine ⟨by omega, fun current => ?_⟩
    rw [ExtractionStore.current_iff, same] at current
    have pending := still (ExtractionStore.current_iff.mpr current)
    by_contra moved
    exact left ⟨pending, moved⟩

theorem ReadsSound.dropJob (sound : ReadsSound store) : ReadsSound (store.dropJob index) :=
  fun job member => sound job (List.mem_of_mem_eraseIdx member)

theorem ReadsSound.readAgain (sound : ReadsSound store) (job : ExtractionJob) {phase : InvoiceStatus → JobPhase}
    (reads : ∀ status, (ExtractionJob.mk job.options (phase status) store.period).read = status) :
    ReadsSound (store.readAgain index job phase) := by
  intro other member
  rcases List.mem_or_eq_of_mem_set member with old | rfl
  · exact sound other old
  · refine ⟨Nat.le_refl _, fun current => ?_⟩
    have pending := (ExtractionStore.current_iff.mp current).1
    exact (reads store.row.status).symm.trans pending

theorem ReadsSound.requestTransition (sound : ReadsSound store) (target : InvoiceStatus) (approvedBy : Option String) :
    ReadsSound (requestTransition store target approvedBy) := by
  unfold Payables.requestTransition
  split
  · exact sound.write _
  · exact sound

theorem ReadsSound.requestEdit (sound : ReadsSound store) (edited : Except Raised InvoiceFields) :
    ReadsSound (requestEdit store edited) := by
  unfold Payables.requestEdit
  split
  · exact sound.write _
  · exact sound

end

theorem runExtractionLabel_readsSound {store : ExtractionStore} (sound : ReadsSound store) (label : ExtractionLabel) :
    ReadsSound (runExtractionLabel store label) := by
  cases label with
  | extract =>
    simp only [runExtractionLabel, triggerExtraction]
    split
    · exact sound.requestTransition _ _
    · exact sound
  | resetExtraction =>
    simp only [runExtractionLabel, resetExtraction]
    split
    · exact sound.requestTransition _ _
    · exact sound
  | request target approvedBy => exact sound.requestTransition _ _
  | updateInvoice edits => exact sound.requestEdit _
  | saveInvoiceLineItems body => exact sound.requestEdit _
  | startJob options =>
    intro job member
    rcases List.mem_append.mp member with old | fresh
    · exact sound job old
    · cases List.mem_singleton.mp fresh
      exact ⟨Nat.le_refl _, fun current => (ExtractionStore.current_iff.mp current).1⟩
  | jobSucceeds index result matchedVendor autoApproved =>
    simp only [runExtractionLabel]
    split
    · unfold finishExtraction
      simp only
      split
      · exact (sound.write _).dropJob _
      · exact sound.readAgain _ _ fun _ => rfl
    · exact sound
  | jobFails index =>
    simp only [runExtractionLabel]
    split
    · exact sound.readAgain _ _ fun _ => rfl
    · exact sound
  | commitFailure index =>
    simp only [runExtractionLabel]
    split
    · split
      · exact (sound.write _).dropJob _
      · exact sound.readAgain _ _ fun _ => rfl
    · exact sound
  | commitFallback index =>
    simp only [runExtractionLabel]
    split
    · split
      · exact (sound.write _).dropJob _
      · exact sound.dropJob _
    · exact sound
  | crash index => exact sound.dropJob _

theorem reach_readsSound {allowed : ExtractionStore → ExtractionLabel → Prop} {store : ExtractionStore}
    (reach : extractionMachine.Reach allowed store) : ReadsSound store := by
  have start : ∀ first, extractionMachine.init first → ReadsSound first := by
    intro first none' job member
    rw [show first.jobs = [] from none'] at member
    cases member
  have step : ∀ before label, ReadsSound before → allowed before label →
      ReadsSound (extractionMachine.step before label) :=
    fun before label sound _ => runExtractionLabel_readsSound sound label
  exact reach.invariant start step

/-- What a commit of a job is to do: take the invoice out of the `pending` period that is open. -/
structure EndsPending (before after : ExtractionStore) : Prop where
  found : before.row.status = .pending
  left : after.row.status ≠ .pending
  counted : after.period = before.period + 1

theorem EndsPending.of_write {store : ExtractionStore} {row : ExtractedRow} (index : Nat)
    (pending : store.row.status = .pending) (left : row.status ≠ .pending) :
    EndsPending store ((store.write row).dropJob index) :=
  ⟨pending, left, ExtractionStore.write_period_of_left row pending left⟩

/-- A section of a job that is in time changes nothing, or ends the open period. -/
theorem inTime_endsPending {store : ExtractionStore} (sound : ReadsSound store) {label : ExtractionLabel}
    (job : label.isJob = true) (punctual : inTime store label = true)
    (changed : (runExtractionLabel store label).row ≠ store.row) :
    EndsPending store (runExtractionLabel store label) := by
  cases label with
  | extract => cases job
  | resetExtraction => cases job
  | request => cases job
  | updateInvoice => cases job
  | saveInvoiceLineItems => cases job
  | startJob => cases job
  | crash index => exact absurd rfl changed
  | jobFails index =>
    simp only [runExtractionLabel] at changed
    split at changed <;> exact absurd rfl changed
  | jobSucceeds index result matchedVendor autoApproved =>
    simp only [runExtractionLabel] at changed ⊢
    split at changed
    · next options loaded period atIndex =>
      simp only [inTime, atIndex, Option.all_some, Bool.or_eq_true, decide_eq_true_eq] at punctual
      have member := List.mem_of_getElem? atIndex
      unfold finishExtraction at changed ⊢
      simp only at changed ⊢
      split at changed
      · next valid =>
        have reachable : extractionTarget options autoApproved ∈ loaded.status.validTransitions :=
          InvoiceStatus.validateTransition_eq_ok.mp valid
        have current := punctual.resolve_left (not_not_intro reachable)
        have pending := (sound _ member).2 current
        have read : loaded.status = .pending := (ExtractionStore.current_iff.mp current).1
        have other : extractionTarget options autoApproved ≠ loaded.status := by
          rw [read]
          exact extractionTarget_ne_pending options autoApproved
        refine EndsPending.of_write index pending ?_
        show writeBack loaded.status (extractionTarget options autoApproved) store.row.status ≠ .pending
        rw [writeBack_of_ne other]
        exact extractionTarget_ne_pending options autoApproved
      · exact absurd rfl changed
    · exact absurd rfl changed
  | commitFailure index =>
    simp only [runExtractionLabel] at changed ⊢
    split at changed
    · next options read period atIndex =>
      simp only [inTime, atIndex, Option.all_some, Bool.or_eq_true, decide_eq_true_eq] at punctual
      have member := List.mem_of_getElem? atIndex
      split at changed
      · next valid =>
        have reachable : InvoiceStatus.failed ∈ read.validTransitions := InvoiceStatus.validateTransition_eq_ok.mp valid
        have current := punctual.resolve_left (not_not_intro reachable)
        exact EndsPending.of_write index ((sound _ member).2 current) nofun
      · exact absurd rfl changed
    · exact absurd rfl changed
  | commitFallback index =>
    simp only [runExtractionLabel] at changed ⊢
    split at changed
    · next options read period atIndex =>
      simp only [inTime, atIndex, Option.all_some, Bool.or_eq_true, decide_eq_true_eq] at punctual
      have member := List.mem_of_getElem? atIndex
      by_cases pending : read = .pending
      · have current := punctual.resolve_left (not_not_intro pending)
        rw [if_pos pending]
        exact EndsPending.of_write index ((sound _ member).2 current) nofun
      · rw [if_neg pending] at changed
        exact absurd rfl changed
    · exact absurd rfl changed

/-- How many sections of jobs change the invoice in a run. -/
def jobCommits : ExtractionStore → List ExtractionLabel → Nat
  | _, [] => 0
  | store, label :: rest =>
    (if label.isJob = true ∧ (runExtractionLabel store label).row ≠ store.row then 1 else 0) +
      jobCommits (runExtractionLabel store label) rest

theorem ExtractionStore.le_write_period (store : ExtractionStore) (row : ExtractedRow) :
    store.period ≤ (store.write row).period := by
  by_cases left : store.row.status = .pending ∧ row.status ≠ .pending
  · rw [ExtractionStore.write, if_pos left]
    exact Nat.le_succ _
  · rw [ExtractionStore.write, if_neg left]

theorem runExtractionLabel_period (store : ExtractionStore) (label : ExtractionLabel) :
    store.period ≤ (runExtractionLabel store label).period := by
  have transition (target : InvoiceStatus) (approvedBy : Option String) :
      store.period ≤ (requestTransition store target approvedBy).period := by
    unfold requestTransition
    split
    · exact store.le_write_period _
    · exact Nat.le_refl _
  have edit (edited : Except Raised InvoiceFields) : store.period ≤ (requestEdit store edited).period := by
    unfold requestEdit
    split
    · exact store.le_write_period _
    · exact Nat.le_refl _
  cases label with
  | extract =>
    simp only [runExtractionLabel, triggerExtraction]
    split
    · exact transition _ _
    · exact Nat.le_refl _
  | resetExtraction =>
    simp only [runExtractionLabel, resetExtraction]
    split
    · exact transition _ _
    · exact Nat.le_refl _
  | request => exact transition _ _
  | updateInvoice => exact edit _
  | saveInvoiceLineItems => exact edit _
  | startJob => exact Nat.le_refl _
  | jobSucceeds =>
    simp only [runExtractionLabel, finishExtraction]
    split
    · split
      · exact store.le_write_period _
      · exact Nat.le_refl _
    · exact Nat.le_refl _
  | jobFails =>
    simp only [runExtractionLabel]
    split <;> exact Nat.le_refl _
  | commitFailure =>
    simp only [runExtractionLabel]
    split
    · split
      · exact store.le_write_period _
      · exact Nat.le_refl _
    · exact Nat.le_refl _
  | commitFallback =>
    simp only [runExtractionLabel]
    split
    · split
      · exact store.le_write_period _
      · exact Nat.le_refl _
    · exact Nat.le_refl _
  | crash => exact Nat.le_refl _

/-- One period for each section of a job that changes the invoice. -/
theorem jobCommits_le_period {store : ExtractionStore} (sound : ReadsSound store) {labels : List ExtractionLabel}
    (punctual : extractionMachine.Permits (fun store label => inTime store label = true) store labels) :
    store.period + jobCommits store labels ≤ (extractionMachine.exec store labels).period := by
  induction labels generalizing store with
  | nil => exact Nat.le_refl _
  | cons label rest ih =>
    have later : (runExtractionLabel store label).period + jobCommits (runExtractionLabel store label) rest ≤
        (extractionMachine.exec store (label :: rest)).period :=
      ih (runExtractionLabel_readsSound sound label) punctual.2
    rw [jobCommits]
    by_cases commits : label.isJob = true ∧ (runExtractionLabel store label).row ≠ store.row
    · have ended := (inTime_endsPending sound commits.1 punctual.1 commits.2).counted
      rw [if_pos commits]
      omega
    · have grows := runExtractionLabel_period store label
      rw [if_neg commits]
      omega

/-- In a run in which every job that commits read the invoice in the `pending` period that is still
open, whatever a job changes it changes in that period and ends it; so a period is ended by at most one job. -/
theorem run_jobs_endPending {first : ExtractionStore} (begins : extractionMachine.init first)
    {labels : List ExtractionLabel}
    (punctual : extractionMachine.Permits (fun store label => inTime store label = true) first labels) :
    (∀ before label after, labels = before ++ label :: after → label.isJob = true →
      (extractionMachine.exec first (before ++ [label])).row ≠ (extractionMachine.exec first before).row →
      EndsPending (extractionMachine.exec first before) (extractionMachine.exec first (before ++ [label]))) ∧
    first.period + jobCommits first labels ≤ (extractionMachine.exec first labels).period := by
  have allowed := Machine.permits_iff.mp punctual
  have sound (before : List ExtractionLabel) : ReadsSound (extractionMachine.exec first before) :=
    reach_readsSound (Machine.reach_exec begins before)
  refine ⟨fun before label after split job changed => ?_, jobCommits_le_period (sound []) punctual⟩
  rw [Machine.exec_concat] at changed ⊢
  exact inTime_endsPending (sound before) job (allowed before label after split) changed

def unreadInvoice : InvoiceFields := ⟨"Acme", some 7, 0, "USD", none, none, none, none, []⟩

/-- An uploaded invoice before its first extraction. -/
def ExtractionStore.uploaded : ExtractionStore := ⟨⟨.new, none, unreadInvoice⟩, true, [], 0⟩

def readInvoice (amount : ℚ) : ExtractionResult := ⟨some "Acme", some amount, some "USD", none, none, none, []⟩

def queued : ExtractionOptions := ⟨false, false⟩

/-- A job whose provider fails, a second `/extract`, an edit of the reset invoice and its review. -/
def extractedTwice : List ExtractionLabel :=
  [.extract, .startJob queued, .jobFails 0, .commitFailure 0, .extract, .startJob queued,
    .updateInvoice [.costCenter (some "CC-1")], .jobSucceeds 0 (readInvoice 100) 7 false, .request .approved (some "Approver")]

theorem jobs_endPending_extractedTwice :
    0 + jobCommits .uploaded extractedTwice ≤ (extractionMachine.exec .uploaded extractedTwice).period := by
  have begins : extractionMachine.init .uploaded := rfl
  have punctual : extractionMachine.Permits (fun store label => inTime store label = true) .uploaded extractedTwice := by
    decide
  exact (run_jobs_endPending begins punctual).2

/-- A job outlives a reset. The job queued after it ends the new period and a human approves what it
read; then the first one commits. -/
def resetUnderway : List ExtractionLabel :=
  [.extract, .startJob queued, .resetExtraction, .extract, .startJob queued, .jobSucceeds 1 (readInvoice 100) 7 false,
    .request .approved (some "Approver")]

theorem late_job_rewrites_approved_invoice :
    ∃ labels label, label.isJob = true ∧ (extractionMachine.exec .uploaded labels).row.status = .approved ∧
      (extractionMachine.exec .uploaded (labels ++ [label])).row.status = .readyForReview ∧
      (extractionMachine.exec .uploaded labels).row.fields.amount = 100 ∧
      (extractionMachine.exec .uploaded (labels ++ [label])).row.fields.amount = 900 :=
  ⟨resetUnderway, .jobSucceeds 0 (readInvoice 900) 7 false, rfl, by decide, by decide, by decide,
    by decide⟩

end Payables
