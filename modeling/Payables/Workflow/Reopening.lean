import Payables.Extraction.JobRuns
import Payables.Workflow.ApprovedContent

namespace Payables
open Lib

/-- Set aside for payment, or paid. -/
def InvoiceStatus.settledStatuses : List InvoiceStatus := [paymentScheduled, paid]

/-- An invoice with the extraction jobs at work on it, each with the row it has loaded. -/
structure WorkedInvoice where
  invoice : Invoice
  clock : Time
  jobs : List ExtractionJob
  deriving DecidableEq

/-- A section of a job, as against a request. -/
def ExtractionLabel.ofJob : ExtractionLabel → Bool
  | startJob _ => true
  | label => label.isJob

/-- A request on the invoice or a step of a push, or a section of an extraction job. -/
inductive WorkLabel
  | request (label : InvoiceLabel)
  | job (label : ExtractionLabel) (ofJob : label.ofJob = true) (rates : FxRates)

namespace WorkLabel

def isVoid : WorkLabel → Bool
  | request .voidPayment => true
  | _ => false

end WorkLabel

/-- The invoice as a job finds it. -/
def Invoice.extractedRow (invoice : Invoice) : ExtractedRow := ⟨invoice.status, invoice.approvedBy, invoice.fields⟩

/-- The invoice with the row a job leaves, its warnings refreshed when the job rewrote its fields. -/
def Invoice.withExtracted (invoice : Invoice) (tenant : Tenant) (rates : FxRates) (row : ExtractedRow) : Invoice :=
  { (if row.fields = invoice.fields then invoice else invoice.edit tenant rates row.fields) with
    status := row.status, approvedBy := row.approvedBy }

namespace WorkedInvoice

def extractionStore (worked : WorkedInvoice) : ExtractionStore :=
  ⟨worked.invoice.extractedRow, worked.invoice.hasFile, worked.jobs, 0⟩

def runJob (worked : WorkedInvoice) (tenant : Tenant) (label : ExtractionLabel) (rates : FxRates) : WorkedInvoice :=
  let store := runExtractionLabel worked.extractionStore label
  ⟨worked.invoice.withExtracted tenant rates store.row, worked.clock + 1, store.jobs⟩

end WorkedInvoice

def runWorkLabel (tenant : Tenant) (worked : WorkedInvoice) : WorkLabel → WorkedInvoice
  | .request label =>
    ⟨runInvoiceLabel tenant worked.clock worked.invoice label, worked.clock + 1, worked.jobs⟩
  | .job label _ rates => worked.runJob tenant label rates

/-- One invoice, from its creation on, under any interleaving of requests, pushes and extraction jobs. -/
def workMachine (tenant : Tenant) : Machine WorkedInvoice WorkLabel where
  init worked :=
    worked.invoice.status ∈ [InvoiceStatus.new, .pending, .readyForReview] ∧ worked.invoice.chain = none ∧ worked.jobs = []
  step := runWorkLabel tenant

/-- A settled invoice goes back to `approved`. -/
def Invoice.Reopens (before after : Invoice) : Prop :=
  before.status ∈ InvoiceStatus.settledStatuses ∧ after.status = .approved

/-- With an approval by `actor` the chain has nothing left to sign. -/
def ChainState.completedBy (chain : ChainState) (actor : UserId) (now : Time) : Bool :=
  match chain.levels[chain.currentLevel]? with
  | none => true
  | some level =>
    !approvedElsewhere chain.levels chain.currentLevel actor && levelSatisfied (level.record actor now) &&
      decide (chain.levels.length ≤ chain.currentLevel + 1)

namespace Invoice

/-- The chain part of an approval lets the actor through, and is complete with that approval. -/
def lastSignature (invoice : Invoice) (tenant : Tenant) (request : ApproveRequest) (now : Time) : Bool :=
  match (invoice.approvalConfig tenant).approverStrategy, invoice.workflow with
  | some .chain, some workflow =>
    match invoice.startChain tenant now workflow.stateData with
    | .error _ => false
    | .ok started =>
      (checkCurrentLevel request started).toBool && (chainStateOf started).all (·.completedBy request.actorId now)
  | _, _ => true

/-- Every gate of an approval lets the request through and nothing is left to sign after it. -/
def clearedBy (invoice : Invoice) (tenant : Tenant) (request : ApproveRequest) (now : Time) : Bool :=
  let config := invoice.approvalConfig tenant
  let corrected := invoice.correct tenant request
  (checkSegregation invoice.uploadedById invoice.segregationActorIds request.actorId config).toBool &&
    (checkNamedApprover request config).toBool &&
    (enforceApprovalThresholds tenant.settings request corrected.fields corrected.lock config).toBool &&
    corrected.lastSignature tenant request now

end Invoice

/-- The job is about to commit an automatic approval that the status it loaded allows. -/
def ExtractionJob.approves (job : ExtractionJob) (autoApproved : Bool) : Bool :=
  match job.phase with
  | .loaded row => extractionTarget job.options autoApproved = .approved && InvoiceStatus.approved ∈ row.status.validTransitions
  | _ => false

/-- The step would take a settled invoice to `approved` otherwise than by a void: an approval that every
gate lets through with nothing left to sign, or a job with an automatic approval to commit. -/
def WorkedInvoice.approves (worked : WorkedInvoice) (tenant : Tenant) : WorkLabel → Bool
  | .request (.approve request) => worked.invoice.clearedBy tenant request worked.clock
  | .job (.jobSucceeds index _ _ autoApproved) _ _ => (worked.jobs[index]?).any (·.approves autoApproved)
  | _ => false

/-- A step that does not approve a settled invoice. -/
def keepsSettled (tenant : Tenant) (worked : WorkedInvoice) (label : WorkLabel) : Prop :=
  worked.invoice.status ∈ InvoiceStatus.settledStatuses → worked.approves tenant label = false

instance (tenant : Tenant) (worked : WorkedInvoice) (label : WorkLabel) : Decidable (keepsSettled tenant worked label) :=
  inferInstanceAs (Decidable (_ → _))

theorem InvoiceStatus.settled_cases {status : InvoiceStatus} (settled : status ∈ settledStatuses) :
    status = .paymentScheduled ∨ status = .paid := by simpa [settledStatuses] using settled

theorem InvoiceStatus.immutable_of_settled {status : InvoiceStatus} (settled : status ∈ settledStatuses) :
    status ∈ immutableStatuses := by
  rcases settled_cases settled with rfl | rfl <;> decide

theorem InvoiceStatus.approved_of_settled {status : InvoiceStatus} (settled : status ∈ settledStatuses) :
    approved ∈ status.validTransitions := by
  rcases settled_cases settled with rfl | rfl <;> decide

theorem InvoiceStatus.not_approved_of_settled {status : InvoiceStatus} (settled : status ∈ settledStatuses) :
    status ≠ approved := by
  rcases settled_cases settled with rfl | rfl <;> decide

section
variable {tenant : Tenant} {request : ApproveRequest} {now : Time}

theorem advanceApprovalChain_complete_iff {stateData : Option StateData} {actor : UserId} :
    (advanceApprovalChain now stateData actor).1 = .ok true ↔ (chainStateOf stateData).all (·.completedBy actor now) := by
  unfold advanceApprovalChain
  cases chainStateOf stateData with
  | none => simp
  | some chain =>
    simp only [Option.all_some, ChainState.completedBy]
    cases atCurrent : chain.levels[chain.currentLevel]? with
    | none => simp
    | some level =>
      cases elsewhere : approvedElsewhere chain.levels chain.currentLevel actor with
      | true => simp
      | false =>
        cases satisfied : levelSatisfied (level.record actor now) with
        | false => simp [satisfied]
        | true =>
          by_cases last : chain.levels.length ≤ chain.currentLevel + 1
          · have past : (chain.levels.set chain.currentLevel (level.record actor now))[chain.currentLevel + 1]? = none := by
              simpa using last
            simp [satisfied, last]
          · obtain ⟨next, atNext⟩ : ∃ next, (chain.levels.set chain.currentLevel
                (level.record actor now))[chain.currentLevel + 1]? = some next :=
              ⟨_, List.getElem?_eq_getElem (by simpa using last)⟩
            simp [satisfied, atNext, last]

theorem toBool_eq_true {checked : Except Raised Unit} : checked.toBool = true ↔ checked = .ok () := by
  cases checked <;> simp [Except.toBool]

theorem Invoice.signChain_complete_iff {invoice : Invoice} :
    (invoice.signChain tenant request now).1 = .ok true ↔ invoice.lastSignature tenant request now = true := by
  unfold signChain lastSignature
  split
  · next workflow chained here =>
    simp only [chained, here]
    cases invoice.startChain tenant now workflow.stateData with
    | error => simp
    | ok started =>
      cases checked : checkCurrentLevel request started with
      | error => simp [checked, Except.toBool]
      | ok =>
        simp only [checked, Except.toBool, Bool.true_and]
        exact advanceApprovalChain_complete_iff
  · simp

/-- An approval of a settled invoice passes exactly when its gates and its chain let it. -/
theorem Invoice.approve_reopens_iff {invoice : Invoice} (settled : invoice.status ∈ InvoiceStatus.settledStatuses) :
    (invoice.commit (invoice.approve tenant request now)).status = .approved ↔
      invoice.clearedBy tenant request now = true := by
  have other := InvoiceStatus.not_approved_of_settled settled
  unfold approve clearedBy
  simp only [Bool.and_eq_true, toBool_eq_true]
  cases segregated : checkSegregation invoice.uploadedById invoice.segregationActorIds request.actorId
    (invoice.approvalConfig tenant) with
  | error => simp [commit, other]
  | ok =>
    cases named : checkNamedApprover request (invoice.approvalConfig tenant) with
    | error => simp [commit, other]
    | ok =>
      cases bounded : enforceApprovalThresholds tenant.settings request (invoice.correct tenant request).fields
        (invoice.correct tenant request).lock (invoice.approvalConfig tenant) with
      | error => simp [commit, other]
      | ok =>
        rw [← signChain_complete_iff]
        obtain ⟨_, stateData, kept⟩ := (invoice.correct tenant request).signChain_signed tenant request now
        generalize (invoice.correct tenant request).signChain tenant request now = signed at kept
        obtain ⟨answer, after⟩ := signed
        have status : after.status = invoice.status := by
          rw [show after = _ from kept, withStateData_status, correct_status]
        have edge : InvoiceStatus.validateTransition after.status .approved = .ok () := by
          rw [status]
          exact InvoiceStatus.validateTransition_eq_ok.mpr (InvoiceStatus.approved_of_settled settled)
        cases answer with
        | error => simp [commit, other]
        | ok complete =>
          cases complete with
          | false => simp [commit, status, other]
          | true => simp [commit, transition, edge]

/-- Nothing but an approval or a void takes a settled invoice to `approved`. -/
theorem runInvoiceLabel_keeps_settled {invoice : Invoice} (settled : invoice.status ∈ InvoiceStatus.settledStatuses)
    {label : InvoiceLabel} (human : ∀ request, label ≠ .approve request) (unvoided : label ≠ .voidPayment) :
    (runInvoiceLabel tenant now invoice label).status ≠ .approved := by
  have other := InvoiceStatus.not_approved_of_settled settled
  have immutable := InvoiceStatus.immutable_of_settled settled
  have moved {attempted : Invoice} {target : InvoiceStatus} (elsewhere : target ≠ .approved) :
      (invoice.commit (attempted.transition target)).status ≠ .approved := by
    rcases invoice.commit_transition attempted target with same | ⟨_, same⟩
    · rwa [same]
    · rwa [same]
  have moves {sources : List InvoiceStatus} {target : InvoiceStatus} (elsewhere : target ≠ .approved) :
      (invoice.move sources target).status ≠ .approved := by
    unfold Invoice.move
    split
    · exact moved elsewhere
    · exact other
  have saved {rates : FxRates} {edited : Except Raised InvoiceFields} :
      (invoice.save tenant rates edited).status ≠ .approved := by
    unfold Invoice.save
    split <;> exact other
  cases label with
  | approve request => exact absurd rfl (human request)
  | bulkApprove request => simpa only [runInvoiceLabel, if_pos immutable] using other
  | reject actorName =>
    simp only [runInvoiceLabel]
    rcases invoice.reject_cases actorName with ⟨raised, same⟩ | ⟨after, same, review, _⟩
    · rwa [same]
    · rw [review] at settled
      exact absurd settled (by decide)
  | bulkReject actorName => simpa only [runInvoiceLabel, if_pos immutable] using other
  | resubmit => exact moved (by decide)
  | bulkStatus target rates => simpa only [runInvoiceLabel, Invoice.bulkStatus, if_pos immutable] using other
  | updateInvoice edits rates => exact saved
  | saveInvoiceLineItems body rates => exact saved
  | extract =>
    simp only [runInvoiceLabel]
    split
    · exact moves (by decide)
    · exact other
  | resetExtraction => exact moves (by decide)
  | extractionSucceeds result options matchedVendor autoApproved rates =>
    have away : invoice.status ≠ .pending := by
      rcases InvoiceStatus.settled_cases settled with same | same <;> rw [same] <;> decide
    simpa only [runInvoiceLabel, Invoice.extractionSucceeds, if_neg away] using other
  | extractionFails error =>
    simp only [runInvoiceLabel, Invoice.extractionFails]
    split
    · exact moved (by decide)
    · exact other
  | complete approvalEnabled erpEnabled autoApproves rates =>
    have away : ¬(invoice.status = .new ∧ approvalEnabled = true) := by
      rintro ⟨same, _⟩
      rw [same] at settled
      exact absurd settled (by decide)
    simp only [runInvoiceLabel, Invoice.complete, if_neg away]
    split
    · exact other
    split
    · exact moved (by decide)
    · exact moved (by decide)
  | sendToErp => exact moved (by decide)
  | retryErp =>
    simp only [runInvoiceLabel]
    cases result : retryErp invoice.status invoice.approvedBy invoice.workflow with
    | error => exact other
    | ok written =>
      unfold retryErp at result
      split at result
      · cases result
      split at result
      · cases result
      · cases result
        rintro ⟨⟩
  | push answers =>
    have away : invoice.status ≠ .sendingToErp := by
      rcases InvoiceStatus.settled_cases settled with same | same <;> rw [same] <;> decide
    simpa only [runInvoiceLabel, if_neg away] using other
  | cutPush answers turns =>
    have away : invoice.status ≠ .sendingToErp := by
      rcases InvoiceStatus.settled_cases settled with same | same <;> rw [same] <;> decide
    simpa only [runInvoiceLabel, if_neg away] using other
  | erpPosted => exact moves (by decide)
  | bookPayment => exact other
  | schedulePayment => exact moves (by decide)
  | settlePayment => exact moves (by decide)
  | voidPayment => exact absurd rfl unvoided

/-- The status a successful job commits is the one it means to, not the one it loaded. -/
theorem ExtractedRow.overwrite_status {loaded written current : ExtractedRow} {lineItems : List LineItem}
    (valid : written.status ∈ loaded.status.validTransitions) :
    (loaded.overwrite written lineItems current).status = written.status := by
  have changed : written.status ≠ loaded.status := by
    rintro same
    rw [same] at valid
    revert valid
    cases loaded.status <;> decide
  exact if_neg changed

theorem finishExtraction_approves_iff {store : ExtractionStore} (elsewhere : store.row.status ≠ .approved) {index : Nat}
    {job : ExtractionJob} {loaded : ExtractedRow} (phase : job.phase = .loaded loaded) {result : ExtractionResult}
    {matchedVendor : VendorId} {autoApproved : Bool} :
    (finishExtraction store index job loaded result matchedVendor autoApproved).row.status = .approved ↔
      job.approves autoApproved = true := by
  have target : (extractedRow loaded result job.options matchedVendor autoApproved).status =
      extractionTarget job.options autoApproved := rfl
  simp only [ExtractionJob.approves, phase, Bool.and_eq_true, decide_eq_true_eq]
  unfold finishExtraction
  simp only
  split
  · next valid =>
    have edge := InvoiceStatus.validateTransition_eq_ok.mp valid
    rw [ExtractionStore.dropJob_row, ExtractionStore.write_row, ExtractedRow.overwrite_status edge, target]
    rw [target] at edge
    exact ⟨fun approved => ⟨approved, approved ▸ edge⟩, fun approves => approves.1⟩
  · next refused =>
    rw [ExtractionStore.readAgain_row]
    refine ⟨fun approved => absurd approved elsewhere, fun ⟨approved, edge⟩ => ?_⟩
    rw [target, approved, InvoiceStatus.validateTransition_eq_ok.mpr edge] at refused
    cases refused

theorem jobSucceeds_approves_iff {store : ExtractionStore} (elsewhere : store.row.status ≠ .approved) {index : Nat}
    {result : ExtractionResult} {matchedVendor : VendorId} {autoApproved : Bool} :
    (runExtractionLabel store (.jobSucceeds index result matchedVendor autoApproved)).row.status = .approved ↔
      (store.jobs[index]?).any (·.approves autoApproved) = true := by
  simp only [runExtractionLabel]
  cases atIndex : store.jobs[index]? with
  | none => simp [elsewhere]
  | some job =>
    obtain ⟨options, phase, period⟩ := job
    rw [Option.any_some]
    cases phase with
    | loaded row => exact finishExtraction_approves_iff elsewhere rfl
    | failing read => simp [ExtractionJob.approves, elsewhere]
    | fallback read => simp [ExtractionJob.approves, elsewhere]

/-- A section of a job that does not succeed takes no invoice to `approved`. -/
theorem runExtractionLabel_not_approved {store : ExtractionStore} (elsewhere : store.row.status ≠ .approved)
    {label : ExtractionLabel} (ofJob : label.ofJob = true)
    (fails : ∀ index result matchedVendor autoApproved, label ≠ .jobSucceeds index result matchedVendor autoApproved) :
    (runExtractionLabel store label).row.status ≠ .approved := by
  cases label with
  | jobSucceeds index result matchedVendor autoApproved => exact absurd rfl (fails _ _ _ _)
  | startJob options => exact elsewhere
  | jobFails index =>
    simp only [runExtractionLabel]
    split <;> exact elsewhere
  | commitFailure index =>
    simp only [runExtractionLabel]
    split
    · split
      · rintro ⟨⟩
      · exact elsewhere
    · exact elsewhere
  | commitFallback index =>
    simp only [runExtractionLabel]
    split
    · split
      · rintro ⟨⟩
      · exact elsewhere
    · exact elsewhere
  | crash index => exact elsewhere
  | _ => cases ofJob

theorem Invoice.void_settled (tenant : Tenant) (now : Time) {invoice : Invoice} (settled : invoice.status ∈ InvoiceStatus.settledStatuses) :
    (runInvoiceLabel tenant now invoice .voidPayment).status = .approved := by
  have edge := InvoiceStatus.validateTransition_eq_ok.mpr (InvoiceStatus.approved_of_settled settled)
  have listed : invoice.status ∈ [InvoiceStatus.paymentScheduled, .paid] := settled
  simp only [runInvoiceLabel, move, if_pos listed, transition, edge, commit]

/-- What takes a settled invoice to `approved`. -/
theorem runWorkLabel_approved_iff {worked : WorkedInvoice} (settled : worked.invoice.status ∈ InvoiceStatus.settledStatuses)
    (label : WorkLabel) : (runWorkLabel tenant worked label).invoice.status = .approved ↔
      label.isVoid = true ∨ worked.approves tenant label = true := by
  have elsewhere : worked.extractionStore.row.status ≠ .approved := InvoiceStatus.not_approved_of_settled settled
  have neither {voids approves : Bool} (unvoided : voids = false) (unapproved : approves = false) :
      ¬(voids = true ∨ approves = true) := by simp [unvoided, unapproved]
  cases label with
  | request label =>
    cases label with
    | approve request => exact (Invoice.approve_reopens_iff settled).trans (or_iff_right Bool.false_ne_true).symm
    | voidPayment => exact iff_of_true (Invoice.void_settled tenant worked.clock settled) (.inl rfl)
    | _ => exact iff_of_false (runInvoiceLabel_keeps_settled settled (by rintro _ ⟨⟩) (by rintro ⟨⟩)) (neither rfl rfl)
  | job label ofJob rates =>
    cases label with
    | jobSucceeds index result matchedVendor autoApproved =>
      exact (jobSucceeds_approves_iff elsewhere).trans (or_iff_right Bool.false_ne_true).symm
    | _ => exact iff_of_false (runExtractionLabel_not_approved elsewhere ofJob (by rintro _ _ _ _ ⟨⟩)) (neither rfl rfl)

/-- One step reopens a settled invoice by nothing but a void exactly when it does not approve one. -/
theorem runWorkLabel_reopens_iff (tenant : Tenant) (worked : WorkedInvoice) (label : WorkLabel) :
    (worked.invoice.Reopens (runWorkLabel tenant worked label).invoice → label.isVoid = true) ↔
      keepsSettled tenant worked label := by
  unfold Invoice.Reopens keepsSettled
  by_cases settled : worked.invoice.status ∈ InvoiceStatus.settledStatuses
  · have unvoided : label.isVoid = true → worked.approves tenant label = false := by
      cases label with
      | request label => cases label <;> first | exact fun _ => rfl | rintro ⟨⟩
      | job => rintro ⟨⟩
    simp only [settled, true_and, forall_const, runWorkLabel_approved_iff settled label]
    constructor
    · intro byVoid
      by_contra approves
      have approves := Bool.eq_true_of_not_eq_false approves
      rw [unvoided (byVoid (.inr approves))] at approves
      cases approves
    · rintro unapproved (voids | approves)
      · exact voids
      · rw [unapproved] at approves
        cases approves
  · simp only [settled, false_and, false_implies]

/-- In a run a settled invoice goes back to `approved` by voids alone exactly when no step of the run
approves a settled invoice. -/
theorem run_reopens_by_void_iff (tenant : Tenant) (first : WorkedInvoice) (labels : List WorkLabel) :
    (∀ before label after, labels = before ++ label :: after →
      ((workMachine tenant).exec first before).invoice.Reopens ((workMachine tenant).exec first (before ++ [label])).invoice →
      label.isVoid = true) ↔ (workMachine tenant).Permits (keepsSettled tenant) first labels := by
  rw [Machine.permits_iff]
  refine forall_congr' fun before => forall_congr' fun label => forall_congr' fun after => forall_congr' fun _ => ?_
  rw [Machine.exec_concat]
  exact runWorkLabel_reopens_iff tenant _ label

end

def WorkedInvoice.underReview : WorkedInvoice := ⟨(Payables.underReview none).invoice, 0, []⟩

/-- An invoice is approved, set aside for payment and paid. -/
def approvedAndPaid : List WorkLabel :=
  [.request (.approve (approvalBy "approver" [])), .request .schedulePayment, .request .settlePayment]

/-- A second approval of the paid invoice. -/
theorem paid_invoice_approved_again :
    ∃ labels request, (workMachine plainTenant).init .underReview ∧
      ((workMachine plainTenant).exec .underReview labels).invoice.status = .paid ∧
      ((workMachine plainTenant).exec .underReview (labels ++ [.request (.approve request)])).invoice.status = .approved :=
  ⟨approvedAndPaid, approvalBy "second approver" [], ⟨by decide, by decide, rfl⟩, by decide, by decide⟩

end Payables
