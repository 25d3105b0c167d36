import Payables.Erp.PushRuns
import Payables.Workflow.Approvals

namespace Payables
open Lib

namespace InvoiceLabel

/-- The call of `approve_invoice` a label makes; a bulk approval has no corrections. -/
def approveRequest? : InvoiceLabel → Option ApproveRequest
  | approve request => some request
  | bulkApprove request => some { request with corrections := [] }
  | _ => none

def isExtraction : InvoiceLabel → Bool
  | extract => true
  | resetExtraction => true
  | extractionSucceeds .. => true
  | extractionFails _ => true
  | _ => false

/-- The steps that can take an invoice back to `pending`. -/
def reopens : InvoiceLabel → Bool
  | extract => true
  | bulkStatus target _ => target == .pending
  | _ => false

/-- An edit of what an approval signs off. -/
def editsContent : InvoiceLabel → Bool
  | updateInvoice edits _ => edits.any FieldEdit.isFinancial
  | saveInvoiceLineItems _ _ => true
  | _ => false

end InvoiceLabel

/-- What an approval call commits. -/
inductive Approval (tenant : Tenant) (request : ApproveRequest) (now : Time) (before : Invoice) : Invoice → Prop
  | idle {after} : after.status = before.status → after.fields = before.fields →
      (after.chain = before.chain ∨
        ∃ answer, Signed tenant request.actorId now (before.correct tenant request) answer after.chain) →
      Approval tenant request now before after
  | partly {after} : after.status = before.status → after.fields = (before.correct tenant request).fields →
      Signed tenant request.actorId now (before.correct tenant request) (.ok false) after.chain →
      Approval tenant request now before after
  | approved {after} : InvoiceStatus.approved ∈ before.status.validTransitions → after.status = .approved →
      after.fields = (before.correct tenant request).fields →
      after.applicable tenant = (before.correct tenant request).applicable tenant →
      Signed tenant request.actorId now (before.correct tenant request) (.ok true) after.chain →
      Approval tenant request now before after

/-- All that a step can do to the status, the content and the chain of an invoice. -/
inductive Effect (tenant : Tenant) (now : Time) (before : Invoice) (label : InvoiceLabel) : Invoice → Prop
  | stayed {after} : after.status = before.status → after.chain = before.chain →
      (after.fields.financials = before.fields.financials ∨
        label.editsContent = true ∧ before.status ∉ InvoiceStatus.financiallyLockedStatuses) →
      Effect tenant now before label after
  | moved {after} : after.status ∈ before.status.validTransitions → after.fields = before.fields →
      after.chain = before.chain → after.status ≠ .rejected → (after.status = .pending → label.reopens = true) →
      (after.status = .failed → label.isExtraction = true) →
      (after.status = .approved → label.isApproval = true ∨ before.status ∈ [.paymentScheduled, .paid]) →
      Effect tenant now before label after
  | rejected {after} : before.status = .readyForReview → after.status = .rejected → after.fields = before.fields →
      after.chain = none → Effect tenant now before label after
  | pushed {after} : before.status = .sendingToErp → after.status ∈ [InvoiceStatus.sendingToErp, .done, .failed] →
      after.fields = before.fields → after.chain = before.chain → Effect tenant now before label after
  | extracted {after} : label.isExtraction = true → label.isApproval = true → before.status = .pending →
      after.status ∈ [InvoiceStatus.readyForReview, .approved] → after.chain = before.chain →
      Effect tenant now before label after
  | signed {after request} : label.approveRequest? = some request → Approval tenant request now before after →
      Effect tenant now before label after

section
variable {tenant : Tenant} {now : Time} {before : Invoice}

theorem Effect.nothing {label : InvoiceLabel} : Effect tenant now before label before := .stayed rfl rfl (.inl rfl)

theorem Invoice.commit_transition (before attempted : Invoice) (target : InvoiceStatus) :
    before.commit (attempted.transition target) = before ∨
      target ∈ attempted.status.validTransitions ∧
        before.commit (attempted.transition target) = { attempted with status := target } := by
  unfold transition
  split
  · next valid => exact .inr ⟨InvoiceStatus.validateTransition_eq_ok.mp valid, rfl⟩
  · exact .inl rfl

/-- A committed transition of a row that was changed in nothing an effect speaks of. -/
theorem Effect.of_transition {label : InvoiceLabel} {attempted : Invoice} {target : InvoiceStatus}
    (status : attempted.status = before.status) (fields : attempted.fields = before.fields)
    (chain : attempted.chain = before.chain) (kept : target ≠ .rejected)
    (pending : target = .pending → label.reopens = true) (failed : target = .failed → label.isExtraction = true)
    (approved : target = .approved → label.isApproval = true ∨ before.status ∈ [.paymentScheduled, .paid]) :
    Effect tenant now before label (before.commit (attempted.transition target)) := by
  rcases before.commit_transition attempted target with same | ⟨valid, same⟩
  · rw [same]
    exact .nothing
  · rw [same]
    rw [status] at valid
    exact .moved valid fields chain kept pending failed approved

theorem Effect.of_move {label : InvoiceLabel} (sources : List InvoiceStatus) {target : InvoiceStatus}
    (kept : target ≠ .rejected) (pending : target = .pending → label.reopens = true) (failed : target = .failed → label.isExtraction = true)
    (approved : target = .approved → before.status ∈ sources →
      label.isApproval = true ∨ before.status ∈ [.paymentScheduled, .paid]) :
    Effect tenant now before label (before.move sources target) := by
  unfold Invoice.move
  by_cases source : before.status ∈ sources
  · rw [if_pos source]
    exact .of_transition rfl rfl rfl kept pending failed fun here => approved here source
  · rw [if_neg source]
    exact .nothing

/-- The chain is among the keys of `state_data` that a push leaves alone. -/
theorem chain_of_otherKeys {workflow after : Option WorkflowInstance}
    (kept : after.map WorkflowInstance.otherKeys = workflow.map WorkflowInstance.otherKeys) :
    chainStateOf (after.bind (·.stateData)) = chainStateOf (workflow.bind (·.stateData)) := by
  have read (instance' : Option WorkflowInstance) : chainStateOf (instance'.bind (·.stateData)) =
      (instance'.map WorkflowInstance.otherKeys).bind (·.1.approvalLevels) := by
    cases instance' with
    | none => rfl
    | some workflow =>
      simp only [chainStateOf, Option.bind_some, Option.map_some, WorkflowInstance.otherKeys, StateData.withoutPush]
      cases workflow.stateData <;> rfl
  rw [read, read, kept]

theorem Effect.of_pushAttempts {label : InvoiceLabel} (sending : before.status = .sendingToErp) (answers : Nat → ErpAnswer)
    (turns : Nat) (attempt : Int) : Effect tenant now before label
      (before.pushed (pushAttempts answers turns attempt ⟨before.status, before.workflow, []⟩)) := by
  obtain ⟨keys, status⟩ := pushAttempts_keeps answers turns attempt ⟨before.status, before.workflow, []⟩
  rw [sending] at status
  exact .pushed sending (by rw [sending]; exact status) rfl (chain_of_otherKeys keys)

theorem resetErpRetries_chain (stateData : Option StateData) :
    chainStateOf (resetErpRetries stateData).flush.stored = chainStateOf stateData := by
  by_cases empty : stateData.getD .empty = .empty
  · have none' : chainStateOf stateData = none := by
      cases stateData with
      | none => rfl
      | some data =>
        cases (empty : data = .empty)
        rfl
    simp only [resetErpRetries, empty, if_true, Column.flush_load_assign, none']
    rfl
  · simp only [resetErpRetries, empty, if_false, Column.flush_load_mutate]

theorem InvoiceStatus.rejected_mem_validTransitions {status : InvoiceStatus}
    (valid : InvoiceStatus.rejected ∈ status.validTransitions) : status = .readyForReview := by
  revert valid
  cases status <;> decide

theorem Invoice.reject_cases (before : Invoice) (actorName : String) :
    (∃ raised, before.reject actorName = (.error raised, { before with rejectedBy := some actorName })) ∨
    ∃ after, before.reject actorName = (.ok (), after) ∧ before.status = .readyForReview ∧ after.status = .rejected ∧
      after.fields = before.fields ∧ after.chain = none := by
  unfold reject transition
  cases valid : InvoiceStatus.validateTransition before.status .rejected with
  | error raised => exact .inl ⟨raised, rfl⟩
  | ok =>
    have edge := InvoiceStatus.rejected_mem_validTransitions (InvoiceStatus.validateTransition_eq_ok.mp valid)
    refine .inr ⟨_, rfl, edge, rfl, rfl, ?_⟩
    unfold chain
    cases before.workflow with
    | none => rfl
    | some workflow => simp only [Option.map_some, Option.bind_some, WorkflowInstance.assignStateData_stateData]; rfl

theorem Approval.of_commit {request : ApproveRequest} :
    Approval tenant request now before (before.commit (before.approve tenant request now)) := by
  have outcome := before.approve_outcome tenant request now
  generalize before.approve tenant request now = result at outcome
  cases outcome with
  | refused => exact .idle rfl rfl (.inl rfl)
  | partly status fields chain => exact .partly status fields chain
  | approved valid status fields applicable chain => exact .approved valid status fields applicable chain

theorem Approval.of_commitBatch {request : ApproveRequest} (none' : request.corrections = []) :
    Approval tenant request now before (before.commitBatch (before.approve tenant request now)) := by
  have outcome := before.approve_outcome tenant request now
  generalize before.approve tenant request now = result at outcome
  cases outcome with
  | @refused raised after status fields chain =>
    cases raised with
    | uncaught => exact .idle rfl rfl (.inl rfl)
    | http =>
      rw [before.correct_of_nil tenant request none', or_self] at fields
      exact .idle status fields chain
  | partly status fields chain => exact .partly status fields chain
  | approved valid status fields applicable chain => exact .approved valid status fields applicable chain

theorem runInvoiceLabel_approval {label : InvoiceLabel} {request : ApproveRequest}
    (call : label.approveRequest? = some request) :
    Approval tenant request now before (runInvoiceLabel tenant now before label) := by
  cases label with
  | approve =>
    cases call
    exact .of_commit
  | bulkApprove =>
    cases call
    simp only [runInvoiceLabel]
    split
    · exact .idle rfl rfl (.inl rfl)
    · exact .of_commitBatch rfl
  | _ => cases call

theorem Effect.of_save {label : InvoiceLabel} {edited : Except Raised InvoiceFields} {rates : FxRates}
    (legal : ∀ fields, edited = .ok fields → fields.financials = before.fields.financials ∨
      label.editsContent = true ∧ before.status ∉ InvoiceStatus.financiallyLockedStatuses) :
    Effect tenant now before label (before.save tenant rates edited) := by
  unfold Invoice.save
  split
  · exact .stayed rfl rfl (legal _ rfl)
  · exact .nothing

/-- Every step has one of the effects. -/
theorem runInvoiceLabel_effect (tenant : Tenant) (now : Time) (before : Invoice) (label : InvoiceLabel) :
    Effect tenant now before label (runInvoiceLabel tenant now before label) := by
  cases label with
  | approve request => exact .signed rfl (runInvoiceLabel_approval rfl)
  | bulkApprove request => exact .signed rfl (runInvoiceLabel_approval rfl)
  | reject actorName =>
    simp only [runInvoiceLabel]
    rcases before.reject_cases actorName with ⟨raised, same⟩ | ⟨after, same, status, rejected, fields, chain⟩
    · rw [same]
      exact .nothing
    · rw [same]
      exact .rejected status rejected fields chain
  | bulkReject actorName =>
    simp only [runInvoiceLabel]
    split
    · exact .nothing
    rcases before.reject_cases actorName with ⟨raised, same⟩ | ⟨after, same, status, rejected, fields, chain⟩
    · rw [same]
      cases raised with
      | http => exact .stayed rfl rfl (.inl rfl)
      | uncaught => exact .nothing
    · rw [same]
      exact .rejected status rejected fields chain
  | resubmit => exact .of_transition rfl rfl rfl nofun nofun nofun nofun
  | bulkStatus target rates =>
    simp only [runInvoiceLabel, Invoice.bulkStatus]
    split
    · exact .nothing
    split
    · next listed =>
      split
      · next moved result =>
        unfold Invoice.transition at result
        split at result
        · next valid =>
          cases result
          have edge := InvoiceStatus.validateTransition_eq_ok.mp valid
          refine .moved edge rfl rfl (fun rejected => ?_) (fun pending => beq_iff_eq.mpr pending) (fun failed => ?_)
            (fun approved => ?_)
          · rw [show target = .rejected from rejected] at listed
            exact absurd listed (by decide)
          · rw [show target = .failed from failed] at listed
            exact absurd listed (by decide)
          · rw [show target = .approved from approved] at listed
            exact absurd listed (by decide)
        · cases result
      · exact .nothing
    · exact .nothing
  | updateInvoice edits rates =>
    refine .of_save fun fields saved => ?_
    by_cases plain : edits.any FieldEdit.isFinancial = true
    · by_cases locked : before.status ∈ InvoiceStatus.financiallyLockedStatuses
      · exact .inl (updateInvoice_financials saved locked)
      · exact .inr ⟨plain, locked⟩
    · exact .inl (updateInvoice_financials_of_plain saved (Bool.eq_false_iff.mpr plain))
  | saveInvoiceLineItems body rates =>
    exact .of_save fun fields saved => .inr ⟨rfl, saveInvoiceLineItems_ok saved⟩
  | extract =>
    simp only [runInvoiceLabel]
    split
    · exact .of_move _ nofun (fun _ => rfl) nofun nofun
    · exact .nothing
  | resetExtraction => exact .of_move _ nofun nofun (fun _ => rfl) nofun
  | extractionSucceeds result options matchedVendor autoApproved rates =>
    simp only [runInvoiceLabel, Invoice.extractionSucceeds]
    split
    · next pending =>
      rcases before.commit_transition _ (extractionTarget options autoApproved) with same | ⟨valid, same⟩
      · rw [same]
        exact .nothing
      · rw [same]
        refine .extracted rfl rfl pending ?_ rfl
        show extractionTarget options autoApproved ∈ _
        unfold extractionTarget
        split <;> decide
    · exact .nothing
  | extractionFails error =>
    simp only [runInvoiceLabel, Invoice.extractionFails]
    split
    · refine .of_transition rfl rfl ?_ nofun nofun (fun _ => rfl) nofun
      unfold Invoice.chain
      cases before.workflow with
      | none => rfl
      | some workflow =>
        simp only [Option.map_some, Option.bind_some, WorkflowInstance.assignStateData_stateData]
        cases workflow.stateData <;> rfl
    · exact .nothing
  | complete approvalEnabled erpEnabled autoApproves rates =>
    simp only [runInvoiceLabel, Invoice.complete]
    split
    · exact .nothing
    split
    · split
      · exact .of_transition rfl rfl rfl nofun nofun nofun (fun _ => .inl rfl)
      · exact .of_transition rfl rfl rfl nofun nofun nofun nofun
    split
    · exact .of_transition rfl rfl rfl nofun nofun nofun nofun
    · exact .of_transition rfl rfl rfl nofun nofun nofun nofun
  | sendToErp => exact .of_transition rfl rfl rfl nofun nofun nofun nofun
  | retryErp =>
    simp only [runInvoiceLabel]
    cases result : retryErp before.status before.approvedBy before.workflow with
    | error => exact .nothing
    | ok written =>
      unfold retryErp at result
      split at result
      · cases result
      split at result
      · cases result
      · next valid =>
        cases result
        refine .moved (InvoiceStatus.validateTransition_eq_ok.mp valid) rfl ?_ nofun nofun nofun nofun
        unfold Invoice.chain
        cases before.workflow with
        | none => rfl
        | some workflow => exact resetErpRetries_chain workflow.stateData
  | push answers =>
    simp only [runInvoiceLabel]
    split
    · next sending => exact .of_pushAttempts sending answers _ _
    · exact .nothing
  | cutPush answers turns =>
    simp only [runInvoiceLabel]
    split
    · next sending => exact .of_pushAttempts sending answers _ _
    · exact .nothing
  | erpPosted => exact .of_move _ nofun nofun nofun nofun
  | bookPayment => exact .nothing
  | schedulePayment => exact .of_move _ nofun nofun nofun nofun
  | settlePayment => exact .of_move _ nofun nofun nofun nofun
  | voidPayment => exact .of_move _ nofun nofun nofun fun _ source => .inr source

end

/-- The chain of the invoice, if there is one, represents a ballot. -/
def Invoice.ChainSound (invoice : Invoice) : Prop := ∀ chain, invoice.chain = some chain → ∃ b, chain.Represents b

section
variable {tenant : Tenant} {now : Time} {invoice : Invoice}

theorem StartsFrom.represents {base : Option ChainState} (starts : StartsFrom tenant now invoice base)
    (sound : invoice.ChainSound) {chain : ChainState} (here : base = some chain) : ∃ b, chain.Represents b := by
  cases starts with
  | stored chain' => exact sound _ (chain'.trans here)
  | laidOut =>
    cases here
    exact ⟨_, ChainState.represents_init now _⟩
  | unrouted => cases here

theorem Signed.represents {actor : UserId} {answer : Except Raised Bool} {after : Option ChainState}
    (signed : Signed tenant actor now invoice answer after) (sound : invoice.ChainSound) {chain : ChainState}
    (here : after = some chain) : ∃ b, chain.Represents b := by
  cases signed with
  | exempt => exact sound chain here
  | unresolved => exact sound chain here
  | refused starts => exact starts.represents sound here
  | exhausted starts => exact starts.represents sound here
  | advanced _ starts advanced =>
    obtain ⟨b, rep⟩ := starts.represents sound rfl
    cases here
    exact advanced.represents rep

theorem Approval.chainSound {request : ApproveRequest} {after : Invoice} (approval : Approval tenant request now invoice after)
    (sound : invoice.ChainSound) : after.ChainSound := by
  have corrected : (invoice.correct tenant request).ChainSound := by
    unfold Invoice.ChainSound
    rw [Invoice.correct_chain]
    exact sound
  intro chain here
  cases approval with
  | idle _ _ kept =>
    rcases kept with same | ⟨answer, signed⟩
    · exact sound chain (same.symm.trans here)
    · exact signed.represents corrected here
  | partly _ _ signed => exact signed.represents corrected here
  | approved _ _ _ _ signed => exact signed.represents corrected here

theorem Effect.chainSound {label : InvoiceLabel} {after : Invoice} (effect : Effect tenant now invoice label after)
    (sound : invoice.ChainSound) : after.ChainSound := by
  have kept (same : after.chain = invoice.chain) : after.ChainSound := fun chain here => sound chain (same.symm.trans here)
  cases effect with
  | stayed _ chain _ => exact kept chain
  | moved _ _ chain _ _ _ _ => exact kept chain
  | rejected _ _ _ none' =>
    intro chain here
    rw [none'] at here
    cases here
  | pushed _ _ _ chain => exact kept chain
  | extracted _ _ _ _ chain => exact kept chain
  | signed _ approval => exact approval.chainSound sound

end

theorem reach_chainSound {tenant : Tenant} {allowed : InvoiceHistory → InvoiceLabel → Prop} {history : InvoiceHistory}
    (reach : (invoiceMachine tenant).Reach allowed history) : history.invoice.ChainSound := by
  have start : ∀ first, (invoiceMachine tenant).init first → first.invoice.ChainSound := by
    intro first begins chain here
    rw [begins.2.1] at here
    cases here
  have step : ∀ before label, before.invoice.ChainSound → allowed before label →
      ((invoiceMachine tenant).step before label).invoice.ChainSound :=
    fun before label sound _ => (runInvoiceLabel_effect tenant before.clock before.invoice label).chainSound sound
  exact reach.invariant start step

theorem ChainState.Represents.satisfied {chain : ChainState} {b : Ballot UserId} (rep : chain.Represents b)
    (complete : chain.levels.length ≤ chain.currentLevel) {level : LevelState} (member : level ∈ chain.levels) :
    levelSatisfied level = true := by
  obtain ⟨i, bound, here⟩ := List.mem_iff_getElem.mp member
  have behind : i < chain.currentLevel := Nat.lt_of_lt_of_le bound complete
  exact rep.safe.passedSatisfied i level behind (by rw [List.getElem?_eq_getElem bound, here])

/-- Every level of a chain on which an approval found or left nothing to sign is satisfied. -/
theorem Signed.satisfied {tenant : Tenant} {actor : UserId} {now : Time} {invoice : Invoice} {after : Option ChainState}
    (signed : Signed tenant actor now invoice (.ok true) after) (sound : invoice.ChainSound)
    (chained : (invoice.approvalConfig tenant).approverStrategy = some .chain) {chain : ChainState}
    (here : after = some chain) {level : LevelState} (member : level ∈ chain.levels) : levelSatisfied level = true := by
  obtain ⟨b, rep⟩ := signed.represents sound here
  cases signed with
  | exempt free =>
    have none' := free.resolve_left (not_not_intro chained)
    rw [Invoice.chain, none'] at here
    cases here
  | exhausted _ past => exact rep.satisfied (past chain here) member
  | advanced _ _ advanced =>
    cases here
    exact rep.satisfied advanced.complete member

end Payables
