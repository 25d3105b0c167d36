import Payables.Workflow.Effects

namespace Payables
open Lib

/-- Where an approved invoice can be until it is reviewed again or done: on its way to the ERP or to the
payment, or `failed` on the first. -/
def InvoiceStatus.sealedStatuses : List InvoiceStatus :=
  [.approved, .sendingToErp, .sentToErp, .postedInErp, .paymentScheduled, .paid, .failed]

/-- A step that gives the invoice to an ERP adapter, or books a payment for it. -/
def handsOver (history : InvoiceHistory) : InvoiceLabel → Bool
  | .push answers => history.invoice.status == .sendingToErp &&
    (sendToErpInternal history.invoice.status history.invoice.workflow answers).calls != []
  | .cutPush answers turns => history.invoice.status == .sendingToErp &&
    (sendToErpCut history.invoice.status history.invoice.workflow answers turns).calls != []
  | .bookPayment => InvoiceStatus.payableStatuses.contains history.invoice.status
  | _ => false

/-- A step, other than of an extraction, that neither edits the content of a `failed` invoice nor corrects
it in a partial approval of an invoice that is approved already. -/
def keepsContent (tenant : Tenant) (history : InvoiceHistory) (label : InvoiceLabel) : Bool :=
  !label.isExtraction && (!label.editsContent || history.invoice.status != .failed) &&
    label.approveRequest?.all fun request =>
      !request.corrections.any FieldEdit.isFinancial || !InvoiceStatus.sealedStatuses.contains history.invoice.status ||
        !history.invoice.hasLevelToSign tenant request

/-- Past its approval an invoice says what it said then. -/
def ContentSealed (history : InvoiceHistory) : Prop :=
  history.invoice.status ∈ InvoiceStatus.sealedStatuses →
    history.approvedContent = some history.invoice.fields.financials

/-- Apart from an approval, and from a push or an extraction that fails, only sealed statuses lead to a
sealed one. -/
theorem InvoiceStatus.sealed_of_transition {before after : InvoiceStatus} (valid : after ∈ before.validTransitions)
    (sealed : after ∈ sealedStatuses) (other : after ≠ .approved) (running : after ≠ .failed) :
    before ∈ sealedStatuses := by
  revert valid sealed other running
  cases before <;> first | exact fun _ _ _ _ => by decide | (cases after <;> decide)

theorem InvoiceStatus.locked_of_sealed {status : InvoiceStatus} (sealed : status ∈ sealedStatuses)
    (running : status ≠ .failed) : status ∈ financiallyLockedStatuses := by
  revert sealed running
  cases status <;> decide

theorem InvoiceStatus.not_sealed_of_created {status : InvoiceStatus}
    (created : status ∈ [InvoiceStatus.new, .pending, .readyForReview]) : status ∉ sealedStatuses := by
  revert created
  cases status <;> decide

theorem InvoiceStatus.not_approved_of_transition {before : InvoiceStatus}
    (valid : InvoiceStatus.approved ∈ before.validTransitions) : before ≠ .approved := by
  revert valid
  cases before <;> decide

theorem Invoice.correct_financials {invoice : Invoice} {tenant : Tenant} {request : ApproveRequest}
    (plain : request.corrections.any FieldEdit.isFinancial = false) :
    (invoice.correct tenant request).fields.financials = invoice.fields.financials := by
  have kept : (request.corrections.filter fun edit => !edit.isNull).any FieldEdit.isFinancial = false := by
    rw [List.any_eq_false] at plain ⊢
    exact fun edit member => plain edit (List.mem_filter.mp member).1
  unfold correct
  split
  · rfl
  · simp only
    split <;> exact foldl_apply_financials kept _

section
variable {tenant : Tenant} {history : InvoiceHistory} {label : InvoiceLabel} {after : Invoice}

theorem InvoiceHistory.record_approvedContent_of_enters (enters : history.invoice.Enters after .approved) :
    (history.record true after).approvedContent = some after.fields.financials := if_pos ⟨rfl, enters⟩

/-- A step that does not enter `approved` keeps the seal, if it keeps what is sealed. -/
theorem ContentSealed.keep (holds : ContentSealed history) {approval : Bool}
    (stays : ¬(approval = true ∧ history.invoice.Enters after .approved))
    (came : after.status ∈ InvoiceStatus.sealedStatuses → history.invoice.status ∈ InvoiceStatus.sealedStatuses ∧
      after.fields.financials = history.invoice.fields.financials) : ContentSealed (history.record approval after) := by
  intro sealed
  obtain ⟨before, same⟩ := came sealed
  simp only [InvoiceHistory.record, if_neg stays]
  rw [same]
  exact holds before

theorem keepsContent_edits (keeps : keepsContent tenant history label = true) (edits : label.editsContent = true) :
    history.invoice.status ≠ .failed := by
  simpa [edits] using (Bool.and_eq_true_iff.mp (Bool.and_eq_true_iff.mp keeps).1).2

theorem keepsContent_isExtraction (keeps : keepsContent tenant history label = true) : label.isExtraction = false := by
  simpa using (Bool.and_eq_true_iff.mp (Bool.and_eq_true_iff.mp keeps).1).1

theorem keepsContent_corrects (keeps : keepsContent tenant history label = true) {request : ApproveRequest}
    (call : label.approveRequest? = some request) (sealed : history.invoice.status ∈ InvoiceStatus.sealedStatuses) :
    request.corrections.any FieldEdit.isFinancial = false ∨ history.invoice.hasLevelToSign tenant request = false := by
  have permitted := (Bool.and_eq_true_iff.mp keeps).2
  rw [call, Option.all_some, List.contains_iff_mem.mpr sealed] at permitted
  simpa only [Bool.or_eq_true, Bool.not_eq_true', Bool.not_true, Bool.false_eq_true, or_false] using permitted

theorem InvoiceLabel.isApproval_of_approveRequest {request : ApproveRequest} (call : label.approveRequest? = some request) :
    label.isApproval = true := by
  cases label with
  | approve => rfl
  | bulkApprove => rfl
  | _ => cases call

theorem Effect.contentSealed (effect : Effect tenant history.clock history.invoice label after) (holds : ContentSealed history)
    (keeps : keepsContent tenant history label = true) : ContentSealed (history.record label.isApproval after) := by
  cases effect with
  | stayed status _ edited =>
    refine holds.keep (fun enters => absurd (status.symm.trans enters.2.2) enters.2.1) fun sealed => ?_
    rw [status] at sealed
    rcases edited with same | ⟨edits, unlocked⟩
    · exact ⟨sealed, same⟩
    · exact absurd (InvoiceStatus.locked_of_sealed sealed (keepsContent_edits keeps edits)) unlocked
  | moved valid fields _ _ _ extraction approved =>
    by_cases enters : label.isApproval = true ∧ history.invoice.Enters after .approved
    · rw [enters.1]
      exact fun _ => InvoiceHistory.record_approvedContent_of_enters enters.2
    · refine holds.keep enters fun sealed => ⟨?_, by rw [fields]⟩
      by_cases here : after.status = .approved
      · rw [here] at valid
        rcases approved here with approval | source
        · exact absurd ⟨approval, InvoiceStatus.not_approved_of_transition valid, here⟩ enters
        · simp only [List.mem_cons, List.not_mem_nil, or_false] at source
          rcases source with source | source <;> rw [source] <;> decide
      · refine InvoiceStatus.sealed_of_transition valid sealed here fun failed => ?_
        have none' := extraction failed
        rw [keepsContent_isExtraction keeps] at none'
        cases none'
  | rejected _ status _ _ =>
    refine holds.keep (fun enters => nomatch status.symm.trans enters.2.2) fun sealed => ?_
    rw [status] at sealed
    exact absurd sealed (by decide)
  | pushed sending status fields _ =>
    refine holds.keep (fun enters => ?_) fun _ => ⟨by rw [sending]; decide, by rw [fields]⟩
    rw [enters.2.2] at status
    exact absurd status (by decide)
  | extracted extraction =>
    rw [keepsContent_isExtraction keeps] at extraction
    cases extraction
  | @signed request call approval =>
    have human := InvoiceLabel.isApproval_of_approveRequest call
    cases approval with
    | idle status fields _ =>
      refine holds.keep (fun enters => absurd (status.symm.trans enters.2.2) enters.2.1) fun sealed => ?_
      rw [status] at sealed
      exact ⟨sealed, by rw [fields]⟩
    | partly status fields signed =>
      refine holds.keep (fun enters => absurd (status.symm.trans enters.2.2) enters.2.1) fun sealed => ?_
      rw [status] at sealed
      rcases keepsContent_corrects keeps call sealed with plain | nothing
      · exact ⟨sealed, by rw [fields, Invoice.correct_financials plain]⟩
      · exact absurd rfl (signed.of_not_hasLevelToSign nothing).2
    | approved valid status _ _ _ =>
      rw [human]
      exact fun _ => InvoiceHistory.record_approvedContent_of_enters
        ⟨InvoiceStatus.not_approved_of_transition valid, status⟩

theorem reach_contentSealed
    (reach : (invoiceMachine tenant).Reach (fun history label => keepsContent tenant history label = true) history) :
    ContentSealed history := by
  have start : ∀ first, (invoiceMachine tenant).init first → ContentSealed first := by
    intro first begins sealed
    exact absurd sealed (InvoiceStatus.not_sealed_of_created begins.1)
  have step : ∀ before label, ContentSealed before → keepsContent tenant before label = true →
      ContentSealed ((invoiceMachine tenant).step before label) := by
    intro before label holds keeps
    exact (runInvoiceLabel_effect tenant before.clock before.invoice label).contentSealed holds keeps
  exact reach.invariant start step

theorem handsOver_sealed (handed : handsOver history label = true) :
    history.invoice.status ∈ InvoiceStatus.sealedStatuses := by
  cases label with
  | push answers =>
    rw [beq_iff_eq.mp (Bool.and_eq_true_iff.mp handed).1]
    decide
  | cutPush answers turns =>
    rw [beq_iff_eq.mp (Bool.and_eq_true_iff.mp handed).1]
    decide
  | bookPayment =>
    have payable := List.contains_iff_mem.mp handed
    revert payable
    cases history.invoice.status <;> decide
  | _ => cases handed

/-- In a run without extractions that edits no content of a `failed` invoice and corrects none in a
partial approval past `approved`, what is handed to the ERP or booked for payment is what the last approval saw. -/
theorem reach_handedOver_approved
    (reach : (invoiceMachine tenant).Reach (fun history label => keepsContent tenant history label = true) history)
    (handed : handsOver history label = true) : history.approvedContent = some history.invoice.fields.financials :=
  reach_contentSealed reach (handsOver_sealed handed)

end

/-- An organisation without an approval chain, whose invoices have no workflow instance. -/
def plainTenant : Tenant := ⟨⟨[some "USD"], false, 30⟩, none⟩

def erpUp : Nat → ErpAnswer := fun _ => .success (some "DOC-1") none

/-- A failed push is retried after the cost centre was corrected. -/
def recodedRun : List InvoiceLabel :=
  [.approve (approvalBy "approver" [.amount 120]), .sendToErp, .push fun _ => .transportError "503",
    .updateInvoice [.costCenter (some "CC-1")] noRates, .retryErp]

theorem handedOver_recodedRun : ((invoiceMachine plainTenant).exec (underReview none) recodedRun).approvedContent =
    some ((invoiceMachine plainTenant).exec (underReview none) recodedRun).invoice.fields.financials := by
  have first : (invoiceMachine plainTenant).init (underReview none) := ⟨by decide, by decide, rfl, rfl, rfl⟩
  have keeps : (invoiceMachine plainTenant).Permits (fun history label => keepsContent plainTenant history label = true)
      (underReview none) recodedRun := by decide
  have handed : handsOver ((invoiceMachine plainTenant).exec (underReview none) recodedRun) (.push erpUp) = true := by
    decide
  exact reach_handedOver_approved ((Machine.Reach.start first).exec keeps) handed

/-- The amount is raised while the invoice is `failed`, which no list of locked statuses names; the retry
pushes it. -/
theorem edited_failed_invoice_handed_over :
    ∃ labels label, let history := (invoiceMachine plainTenant).exec (underReview none) labels
      handsOver history label = true ∧ (history.approvedContent.map (·.amount)) = some 100 ∧
        history.invoice.fields.amount = 900 ∧ history.approvedContent ≠ some history.invoice.fields.financials :=
  ⟨[.approve (approvalBy "approver" []), .sendToErp, .push fun _ => .transportError "503",
    .updateInvoice [.amount 900] noRates, .retryErp], .push erpUp, by decide, by decide, by decide,
    by decide⟩

end Payables
