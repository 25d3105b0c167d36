import Payables.Approval.ChainRuns
import Payables.Workflow.Lifecycle

namespace Payables
open Lib

section
variable (invoice : Invoice) (tenant : Tenant) (stateData : Option StateData)

@[simp] theorem Invoice.withStateData_status : (invoice.withStateData stateData).status = invoice.status := rfl

@[simp] theorem Invoice.withStateData_fields : (invoice.withStateData stateData).fields = invoice.fields := rfl

@[simp] theorem Invoice.withStateData_lock : (invoice.withStateData stateData).lock = invoice.lock := rfl

@[simp] theorem Invoice.withStateData_approvalConfig :
    (invoice.withStateData stateData).approvalConfig tenant = invoice.approvalConfig tenant := by
  unfold approvalConfig withStateData
  cases invoice.workflow <;> rfl

theorem Invoice.withStateData_chain {workflow : WorkflowInstance} (here : invoice.workflow = some workflow) :
    (invoice.withStateData stateData).chain = chainStateOf stateData := by
  simp only [chain, withStateData, here, Option.map_some, Option.bind_some]

@[simp] theorem Invoice.withStateData_applicable :
    (invoice.withStateData stateData).applicable tenant = invoice.applicable tenant := by
  simp only [applicable, withStateData_approvalConfig, withStateData_fields, withStateData_lock]

theorem Invoice.withStateData_self : invoice.withStateData (invoice.workflow.bind (·.stateData)) = invoice := by
  obtain ⟨_, _, _, _, _, _, _, _, workflow⟩ := invoice
  cases workflow <;> rfl

variable (request : ApproveRequest)

@[simp] theorem Invoice.correct_status : (invoice.correct tenant request).status = invoice.status := by
  unfold correct
  split
  · rfl
  · simp only
    split <;> rfl

@[simp] theorem Invoice.correct_workflow : (invoice.correct tenant request).workflow = invoice.workflow := by
  unfold correct
  split
  · rfl
  · simp only
    split <;> rfl

@[simp] theorem Invoice.correct_chain : (invoice.correct tenant request).chain = invoice.chain := by
  simp only [chain, correct_workflow]

@[simp] theorem Invoice.correct_approvalConfig :
    (invoice.correct tenant request).approvalConfig tenant = invoice.approvalConfig tenant := by
  simp only [approvalConfig, correct_workflow]

theorem Invoice.correct_of_nil (none' : request.corrections = []) : invoice.correct tenant request = invoice :=
  if_pos none'

end

/-- The chain an approval finds, or lays out. -/
inductive StartsFrom (tenant : Tenant) (now : Time) (invoice : Invoice) : Option ChainState → Prop
  | stored {chain} : invoice.chain = some chain → StartsFrom tenant now invoice (some chain)
  | laidOut {levels} : (invoice.approvalConfig tenant).approverStrategy = some .chain → invoice.workflow ≠ none →
      invoice.chain = none → invoice.applicable tenant = .ok levels → levels ≠ [] → StartsFrom tenant now invoice (some ⟨levels.mapIdx (initLevelState now), 0⟩)
  | unrouted : invoice.workflow ≠ none → invoice.chain = none → invoice.applicable tenant = .ok [] →
      StartsFrom tenant now invoice none

/-- What the chain part of an approval answers, and the chain it leaves. -/
inductive Signed (tenant : Tenant) (actor : UserId) (now : Time) (invoice : Invoice) :
    Except Raised Bool → Option ChainState → Prop
  | exempt : (invoice.approvalConfig tenant).approverStrategy ≠ some .chain ∨ invoice.workflow = none →
      Signed tenant actor now invoice (.ok true) invoice.chain
  | unresolved {raised} : Signed tenant actor now invoice (.error raised) invoice.chain
  | refused {raised base} : StartsFrom tenant now invoice base → Signed tenant actor now invoice (.error raised) base
  | exhausted {base} : StartsFrom tenant now invoice base →
      (∀ chain, base = some chain → chain.levels.length ≤ chain.currentLevel) →
      Signed tenant actor now invoice (.ok true) base
  | advanced {chain after answer} : (invoice.approvalConfig tenant).approverStrategy = some .chain →
      StartsFrom tenant now invoice (some chain) → Advanced now actor chain answer after →
      Signed tenant actor now invoice (.ok answer) (some after)

section
variable {invoice : Invoice} {tenant : Tenant} {request : ApproveRequest} {now : Time}

theorem Invoice.startChain_startsFrom {workflow : WorkflowInstance} {started : Option StateData}
    (chained : (invoice.approvalConfig tenant).approverStrategy = some .chain) (here : invoice.workflow = some workflow)
    (ok : invoice.startChain tenant now workflow.stateData = .ok started) :
    StartsFrom tenant now invoice (chainStateOf started) := by
  have same : invoice.chain = chainStateOf workflow.stateData := by rw [chain, here, Option.bind_some]
  have some' : invoice.workflow ≠ none := by simp [here]
  unfold startChain at ok
  cases stored : chainStateOf workflow.stateData with
  | some chain =>
    simp only [stored] at ok
    cases ok
    rw [stored]
    exact .stored (same.trans stored)
  | none =>
    simp only [stored] at ok
    cases levels : invoice.applicable tenant with
    | error raised =>
      rw [levels] at ok
      cases ok
    | ok applicable =>
      have result : (if applicable = [] then workflow.stateData else
          some (initChainState now workflow.stateData applicable)) = started := by
        rw [levels] at ok
        exact Except.ok.inj ok
      by_cases empty : applicable = []
      · rw [if_pos empty] at result
        rw [← result, stored]
        exact .unrouted some' (same.trans stored) (by rw [levels, empty])
      · rw [if_neg empty] at result
        rw [← result]
        exact .laidOut chained some' (same.trans stored) levels empty

theorem Invoice.signChain_signed (invoice : Invoice) (tenant : Tenant) (request : ApproveRequest) (now : Time) :
    Signed tenant request.actorId now invoice (invoice.signChain tenant request now).1
        (invoice.signChain tenant request now).2.chain ∧
      ∃ stateData, (invoice.signChain tenant request now).2 = invoice.withStateData stateData := by
  have unchanged := (withStateData_self invoice).symm
  unfold signChain
  split
  · next workflow chained here =>
    cases ok : invoice.startChain tenant now workflow.stateData with
    | error raised => exact ⟨.unresolved, _, unchanged⟩
    | ok started =>
      have base := startChain_startsFrom chained here ok
      cases checked : checkCurrentLevel request started with
      | error raised =>
        simp only [checked, withStateData_chain invoice started here]
        exact ⟨.refused base, _, rfl⟩
      | ok =>
        simp only [checked, withStateData_chain invoice _ here]
        refine ⟨?_, _, rfl⟩
        obtain ⟨same, past⟩ | same | ⟨chain, after, answer, stored, advanced, same⟩ :=
          advanceApprovalChain_cases now started request.actorId
        · rw [same]
          exact .exhausted base past
        · rw [same]
          exact .refused base
        · rw [same]
          rw [stored] at base
          exact .advanced chained base advanced
  · next other =>
    refine ⟨.exempt ?_, _, unchanged⟩
    by_contra both
    rw [not_or, not_not] at both
    obtain ⟨workflow, here⟩ := Option.ne_none_iff_exists'.mp both.2
    exact other workflow both.1 here

theorem Invoice.workflow_ne_none {invoice : Invoice} {chain : ChainState} (here : invoice.chain = some chain) :
    invoice.workflow ≠ none := by
  intro none'
  rw [Invoice.chain, none'] at here
  cases here

/-- Whether an approval that is let through has a chain level to sign. -/
def Invoice.hasLevelToSign (invoice : Invoice) (tenant : Tenant) (request : ApproveRequest) : Bool :=
  (invoice.approvalConfig tenant).approverStrategy == some .chain && invoice.workflow.isSome &&
    match invoice.chain with
    | some chain => chain.currentLevel < chain.levels.length
    | none =>
      match (invoice.correct tenant request).applicable tenant with
      | .ok levels => levels ≠ []
      | .error _ => false

theorem StartsFrom.eq_chain {base : Option ChainState}
    (starts : StartsFrom tenant now (invoice.correct tenant request) base)
    (nothing : invoice.hasLevelToSign tenant request = false) : base = invoice.chain := by
  cases starts with
  | stored found => rw [← found, Invoice.correct_chain]
  | unrouted _ fresh => rw [← fresh, Invoice.correct_chain]
  | laidOut chained some' fresh levels routed =>
    rw [Invoice.correct_chain] at fresh
    rw [Invoice.correct_approvalConfig] at chained
    rw [Invoice.correct_workflow] at some'
    simp [Invoice.hasLevelToSign, chained, fresh, levels, routed, some'] at nothing

/-- An approval that is recorded had a level to sign. -/
theorem Advanced.hasLevelToSign {chain after : ChainState} {answer : Bool}
    (advanced : Advanced now request.actorId chain answer after)
    (chained : ((invoice.correct tenant request).approvalConfig tenant).approverStrategy = some .chain)
    (starts : StartsFrom tenant now (invoice.correct tenant request) (some chain)) :
    invoice.hasLevelToSign tenant request = true := by
  by_contra nothing
  have none' := Bool.eq_false_iff.mpr nothing
  have found := (starts.eq_chain none').symm
  have some' := Invoice.workflow_ne_none found
  rw [Invoice.correct_approvalConfig] at chained
  have open' := advanced.currentLevel_lt
  simp [Invoice.hasLevelToSign, chained, found, some', open'] at none'

/-- Without a level to sign the chain stays as it is, and nothing more is asked for. -/
theorem Signed.of_not_hasLevelToSign {answer : Except Raised Bool} {after : Option ChainState}
    (signed : Signed tenant request.actorId now (invoice.correct tenant request) answer after)
    (nothing : invoice.hasLevelToSign tenant request = false) : after = invoice.chain ∧ answer ≠ .ok false := by
  cases signed with
  | exempt => exact ⟨Invoice.correct_chain _ _ _, nofun⟩
  | unresolved => exact ⟨Invoice.correct_chain _ _ _, nofun⟩
  | refused starts => exact ⟨starts.eq_chain nothing, nofun⟩
  | exhausted starts => exact ⟨starts.eq_chain nothing, nofun⟩
  | advanced chained starts advanced =>
    rw [advanced.hasLevelToSign chained starts] at nothing
    cases nothing

/-- What `approve_invoice` leaves in memory. -/
inductive ApproveOutcome (tenant : Tenant) (request : ApproveRequest) (now : Time) (before : Invoice) : ServiceOutcome → Prop
  | refused {raised after} : after.status = before.status →
      (after.fields = before.fields ∨ after.fields = (before.correct tenant request).fields) →
      (after.chain = before.chain ∨
        ∃ answer, Signed tenant request.actorId now (before.correct tenant request) answer after.chain) →
      ApproveOutcome tenant request now before (.error raised, after)
  | partly {after} : after.status = before.status → after.fields = (before.correct tenant request).fields →
      Signed tenant request.actorId now (before.correct tenant request) (.ok false) after.chain →
      ApproveOutcome tenant request now before (.ok (), after)
  | approved {after} : InvoiceStatus.approved ∈ before.status.validTransitions → after.status = .approved →
      after.fields = (before.correct tenant request).fields →
      after.applicable tenant = (before.correct tenant request).applicable tenant →
      Signed tenant request.actorId now (before.correct tenant request) (.ok true) after.chain →
      ApproveOutcome tenant request now before (.ok (), after)

theorem Invoice.approve_outcome (before : Invoice) (tenant : Tenant) (request : ApproveRequest) (now : Time) :
    ApproveOutcome tenant request now before (before.approve tenant request now) := by
  unfold approve
  simp only
  split
  · exact .refused rfl (.inl rfl) (.inl rfl)
  split
  · exact .refused rfl (.inl rfl) (.inl rfl)
  split
  · exact .refused (correct_status _ _ _) (.inr rfl) (.inl (correct_chain _ _ _))
  obtain ⟨chain, stateData, same⟩ := (before.correct tenant request).signChain_signed tenant request now
  split
  · next raised signed result =>
    rw [result] at chain same
    cases same
    exact .refused (correct_status _ _ _) (.inr rfl) (.inr ⟨_, chain⟩)
  · next signed result =>
    rw [result] at chain same
    cases same
    exact .partly (correct_status _ _ _) rfl chain
  · next signed result =>
    rw [result] at chain same
    cases same
    unfold transition
    split
    · next valid =>
      have edge := InvoiceStatus.validateTransition_eq_ok.mp valid
      rw [show (_ : Invoice).status = _ from correct_status before tenant request] at edge
      exact .approved edge rfl rfl (withStateData_applicable _ _ _) chain
    · exact .refused (correct_status _ _ _) (.inr rfl) (.inr ⟨_, chain⟩)

end

end Payables
