import Payables.Agents.Coordinator
import Payables.Workflow.BulkAtomicity
import Payables.Workflow.Reopening

namespace Payables

/-- What a committed run says of itself is what it did. -/
structure VerdictMatches (before after : RunStore) : Prop where
  resolved : after.exception.status = .resolved → after.invoice.row.status = .approved
  recorded : ∃ decision, after.decisions = before.decisions ++ [decision] ∧
    (decision.actionTaken ∈ [AgentAction.escalated, .noAction] → after.invoice = before.invoice)

/-- An approval is let through, and leaves a level of the chain to be signed. -/
def Invoice.signsPartly (invoice : Invoice) (tenant : Tenant) (request : ApproveRequest) (now : Time) : Bool :=
  (invoice.approvalGates tenant request).toBool &&
    match (invoice.correct tenant request).signing tenant now with
    | .error _ => false
    | .ok none => false
    | .ok (some (chain, level)) =>
      (checkLevelApprover request.delegateOf level.approverIds request.actorId).toBool &&
        !approvedElsewhere chain.levels chain.currentLevel request.actorId &&
        !(levelSatisfied (level.record request.actorId now) && chain.levels.length == chain.currentLevel + 1)

namespace AgentRun

variable (run : AgentRun) (store : RunStore)

/-- The plan that a run goes on to carry out. -/
def plan? : Option ResolutionPlan :=
  if store.exception.status ∉ actionableStatuses ∨ run.withheld store = true then none
  else do
    let resolver ← getResolver store.exception.exceptionType
    let evaluation ← (resolver.evaluate run.seenView run.settings run.seen).toOption
    run.resolvable evaluation

/-- The approval that a plan asks for: the row as its resolver leaves it, and the corrections. -/
def prepared? (plan : ResolutionPlan) : Option (AgentInvoice × List FieldEdit) :=
  match run.lockedView.prepare run.settings run.caller plan store.invoice with
  | (.ok corrections, prepared) => some (prepared, corrections)
  | (.error _, _) => none

def signsPartly (approval : AgentInvoice × List FieldEdit) : Bool :=
  approval.1.row.signsPartly run.settings.tenant (run.caller.request approval.2) run.now

/-- The approval that a run asks for, if it asks for one, leaves no level of the chain to be signed. -/
def SignsLast : Prop :=
  ((run.plan? store).bind (run.prepared? store)).all fun approval => !run.signsPartly approval
  deriving Decidable

end AgentRun

section
variable {invoice : Invoice} {tenant : Tenant} {request : ApproveRequest} {now : Time}

theorem correct_signing_status {answer : Except Raised Bool} {signed : Invoice}
    (sign : (invoice.correct tenant request).signChain tenant request now = (answer, signed)) : signed.status = invoice.status := by
  obtain ⟨_, stateData, kept⟩ := (invoice.correct tenant request).signChain_signed tenant request now
  rw [sign] at kept
  rw [show signed = _ from kept, Invoice.withStateData_status, Invoice.correct_status]

/-- A partial approval returns like any other, with the status it found. -/
theorem Invoice.approve_of_signsPartly (partly : invoice.signsPartly tenant request now = true) :
    ∃ signed, invoice.approve tenant request now = (.ok (), signed) ∧ signed.status = invoice.status := by
  unfold signsPartly at partly
  rw [Bool.and_eq_true, toBool_eq_true] at partly
  obtain ⟨passed, partly⟩ := partly
  rw [approve_of_gates passed]
  split at partly
  · cases partly
  · cases partly
  · next chain level found =>
    simp only [Bool.and_eq_true, Bool.not_eq_true', toBool_eq_true] at partly
    obtain ⟨⟨named, fresh⟩, more⟩ := partly
    have signs : SignsLevel (invoice.correct tenant request) request now chain level
        ((invoice.correct tenant request).signChain tenant request now) := signChain_of_some found
    have answer := (signs.signed named fresh).2
    rw [more] at answer
    cases sign : (invoice.correct tenant request).signChain tenant request now with
    | mk result signed =>
      rw [sign] at answer
      rw [show result = _ from answer]
      exact ⟨signed, rfl, correct_signing_status sign⟩

/-- An approval that returns without leaving a level has approved. -/
theorem Invoice.approve_of_not_signsPartly {signed : Invoice} (whole : invoice.signsPartly tenant request now = false)
    (ok : invoice.approve tenant request now = (.ok (), signed)) : signed.status = .approved := by
  have finished {after : Invoice} (done : afterSigning request (.ok true, after) = (.ok (), signed)) : signed.status = .approved := by
    have moved : Invoice.transition { after with approvedBy := some request.actorName } .approved = (.ok (), signed) := done
    unfold Invoice.transition at moved
    split at moved
    · cases moved
      rfl
    · cases moved
  cases gates : invoice.approvalGates tenant request with
  | error raised =>
    rcases approve_error_of_gates gates with result | result
    · rw [result] at ok
      cases ok
    · rw [result] at ok
      cases ok
  | ok =>
    rw [approve_of_gates gates] at ok
    unfold signsPartly at whole
    rw [gates, show (Except.ok () : Except Raised Unit).toBool = true from rfl, Bool.true_and] at whole
    split at whole
    · next raised found =>
      rw [signChain_of_error found] at ok
      cases ok
    · next found =>
      rw [signChain_of_none found] at ok
      exact finished ok
    · next chain level found =>
      have signs : SignsLevel (invoice.correct tenant request) request now chain level
          ((invoice.correct tenant request).signChain tenant request now) := signChain_of_some found
      by_cases free : checkLevelApprover request.delegateOf level.approverIds request.actorId = .ok () ∧
          approvedElsewhere chain.levels chain.currentLevel request.actorId = false
      · have answer := (signs.signed free.1 free.2).2
        have last : (levelSatisfied (level.record request.actorId now) && chain.levels.length == chain.currentLevel + 1) = true := by
          simpa [free.1, free.2, Except.toBool] using whole
        rw [last] at answer
        cases sign : (invoice.correct tenant request).signChain tenant request now with
        | mk result after =>
          rw [sign] at answer ok
          rw [show result = _ from answer] at ok
          exact finished ok
      · obtain ⟨_, _, raised, answer⟩ := signs.refused free
        cases sign : (invoice.correct tenant request).signChain tenant request now with
        | mk result after =>
          rw [sign] at answer ok
          rw [show result = _ from answer] at ok
          cases ok

end

namespace AgentView

variable {view : AgentView} {settings : AgentTenant} {caller : AgentCaller} {locked prepared : AgentInvoice} {corrections : List FieldEdit}

theorem refused_ne_ok : refused locked ≠ (.ok corrections, prepared) := by rintro ⟨⟩

theorem refreshWarnings_status {invoice : AgentInvoice} :
    (view.refreshWarnings settings caller invoice).2.row.status = invoice.row.status := by
  unfold refreshWarnings
  cases caller.refreshes with
  | true => rfl
  | false => rfl

/-- Each resolver asks for an approval of an invoice that is under review. -/
theorem prepare_status {plan : ResolutionPlan} (ready : view.prepare settings caller plan locked = (.ok corrections, prepared)) :
    prepared.row.status = .readyForReview := by
  cases plan with
  | adjustAmount newAmount =>
    simp only [prepare, amountMismatchPrepare] at ready
    split at ready
    · exact absurd ready refused_ne_ok
    · next review =>
      split at ready
      · exact absurd ready refused_ne_ok
      split at ready
      · exact absurd ready refused_ne_ok
      · cases ready
        exact not_not.mp review
  | linkOrder candidatePoId =>
    simp only [prepare, missingPoPrepare] at ready
    split at ready
    · exact absurd ready refused_ne_ok
    · next review =>
      split at ready
      · exact absurd ready refused_ne_ok
      split at ready
      · exact absurd ready refused_ne_ok
      split at ready
      · exact absurd ready refused_ne_ok
      split at ready
      · cases ready
      · next refreshed result =>
        split at ready
        · exact absurd ready refused_ne_ok
        · cases ready
          have status := congrArg (fun outcome => outcome.2.row.status) result
          exact status.symm.trans (refreshWarnings_status.trans (not_not.mp review))
  | linkOrders subsetPoIds tolerancePct =>
    simp only [prepare, multiPoSplitPrepare] at ready
    split at ready
    · exact absurd ready refused_ne_ok
    · next review =>
      iterate 6
        split at ready
        · exact absurd ready refused_ne_ok
      cases ready
      exact not_not.mp review
  | codeGl glValue ccValue minConf minSample =>
    simp only [prepare, glCodingPrepare] at ready
    split at ready
    · exact absurd ready refused_ne_ok
    · next review =>
      split at ready
      · exact absurd ready refused_ne_ok
      split at ready
      · cases ready
      iterate 3
        split at ready
        · exact absurd ready refused_ne_ok
      cases ready
      exact not_not.mp review

/-- An `apply` that returns has approved, or signed a level that is not the last. -/
theorem approveInvoice_ok {now : Time} {after : AgentInvoice}
    (ok : view.approveInvoice settings caller now corrections prepared = (.ok (), after)) :
    prepared.row.approve settings.tenant (caller.request corrections) now = (.ok (), after.row) := by
  have answered : (prepared.row.approve settings.tenant (caller.request corrections) now).1.mapError ApplyError.raised = .ok () :=
    congrArg Prod.fst ok
  have row : (prepared.row.approve settings.tenant (caller.request corrections) now).2 = after.row :=
    congrArg (fun outcome => outcome.2.row) ok
  cases outcome : prepared.row.approve settings.tenant (caller.request corrections) now with
  | mk answer signed =>
    rw [outcome] at answered row
    cases answer with
    | error raised => cases answered
    | ok => rw [show signed = after.row from row]

end AgentView

namespace AgentRun

variable {run : AgentRun} {store after : RunStore} {confidence : ℚ} {agentType : String}

/-- An escalation is never refused. -/
theorem escalate_eq : run.escalate store confidence agentType =
    .ok (run.record { store with exception := applyResolution store.exception .escalate agentActorName run.now } .escalated
      confidence agentType) := rfl

/-- A run that escalates keeps the invoice. -/
theorem matches_of_escalate (ok : run.escalate store confidence agentType = .ok after) : VerdictMatches store after := by
  rw [escalate_eq] at ok
  cases ok
  exact ⟨by rintro ⟨⟩, _, rfl, fun _ => rfl⟩

theorem matches_of_noAction (actionable : store.exception.status ∈ actionableStatuses) :
    VerdictMatches store (run.record store .noAction confidence agentType) := by
  refine ⟨fun resolved => ?_, _, rfl, fun _ => rfl⟩
  have same : store.exception.status = .resolved := resolved
  rw [same] at actionable
  exact absurd actionable (by decide)

/-- A resolution is as good as the status of the invoice it leaves. -/
theorem matches_of_resolve {approved : AgentInvoice} {requireSegregation : Option Bool}
    (ok : run.conclude { store with invoice := approved } .resolve .autoResolved requireSegregation confidence agentType = .ok after) :
    VerdictMatches store after ↔ approved.row.status = .approved := by
  unfold conclude at ok
  split at ok
  · cases ok
  · next exception decided =>
    cases ok
    unfold recordDecision at decided
    split at decided
    · cases decided
    · cases decided
      constructor
      · exact fun matching => matching.resolved rfl
      · refine fun status => ⟨fun _ => status, _, rfl, fun taken => ?_⟩
        have other : AgentAction.autoResolved ∈ [AgentAction.escalated, .noAction] := taken
        exact absurd other (by decide)

/-- No resolver of a type that blocks a payment recommends anything. -/
theorem resolver_of_blocking {exception : ExceptionType} {resolver : Resolver} {view : AgentView} {settings : AgentTenant}
    {invoice : AgentInvoice} (blocking : exception ∈ paymentBlockingExceptionTypes) (found : getResolver exception = some resolver) :
    resolver.evaluate view settings invoice = .ok .escalate := by
  simp only [paymentBlockingExceptionTypes, List.mem_cons, List.not_mem_nil, or_false] at blocking
  rcases blocking with rfl | rfl | rfl | rfl
  · cases found
    rfl
  · cases found
    rfl
  · cases found
  · cases found

/-- A run without a plan to carry out leaves the invoice alone. -/
theorem matches_of_no_plan (idle : run.plan? store = none) (ok : runAgent run store = .ok after) : VerdictMatches store after := by
  unfold runAgent at ok
  split at ok
  · cases ok
  · next actionable =>
    split at ok
    · cases ok
      exact matches_of_noAction (not_not.mp actionable)
    · next resolver found =>
      split at ok
      · cases ok
      · next evaluation evaluated =>
        simp only at ok
        split at ok
        · exact matches_of_escalate ok
        · next plan recommended =>
          split at ok
          · exact matches_of_escalate ok
          · next free =>
            have going : run.plan? store = some plan := by
              unfold plan?
              rw [if_neg (not_or.mpr ⟨actionable, free⟩), found, Option.bind_eq_bind, Option.bind_some, evaluated]
              exact recommended
            rw [idle] at going
            cases going

theorem runAgent_of_plan {plan : ResolutionPlan} (going : run.plan? store = some plan) :
    store.exception.exceptionType ∉ paymentBlockingExceptionTypes ∧
      ∃ confidence agentType, runAgent run store = run.carryOut store plan confidence agentType := by
  unfold plan? at going
  split at going
  · cases going
  · next free =>
    obtain ⟨actionable, unheld⟩ := not_or.mp free
    obtain ⟨resolver, found, going⟩ := Option.bind_eq_some_iff.mp going
    obtain ⟨evaluation, evaluated, recommended⟩ := Option.bind_eq_some_iff.mp going
    have answer : resolver.evaluate run.seenView run.settings run.seen = .ok evaluation := by
      cases result : resolver.evaluate run.seenView run.settings run.seen with
      | error raised =>
        rw [result] at evaluated
        cases evaluated
      | ok other =>
        rw [result] at evaluated
        cases evaluated
        rfl
    refine ⟨fun blocking => ?_, evaluation.confidence, resolver.agentType evaluation, ?_⟩
    · rw [resolver_of_blocking blocking found] at answer
      cases answer
      cases recommended
    · unfold runAgent
      simp only [if_neg actionable, found, answer, recommended, if_neg unheld]

theorem segregationRefusal_of_unblocked {exception : QueueException} {invoice : Invoice} {actorId : UserId} {action : QueueAction}
    {requireSegregation : Option Bool} (unblocked : exception.exceptionType ∉ paymentBlockingExceptionTypes) :
    segregationRefusal exception invoice actorId action requireSegregation = none := by
  unfold segregationRefusal
  split
  · rfl
  split
  · rfl
  · rfl

theorem carryOut_of_error {plan : ResolutionPlan} {error : ApplyError} {attempted : AgentInvoice}
    (raised : run.lockedView.apply run.settings run.caller run.now plan store.invoice = (.error error, attempted))
    (ok : run.carryOut store plan confidence agentType = .ok after) : VerdictMatches store after := by
  unfold carryOut at ok
  rw [raised] at ok
  simp only [savepoint] at ok
  split at ok
  · exact matches_of_escalate ok
  · cases ok

theorem carryOut_of_ok {plan : ResolutionPlan} {approved : AgentInvoice}
    (unblocked : store.exception.exceptionType ∉ paymentBlockingExceptionTypes)
    (applied : run.lockedView.apply run.settings run.caller run.now plan store.invoice = (.ok (), approved)) :
    (∀ after, run.carryOut store plan confidence agentType = .ok after → VerdictMatches store after) ↔
      approved.row.status = .approved := by
  have same : run.carryOut store plan confidence agentType = run.conclude { store with invoice := approved } .resolve .autoResolved
      run.settings.requireExceptionSegregation confidence agentType := by
    unfold carryOut
    rw [applied, savepoint]
  rw [same]
  constructor
  · intro matching
    have decided : ∃ after, run.conclude { store with invoice := approved } .resolve .autoResolved
        run.settings.requireExceptionSegregation confidence agentType = .ok after := by
      unfold conclude recordDecision
      rw [segregationRefusal_of_unblocked unblocked]
      exact ⟨_, rfl⟩
    obtain ⟨after, ok⟩ := decided
    exact (matches_of_resolve ok).mp (matching after ok)
  · exact fun status after ok => (matches_of_resolve ok).mpr status

/-- A plan that is carried out ends as it says unless its approval leaves a level of the chain. -/
theorem carryOut_matches_iff {plan : ResolutionPlan} (unblocked : store.exception.exceptionType ∉ paymentBlockingExceptionTypes) :
    (∀ after, run.carryOut store plan confidence agentType = .ok after → VerdictMatches store after) ↔
      (run.prepared? store plan).all (fun approval => !run.signsPartly approval) = true := by
  unfold prepared?
  cases result : run.lockedView.prepare run.settings run.caller plan store.invoice with
  | mk answer prepared =>
    cases answer with
    | error error =>
      have raised : run.lockedView.apply run.settings run.caller run.now plan store.invoice = (.error error, prepared) := by
        unfold AgentView.apply
        rw [result]
      exact iff_of_true (fun after ok => carryOut_of_error raised ok) rfl
    | ok corrections =>
      have applied : run.lockedView.apply run.settings run.caller run.now plan store.invoice =
          run.lockedView.approveInvoice run.settings run.caller run.now corrections prepared := by
        unfold AgentView.apply
        rw [result]
      have review := AgentView.prepare_status result
      simp only [Option.all_some, Bool.not_eq_true', signsPartly]
      cases outcome : run.lockedView.approveInvoice run.settings run.caller run.now corrections prepared with
      | mk answer approved =>
        rw [outcome] at applied
        cases answer with
        | error error =>
          refine iff_of_true (fun after ok => carryOut_of_error applied ok) (Bool.eq_false_iff.mpr fun partly => ?_)
          obtain ⟨signed, returned, _⟩ := Invoice.approve_of_signsPartly partly
          have answered : (prepared.row.approve run.settings.tenant (run.caller.request corrections) run.now).1.mapError
              ApplyError.raised = .error error := congrArg Prod.fst outcome
          rw [returned] at answered
          cases answered
        | ok =>
          rw [carryOut_of_ok unblocked applied]
          have returned := AgentView.approveInvoice_ok outcome
          constructor
          · intro status
            refine Bool.eq_false_iff.mpr fun partly => ?_
            obtain ⟨signed, again, same⟩ := Invoice.approve_of_signsPartly partly
            rw [returned] at again
            cases again
            rw [status, review] at same
            cases same
          · exact fun whole => Invoice.approve_of_not_signsPartly whole returned

/-- A committed run is as it says of itself exactly when its approval, if it asks for one, is not partial. -/
theorem verdict_matches_iff (run : AgentRun) (store : RunStore) :
    (∀ after, runAgent run store = .ok after → VerdictMatches store after) ↔ run.SignsLast store := by
  unfold SignsLast
  cases going : run.plan? store with
  | none => exact iff_of_true (fun after ok => matches_of_no_plan going ok) rfl
  | some plan =>
    obtain ⟨unblocked, confidence, agentType, same⟩ := runAgent_of_plan going
    rw [same, Option.bind_some]
    exact carryOut_matches_iff unblocked

end AgentRun

/-- An organisation whose agents act on their own, and that wants two reviewers for every invoice. -/
def balancedTenant : AgentTenant := ⟨chainTenant, some "balanced", .unset, none, .unset, none, none, ⟨[], [], .empty⟩⟩

/-- A vendor with one open order. -/
def oneOrder : AgentView where
  book := ⟨[⟨1, "PO-1", some 7, none, 99, "open", 0, []⟩], [], [], by decide⟩
  matchVendor _ := none
  history _ := []

def variedInvoice : AgentInvoice := ⟨1, none, some "INV-1", none, some "PO-1", none, (underReview (some twoLevelInstance)).invoice⟩

def agentCaller (actor : UserId) : AgentCaller := ⟨actor, ["ap_manager"], fun _ => none, fun _ _ => 0, noRates, true, true⟩

def variedRun : AgentRun := ⟨balancedTenant, agentCaller "manager", 0, variedInvoice, oneOrder, oneOrder⟩

def variedStore : RunStore := ⟨⟨.other "po_mismatch", .opened, none, 0, none, none, none⟩, variedInvoice, []⟩

/-- One of two reviewers has signed, and the exception is resolved over an invoice under review. -/
theorem resolved_under_review : ∃ after, runAgent variedRun variedStore = .ok after ∧ ¬VerdictMatches variedStore after := by
  have statuses : (runAgent variedRun variedStore).toOption.map (fun after => (after.exception.status, after.invoice.row.status)) =
      some (.resolved, .readyForReview) := by decide +kernel
  cases result : runAgent variedRun variedStore with
  | error failure =>
    rw [result] at statuses
    cases statuses
  | ok after =>
    rw [result] at statuses
    obtain ⟨resolved, review⟩ := Prod.mk.inj (Option.some.inj statuses)
    refine ⟨after, rfl, fun matching => ?_⟩
    have approved := matching.resolved resolved
    rw [review] at approved
    cases approved

end Payables
