import Payables.Erp.Push
import Payables.Lib.Runs

namespace Payables
open Lib

/-- The keys of `state_data` that a push has no business with. -/
def StateData.withoutPush (data : StateData) : StateData :=
  { data with erpReference := none, erpRetries := none, lastError := none }

/-- What a push must leave alone in a workflow instance. -/
def WorkflowInstance.otherKeys (workflow : WorkflowInstance) : StateData × Option StepsConfig :=
  ((workflow.stateData.getD .empty).withoutPush, workflow.stepsConfigSnapshot)

@[simp] theorem WorkflowInstance.assignStateData_stateData (workflow : WorkflowInstance) (data : StateData) :
    (workflow.assignStateData data).stateData = some data := Column.flush_load_assign _ _

section
variable (push : PushState) (attempt : Int) (text : String)

@[simp] theorem PushState.hear_workflow (answer : ErpAnswer) : (push.hear answer).workflow = push.workflow := rfl

@[simp] theorem PushState.confirm_otherKeys :
    (push.confirm attempt text).workflow.map WorkflowInstance.otherKeys = push.workflow.map WorkflowInstance.otherKeys := by
  cases h : push.workflow <;>
    simp [confirm, h, WorkflowInstance.otherKeys, StateData.withoutPush, WorkflowInstance.assignStateData]

@[simp] theorem PushState.recordFailure_otherKeys :
    (push.recordFailure attempt text).workflow.map WorkflowInstance.otherKeys =
      push.workflow.map WorkflowInstance.otherKeys := by
  cases h : push.workflow <;>
    simp [recordFailure, h, WorkflowInstance.otherKeys, StateData.withoutPush, WorkflowInstance.assignStateData]

@[simp] theorem PushState.giveUp_otherKeys :
    (push.giveUp attempt text).workflow.map WorkflowInstance.otherKeys = push.workflow.map WorkflowInstance.otherKeys := by
  cases h : push.workflow <;>
    simp [giveUp, h, WorkflowInstance.otherKeys, StateData.withoutPush, WorkflowInstance.assignStateData]

theorem PushState.recordFailure_erpRetries {workflow : WorkflowInstance}
    (after : (push.recordFailure attempt text).workflow = some workflow) : workflow.erpRetries = attempt + 1 := by
  obtain ⟨before, _, rfl⟩ := Option.map_eq_some_iff.mp after
  simp [WorkflowInstance.erpRetries]

theorem PushState.giveUp_erpRetries {workflow : WorkflowInstance}
    (after : (push.giveUp attempt text).workflow = some workflow) : workflow.erpRetries = attempt + 1 := by
  obtain ⟨before, _, rfl⟩ := Option.map_eq_some_iff.mp after
  simp [WorkflowInstance.erpRetries]

theorem PushState.confirm_erpRetries {workflow : WorkflowInstance}
    (after : (push.confirm attempt text).workflow = some workflow) : workflow.erpRetries = attempt + 1 ∧
      workflow.stateData.bind (·.erpReference) = some text := by
  obtain ⟨before, _, rfl⟩ := Option.map_eq_some_iff.mp after
  simp [WorkflowInstance.erpRetries]

end

/-- How the turns of a push end: on the first success, or with the budget used up. -/
def TurnsEnd (heard : List ErpAnswer) (budget : Nat) (result : PushState) : Prop :=
  (result.status = .done ∧ ∃ failures answer reference, heard = failures ++ [answer] ∧
    (∀ failure ∈ failures, failure.isSuccess = false) ∧ answer.outcome = .ok reference ∧
    ∀ workflow, result.workflow = some workflow → workflow.stateData.bind (·.erpReference) = some reference) ∨
  (result.status = .failed ∧ heard.length = budget ∧ (∀ failure ∈ heard, failure.isSuccess = false) ∧
    ∀ workflow, result.workflow = some workflow → workflow.erpRetries = maxRetries)

theorem ErpAnswer.outcome_ok {answer : ErpAnswer} {reference : String} (ok : answer.outcome = .ok reference) :
    answer.isSuccess = true := by
  cases answer with
  | success => rfl
  | refused => cases ok
  | transportError => cases ok

theorem ErpAnswer.outcome_error {answer : ErpAnswer} {error : String} (failed : answer.outcome = .error error) :
    answer.isSuccess = false := by
  cases answer with
  | success => cases failed
  | refused => rfl
  | transportError => rfl

/-- One failure ahead of the rest of the turns. -/
theorem TurnsEnd.cons {heard : List ErpAnswer} {budget : Nat} {result : PushState} {answer : ErpAnswer}
    (ends : TurnsEnd heard budget result) (failed : answer.isSuccess = false) :
    TurnsEnd (answer :: heard) (budget + 1) result := by
  rcases ends with ⟨done, failures, last, reference, rfl, allFailed, ok, stored⟩ | ⟨status, used, allFailed, counter⟩
  · refine .inl ⟨done, answer :: failures, last, reference, rfl, fun failure member => ?_, ok, stored⟩
    rcases List.mem_cons.mp member with rfl | later
    · exact failed
    · exact allFailed failure later
  · refine .inr ⟨status, by rw [List.length_cons, used], fun failure member => ?_, counter⟩
    rcases List.mem_cons.mp member with rfl | later
    · exact failed
    · exact allFailed failure later

theorem confirmTransitions_sending : confirmTransitions .sendingToErp = .ok () := by decide

/-- No other key is changed, and the status is left alone or ends in `done` or `failed`. -/
def PushState.Keeps (push after : PushState) : Prop :=
  after.workflow.map WorkflowInstance.otherKeys = push.workflow.map WorkflowInstance.otherKeys ∧
    after.status ∈ [push.status, .done, .failed]

/-- What one turn of the loop does: it goes on after a failure, a refused transition leaves it with
nothing written, or it ends in a last failure or a success. -/
theorem pushAttempts_turn (answers : Nat → ErpAnswer) (remaining : Nat) (attempt : Int) (push : PushState) :
    (∃ error, pushAttempts answers (remaining + 1) attempt push =
      pushAttempts answers remaining (attempt + 1) ((push.hear (answers push.calls.length)).recordFailure attempt error)) ∨
    pushAttempts answers (remaining + 1) attempt push = push.hear (answers push.calls.length) ∨
    (∃ error, pushAttempts answers (remaining + 1) attempt push =
      (push.hear (answers push.calls.length)).giveUp attempt error) ∨
    (∃ reference, pushAttempts answers (remaining + 1) attempt push =
      (push.hear (answers push.calls.length)).confirm attempt reference) := by
  rw [pushAttempts]
  simp only
  split
  · split
    · exact .inl ⟨_, rfl⟩
    · split
      · exact .inr (.inl rfl)
      · exact .inr (.inr (.inl ⟨_, rfl⟩))
  · split
    · split
      · exact .inl ⟨_, rfl⟩
      · split
        · exact .inr (.inl rfl)
        · exact .inr (.inr (.inl ⟨_, rfl⟩))
    · exact .inr (.inr (.inr ⟨_, rfl⟩))

theorem pushAttempts_keeps (answers : Nat → ErpAnswer) (remaining : Nat) (attempt : Int) (push : PushState) :
    push.Keeps (pushAttempts answers remaining attempt push) := by
  induction remaining generalizing attempt push with
  | zero => exact ⟨rfl, List.mem_cons_self⟩
  | succ remaining ih =>
    rcases pushAttempts_turn answers remaining attempt push with ⟨error, turn⟩ | turn | ⟨_, turn⟩ | ⟨_, turn⟩
    · have rest := ih (attempt + 1) ((push.hear (answers push.calls.length)).recordFailure attempt error)
      have keys := rest.1.trans (PushState.recordFailure_otherKeys _ _ _)
      rw [turn]
      exact ⟨keys, rest.2⟩
    · rw [turn]
      exact ⟨rfl, List.mem_cons_self⟩
    · rw [turn]
      exact ⟨PushState.giveUp_otherKeys _ _ _, List.mem_cons_of_mem _ (List.mem_cons_of_mem _ List.mem_cons_self)⟩
    · rw [turn]
      exact ⟨PushState.confirm_otherKeys _ _ _, List.mem_cons_of_mem _ List.mem_cons_self⟩

/-- The loop of a push in `sending_to_erp` with turns left: it hears at least one answer and ends as it
should. -/
theorem pushAttempts_ends (answers : Nat → ErpAnswer) (remaining : Nat) {attempt : Int} {push : PushState}
    (sending : push.status = .sendingToErp) (budget : attempt + (remaining + 1) = maxRetries) :
    ∃ heard, heard ≠ [] ∧ heard.length ≤ remaining + 1 ∧
      (pushAttempts answers (remaining + 1) attempt push).calls = push.calls ++ heard ∧
      TurnsEnd heard (remaining + 1) (pushAttempts answers (remaining + 1) attempt push) := by
  induction remaining generalizing attempt push with
  | zero =>
    have last : ¬attempt + 1 < maxRetries := by omega
    cases outcome : (answers push.calls.length).outcome with
    | ok reference =>
      simp only [pushAttempts, outcome, sending, confirmTransitions_sending]
      refine ⟨[answers push.calls.length], List.cons_ne_nil _ _, Nat.le_refl _, rfl, .inl ⟨rfl, [], _, reference, rfl,
        fun _ member => (nomatch member), outcome, fun workflow after => ?_⟩⟩
      exact (PushState.confirm_erpRetries _ _ _ after).2
    | error text =>
      have valid : InvoiceStatus.validateTransition .sendingToErp .failed = .ok () := by decide
      simp only [pushAttempts, outcome, sending, last, if_false, valid]
      refine ⟨[answers push.calls.length], List.cons_ne_nil _ _, Nat.le_refl _, rfl, .inr ⟨rfl, rfl, fun failure member => ?_,
        fun workflow after => ?_⟩⟩
      · rw [List.mem_singleton.mp member]
        exact ErpAnswer.outcome_error outcome
      · rw [PushState.giveUp_erpRetries _ _ _ after]
        omega
  | succ remaining ih =>
    have more : attempt + 1 < maxRetries := by omega
    cases outcome : (answers push.calls.length).outcome with
    | ok reference =>
      rw [pushAttempts]
      simp only [outcome, sending, confirmTransitions_sending]
      refine ⟨[answers push.calls.length], List.cons_ne_nil _ _, by simp, rfl, .inl ⟨rfl, [], _, reference, rfl,
        fun _ member => (nomatch member), outcome, fun workflow after => ?_⟩⟩
      exact (PushState.confirm_erpRetries _ _ _ after).2
    | error text =>
      rw [pushAttempts]
      simp only [outcome, more, if_true]
      have still : ((push.hear (answers push.calls.length)).recordFailure attempt text).status = .sendingToErp := sending
      have left : attempt + 1 + (remaining + 1) = maxRetries := by omega
      obtain ⟨heard, _, short, calls, ends⟩ := ih still left
      refine ⟨answers push.calls.length :: heard, List.cons_ne_nil _ _, by rw [List.length_cons]; omega, ?_,
        ends.cons (ErpAnswer.outcome_error outcome)⟩
      rw [calls]
      simp [PushState.recordFailure, PushState.hear]

/-- An invoice as the ERP endpoints see it. `afterFailure` is no column: a push has failed, and none
has been sent by `/send-to-erp` since. -/
structure ErpInvoice where
  status : InvoiceStatus
  approvedBy : Option String
  workflow : Option WorkflowInstance
  afterFailure : Bool
  deriving DecidableEq

inductive ErpLabel
  | sendToErp
  | retryErp
  | push (answers : Nat → ErpAnswer)
  | cutPush (answers : Nat → ErpAnswer) (turns : Nat)

/-- Writing back what a push committed. -/
def ErpInvoice.afterPush (invoice : ErpInvoice) (result : PushState) : ErpInvoice :=
  { invoice with
    status := result.status
    workflow := result.workflow
    afterFailure := invoice.afterFailure || (invoice.status == .sendingToErp && result.status == .failed) }

/-- The ERP push of one invoice, under any order of requests, deliveries and crashes. It starts before
the first push: no counter and no reference is stored. -/
def erpMachine : Machine ErpInvoice ErpLabel where
  init invoice := invoice.status ≠ .sendingToErp ∧ invoice.afterFailure = false ∧
    ∀ workflow, invoice.workflow = some workflow → workflow.stateData.bind (·.erpRetries) = none
  step invoice
    | .sendToErp =>
      match InvoiceStatus.validateTransition invoice.status .sendingToErp with
      | .ok () => { invoice with status := .sendingToErp, afterFailure := false }
      | .error _ => invoice
    | .retryErp =>
      match retryErp invoice.status invoice.approvedBy invoice.workflow with
      | .ok (status, workflow) => { invoice with status := status, workflow := workflow }
      | .error _ => invoice
    | .push answers => invoice.afterPush (sendToErpInternal invoice.status invoice.workflow answers)
    | .cutPush answers turns => invoice.afterPush (sendToErpCut invoice.status invoice.workflow answers turns)

/-- The counter stays in range, and a failed push leaves it used up: the reset of `/retry-erp` changes
a loaded non-empty `state_data` in place, which is never written. -/
def CounterSound (invoice : ErpInvoice) : Prop :=
  ∀ workflow, invoice.workflow = some workflow → 0 ≤ workflow.erpRetries ∧ workflow.erpRetries ≤ maxRetries ∧
    (invoice.afterFailure = true → workflow.erpRetries = maxRetries)

/-- The counter a push starts from. -/
theorem CounterSound.start {invoice : ErpInvoice} (sound : CounterSound invoice) :
    0 ≤ (invoice.workflow.map WorkflowInstance.erpRetries).getD 0 ∧
      (invoice.workflow.map WorkflowInstance.erpRetries).getD 0 ≤ maxRetries := by
  cases here : invoice.workflow with
  | none => exact ⟨Int.le_refl 0, by decide⟩
  | some workflow => exact ⟨(sound workflow here).1, (sound workflow here).2.1⟩

/-- With an attempt left, a failed push before this one can only have run without an instance. -/
theorem CounterSound.start_lt {invoice : ErpInvoice} (sound : CounterSound invoice)
    (left : ∀ workflow, invoice.workflow = some workflow → workflow.erpRetries < maxRetries) :
    (invoice.workflow.map WorkflowInstance.erpRetries).getD 0 < maxRetries ∧
      (invoice.afterFailure = true → (invoice.workflow.map WorkflowInstance.erpRetries).getD 0 = 0) := by
  cases here : invoice.workflow with
  | none => exact ⟨by decide, fun _ => rfl⟩
  | some workflow =>
    have below := left workflow here
    refine ⟨below, fun failed => ?_⟩
    have used := (sound workflow here).2.2 failed
    omega

theorem pushAttempts_counter (answers : Nat → ErpAnswer) (remaining : Nat) {attempt : Int} {push : PushState}
    (nonneg : 0 ≤ attempt) (within : attempt + remaining ≤ maxRetries)
    (before : ∀ workflow, push.workflow = some workflow → 0 ≤ workflow.erpRetries ∧ workflow.erpRetries ≤ maxRetries) :
    ∀ workflow, (pushAttempts answers remaining attempt push).workflow = some workflow →
      0 ≤ workflow.erpRetries ∧ workflow.erpRetries ≤ maxRetries := by
  induction remaining generalizing attempt push with
  | zero => exact before
  | succ remaining ih =>
    intro workflow after
    rcases pushAttempts_turn answers remaining attempt push with ⟨error, turn⟩ | turn | ⟨_, turn⟩ | ⟨_, turn⟩
    · rw [turn] at after
      refine ih (by omega) (by omega) (fun other recorded => ?_) workflow after
      have counter := PushState.recordFailure_erpRetries _ _ _ recorded
      omega
    · rw [turn] at after
      exact before workflow after
    · rw [turn] at after
      have counter := PushState.giveUp_erpRetries _ _ _ after
      omega
    · rw [turn] at after
      have counter := (PushState.confirm_erpRetries _ _ _ after).1
      omega

theorem resetErpRetries_stored (stateData : Option StateData) :
    ((resetErpRetries stateData).flush.stored.bind (·.erpRetries)).getD 0 = (stateData.bind (·.erpRetries)).getD 0 := by
  by_cases empty : stateData.getD .empty = .empty
  · have none' : (stateData.bind (·.erpRetries)).getD 0 = 0 := by
      cases stateData with
      | none => rfl
      | some data =>
        cases (empty : data = .empty)
        rfl
    simp only [resetErpRetries, empty, if_true, Column.flush_load_assign, none']
    rfl
  · simp only [resetErpRetries, empty, if_false, Column.flush_load_mutate]

theorem pushAttempts_workflow_none (answers : Nat → ErpAnswer) (remaining : Nat) {attempt : Int} {push : PushState}
    (none' : push.workflow = none) : (pushAttempts answers remaining attempt push).workflow = none := by
  have keys := (pushAttempts_keeps answers remaining attempt push).1
  rw [none', Option.map_none] at keys
  exact Option.map_eq_none_iff.mp keys

/-- A push that ends `failed` has used the counter up, wherever it started and was cut off. -/
theorem pushAttempts_failed (answers : Nat → ErpAnswer) (remaining : Nat) {attempt : Int} {push : PushState}
    (sending : push.status = .sendingToErp) (within : attempt + remaining ≤ maxRetries)
    (failed : (pushAttempts answers remaining attempt push).status = .failed) : ∀ workflow,
      (pushAttempts answers remaining attempt push).workflow = some workflow → workflow.erpRetries = maxRetries := by
  induction remaining generalizing attempt push with
  | zero =>
    rw [pushAttempts, sending] at failed
    cases failed
  | succ remaining ih =>
    intro workflow after
    cases outcome : (answers push.calls.length).outcome with
    | ok reference =>
      simp only [pushAttempts, outcome, sending, confirmTransitions_sending] at failed
      cases failed
    | error text =>
      rw [pushAttempts] at failed after
      simp only [outcome] at failed after
      by_cases more : attempt + 1 < maxRetries
      · simp only [more, if_true] at failed after
        have still : ((push.hear (answers push.calls.length)).recordFailure attempt text).status = .sendingToErp := sending
        exact ih still (by omega) failed workflow after
      · have valid : InvoiceStatus.validateTransition .sendingToErp .failed = .ok () := by decide
        simp only [more, if_false, sending, valid] at after
        rw [PushState.giveUp_erpRetries _ _ _ after]
        omega

theorem attemptsLeft_le {workflow : Option WorkflowInstance} {turns : Nat} (within : turns ≤ attemptsLeft workflow)
    (counter : (workflow.map WorkflowInstance.erpRetries).getD 0 ≤ maxRetries) :
    (workflow.map WorkflowInstance.erpRetries).getD 0 + turns ≤ maxRetries := by
  unfold attemptsLeft at within
  omega

/-- A push, whole or cut off, keeps the counter sound. -/
theorem CounterSound.afterPush {invoice : ErpInvoice} (sound : CounterSound invoice) (answers : Nat → ErpAnswer)
    {turns : Nat} (within : turns ≤ attemptsLeft invoice.workflow) :
    CounterSound (invoice.afterPush (pushAttempts answers turns
      ((invoice.workflow.map WorkflowInstance.erpRetries).getD 0) ⟨invoice.status, invoice.workflow, []⟩)) := by
  have counter := sound.start
  have bounded := attemptsLeft_le within counter.2
  intro workflow after
  have range := pushAttempts_counter answers turns counter.1 bounded
    (fun before here => ⟨(sound before here).1, (sound before here).2.1⟩) workflow after
  refine ⟨range.1, range.2, fun afterFailure => ?_⟩
  rcases Bool.or_eq_true_iff.mp afterFailure with already | now
  · cases here : invoice.workflow with
    | none =>
      have idle : (PushState.mk invoice.status invoice.workflow []).workflow = none := here
      rw [ErpInvoice.afterPush, pushAttempts_workflow_none answers turns idle] at after
      cases after
    | some before =>
      have used := (sound before here).2.2 already
      have none' : turns = 0 := by
        simp only [attemptsLeft, here, Option.map_some, Option.getD_some, used] at within
        omega
      subst none'
      have same : some before = some workflow := here.symm.trans after
      rw [← Option.some.inj same]
      exact used
  · obtain ⟨sending, failed⟩ := Bool.and_eq_true_iff.mp now
    have started : (PushState.mk invoice.status invoice.workflow []).status = .sendingToErp := beq_iff_eq.mp sending
    exact pushAttempts_failed answers turns started bounded (beq_iff_eq.mp failed) workflow after

theorem erpMachine_counterSound (invoice : ErpInvoice) (label : ErpLabel) (sound : CounterSound invoice) :
    CounterSound (erpMachine.step invoice label) := by
  cases label with
  | sendToErp =>
    simp only [erpMachine]
    split
    · exact fun workflow here => ⟨(sound workflow here).1, (sound workflow here).2.1, fun failed => nomatch failed⟩
    · exact sound
  | retryErp =>
    simp only [erpMachine]
    cases result : retryErp invoice.status invoice.approvedBy invoice.workflow with
    | error => exact sound
    | ok written =>
      unfold retryErp at result
      split at result
      · cases result
      split at result
      · cases result
      cases result
      intro workflow after
      obtain ⟨before, here, rfl⟩ := Option.map_eq_some_iff.mp after
      simp only [WorkflowInstance.erpRetries, resetErpRetries_stored]
      exact sound before here
  | push answers => exact sound.afterPush answers (Nat.le_refl _)
  | cutPush answers turns => exact sound.afterPush answers (Nat.min_le_right _ _)

theorem reach_counterSound {allowed : ErpInvoice → ErpLabel → Prop} {invoice : ErpInvoice}
    (reach : erpMachine.Reach allowed invoice) : CounterSound invoice := by
  have start : ∀ first, erpMachine.init first → CounterSound first := by
    intro first begins workflow here
    have zero : workflow.erpRetries = 0 := by rw [WorkflowInstance.erpRetries, begins.2.2 workflow here]; rfl
    rw [zero]
    refine ⟨Int.le_refl 0, by decide, fun failed => ?_⟩
    rw [begins.2.1] at failed
    cases failed
  have step : ∀ before label, CounterSound before → allowed before label → CounterSound (erpMachine.step before label) :=
    fun before label sound _ => erpMachine_counterSound before label sound
  exact reach.invariant start step

/-- A push that reaches an outcome. -/
structure PushReaches (invoice : ErpInvoice) (result : PushState) : Prop where
  called : 1 ≤ result.calls.length ∧ result.calls.length ≤ maxRetries
  outcome : result.status = .done ∨ result.status = .failed
  success : result.status = .done ↔ ∃ answer ∈ result.calls, answer.isSuccess = true
  reference : result.status = .done → ∃ answer ∈ result.calls, ∃ reference, answer.outcome = .ok reference ∧
    ∀ workflow, result.workflow = some workflow → workflow.stateData.bind (·.erpReference) = some reference
  fullBudget : invoice.afterFailure = true → result.status = .failed → result.calls.length = maxRetries
  otherKeys : result.workflow.map WorkflowInstance.otherKeys = invoice.workflow.map WorkflowInstance.otherKeys

/-- In any run, a push reaches an outcome if and only if it starts with an attempt left: without a
workflow instance, or with a stored counter below `MAX_RETRIES`. A retry of a failed push of an
invoice with an instance has none. -/
theorem reach_pushReaches_iff {invoice : ErpInvoice} (reach : erpMachine.Reach Machine.Anything invoice)
    (sending : invoice.status = .sendingToErp) (answers : Nat → ErpAnswer) :
    PushReaches invoice (sendToErpInternal invoice.status invoice.workflow answers) ↔
      ∀ workflow, invoice.workflow = some workflow → workflow.erpRetries < maxRetries := by
  have sound := reach_counterSound reach
  have nonneg := sound.start.1
  constructor
  · intro reaches workflow here
    by_contra used
    have none' : attemptsLeft invoice.workflow = 0 := by
      simp only [attemptsLeft, here, Option.map_some, Option.getD_some]
      omega
    have called := reaches.called.1
    rw [sendToErpInternal, none', pushAttempts] at called
    exact absurd called (Nat.not_succ_le_zero 0)
  · intro left
    obtain ⟨remaining, turns, budget, full⟩ : ∃ remaining, attemptsLeft invoice.workflow = remaining + 1 ∧
        (invoice.workflow.map WorkflowInstance.erpRetries).getD 0 + (remaining + 1) = maxRetries ∧
        (invoice.afterFailure = true → remaining + 1 = maxRetries) := by
      obtain ⟨below, fresh⟩ := sound.start_lt left
      refine ⟨attemptsLeft invoice.workflow - 1, ?_, ?_, fun failed => ?_⟩
      · unfold attemptsLeft
        omega
      · unfold attemptsLeft
        omega
      · have zero := fresh failed
        unfold attemptsLeft
        omega
    have started : (PushState.mk invoice.status invoice.workflow []).status = .sendingToErp := sending
    obtain ⟨heard, some', short, calls, ends⟩ := pushAttempts_ends answers remaining started budget
    have kept := (pushAttempts_keeps answers (remaining + 1) ((invoice.workflow.map WorkflowInstance.erpRetries).getD 0)
      ⟨invoice.status, invoice.workflow, []⟩).1
    rw [sendToErpInternal, turns]
    rw [List.nil_append] at calls
    refine ⟨?_, ?_, ?_, ?_, ?_, kept⟩
    · rw [calls]
      exact ⟨List.length_pos_iff.mpr some', by omega⟩
    · rcases ends with ⟨done, _⟩ | ⟨failed, _⟩
      · exact .inl done
      · exact .inr failed
    · rw [calls]
      rcases ends with ⟨done, failures, answer, reference, rfl, _, ok, _⟩ | ⟨failed, _, allFailed, _⟩
      · exact iff_of_true done ⟨answer, List.mem_append_right _ (List.mem_singleton.mpr rfl), ErpAnswer.outcome_ok ok⟩
      · refine iff_of_false (fun done => ?_) ?_
        · rw [failed] at done
          cases done
        · rintro ⟨answer, member, success⟩
          rw [allFailed answer member] at success
          cases success
    · intro done
      rw [calls]
      rcases ends with ⟨_, failures, answer, reference, rfl, _, ok, stored⟩ | ⟨failed, _⟩
      · exact ⟨answer, List.mem_append_right _ (List.mem_singleton.mpr rfl), reference, ok, stored⟩
      · rw [failed] at done
        cases done
    · intro afterFailure failed
      rw [calls]
      rcases ends with ⟨done, _⟩ | ⟨_, used, _⟩
      · rw [failed] at done
        cases done
      · rw [used]
        exact full afterFailure

/-- An approved invoice before its first push. -/
def ErpInvoice.approved : ErpInvoice := ⟨.approved, some "Approver", some ⟨.active, none, none⟩, false⟩

def unavailable : Nat → ErpAnswer := fun _ => .transportError "503"

def accepting : Nat → ErpAnswer := fun _ => .success (some "DOC-1") none

theorem pushReaches_first :
    PushReaches (erpMachine.exec .approved [.sendToErp]) (sendToErpInternal .sendingToErp (some ⟨.active, none, none⟩)
      accepting) := by
  have first : erpMachine.init .approved := ⟨by decide, rfl, fun workflow here => by cases here; rfl⟩
  have sending : (erpMachine.exec .approved [.sendToErp]).status = .sendingToErp := by decide
  refine (reach_pushReaches_iff (Machine.reach_exec first [.sendToErp]) sending accepting).mpr fun workflow here => ?_
  have same : (erpMachine.exec .approved [.sendToErp]).workflow = some ⟨.active, none, none⟩ := by decide
  rw [same] at here
  cases here
  decide

/-- A push fails three times; the retry calls nobody, although the ERP would answer by now, and leaves
the invoice in `sending_to_erp`. -/
theorem retried_push_calls_nobody :
    ∃ labels, (erpMachine.exec .approved labels).status = .sendingToErp ∧
      (erpMachine.exec .approved labels).afterFailure = true ∧
      (sendToErpInternal (erpMachine.exec .approved labels).status (erpMachine.exec .approved labels).workflow
        accepting).calls = [] ∧
      (sendToErpInternal (erpMachine.exec .approved labels).status (erpMachine.exec .approved labels).workflow
        accepting).status = .sendingToErp ∧
      ¬PushReaches (erpMachine.exec .approved labels) (sendToErpInternal (erpMachine.exec .approved labels).status
        (erpMachine.exec .approved labels).workflow accepting) := by
  refine ⟨[.sendToErp, .push unavailable, .retryErp], by decide, by decide, by decide, by decide, fun reaches => ?_⟩
  exact absurd reaches.called.1 (by decide)

end Payables
