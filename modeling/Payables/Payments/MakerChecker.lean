import Payables.Payments.Handoffs

namespace Payables
open Lib Relation

/-- The payment is of no run, or of a run that somebody else than `actor` initiated. -/
def RunByAnother (store : PaymentStore) (id : PaymentId) (actor : UserId) : Prop :=
  ∀ payment ∈ store.payments, payment.id = id → ∀ run ∈ store.runs, payment.paymentRunId = some run.id →
    run.initiatedBy ≠ some actor

/-- A compliance hold is released by somebody else than the initiator of the payment's run. -/
def ReleasedByAnother (store : PaymentStore) : PaymentLabel → Prop
  | .release user id _ _ => RunByAnother store id user
  | .crashInRelease user id _ _ => RunByAnother store id user
  | _ => True

/-- No pass works for the user who initiated its run. -/
def Apart (store : PaymentStore) : Prop :=
  ∀ pass ∈ store.passes, ∀ run ∈ store.runs, run.id = pass.run → run.initiatedBy ≠ some pass.actor

section
variable {config : PaymentConfig} {store after : PaymentStore}

theorem checkRunSegregation_ok {initiatedBy : Option UserId} {actor : UserId} {action : String}
    (enabled : runSegregationEnabled config = true) (checked : checkRunSegregation initiatedBy actor config action = .ok ()) :
    initiatedBy ≠ some actor := by
  intro same
  simp only [checkRunSegregation, enabled, same, and_self, if_true] at checked
  cases checked

/-- Runs keep their initiators, so old passes stay apart from them. -/
theorem Apart.of_kept (apart : Apart store) (ledger : Ledger store) (kept : store.Kept after)
    {pass : DispatchPass} (member : pass ∈ store.passes) {run : PaymentRun} (here : run ∈ after.runs)
    (same : run.id = pass.run) : run.initiatedBy ≠ some pass.actor := by
  rcases kept.runs run here with ⟨old, inOld, sameId, sameInitiator⟩ | issued
  · rw [← sameInitiator]
    exact apart pass member old inOld (sameId.trans same)
  · obtain ⟨claimed, inRuns, sameRun, _⟩ := ledger.claimed pass member
    have below := ledger.runIssued claimed inRuns
    rw [sameRun, ← same] at below
    exact absurd below (Nat.not_lt.mpr issued)

theorem Apart.booking (apart : Apart store) (ledger : Ledger store) (enabled : runSegregationEnabled config = true)
    (booking : Booking config store after) : Apart after := by
  have kept := booking.kept
  intro pass member run here same
  cases booking with
  | outside => exact apart pass member run here same
  | passes passes sources =>
    obtain ⟨old, inOld, sameRun, sameActor, _⟩ := sources pass member
    rw [← sameActor]
    exact apart old inOld run here (same.trans sameRun.symm)
  | enter seen inRuns _ checked =>
    rcases List.mem_append.mp member with old | new
    · exact apart pass old run here same
    · cases List.mem_singleton.mp new
      rw [ledger.run_eq here inRuns same]
      exact checkRunSegregation_ok enabled checked
  | status => exact apart.of_kept ledger kept member here same
  | standalone inserted =>
    rw [(insertPayment_extends inserted).same] at member
    exact apart.of_kept ledger kept member here same
  | retry _ _ inserted =>
    rw [(insertPayment_extends inserted).same] at member
    exact apart.of_kept ledger kept member here same
  | create _ _ _ _ _ booked =>
    obtain ⟨added, extends', _⟩ := bookRunPayments_extends booked
    rw [extends'.same] at member
    exact apart.of_kept ledger kept member here same
  | cancel => exact apart.of_kept ledger kept member here same

theorem Apart.changes {label : PaymentLabel} (apart : Apart store) (ledger : Ledger store)
    (enabled : runSegregationEnabled config = true) (changes : Changes config store label after) : Apart after := by
  obtain ⟨middle, settled, bookings⟩ := changes
  have apartMiddle : Apart middle := by
    cases settled with
    | untouched => exact apart
    | rewritten => exact apart
  have both : Ledger after ∧ Apart after := by
    induction bookings with
    | refl => exact ⟨settled.ledger ledger, apartMiddle⟩
    | tail _ booking ih => exact ⟨ih.1.booking booking, ih.2.booking ih.1 enabled booking⟩
  exact both.2

theorem reach_apart {allowed : PaymentStore → PaymentLabel → Prop} (enabled : runSegregationEnabled config = true)
    (reach : (paymentMachine config).Reach allowed store) : Apart store := by
  have start : ∀ first, (paymentMachine config).init first → Ledger first ∧ Apart first := by
    intro first begins
    refine ⟨.empty begins.1 begins.2.1 begins.2.2, fun pass member => ?_⟩
    rw [begins.2.2] at member
    cases member
  have step : ∀ before label, Ledger before ∧ Apart before → allowed before label →
      Ledger ((paymentMachine config).step before label) ∧ Apart ((paymentMachine config).step before label) := by
    intro before label holds _
    have changes : Changes config before label _ := runPaymentLabel_changes holds.1 label
    exact ⟨changes.ledger holds.1, holds.2.changes holds.1 enabled changes⟩
  exact (reach.invariant start step).2

/-- A handoff out of a pass is never the initiator's, and one out of a release is whoever released. -/
theorem handoff_runByAnother_iff {label : PaymentLabel} {handoff : Handoff} (ledger : Ledger store) (apart : Apart store)
    (handed : (runPaymentLabel config store label).2 = some handoff) :
    RunByAnother store handoff.payment handoff.actor ↔ ReleasedByAnother store label := by
  obtain ⟨payment, member, env, sends, sent⟩ := handoff_cases handed
  obtain ⟨sameId, _⟩ := handoffOf_some sent
  rw [sameId]
  cases sends with
  | @pass index pass rest _ section' current queue sameActor =>
    have mine := ((ledger.queued pass (List.mem_of_getElem? current) _ queue payment.id List.mem_cons_self).2 payment member
      rfl)
    have safe : RunByAnother store payment.id handoff.actor := by
      intro other also same run inRuns owned
      rw [ledger.rows.eq_of_id also member same, mine] at owned
      rw [← sameActor]
      exact apart pass (List.mem_of_getElem? current) run inRuns (Option.some.inj owned).symm
    rcases section' with rfl | rfl
    · exact iff_of_true safe trivial
    · exact iff_of_true safe trivial
  | release section' =>
    rcases section' with rfl | rfl
    · exact Iff.rfl
    · exact Iff.rfl

end

/-- Maker and checker stay apart over whole runs as long as no compliance hold is released by the
initiator of the payment's run. Step by step that is also exactly what it takes: in any reachable
store, a section that calls outside does so for another user than the initiator if and only if it
is no release by the initiator. -/
theorem reach_handoffs_runByAnother {config : PaymentConfig} (enabled : runSegregationEnabled config = true) :
    (∀ store, (paymentMachine config).Reach ReleasedByAnother store → ∀ label, ReleasedByAnother store label →
      ∀ handoff, (runPaymentLabel config store label).2 = some handoff →
        RunByAnother store handoff.payment handoff.actor) ∧
    ∀ store, (paymentMachine config).Reach Machine.Anything store →
      ∀ label handoff, (runPaymentLabel config store label).2 = some handoff →
        (RunByAnother store handoff.payment handoff.actor ↔ ReleasedByAnother store label) := by
  have exactly : ∀ store, (paymentMachine config).Reach Machine.Anything store →
      ∀ label handoff, (runPaymentLabel config store label).2 = some handoff →
        (RunByAnother store handoff.payment handoff.actor ↔ ReleasedByAnother store label) :=
    fun store reach label handoff handed =>
      handoff_runByAnother_iff (reach_ledger reach) (reach_apart enabled reach) handed
  refine ⟨fun store reach label permitted handoff handed => ?_, exactly⟩
  exact (exactly store (reach.weaken fun _ _ _ => trivial) label handoff handed).mpr permitted

/-- A run whose only payment compliance holds. -/
def heldRun : List PaymentLabel :=
  [.createRun "maker" [(1, "ach")] false, .executeRun "checker" 0 none, .readPending 0,
    .dispatchNext 0 { DispatchEnv.hearing (.error "") with compliance := .ok (.hold "aml") }, .finishPass 0 1]

theorem runByAnother_heldRun :
    RunByAnother ((paymentMachine ⟨none, 0⟩).exec (.approved [1]) heldRun) 1 "other" := by
  have permitted : ReleasedByAnother ((paymentMachine ⟨none, 0⟩).exec (.approved [1]) heldRun)
      (.release "other" 1 none (.hearing (.ok ⟨.submitted, some "order-1", none, none⟩))) := by
    have found : ((paymentMachine ⟨none, 0⟩).exec (.approved [1]) heldRun).runs.all (·.initiatedBy == some "maker") = true := by
      decide +kernel
    intro payment _ _ run inRuns _ same
    rw [beq_iff_eq.mp (List.all_eq_true.mp found run inRuns)] at same
    exact absurd same (by decide)
  have handed : (runPaymentLabel ⟨none, 0⟩ ((paymentMachine ⟨none, 0⟩).exec (.approved [1]) heldRun)
      (.release "other" 1 none (.hearing (.ok ⟨.submitted, some "order-1", none, none⟩)))).2 =
        some ⟨1, 1, 2, "other", .createPayment⟩ := by decide +kernel
  have first : (paymentMachine ⟨none, 0⟩).init (.approved [1]) := ⟨rfl, rfl, rfl⟩
  have enabled : runSegregationEnabled ⟨none, 0⟩ = true := rfl
  exact ((reach_handoffs_runByAnother enabled).2 _ (Machine.reach_exec first heldRun) _ _ handed).mpr permitted

/-- The initiator of a run releases its held payment and so hands it to the processor. -/
theorem maker_releases_own_run :
    runSegregationEnabled ⟨none, 0⟩ = true ∧ ∃ labels label handoff,
      (runPaymentLabel ⟨none, 0⟩ ((paymentMachine ⟨none, 0⟩).exec (.approved [1]) labels) label).2 = some handoff ∧
        ¬RunByAnother ((paymentMachine ⟨none, 0⟩).exec (.approved [1]) labels) handoff.payment handoff.actor := by
  have handed : (runPaymentLabel ⟨none, 0⟩ ((paymentMachine ⟨none, 0⟩).exec (.approved [1]) heldRun)
      (.release "maker" 1 none (.hearing (.ok ⟨.submitted, some "order-1", none, none⟩)))).2 =
        some ⟨1, 1, 2, "maker", .createPayment⟩ := by decide +kernel
  have own : ∃ payment ∈ ((paymentMachine ⟨none, 0⟩).exec (.approved [1]) heldRun).payments, payment.id = 1 ∧
      ∃ run ∈ ((paymentMachine ⟨none, 0⟩).exec (.approved [1]) heldRun).runs,
        payment.paymentRunId = some run.id ∧ run.initiatedBy = some "maker" := by decide +kernel
  refine ⟨rfl, heldRun, _, _, handed, fun another => ?_⟩
  obtain ⟨payment, member, same, run, inRuns, owned, initiated⟩ := own
  exact another payment member same run inRuns owned initiated

end Payables
