import Payables.Payments.Changes

namespace Payables
open Lib

/-- Where a section that calls outside takes its payment from, and for whom. A crash after the call
loses the commit, not the call. -/
inductive Sends (store : PaymentStore) (payment : Payment) (actor : UserId) (env : DispatchEnv) : PaymentLabel → Prop
  | pass {index : Nat} {pass : DispatchPass} {rest : List PaymentId} {label : PaymentLabel}
      (section' : label = .dispatchNext index env ∨ label = .crashInDispatch index env)
      (current : store.passes[index]? = some pass) (queue : pass.queue = some (payment.id :: rest))
      (sameActor : pass.actor = actor) (waiting : payment.status = .pending) : Sends store payment actor env label
  | release {provider : Option String} {label : PaymentLabel}
      (section' : label = .release actor payment.id provider env ∨ label = .crashInRelease actor payment.id provider env)
      (held : payment.status = .pendingCompliance) : Sends store payment actor env label

section
variable {config : PaymentConfig} {store : PaymentStore} {label : PaymentLabel} {handoff : Handoff}

theorem handoffOf_some {payment : Payment} {actor : UserId} {called : Option Rail}
    (sent : handoffOf payment actor called = some handoff) : handoff.payment = payment.id ∧
      handoff.invoice = payment.invoiceId ∧ handoff.correlationId = payment.correlationId.getD payment.id ∧
      handoff.actor = actor ∧ called = some handoff.rail := by
  obtain ⟨rail, rfl, rfl⟩ := Option.map_eq_some_iff.mp sent
  exact ⟨rfl, rfl, rfl, rfl, rfl⟩

theorem dispatchNextPayment_sends {index : Nat} {env : DispatchEnv}
    (section' : label = .dispatchNext index env ∨ label = .crashInDispatch index env)
    (handed : (dispatchNextPayment store index env).2 = some handoff) :
    ∃ payment ∈ store.payments, Sends store payment handoff.actor env label ∧
      handoffOf payment handoff.actor (attempt store payment env).called = some handoff := by
  unfold dispatchNextPayment at handed
  split at handed
  · cases handed
  next pass current =>
  split at handed
  · cases handed
  · cases handed
  next id rest queue =>
  split at handed
  · cases handed
  next payment found =>
  obtain ⟨member, rfl⟩ := payment?_some found
  split at handed
  · cases handed
  next waiting =>
  have sameActor := (handoffOf_some handed).2.2.2.1
  refine ⟨payment, member, .pass section' current queue sameActor.symm (not_not.mp waiting), ?_⟩
  rw [sameActor]
  exact handed

theorem releaseComplianceHold_sends {user : UserId} {id : PaymentId} {provider : Option String} {env : DispatchEnv}
    {released : PaymentStore × Option Handoff}
    (section' : label = .release user id provider env ∨ label = .crashInRelease user id provider env)
    (accepted : releaseComplianceHold store user id provider env = .ok released) (handed : released.2 = some handoff) :
    ∃ payment ∈ store.payments, Sends store payment handoff.actor env label ∧
      handoffOf payment handoff.actor (attempt store payment env).called = some handoff := by
  unfold releaseComplianceHold at accepted
  split at accepted
  · cases accepted
  next payment found =>
  obtain ⟨member, rfl⟩ := payment?_some found
  split at accepted
  · cases accepted
  next held =>
  split at accepted
  · cases accepted
  cases accepted
  obtain ⟨_, _, _, rfl, _⟩ := handoffOf_some handed
  exact ⟨payment, member, .release section' (not_not.mp held), handed⟩

/-- Every outside call is made for a committed row of one of the two dispatchable statuses. -/
theorem handoff_cases (handed : (runPaymentLabel config store label).2 = some handoff) :
    ∃ payment ∈ store.payments, ∃ env, Sends store payment handoff.actor env label ∧
      handoffOf payment handoff.actor (attempt store payment env).called = some handoff := by
  have unchanged (result : Except Raised PaymentStore) : (orUnchanged store result).2 ≠ some handoff := by
    cases result <;> exact fun none' => nomatch none'
  cases label with
  | dispatchNext index env =>
    obtain ⟨payment, member, sent⟩ := dispatchNextPayment_sends (.inl rfl) handed
    exact ⟨payment, member, env, sent⟩
  | crashInDispatch index env =>
    obtain ⟨payment, member, sent⟩ := dispatchNextPayment_sends (.inr rfl) handed
    exact ⟨payment, member, env, sent⟩
  | release user id provider env =>
    simp only [runPaymentLabel] at handed
    split at handed
    · next accepted =>
      obtain ⟨payment, member, sent⟩ := releaseComplianceHold_sends (.inl rfl) accepted handed
      exact ⟨payment, member, env, sent⟩
    · cases handed
  | crashInRelease user id provider env =>
    simp only [runPaymentLabel] at handed
    split at handed
    · next accepted =>
      obtain ⟨payment, member, sent⟩ := releaseComplianceHold_sends (.inr rfl) accepted handed
      exact ⟨payment, member, env, sent⟩
    · cases handed
  | createRun => exact absurd handed (unchanged _)
  | createPayment => exact absurd handed (unchanged _)
  | approveRun => exact absurd handed (unchanged _)
  | cancelRun => exact absurd handed (unchanged _)
  | executeRun => exact absurd handed (unchanged _)
  | resumeRun => exact absurd handed (unchanged _)
  | retryFailed => exact absurd handed (unchanged _)
  | dismiss => exact absurd handed (unchanged _)
  | void => exact absurd handed (unchanged _)
  | readPending => cases handed
  | finishPass => cases handed
  | crash => cases handed
  | webhook => cases handed
  | ageOut => cases handed
  | poll => cases handed
  | openException => cases handed
  | setExceptionStatus => cases handed
  | putInvoice => cases handed

end

theorem Sends.waiting {store : PaymentStore} {payment : Payment} {actor : UserId} {env : DispatchEnv} {label : PaymentLabel}
    (sends : Sends store payment actor env label) : payment.status = .pending ∨ payment.status = .pendingCompliance := by
  cases sends with
  | pass _ _ _ _ waiting => exact .inl waiting
  | release _ held => exact .inr held

/-- Exactly-once dispatch, as one store shows it: an invoice has one live payment at most (none that
has not ended beside another), an outside call is made for a waiting row under the row's own
correlation id, and no later request gives the row another one. -/
structure DispatchedOnce (config : PaymentConfig) (store : PaymentStore) : Prop where
  oneLive : ∀ payment ∈ store.payments, ∀ other ∈ store.payments, payment.invoiceId = other.invoiceId →
    payment.status.isLive = true → other.status.isLive = true → payment = other
  waiting : ∀ label handoff, (runPaymentLabel config store label).2 = some handoff → ∃ payment ∈ store.payments,
    handoff.payment = payment.id ∧ handoff.invoice = payment.invoiceId ∧
      payment.correlationId = some handoff.correlationId ∧
      (payment.status = .pending ∨ payment.status = .pendingCompliance)
  sameKey : ∀ payment ∈ store.payments, ∀ labels, ∀ later ∈ ((paymentMachine config).exec store labels).payments,
    later.id = payment.id → later.correlationId = payment.correlationId
  ownKey : ∀ payment ∈ store.payments, ∀ other ∈ store.payments, payment.correlationId = other.correlationId →
    payment = other

theorem Ledger.dispatchedOnce {store : PaymentStore} (ledger : Ledger store) (config : PaymentConfig) :
    DispatchedOnce config store where
  oneLive := ledger.rows.oneLive
  waiting := by
    intro label handoff handed
    obtain ⟨payment, member, env, sends, sent⟩ := handoff_cases handed
    obtain ⟨sameId, sameInvoice, sameKey, _⟩ := handoffOf_some sent
    refine ⟨payment, member, sameId, sameInvoice, ?_, sends.waiting⟩
    rw [sameKey, (ledger.rows.issued payment member).2]
    rfl
  sameKey := by
    intro payment member labels later here same
    have step : ∀ before label, Ledger before → Ledger ((paymentMachine config).step before label) :=
      fun before label holds => (runPaymentLabel_changes holds label).ledger holds
    have after := Machine.exec_invariant step ledger labels
    rw [(ledger.rows.issued payment member).2, (after.rows.issued later here).2, same]
  ownKey := by
    intro payment member other also same
    rw [(ledger.rows.issued payment member).2, (ledger.rows.issued other also).2] at same
    exact ledger.rows.eq_of_id member also (Nat.succ.inj (Option.some.inj same))

/-- Exactly-once dispatch, under any interleaving of sections and crashes. -/
theorem reach_dispatchedOnce {config : PaymentConfig} {store : PaymentStore}
    (reach : (paymentMachine config).Reach Machine.Anything store) : DispatchedOnce config store :=
  (reach_ledger reach).dispatchedOnce config

/-- A dispatch whose request dies after the call, and the resumed run that meets the row again. -/
def resumedRun : List PaymentLabel :=
  [.createRun "maker" [(1, "ach")] false, .executeRun "checker" 0 none, .readPending 0,
    .crashInDispatch 0 (.hearing (.ok ⟨.submitted, some "order-1", none, none⟩)), .resumeRun "checker" 0 none, .readPending 0]

theorem dispatchedOnce_resumedRun :
    (runPaymentLabel ⟨none, 0⟩ ((paymentMachine ⟨none, 0⟩).exec (.approved [1]) resumedRun)
      (.dispatchNext 0 (.hearing (.ok ⟨.submitted, some "order-1", none, none⟩)))).2 =
        some ⟨1, 1, 2, "checker", .createPayment⟩ ∧
      DispatchedOnce ⟨none, 0⟩ ((paymentMachine ⟨none, 0⟩).exec (.approved [1]) resumedRun) := by
  have first : (paymentMachine ⟨none, 0⟩).init (.approved [1]) := ⟨rfl, rfl, rfl⟩
  exact ⟨by decide +kernel, reach_dispatchedOnce (Machine.reach_exec first resumedRun)⟩

end Payables
