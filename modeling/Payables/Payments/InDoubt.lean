import Payables.Payments.Handoffs

namespace Payables
open Lib Relation

/-- A card leg that ends in no failure, or in one that is safe to send again. -/
def CardLeg.isClear : CardLeg → Bool
  | .unusable reason => classifyPaymentFailure (some reason) none == .retrySafe
  | .notIssued failureReason =>
    classifyPaymentFailure (some (orText failureReason "card_issuance_failed")) none == .retrySafe
  | _ => true

/-- Everybody a dispatch asks answers, and no answer leaves it open whether an order exists. -/
def DispatchEnv.isClear (env : DispatchEnv) : Bool :=
  match env.compliance, env.card, env.fx, env.adapter, env.late with
  | .ok _, .ok leg, .ok fx, .ok answer, none =>
    leg.isClear && fx != .unsupportedProvider && (answer.status != .failed ||
      classifyPaymentFailure answer.failureReason answer.providerPaymentId == .retrySafe)
  | _, _, _, _, _ => false

def Payment.isUnsent (payment : Payment) : Bool := payment.providerPaymentId.getD "" == ""

/-- The payment a pass dispatches next. -/
def PaymentStore.nextPayment? (store : PaymentStore) (index : Nat) : Option Payment :=
  ((store.passes[index]?.bind (·.queue)).bind List.head?).bind store.payment?

/-- A step that fails no payment in doubt, or flags the one it does. -/
def endsClear (store : PaymentStore) : PaymentLabel → Bool
  | .dispatchNext index env => (store.nextPayment? index).all fun payment =>
    (store.invoice? payment.invoiceId).isSome && payment.isUnsent && env.isClear
  | .release _ id _ env => (store.payment? id).all fun payment =>
    (store.invoice? payment.invoiceId).isSome && payment.isUnsent && env.isClear
  | .dismiss _ id _ _ => (store.payment? id).all (·.isUnsent)
  | .webhook _ status _ _ _ => status != .failed
  | .poll _ upstream _ => upstream != .failed
  | .ageOut _ _ _ flagged => flagged
  | _ => true

/-- A dispatch that raised nothing and failed nothing in doubt. -/
def DispatchResult.Clear (result : DispatchResult) : Prop :=
  result.raised = none ∧ (result.payment.status = .failed → result.payment.isRetrySafe = true)

section
variable {payment : Payment} {env : DispatchEnv}

theorem Payment.isRetrySafe_fail (unsent : payment.isUnsent = true) {start reason : String}
    (listed : start ∈ retrySafeFailurePrefixes) (opens : ∃ rest, reason = start ++ rest) (now : Time) :
    (payment.fail now reason).isRetrySafe = true := by
  obtain ⟨rest, rfl⟩ := opens
  have safe := classifyPaymentFailure_of_prefix listed rest (beq_iff_eq.mp unsent)
  exact beq_iff_eq.mpr safe

theorem opens_append {start head gap : String} (same : head = start ++ gap) (rest : String) :
    ∃ tail, head ++ rest = start ++ tail := ⟨gap ++ rest, by rw [same, String.append_assoc]⟩

theorem DispatchResult.Clear.of_fail (unsent : payment.isUnsent = true) {start reason : String}
    (listed : start ∈ retrySafeFailurePrefixes) (opens : ∃ rest, reason = start ++ rest) (now : Time) :
    (DispatchResult.quiet (payment.fail now reason)).Clear :=
  ⟨rfl, fun _ => Payment.isRetrySafe_fail unsent listed opens now⟩

theorem DispatchResult.Clear.of_hold (reason : String) : (DispatchResult.quiet (payment.hold reason)).Clear :=
  ⟨rfl, fun failed => nomatch failed⟩

theorem DispatchEnv.isClear_spec (clear : env.isClear = true) : (∃ verdict, env.compliance = .ok verdict) ∧
    (∃ leg, env.card = .ok leg ∧ leg.isClear = true) ∧ (∃ fx, env.fx = .ok fx ∧ fx ≠ .unsupportedProvider) ∧
    (∃ answer, env.adapter = .ok answer ∧ (answer.status = .failed →
      classifyPaymentFailure answer.failureReason answer.providerPaymentId = .retrySafe)) ∧ env.late = none := by
  unfold isClear at clear
  split at clear
  · next verdict leg fx answer compliance card rate adapter late =>
    simp only [Bool.and_eq_true, Bool.or_eq_true, bne_iff_ne, beq_iff_eq] at clear
    obtain ⟨⟨card', fx'⟩, adapter'⟩ := clear
    refine ⟨⟨verdict, compliance⟩, ⟨leg, card, card'⟩, ⟨fx, rate, fx'⟩, ⟨answer, adapter, fun failed => ?_⟩, late⟩
    exact adapter'.resolve_left (not_not.mpr failed)
  · cases clear

theorem screen_clear {send : DispatchResult} (unsent : payment.isUnsent = true) (clear : env.isClear = true)
    (sent : send.Clear) : (screen payment env send).Clear := by
  obtain ⟨⟨verdict, compliance⟩, _⟩ := DispatchEnv.isClear_spec clear
  unfold screen
  split
  · exact .of_hold _
  rw [compliance]
  cases verdict with
  | pass => exact sent
  | refuse reasons =>
    have listed : "compliance_refusal:" ∈ retrySafeFailurePrefixes := by decide
    have gap : "compliance_refusal: " = "compliance_refusal:" ++ " " := by decide
    exact .of_fail unsent listed (opens_append gap reasons) _
  | hold reasons => exact .of_hold _

theorem sendCard_clear (invoice : PayableInvoice) (unsent : payment.isUnsent = true) (clear : env.isClear = true) :
    (sendCard invoice payment env).Clear := by
  obtain ⟨_, ⟨leg, card, legClear⟩, _, _, late⟩ := DispatchEnv.isClear_spec clear
  have noHandle (reason : String) (safe : classifyPaymentFailure (some reason) none = .retrySafe) :
      (payment.fail env.now reason).isRetrySafe = true := by
    have same : classifyPaymentFailure (some reason) payment.providerPaymentId =
        classifyPaymentFailure (some reason) none := by
      simp only [classifyPaymentFailure, beq_iff_eq.mp unsent, Option.getD_none]
    exact beq_iff_eq.mpr (same.trans safe)
  unfold sendCard
  rw [card]
  cases leg with
  | converged => exact ⟨late, PaymentStatus.noConfusion⟩
  | minted => exact ⟨late, PaymentStatus.noConfusion⟩
  | unusable reason => exact ⟨rfl, fun _ => noHandle reason (beq_iff_eq.mp legClear)⟩
  | notIssued reason => exact ⟨rfl, fun _ => noHandle _ (beq_iff_eq.mp legClear)⟩
  | conflict =>
    have listed : "card_issuance_conflict" ∈ retrySafeFailurePrefixes := by decide
    exact ⟨rfl, fun _ => Payment.isRetrySafe_fail unsent listed ⟨"", String.append_empty.symm⟩ _⟩

theorem sendToAdapter_clear (invoice : PayableInvoice) (clear : env.isClear = true) :
    (sendToAdapter invoice payment env).Clear := by
  obtain ⟨_, _, _, ⟨answer, adapter, failing⟩, late⟩ := DispatchEnv.isClear_spec clear
  unfold sendToAdapter
  rw [adapter]
  simp only
  cases status : answer.status with
  | completed => exact ⟨late, fun failed => nomatch failed⟩
  | submitted => exact ⟨late, fun failed => nomatch failed⟩
  | processing => exact ⟨late, fun failed => nomatch failed⟩
  | pending => exact ⟨rfl, fun failed => nomatch failed⟩
  | cancelled => exact ⟨rfl, fun failed => nomatch failed⟩
  | failed => exact ⟨rfl, fun _ => beq_iff_eq.mpr (failing status)⟩

theorem sendByRail_clear (invoice : PayableInvoice) (unsent : payment.isUnsent = true) (clear : env.isClear = true) :
    (sendByRail invoice payment env).Clear := by
  obtain ⟨_, _, ⟨leg, rate, supported⟩, _⟩ := DispatchEnv.isClear_spec clear
  unfold sendByRail
  rw [rate]
  by_cases locked : payment.fxRate.isSome = true
  · rw [if_pos locked]
    exact screen_clear unsent clear (sendToAdapter_clear invoice clear)
  rw [if_neg locked]
  cases leg with
  | notNeeded => exact screen_clear unsent clear (sendToAdapter_clear invoice clear)
  | unsupportedProvider => exact absurd rfl supported
  | refused message =>
    have listed : "international_payment_error:" ∈ retrySafeFailurePrefixes := by decide
    have gap : "international_payment_error: " = "international_payment_error:" ++ " " := by decide
    exact .of_fail unsent listed (opens_append gap message) _
  | routed method => exact screen_clear unsent clear (sendToAdapter_clear invoice clear)
  | locked method fxRate => exact screen_clear unsent clear (sendToAdapter_clear invoice clear)

/-- A dispatch of an unsent payment that everybody answers fails nothing in doubt. -/
theorem attempt_clear {store : PaymentStore} (known : (store.invoice? payment.invoiceId).isSome = true)
    (unsent : payment.isUnsent = true) (clear : env.isClear = true) : (attempt store payment env).Clear := by
  obtain ⟨invoice, found⟩ := Option.isSome_iff_exists.mp known
  have executed : (executeSinglePayment (store.invoice? payment.invoiceId) store.exceptions payment env).Clear := by
    rw [found]
    unfold executeSinglePayment
    simp only
    split
    · have listed : "invoice_not_payable" ∈ retrySafeFailurePrefixes := by decide
      have gap : "invoice_not_payable:" = "invoice_not_payable" ++ ":" := by decide
      exact .of_fail unsent listed (opens_append gap _) _
    split
    · next type _ =>
      have listed : "invoice_blocked:" ∈ retrySafeFailurePrefixes := by decide
      exact .of_fail unsent listed ⟨type.value, rfl⟩ _
    split
    · have listed : "invoice_has_live_card" ∈ retrySafeFailurePrefixes := by decide
      exact .of_fail unsent listed ⟨"", String.append_empty.symm⟩ _
    split
    · have listed : "net_amount_changed" ∈ retrySafeFailurePrefixes := by decide
      exact .of_fail unsent listed ⟨"", String.append_empty.symm⟩ _
    split
    · exact screen_clear unsent clear (sendCard_clear invoice unsent clear)
    · exact sendByRail_clear invoice unsent clear
  simp only [attempt, attemptPayment, executed.1]
  exact executed

/-- An exception that stands for the payment's open end: its row in the queue blocks the invoice
until somebody resolves or dismisses it. -/
def InvoiceException.StandsFor (exception : InvoiceException) (payment : Payment) : Prop :=
  exception.invoiceId = payment.invoiceId ∧ exception.exceptionType = .paymentReconciliation ∧
    payment.id ∈ exception.covers

/-- Every payment that failed in doubt has its exception. -/
def Accounted (store : PaymentStore) : Prop :=
  ∀ payment ∈ store.payments, payment.status = .failed → payment.isRetrySafe = true ∨
    ∃ exception ∈ store.exceptions, exception.StandsFor payment

variable {config : PaymentConfig} {store after : PaymentStore}

theorem StandsFor.of_kept (kept : store.Kept after)
    (here : ∃ exception ∈ store.exceptions, exception.StandsFor payment) :
    ∃ exception ∈ after.exceptions, exception.StandsFor payment := by
  obtain ⟨exception, member, sameInvoice, type, covered⟩ := here
  obtain ⟨later, inLater, invoice, sameType, covers⟩ := kept.exceptions exception member
  exact ⟨later, inLater, invoice.trans sameInvoice, sameType.trans type, covers covered⟩

theorem Accounted.of_kept (accounted : Accounted store) (kept : store.Kept after) : Accounted after := by
  intro payment member failed
  rcases kept.payments payment member with old | pending
  · exact (accounted payment old failed).imp_right (StandsFor.of_kept kept)
  · rw [failed] at pending
    cases pending

theorem flagAgedOutPayment_standsFor (exceptions : List InvoiceException) (payment : Payment) :
    ∃ exception ∈ flagAgedOutPayment exceptions payment, exception.StandsFor payment := by
  simp only [flagAgedOutPayment]
  split
  · next held =>
    obtain ⟨exception, member, holds⟩ := List.any_eq_true.mp held
    refine ⟨_, List.mem_map_of_mem member, ?_⟩
    rw [if_pos holds]
    simp only [Bool.and_eq_true, beq_iff_eq] at holds
    exact ⟨holds.1.1, holds.1.2, List.mem_cons_self⟩
  · exact ⟨_, List.mem_append_right _ (List.mem_singleton.mpr rfl), rfl, rfl, List.mem_cons_self⟩

/-- The reconciler opens the exception in the step that ages the payment out. -/
theorem Accounted.ageOut (accounted : Accounted store) (id : PaymentId) (now : Time) (hours : String) :
    Accounted (ageOutPayment config store id now hours true) := by
  unfold ageOutPayment
  split
  · exact accounted
  next aged found =>
  split
  · intro payment member failed
    rcases mem_putRow member with rfl | ⟨old, _⟩
    · exact .inr (flagAgedOutPayment_standsFor store.exceptions aged)
    · refine (accounted payment old failed).imp_right ?_
      rintro ⟨exception, inTable, sameInvoice, type, covered⟩
      obtain ⟨later, inLater, invoice, sameType, covers⟩ := flagAgedOutPayment_kept _ aged exception inTable
      exact ⟨later, inLater, invoice.trans sameInvoice, sameType.trans type, covers covered⟩
  · exact accounted

/-- A rewrite by a step that ends clear fails no payment in doubt, aging out apart. -/
theorem Outcome.retrySafe {label : PaymentLabel} {written : Payment} (outcome : Outcome store payment label written)
    (clear : endsClear store label = true) (failed : written.status = .failed) :
    written.isRetrySafe = true ∨ ∃ id now hours, label = .ageOut id now hours true := by
  cases outcome with
  | @dispatched index _ _ _ current queue found waiting =>
    have next' : store.nextPayment? index = some payment := by
      simp only [PaymentStore.nextPayment?, current, queue, found, Option.bind_some, List.head?_cons]
    simp only [endsClear, next', Option.all_some, Bool.and_eq_true] at clear
    exact .inl ((attempt_clear clear.1.1 clear.1.2 clear.2).2 failed)
  | released found held =>
    simp only [endsClear, found, Option.all_some, Bool.and_eq_true] at clear
    exact .inl ((attempt_clear clear.1.1 clear.1.2 clear.2).2 failed)
  | dismissed found held =>
    simp only [endsClear, found, Option.all_some] at clear
    have listed : "compliance_dismissed" ∈ retrySafeFailurePrefixes := by decide
    exact .inl (Payment.isRetrySafe_fail clear listed ⟨_, rfl⟩ _)
  | voided => cases failed
  | @event _ status =>
    cases status with
    | failed => cases clear
    | _ => cases failed
  | @aged now hours flagged =>
    have landed : flagged = true := clear
    exact .inr ⟨payment.id, now, hours, by rw [landed]⟩
  | @polled upstream =>
    cases upstream with
    | failed => cases clear
    | _ => cases failed

theorem Accounted.changes {label : PaymentLabel} (accounted : Accounted store) (clear : endsClear store label = true)
    (changes : Changes config store label after) (other : ∀ id now hours, label ≠ .ageOut id now hours true) :
    Accounted after := by
  obtain ⟨middle, settled, bookings⟩ := changes
  have between : Accounted middle := by
    cases settled with
    | untouched => exact accounted
    | rewritten member outcome =>
      intro payment here failed
      rcases mem_putRow here with rfl | ⟨old, _⟩
      · refine .inl ((outcome.retrySafe clear failed).resolve_right ?_)
        rintro ⟨id, now, hours, same⟩
        exact other id now hours same
      · exact accounted payment old failed
  exact between.of_kept (bookings_kept bookings)

theorem reach_accounted (reach : (paymentMachine config).Reach (fun store label => endsClear store label = true) store) :
    Accounted store := by
  have start : ∀ first, (paymentMachine config).init first → Ledger first ∧ Accounted first := by
    intro first begins
    refine ⟨.empty begins.1 begins.2.1 begins.2.2, fun payment member => ?_⟩
    rw [begins.1] at member
    cases member
  have step : ∀ before label, Ledger before ∧ Accounted before → endsClear before label = true →
      Ledger ((paymentMachine config).step before label) ∧ Accounted ((paymentMachine config).step before label) := by
    intro before label holds clear
    have changes : Changes config before label _ := runPaymentLabel_changes holds.1 label
    refine ⟨changes.ledger holds.1, ?_⟩
    by_cases aging : ∃ id now hours, label = .ageOut id now hours true
    · obtain ⟨id, now, hours, rfl⟩ := aging
      exact holds.2.ageOut id now hours
    · exact holds.2.changes clear changes fun id now hours same => aging ⟨id, now, hours, same⟩
  exact (reach.invariant start step).2

end

/-- A dispatch calls nobody for an invoice that an exception blocks. -/
theorem attempt_called {store : PaymentStore} {payment : Payment} {env : DispatchEnv} {rail : Rail}
    (called : (attempt store payment env).called = some rail) :
    blockingExceptionType store.exceptions payment.invoiceId = none := by
  have executed : (executeSinglePayment (store.invoice? payment.invoiceId) store.exceptions payment env).called =
      some rail := by
    simp only [attempt, attemptPayment] at called
    split at called <;> exact called
  unfold executeSinglePayment at executed
  split at executed
  · cases executed
  next invoice found =>
  have same : invoice.id = payment.invoiceId := (getRow_some found).2
  split at executed
  · cases executed
  split at executed
  · cases executed
  next free => rwa [same] at free

/-- Every earlier attempt for the invoice of a handoff that ended `failed` is retry-safe, or a human
has cleared the exception that stands for it. -/
def NoneInDoubt (store : PaymentStore) (handoff : Handoff) : Prop :=
  ∀ payment ∈ store.payments, payment.invoiceId = handoff.invoice → payment.status = .failed →
    payment.isRetrySafe = true ∨ ∃ exception ∈ store.exceptions, exception.StandsFor payment ∧
      (exception.status = .resolved ∨ exception.status = .dismissed)

/-- No second order while an earlier attempt is in doubt: in every run whose steps all end clear,
whatever the next step calls, and for whichever invoice. -/
theorem reach_noneInDoubt {config : PaymentConfig} {store : PaymentStore}
    (reach : (paymentMachine config).Reach (fun store label => endsClear store label = true) store)
    {label : PaymentLabel} {handoff : Handoff} (handed : (runPaymentLabel config store label).2 = some handoff) :
    NoneInDoubt store handoff := by
  obtain ⟨sent, member, env, _, called⟩ := handoff_cases handed
  obtain ⟨_, sameInvoice, _, _, rail⟩ := handoffOf_some called
  have free := attempt_called rail
  intro payment here invoice failed
  refine (reach_accounted reach payment here failed).imp_right ?_
  rintro ⟨exception, inTable, stands⟩
  refine ⟨exception, inTable, stands, ?_⟩
  have open' := blockingExceptionType_eq_none free inTable
  by_contra unresolved
  rw [not_or] at unresolved
  have blocking : exception.isBlocking sent.invoiceId = true := by
    simp only [InvoiceException.isBlocking, stands.1, stands.2.1, invoice, sameInvoice, Bool.and_eq_true, beq_iff_eq,
      bne_iff_ne, ne_eq]
    exact ⟨⟨⟨trivial, by decide⟩, unresolved.1⟩, unresolved.2⟩
  rw [blocking] at open'
  cases open'

/-- The processor keeps an order silent until the reconciler ages it out; a human clears the exception
and a second run pays the invoice. -/
def agedOutRun : List PaymentLabel :=
  [.createRun "maker" [(1, "ach")] false, .executeRun "checker" 0 none, .readPending 0,
    .dispatchNext 0 (.hearing (.ok ⟨.submitted, some "order-1", none, none⟩)), .finishPass 0 1, .ageOut 1 10 "24.0" true,
    .setExceptionStatus 0 .resolved, .putInvoice ⟨1, "INV", .approved, "USD", 100, 0, false⟩,
    .createRun "maker" [(1, "ach")] false, .executeRun "checker" 3 none, .readPending 0]

theorem noneInDoubt_agedOutRun :
    NoneInDoubt ((paymentMachine ⟨none, 0⟩).exec (.approved [1]) agedOutRun) ⟨4, 1, 5, "checker", .createPayment⟩ := by
  have first : (paymentMachine ⟨none, 0⟩).init (.approved [1]) := ⟨rfl, rfl, rfl⟩
  have clear : (paymentMachine ⟨none, 0⟩).Permits (fun store label => endsClear store label = true) (.approved [1])
      agedOutRun := by decide +kernel
  have handed : (runPaymentLabel ⟨none, 0⟩ ((paymentMachine ⟨none, 0⟩).exec (.approved [1]) agedOutRun)
      (.dispatchNext 0 (.hearing (.ok ⟨.submitted, some "order-2", none, none⟩)))).2 =
        some ⟨4, 1, 5, "checker", .createPayment⟩ := by decide +kernel
  exact reach_noneInDoubt ((Machine.Reach.start first).exec clear) handed

/-- The processor's answer is lost, so the payment fails in doubt; the next run pays again. -/
def lostAnswerRun : List PaymentLabel :=
  [.createRun "maker" [(1, "ach")] false, .executeRun "checker" 0 none, .readPending 0,
    .dispatchNext 0 (.hearing (.error "ReadTimeout")), .finishPass 0 1, .createRun "maker" [(1, "ach")] false,
    .executeRun "checker" 3 none, .readPending 0]

theorem second_order_after_lost_answer :
    ∃ labels label handoff, (runPaymentLabel ⟨none, 0⟩ ((paymentMachine ⟨none, 0⟩).exec (.approved [1]) labels) label).2 =
        some handoff ∧ handoff.rail = .createPayment ∧
      ¬NoneInDoubt ((paymentMachine ⟨none, 0⟩).exec (.approved [1]) labels) handoff := by
  have handed : (runPaymentLabel ⟨none, 0⟩ ((paymentMachine ⟨none, 0⟩).exec (.approved [1]) lostAnswerRun)
      (.dispatchNext 0 (.hearing (.ok ⟨.submitted, some "order-2", none, none⟩)))).2 =
        some ⟨4, 1, 5, "checker", .createPayment⟩ := by decide +kernel
  have doubtful : ∃ payment ∈ ((paymentMachine ⟨none, 0⟩).exec (.approved [1]) lostAnswerRun).payments,
      payment.invoiceId = 1 ∧ payment.status = .failed ∧ payment.isRetrySafe = false := by decide +kernel
  have unflagged : ((paymentMachine ⟨none, 0⟩).exec (.approved [1]) lostAnswerRun).exceptions = [] := by decide +kernel
  refine ⟨lostAnswerRun, _, _, handed, rfl, fun none' => ?_⟩
  obtain ⟨payment, member, invoice, failed, inDoubt⟩ := doubtful
  rcases none' payment member invoice failed with safe | ⟨exception, inTable, _⟩
  · rw [inDoubt] at safe
    cases safe
  · rw [unflagged] at inTable
    cases inTable

end Payables
