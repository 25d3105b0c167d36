import Mathlib.Tactic.Linarith
import Payables.Payments.Changes

namespace Payables
open Lib

/-- Every payment orders a positive amount, and no invoice is credited a negative one. -/
structure PaymentStore.Sound (store : PaymentStore) : Prop where
  amounts : ∀ payment ∈ store.payments, 0 < payment.amount
  credits : ∀ invoice ∈ store.invoices, 0 ≤ invoice.appliedCredit

/-- An invoice comes with the total of its applied memos, and a memo is positive. -/
def PaymentLabel.Credited : PaymentLabel → Prop
  | .putInvoice invoice => 0 ≤ invoice.appliedCredit
  | _ => True

namespace PaymentStore.Sound

variable {config : PaymentConfig} {store after : PaymentStore}

theorem putPayment (sound : store.Sound) {payment written : Payment} (member : payment ∈ store.payments)
    (same : payment.SameOrder written) : (store.putPayment written).Sound where
  amounts := by
    intro row here
    rcases mem_putRow here with rfl | ⟨old, _⟩
    · rw [same.amount]
      exact sound.amounts payment member
    · exact sound.amounts row old
  credits := sound.credits

theorem putInvoice (sound : store.Sound) {invoice : PayableInvoice} (credited : 0 ≤ invoice.appliedCredit) :
    PaymentStore.Sound { store with invoices := putRow PayableInvoice.id invoice store.invoices } where
  amounts := sound.amounts
  credits := by
    intro row here
    rcases mem_putRow here with rfl | ⟨old, _⟩
    · exact credited
    · exact sound.credits row old

theorem recompute (sound : store.Sound) (payment : Payment) : (store.recomputeParentRunStatus payment).Sound := by
  unfold recomputeParentRunStatus
  split
  · exact sound
  · exact ⟨sound.amounts, sound.credits⟩

theorem invoice?_credit (sound : store.Sound) {id : InvoiceId} {invoice : PayableInvoice}
    (found : store.invoice? id = some invoice) : 0 ≤ invoice.appliedCredit := sound.credits invoice (getRow_some found).1

theorem commit (sound : store.Sound) {payment : Payment} (member : payment ∈ store.payments) (env : DispatchEnv) :
    (commitDispatch store (attempt store payment env)).Sound := by
  have booked := sound.putPayment member (attemptPayment_sameOrder (store.invoice? payment.invoiceId) store.exceptions
    payment env)
  simp only [commitDispatch]
  split
  · next invoice _ found =>
    have credited := sound.invoice?_credit found
    exact booked.putInvoice credited
  · exact booked

theorem insert (sound : store.Sound) {invoice : InvoiceId} {run : Option RunId} {amount : ℚ}
    {method reference : Option String} {retryOf : Option PaymentId} (positive : 0 < amount)
    (inserted : store.insertPayment invoice run amount method reference retryOf = some after) : after.Sound := by
  obtain ⟨_, rfl⟩ := insertPayment_some inserted
  refine ⟨fun row here => ?_, sound.credits⟩
  rcases List.mem_append.mp here with old | new
  · exact sound.amounts row old
  · rw [List.mem_singleton.mp new]
    exact positive

theorem bookRunPayments {run : RunId} {items : List (InvoiceId × String)} (sound : store.Sound)
    (positive : ∀ item ∈ items, ∀ invoice, store.invoice? item.1 = some invoice → 0 < invoice.netPayableAmount)
    (booked : bookRunPayments run items store = some after) : after.Sound := by
  induction items generalizing store with
  | nil =>
    cases Option.some.inj booked
    exact sound
  | cons item items ih =>
    obtain ⟨invoiceId, method⟩ := item
    unfold Payables.bookRunPayments at booked
    split at booked
    · cases booked
    next invoice found =>
    split at booked
    · cases booked
    next middle inserted =>
    refine ih (sound.insert (positive _ List.mem_cons_self invoice found) inserted) (fun other listed row at' => ?_) booked
    rw [(insertPayment_extends inserted).same] at at'
    exact positive other (List.mem_cons_of_mem _ listed) row at'

/-- An invoice that the gates of a booking let through is worth paying. -/
theorem positive_of_runRefusal {invoice : PayableInvoice} {method : Option String}
    (clear : runRefusal store invoice method = none) : 0 < invoice.netPayableAmount := by
  unfold runRefusal at clear
  split at clear
  · cases clear
  split at clear
  · cases clear
  split at clear
  · cases clear
  next worth => exact not_le.mp worth

theorem createPaymentRun (sound : store.Sound) {user : UserId} {items : List (InvoiceId × String)} {requiresCfo : Bool}
    (accepted : createPaymentRun store user items requiresCfo = .ok after) : after.Sound := by
  simp only [Payables.createPaymentRun] at accepted
  split at accepted
  · cases accepted
  split at accepted
  · cases accepted
  split at accepted
  · cases accepted
  split at accepted
  · cases accepted
  split at accepted
  · cases accepted
  next unrefused =>
  split at accepted
  · cases accepted
  next booked inserted =>
  cases accepted
  have opened (run : PaymentRun) :
      PaymentStore.Sound { store with runs := store.runs ++ [run], nextId := store.nextId + 1 } :=
    ⟨sound.amounts, sound.credits⟩
  refine (opened _).bookRunPayments (fun item listed invoice found => ?_) inserted
  have row : (store.invoice? item.1).map (fun invoice => (invoice, item.2)) = some (invoice, item.2) :=
    Option.map_eq_some_iff.mpr ⟨invoice, found, rfl⟩
  have clear := List.filterMap_eq_nil_iff.mp (not_not.mp unrefused) (invoice, item.2)
    (List.mem_filterMap.mpr ⟨item, listed, row⟩)
  exact positive_of_runRefusal (Option.map_eq_none_iff.mp clear)

theorem createPayment (sound : store.Sound) {invoice : InvoiceId} {method reference : Option String} {amount : Option ℚ}
    {requiresCfo hasCfo : Bool}
    (accepted : createPayment store invoice method reference amount requiresCfo hasCfo = .ok after) : after.Sound := by
  unfold Payables.createPayment at accepted
  split at accepted
  · cases accepted
  split at accepted
  · cases accepted
  split at accepted
  · cases accepted
  split at accepted
  · cases accepted
  split at accepted
  · cases accepted
  next worth =>
  split at accepted
  · cases accepted
  split at accepted
  · cases accepted
  split at accepted
  · cases accepted
    exact sound
  · next inserted =>
    cases accepted
    exact sound.insert (not_le.mp worth) inserted

/-- A retry books what the failed payment ordered. -/
theorem retryPayment {before : PaymentStore} {run : RunId} {acc : PaymentStore × List String} {payment : Payment}
    (sound : acc.1.Sound) (positive : 0 < payment.amount) : (retryPayment before run acc payment).1.Sound := by
  unfold Payables.retryPayment
  split
  · exact sound
  split
  · exact sound
  split
  · exact sound
  split
  · exact sound
  split
  · exact sound
  split
  · exact sound
  split
  · exact sound
  next net =>
  split
  · exact sound
  · next inserted =>
    rw [not_not.mp net] at inserted
    exact sound.insert positive inserted

theorem retries {before : PaymentStore} {run : RunId} {candidates : List Payment} {acc : PaymentStore × List String}
    (sound : acc.1.Sound) (positive : ∀ payment ∈ candidates, 0 < payment.amount) :
    (candidates.foldl (Payables.retryPayment before run) acc).1.Sound := by
  induction candidates generalizing acc with
  | nil => exact sound
  | cons payment rest ih =>
    obtain ⟨first, others⟩ := List.forall_mem_cons.mp positive
    exact ih (sound.retryPayment first) others

theorem retryFailedPayments (sound : store.Sound) {user : UserId} {run : RunId} {provider : Option String}
    (accepted : retryFailedPayments config store user run provider = .ok after) : after.Sound := by
  simp only [Payables.retryFailedPayments] at accepted
  split at accepted
  · cases accepted
  split at accepted
  · cases accepted
  split at accepted
  · cases accepted
  split at accepted
  · cases accepted
  split at accepted
  · cases accepted
  cases accepted
  have booked : PaymentStore.Sound ((retryCandidates (store.runPayments run)).foldl (Payables.retryPayment store run)
      (store, [])).1 := by
    refine sound.retries fun payment candidate => ?_
    have listed := (List.mem_filter.mp candidate).1
    exact sound.amounts payment (PaymentStore.mem_runPayments.mp listed).1
  exact ⟨booked.amounts, booked.credits⟩

theorem approvePaymentRun (sound : store.Sound) {user : UserId} {run : RunId} {now : Time}
    (accepted : approvePaymentRun config store user run now = .ok after) : after.Sound := by
  unfold Payables.approvePaymentRun at accepted
  repeat' split at accepted
  all_goals cases accepted
  exact ⟨sound.amounts, sound.credits⟩

theorem cancelPaymentRun (sound : store.Sound) {run : RunId} (accepted : cancelPaymentRun store run = .ok after) :
    after.Sound := by
  unfold Payables.cancelPaymentRun at accepted
  repeat' split at accepted
  all_goals cases accepted
  exact ⟨fun payment here => sound.amounts payment (List.mem_filter.mp here).1, sound.credits⟩

theorem executePaymentRun (sound : store.Sound) {user : UserId} {run : RunId} {provider : Option String}
    (accepted : executePaymentRun config store user run provider = .ok after) : after.Sound := by
  unfold Payables.executePaymentRun at accepted
  repeat' split at accepted
  all_goals cases accepted
  exact ⟨sound.amounts, sound.credits⟩

theorem resumePaymentRun (sound : store.Sound) {user : UserId} {run : RunId} {provider : Option String}
    (accepted : resumePaymentRun config store user run provider = .ok after) : after.Sound := by
  unfold Payables.resumePaymentRun at accepted
  repeat' split at accepted
  all_goals cases accepted
  exact ⟨sound.amounts, sound.credits⟩

theorem readPendingPayments (sound : store.Sound) (index : Nat) : (readPendingPayments store index).Sound := by
  unfold Payables.readPendingPayments
  repeat' split
  all_goals exact ⟨sound.amounts, sound.credits⟩

theorem dispatchNextPayment (sound : store.Sound) (index : Nat) (env : DispatchEnv) :
    (dispatchNextPayment store index env).1.Sound := by
  unfold Payables.dispatchNextPayment
  split
  · exact sound
  split
  · exact sound
  · exact sound
  split
  · exact ⟨sound.amounts, sound.credits⟩
  next payment found =>
  split
  · exact ⟨sound.amounts, sound.credits⟩
  have committed := sound.commit (payment?_some found).1 env
  exact ⟨committed.amounts, committed.credits⟩

theorem finishDispatchPass (sound : store.Sound) (index : Nat) (now : Time) : (finishDispatchPass store index now).Sound := by
  unfold Payables.finishDispatchPass
  repeat' split
  all_goals exact ⟨sound.amounts, sound.credits⟩

theorem releaseComplianceHold (sound : store.Sound) {user : UserId} {id : PaymentId} {provider : Option String}
    {env : DispatchEnv} {released : PaymentStore × Option Handoff}
    (accepted : releaseComplianceHold store user id provider env = .ok released) : released.1.Sound := by
  unfold Payables.releaseComplianceHold at accepted
  split at accepted
  · cases accepted
  next payment found =>
  split at accepted
  · cases accepted
  split at accepted
  · cases accepted
  cases accepted
  exact (sound.commit (payment?_some found).1 env).recompute _

theorem dismissComplianceHold (sound : store.Sound) {userName reason : String} {id : PaymentId} {now : Time}
    (accepted : dismissComplianceHold store userName id reason now = .ok after) : after.Sound := by
  unfold Payables.dismissComplianceHold at accepted
  split at accepted
  · cases accepted
  next payment found =>
  split at accepted
  · cases accepted
  cases accepted
  exact (sound.putPayment (payment?_some found).1 (payment.fail_sameOrder now _)).recompute _

theorem voidPayment (sound : store.Sound) {userName reason : String} {id : PaymentId} {now : Time}
    (accepted : voidPayment store userName id reason now = .ok after) : after.Sound := by
  simp only [Payables.voidPayment] at accepted
  split at accepted
  · cases accepted
  next payment found =>
  split at accepted
  · cases accepted
  split at accepted
  · cases accepted
  cases accepted
  have booked := sound.putPayment (payment?_some found).1
    (⟨rfl, rfl, rfl, rfl, rfl, rfl⟩ : payment.SameOrder (payment.reverse userName reason now))
  split
  · exact booked.recompute _
  next invoice at' =>
  have credited := sound.invoice?_credit at'
  split
  · have reopened : PaymentStore.Sound { store.putPayment (payment.reverse userName reason now) with
        invoices := putRow PayableInvoice.id { invoice with status := .approved } store.invoices } :=
      booked.putInvoice credited
    exact reopened.recompute _
  · exact booked.recompute _

theorem paymentWebhook (sound : store.Sound) (provider : String) (status : AdapterStatus)
    (reference failureReason : Option String) (now : Time) :
    (paymentWebhook store provider status reference failureReason now).Sound := by
  unfold Payables.paymentWebhook
  split
  · next payment only =>
    have listed : payment ∈ store.payments.filter (·.providerPaymentId == some provider) := by
      rw [only]
      exact List.mem_singleton.mpr rfl
    split
    · exact sound.putPayment (List.mem_filter.mp listed).1 ⟨rfl, rfl, rfl, rfl, rfl, rfl⟩
    · exact sound
  · exact sound

theorem ageOutPayment (sound : store.Sound) (id : PaymentId) (now : Time) (hours : String) (flagged : Bool) :
    (ageOutPayment config store id now hours flagged).Sound := by
  unfold Payables.ageOutPayment
  split
  · exact sound
  next payment found =>
  split
  · have aged : (store.putPayment (payment.ageOut hours)).Sound :=
      sound.putPayment (payment?_some found).1 ⟨rfl, rfl, rfl, rfl, rfl, rfl⟩
    exact ⟨aged.amounts, aged.credits⟩
  · exact sound

theorem pollPayment (sound : store.Sound) (id : PaymentId) (upstream : AdapterStatus) (now : Time) :
    (pollPayment store id upstream now).Sound := by
  unfold Payables.pollPayment
  split
  · exact sound
  next payment found =>
  split
  · exact sound.putPayment (payment?_some found).1 ⟨rfl, rfl, rfl, rfl, rfl, rfl⟩
  · exact sound

theorem orUnchanged (sound : store.Sound) {result : Except Raised PaymentStore}
    (accepted : ∀ after, result = .ok after → after.Sound) : (orUnchanged store result).1.Sound := by
  cases result with
  | ok after => exact accepted after rfl
  | error => exact sound

/-- Every section keeps the amounts sound. -/
theorem runPaymentLabel (sound : store.Sound) {label : PaymentLabel} (credited : label.Credited) :
    (runPaymentLabel config store label).1.Sound := by
  cases label with
  | createRun => exact sound.orUnchanged fun _ accepted => sound.createPaymentRun accepted
  | createPayment => exact sound.orUnchanged fun _ accepted => sound.createPayment accepted
  | approveRun => exact sound.orUnchanged fun _ accepted => sound.approvePaymentRun accepted
  | cancelRun => exact sound.orUnchanged fun _ accepted => sound.cancelPaymentRun accepted
  | executeRun => exact sound.orUnchanged fun _ accepted => sound.executePaymentRun accepted
  | resumeRun => exact sound.orUnchanged fun _ accepted => sound.resumePaymentRun accepted
  | retryFailed => exact sound.orUnchanged fun _ accepted => sound.retryFailedPayments accepted
  | readPending index => exact sound.readPendingPayments index
  | dispatchNext index env => exact sound.dispatchNextPayment index env
  | crashInDispatch | crash => exact ⟨sound.amounts, sound.credits⟩
  | finishPass index now => exact sound.finishDispatchPass index now
  | release user payment provider env =>
    simp only [Payables.runPaymentLabel]
    split
    · next accepted => exact sound.releaseComplianceHold accepted
    · exact sound
  | crashInRelease =>
    simp only [Payables.runPaymentLabel]
    split <;> exact sound
  | dismiss => exact sound.orUnchanged fun _ accepted => sound.dismissComplianceHold accepted
  | void => exact sound.orUnchanged fun _ accepted => sound.voidPayment accepted
  | webhook provider status reference failureReason now =>
    exact sound.paymentWebhook provider status reference failureReason now
  | ageOut id now hours flagged => exact sound.ageOutPayment id now hours flagged
  | poll id upstream now => exact sound.pollPayment id upstream now
  | openException | setExceptionStatus => exact ⟨sound.amounts, sound.credits⟩
  | putInvoice => exact sound.putInvoice credited

end PaymentStore.Sound

end Payables
