import Payables.Cards.InvoiceDeletion

namespace Payables
open Lib

/-- Its order is out: in flight, settled, or on the books of a processor while the row waits. -/
def Payment.IsOut (payment : Payment) : Prop :=
  payment.status ∈ PaymentStatus.outstanding ∨ payment.status = .pending ∧ payment.providerPaymentId ≠ none

/-- The invoice is there, set aside. -/
def SetAsideIn (invoices : List PayableInvoice) (id : InvoiceId) : Prop :=
  ∃ invoice ∈ invoices, invoice.id = id ∧ invoice.status ∈ InvoiceStatus.setAsideStatuses

theorem Payment.IsOut.live {payment : Payment} (out : payment.IsOut) : payment.status.isLive = true := by
  rcases out with moving | ⟨pending, _⟩
  · simp only [PaymentStatus.outstanding, List.mem_cons, List.not_mem_nil, or_false] at moving
    rcases moving with same | same | same <;> rw [same] <;> rfl
  · rw [pending]
    rfl

theorem Payment.not_isOut {payment : Payment} (quiet : payment.status ∈ [PaymentStatus.failed, .cancelled, .pendingCompliance, .voided]) :
    ¬payment.IsOut := by
  simp only [List.mem_cons, List.not_mem_nil, or_false] at quiet
  rintro (moving | ⟨pending, _⟩)
  · rcases quiet with same | same | same | same <;> rw [same] at moving <;> revert moving <;> decide
  · rcases quiet with same | same | same | same <;> cases same.symm.trans pending

theorem InvoiceStatus.immutable_of_setAside {status : InvoiceStatus} (aside : status ∈ setAsideStatuses) :
    status ∈ immutableStatuses := by
  simp only [setAsideStatuses, List.mem_cons, List.not_mem_nil, or_false] at aside
  rcases aside with rfl | rfl | rfl <;> decide

section
variable {invoices : List PayableInvoice} {id : InvoiceId}

/-- A write that sets an invoice aside takes none back. -/
theorem SetAsideIn.put {written : PayableInvoice} (aside : SetAsideIn invoices id)
    (keeps : ∀ row ∈ invoices, row.id = written.id → row.status ∈ InvoiceStatus.setAsideStatuses →
      written.status ∈ InvoiceStatus.setAsideStatuses) : SetAsideIn (putRow PayableInvoice.id written invoices) id := by
  obtain ⟨row, member, rfl, status⟩ := aside
  by_cases same : row.id = written.id
  · exact ⟨written, mem_putRow_self member same, same.symm, keeps row member same status⟩
  · exact ⟨row, mem_putRow_of_ne member same, rfl, status⟩

theorem SetAsideIn.put_other {written : PayableInvoice} (aside : SetAsideIn invoices id) (other : id ≠ written.id) :
    SetAsideIn (putRow PayableInvoice.id written invoices) id := by
  obtain ⟨row, member, rfl, status⟩ := aside
  exact ⟨row, mem_putRow_of_ne member other, rfl, status⟩

end

/-- What holds of the payments of every state: one live one an invoice, and an invoice set aside under each that is out. -/
structure OutstandingSetAside (store : PaymentStore) : Prop where
  keys : (store.invoices.map PayableInvoice.id).Nodup
  distinct : (store.payments.map Payment.id).Nodup
  issued : ∀ payment ∈ store.payments, payment.id < store.nextId
  oneLive : ∀ payment ∈ store.payments, ∀ other ∈ store.payments, payment.invoiceId = other.invoiceId →
    payment.status.isLive = true → other.status.isLive = true → payment = other
  aside : ∀ payment ∈ store.payments, payment.IsOut → SetAsideIn store.invoices payment.invoiceId

namespace OutstandingSetAside

variable {store after : PaymentStore}

/-- Rows may go, other tables change and invoices be set aside. -/
theorem shrink (inv : OutstandingSetAside store) (invoices : (after.invoices.map PayableInvoice.id).Sublist (store.invoices.map PayableInvoice.id))
    (fewer : after.payments.Sublist store.payments) (grows : store.nextId ≤ after.nextId)
    (aside : ∀ payment ∈ after.payments, payment.IsOut → SetAsideIn store.invoices payment.invoiceId →
      SetAsideIn after.invoices payment.invoiceId) : OutstandingSetAside after where
  keys := inv.keys.sublist invoices
  distinct := inv.distinct.sublist (fewer.map _)
  issued := fun payment member => Nat.lt_of_lt_of_le (inv.issued payment (fewer.subset member)) grows
  oneLive := fun payment member other also => inv.oneLive payment (fewer.subset member) other (fewer.subset also)
  aside := fun payment member out => aside payment member out (inv.aside payment (fewer.subset member) out)

theorem of_same (inv : OutstandingSetAside store) (payments : after.payments = store.payments) (next : after.nextId = store.nextId)
    (invoices : after.invoices = store.invoices) : OutstandingSetAside after :=
  inv.shrink (by rw [invoices]) (by rw [payments]) (by rw [next]) fun _ _ _ aside => by rwa [invoices]

/-- An invoice written over another that is set aside is so too. -/
theorem putInvoice (inv : OutstandingSetAside store) {written : PayableInvoice}
    (invoices : after.invoices = putRow PayableInvoice.id written store.invoices) (payments : after.payments = store.payments)
    (next : after.nextId = store.nextId)
    (keeps : ∀ row ∈ store.invoices, row.id = written.id → row.status ∈ InvoiceStatus.setAsideStatuses →
      written.status ∈ InvoiceStatus.setAsideStatuses) : OutstandingSetAside after := by
  refine inv.shrink (by rw [invoices, map_ident_putRow]) (by rw [payments]) (by rw [next]) fun payment _ _ aside => ?_
  rw [invoices]
  exact aside.put keeps

theorem insert (inv : OutstandingSetAside store) {invoice : InvoiceId} {run : Option RunId} {amount : ℚ} {method reference : Option String}
    {retryOf : Option PaymentId} (inserted : store.insertPayment invoice run amount method reference retryOf = some after) :
    OutstandingSetAside after := by
  obtain ⟨vacant, rfl⟩ := insertPayment_some inserted
  have fresh : ∀ payment ∈ store.payments, payment.id ≠ store.nextId := fun payment member =>
    Nat.ne_of_lt (inv.issued payment member)
  refine ⟨inv.keys, ?_, ?_, ?_, ?_⟩
  · rw [List.map_append, List.nodup_append]
    refine ⟨inv.distinct, List.nodup_singleton _, fun id member other single same => ?_⟩
    obtain ⟨payment, old, rfl⟩ := List.mem_map.mp member
    exact fresh payment old (same.trans (List.mem_singleton.mp single))
  · intro payment member
    show payment.id < store.nextId + 2
    rcases List.mem_append.mp member with old | new
    · exact Nat.lt_add_right 2 (inv.issued payment old)
    · rw [List.mem_singleton.mp new]
      exact Nat.lt_add_of_pos_right (by decide)
  · intro payment member other also same live liveToo
    rcases List.mem_append.mp member with old | new <;> rcases List.mem_append.mp also with oldToo | newToo
    · exact inv.oneLive payment old other oldToo same live liveToo
    · rw [List.mem_singleton.mp newToo] at same
      rw [vacant payment old same] at live
      cases live
    · rw [List.mem_singleton.mp new] at same
      rw [vacant other oldToo same.symm] at liveToo
      cases liveToo
    · rw [List.mem_singleton.mp new, List.mem_singleton.mp newToo]
  · intro payment member out
    rcases List.mem_append.mp member with old | new
    · exact inv.aside payment old out
    · rw [List.mem_singleton.mp new] at out
      rcases out with moving | ⟨_, handled⟩
      · have waits : PaymentStatus.pending ∉ PaymentStatus.outstanding := by decide
        exact absurd moving waits
      · exact absurd rfl handled

/-- A live row rewritten as the same order, with the invoices that go with it. -/
theorem rewrite (inv : OutstandingSetAside store) {payment written : Payment} (member : payment ∈ store.payments)
    (live : payment.status.isLive = true) (same : payment.SameOrder written) (payments : after.payments = (store.putPayment written).payments)
    (next : after.nextId = store.nextId) (keys : after.invoices.map PayableInvoice.id = store.invoices.map PayableInvoice.id)
    (others : ∀ other ∈ store.payments, other.invoiceId ≠ payment.invoiceId → SetAsideIn store.invoices other.invoiceId →
      SetAsideIn after.invoices other.invoiceId)
    (own : written.IsOut → SetAsideIn after.invoices payment.invoiceId) : OutstandingSetAside after := by
  have rows : ∀ row ∈ after.payments, row = written ∨ row ∈ store.payments ∧ row.id ≠ payment.id := by
    intro row here
    rw [payments] at here
    exact (mem_putRow here).imp_right fun ⟨old, other⟩ => ⟨old, by rwa [same.id] at other⟩
  refine ⟨keys ▸ inv.keys, ?_, ?_, ?_, ?_⟩
  · rw [payments, PaymentStore.putPayment, map_ident_putRow]
    exact inv.distinct
  · intro row here
    rw [next]
    rcases rows row here with rfl | ⟨old, _⟩
    · rw [same.id]
      exact inv.issued payment member
    · exact inv.issued row old
  · intro row here other there sameInvoice liveRow liveOther
    rcases rows row here with rfl | ⟨old, apart⟩ <;> rcases rows other there with rfl | ⟨also, apartToo⟩
    · rfl
    · rw [same.invoiceId] at sameInvoice
      exact absurd (congrArg Payment.id (inv.oneLive other also payment member sameInvoice.symm liveOther live)) apartToo
    · rw [same.invoiceId] at sameInvoice
      exact absurd (congrArg Payment.id (inv.oneLive row old payment member sameInvoice liveRow live)) apart
    · exact inv.oneLive row old other also sameInvoice liveRow liveOther
  · intro row here out
    rcases rows row here with rfl | ⟨old, apart⟩
    · rw [same.invoiceId]
      exact own out
    · refine others row old (fun sameInvoice => apart ?_) (inv.aside row old out)
      exact congrArg Payment.id (inv.oneLive row old payment member sameInvoice out.live live)

end OutstandingSetAside

/-- How a dispatch that raised nothing ends: on a status that is not out, or out with its invoice to be set aside. -/
def DispatchResult.Lands (invoice : PayableInvoice) (result : DispatchResult) : Prop :=
  result.raised = none → result.payment.status ∈ [PaymentStatus.failed, .cancelled, .pendingCompliance, .voided] ∨
    result.schedules = decide (invoice.status ∈ InvoiceStatus.schedulableStatuses)

section
variable {invoice : PayableInvoice} {payment : Payment} {env : DispatchEnv}

theorem screen_lands {send : DispatchResult} (sent : send.Lands invoice) : (screen payment env send).Lands invoice := by
  unfold screen
  split
  · exact fun _ => .inl (by simp [DispatchResult.quiet, Payment.hold])
  split
  · rintro ⟨⟩
  · exact fun _ => .inl (by simp [DispatchResult.quiet, Payment.fail])
  · exact fun _ => .inl (by simp [DispatchResult.quiet, Payment.hold])
  · exact sent

theorem sendCard_lands : (sendCard invoice payment env).Lands invoice := by
  unfold sendCard
  split
  · rintro ⟨⟩
  · exact fun _ => .inr rfl
  · exact fun _ => .inl (by simp [DispatchResult.quiet, Payment.fail])
  · exact fun _ => .inr rfl
  · exact fun _ => .inl (by simp [Payment.fail])
  · exact fun _ => .inl (by simp [Payment.fail])

theorem sendToAdapter_lands (decides : env.decides = true) : (sendToAdapter invoice payment env).Lands invoice := by
  unfold sendToAdapter
  split
  · rintro ⟨⟩
  next answer heard =>
  simp only [DispatchEnv.decides, heard, bne_iff_ne] at decides
  simp only
  split
  · exact fun _ => .inr rfl
  · exact fun _ => .inr rfl
  · exact fun _ => .inr rfl
  next completed submitted processing =>
  refine fun _ => .inl ?_
  show answer.status.toPaymentStatus ∈ _
  cases status : answer.status with
  | pending => exact absurd status decides
  | submitted => exact absurd status submitted
  | processing => exact absurd status processing
  | completed => exact absurd status completed
  | failed => simp [AdapterStatus.toPaymentStatus]
  | cancelled => simp [AdapterStatus.toPaymentStatus]

theorem sendByRail_lands (decides : env.decides = true) : (sendByRail invoice payment env).Lands invoice := by
  unfold sendByRail
  split
  · rintro ⟨⟩
  · exact screen_lands (sendToAdapter_lands decides)
  · exact fun _ => .inl (by simp [DispatchResult.quiet, Payment.fail])
  · exact fun _ => .inl (by simp [DispatchResult.quiet, Payment.fail])
  · exact screen_lands (sendToAdapter_lands decides)
  · exact screen_lands (sendToAdapter_lands decides)

/-- A dispatch that raises nothing either leaves the payment in, or finds its invoice payable and sets it aside. -/
theorem executeSinglePayment_lands (decides : env.decides = true) (row : Option PayableInvoice) (exceptions : List InvoiceException) :
    (executeSinglePayment row exceptions payment env).raised = none →
      (executeSinglePayment row exceptions payment env).payment.status ∈ [PaymentStatus.failed, .cancelled, .pendingCompliance, .voided] ∨
        ∃ invoice, row = some invoice ∧ invoice.status ∈ InvoiceStatus.payableStatuses ∧
          (executeSinglePayment row exceptions payment env).schedules = decide (invoice.status ∈ InvoiceStatus.schedulableStatuses) := by
  cases row with
  | none => exact fun _ => .inl (by simp [executeSinglePayment, DispatchResult.quiet, Payment.fail])
  | some invoice =>
    simp only [executeSinglePayment]
    split
    · exact fun _ => .inl (by simp [DispatchResult.quiet, Payment.fail])
    next payable =>
    have payable := not_not.mp payable
    split
    · exact fun _ => .inl (by simp [DispatchResult.quiet, Payment.fail])
    split
    · exact fun _ => .inl (by simp [DispatchResult.quiet, Payment.fail])
    split
    · exact fun _ => .inl (by simp [DispatchResult.quiet, Payment.fail])
    split
    · exact fun quiet => (screen_lands sendCard_lands quiet).imp_right fun schedules => ⟨invoice, rfl, payable, schedules⟩
    · exact fun quiet => (sendByRail_lands decides quiet).imp_right fun schedules => ⟨invoice, rfl, payable, schedules⟩

/-- A row that a dispatch sends out has its invoice set aside with it. -/
theorem attempt_out {store : PaymentStore} (decides : env.decides = true) (out : (attempt store payment env).payment.IsOut) :
    ∃ invoice, store.invoice? payment.invoiceId = some invoice ∧
      ((attempt store payment env).schedules = true ∨ invoice.status = .paymentScheduled) := by
  simp only [attempt, attemptPayment] at out ⊢
  split at out
  · next quiet =>
    rcases executeSinglePayment_lands decides _ _ quiet with stays | ⟨invoice, found, payable, schedules⟩
    · exact absurd out (Payment.not_isOut stays)
    · refine ⟨invoice, found, ?_⟩
      simp only [schedules, decide_eq_true_eq]
      revert payable
      cases invoice.status <;> decide
  · exact absurd out (Payment.not_isOut (by simp [Payment.fail]))

end

section
variable {config : PaymentConfig} {store : PaymentStore}

theorem recomputeParentRunStatus_invoices (payment : Payment) :
    (store.recomputeParentRunStatus payment).invoices = store.invoices ∧ (store.recomputeParentRunStatus payment).nextId = store.nextId := by
  unfold PaymentStore.recomputeParentRunStatus
  split <;> exact ⟨rfl, rfl⟩

namespace OutstandingSetAside

theorem recompute (inv : OutstandingSetAside store) (payment : Payment) : OutstandingSetAside (store.recomputeParentRunStatus payment) :=
  inv.of_same (recomputeParentRunStatus_payments store payment) (recomputeParentRunStatus_invoices payment).2
    (recomputeParentRunStatus_invoices payment).1

/-- The invoice of a row that goes out is set aside in the same commit. -/
theorem dispatch (inv : OutstandingSetAside store) {payment : Payment} (member : payment ∈ store.payments)
    (live : payment.status.isLive = true) {env : DispatchEnv} (decides : env.decides = true) :
    OutstandingSetAside (commitDispatch store (attempt store payment env)) := by
  have sameOrder : payment.SameOrder (attempt store payment env).payment := attemptPayment_sameOrder _ _ _ _
  have scheduled : InvoiceStatus.paymentScheduled ∈ InvoiceStatus.setAsideStatuses := by decide
  have invoices : (∃ invoice, store.invoice? payment.invoiceId = some invoice ∧ (attempt store payment env).schedules = true ∧
      (commitDispatch store (attempt store payment env)).invoices =
        putRow PayableInvoice.id { invoice with status := .paymentScheduled } store.invoices) ∨
      (commitDispatch store (attempt store payment env)).invoices = store.invoices ∧
        ((attempt store payment env).schedules = true → store.invoice? payment.invoiceId = none) := by
    simp only [commitDispatch, sameOrder.invoiceId]
    split
    · next invoice schedules found => exact .inl ⟨invoice, found, schedules, rfl⟩
    · next other =>
      refine .inr ⟨rfl, fun schedules => ?_⟩
      cases found : store.invoice? payment.invoiceId with
      | none => rfl
      | some invoice => exact absurd found (other invoice schedules)
  have next : (commitDispatch store (attempt store payment env)).nextId = store.nextId := by
    simp only [commitDispatch]
    split <;> rfl
  have keys : (commitDispatch store (attempt store payment env)).invoices.map PayableInvoice.id = store.invoices.map PayableInvoice.id := by
    rcases invoices with ⟨invoice, _, _, written⟩ | ⟨same, _⟩
    · rw [written, map_ident_putRow]
    · rw [same]
  refine inv.rewrite member live sameOrder (commitDispatch_payments _) next keys (fun other _ _ aside => ?_) fun out => ?_
  · rcases invoices with ⟨invoice, _, _, written⟩ | ⟨same, _⟩
    · rw [written]
      exact aside.put fun _ _ _ _ => scheduled
    · rwa [same]
  · obtain ⟨invoice, found, sends⟩ := attempt_out decides out
    obtain ⟨inTable, sameId⟩ := getRow_some found
    rcases invoices with ⟨row, foundRow, _, written⟩ | ⟨same, unfound⟩
    · rw [written]
      cases Option.some.inj (found.symm.trans foundRow)
      exact ⟨_, mem_putRow_self inTable rfl, sameId, scheduled⟩
    · rw [same]
      rcases sends with schedules | status
      · cases found.symm.trans (unfound schedules)
      · exact ⟨invoice, inTable, sameId, by rw [status]; exact scheduled⟩

theorem dispatchNext (inv : OutstandingSetAside store) (index : Nat) {env : DispatchEnv} (decides : env.decides = true) :
    OutstandingSetAside (dispatchNextPayment store index env).1 := by
  unfold dispatchNextPayment
  split
  · exact inv
  split
  · exact inv
  · exact inv
  split
  · exact inv.of_same rfl rfl rfl
  next payment found =>
  split
  · exact inv.of_same rfl rfl rfl
  · next waiting =>
    have live : payment.status.isLive = true := by
      rw [not_not.mp waiting]
      rfl
    exact (inv.dispatch (payment?_some found).1 live decides).of_same rfl rfl rfl

theorem release (inv : OutstandingSetAside store) {user : UserId} {id : PaymentId} {provider : Option String} {env : DispatchEnv}
    (decides : env.decides = true) {released : PaymentStore × Option Handoff}
    (accepted : releaseComplianceHold store user id provider env = .ok released) : OutstandingSetAside released.1 := by
  unfold releaseComplianceHold at accepted
  split at accepted
  · cases accepted
  next payment found =>
  split at accepted
  · cases accepted
  next held =>
  split at accepted
  · cases accepted
  cases accepted
  have live : payment.status.isLive = true := by
    rw [not_not.mp held]
    rfl
  exact (inv.dispatch (payment?_some found).1 live decides).recompute _

/-- A row that is rewritten to one that is not out. -/
theorem settle (inv : OutstandingSetAside store) {payment written : Payment} (member : payment ∈ store.payments)
    (live : payment.status.isLive = true) (same : payment.SameOrder written)
    (quiet : written.status ∈ [PaymentStatus.failed, .cancelled, .pendingCompliance, .voided]) :
    OutstandingSetAside (store.putPayment written) :=
  inv.rewrite member live same rfl rfl rfl (fun _ _ _ aside => aside) fun out => absurd out (Payment.not_isOut quiet)

/-- A row that is out stays out, or comes in. -/
theorem report (inv : OutstandingSetAside store) {payment written : Payment} (member : payment ∈ store.payments)
    (out : payment.IsOut) (same : payment.SameOrder written) : OutstandingSetAside (store.putPayment written) :=
  inv.rewrite member out.live same rfl rfl rfl (fun _ _ _ aside => aside) fun _ => inv.aside payment member out

theorem dismiss (inv : OutstandingSetAside store) {userName reason : String} {id : PaymentId} {now : Time} {after : PaymentStore}
    (accepted : dismissComplianceHold store userName id reason now = .ok after) : OutstandingSetAside after := by
  unfold dismissComplianceHold at accepted
  split at accepted
  · cases accepted
  next payment found =>
  split at accepted
  · cases accepted
  next held =>
  cases accepted
  have live : payment.status.isLive = true := by
    rw [not_not.mp held]
    rfl
  refine (inv.settle (payment?_some found).1 live (payment.fail_sameOrder now _) ?_).recompute _
  exact List.mem_cons_self

/-- A void takes the invoice back, and with it no other payment that is out. -/
theorem void (inv : OutstandingSetAside store) {userName reason : String} {id : PaymentId} {now : Time} {after : PaymentStore}
    (accepted : voidPayment store userName id reason now = .ok after) : OutstandingSetAside after := by
  simp only [voidPayment] at accepted
  split at accepted
  · cases accepted
  next payment found =>
  have member := (payment?_some found).1
  split at accepted
  · cases accepted
  next standing =>
  split at accepted
  · cases accepted
  next unfailed =>
  have live : payment.status.isLive = true := by
    simp only [List.mem_cons, List.not_mem_nil, or_false, not_or] at standing
    simp [PaymentStatus.isLive, PaymentStatus.dead, standing.1, standing.2, unfailed]
  have same : payment.SameOrder (payment.reverse userName reason now) := ⟨rfl, rfl, rfl, rfl, rfl, rfl⟩
  have voided : ¬(payment.reverse userName reason now).IsOut := Payment.not_isOut (by simp [Payment.reverse])
  cases accepted
  refine recompute ?_ _
  split
  · exact inv.rewrite member live same rfl rfl rfl (fun _ _ _ aside => aside) fun out => absurd out voided
  split
  · next invoice there _ =>
    refine inv.rewrite member live same rfl rfl map_ident_putRow (fun other _ apart aside => ?_) fun out => absurd out voided
    have sameId := (getRow_some there).2
    exact aside.put_other fun clash => apart (clash.trans sameId)
  · exact inv.rewrite member live same rfl rfl rfl (fun _ _ _ aside => aside) fun out => absurd out voided

theorem webhook (inv : OutstandingSetAside store) (provider : String) (status : AdapterStatus) (reference failureReason : Option String)
    (now : Time) : OutstandingSetAside (paymentWebhook store provider status reference failureReason now) := by
  unfold paymentWebhook
  split
  · next payment only =>
    split
    · next moving =>
      have listed : payment ∈ store.payments.filter (·.providerPaymentId == some provider) := by
        rw [only]
        exact List.mem_singleton.mpr rfl
      obtain ⟨member, handle⟩ := List.mem_filter.mp listed
      have out : payment.IsOut := by
        simp only [List.mem_cons, List.not_mem_nil, or_false] at moving
        rcases moving with pending | same | same
        · exact .inr ⟨pending, by rw [beq_iff_eq.mp handle]; exact Option.some_ne_none _⟩
        · exact .inl (by rw [same]; decide)
        · exact .inl (by rw [same]; decide)
      exact inv.report member out ⟨rfl, rfl, rfl, rfl, rfl, rfl⟩
    · exact inv
  · exact inv

theorem isOut_of_inFlight {payment : Payment} (moving : payment.isInFlight = true) : payment.IsOut := by
  simp only [Payment.isInFlight, Bool.and_eq_true, Bool.or_eq_true, beq_iff_eq] at moving
  rcases moving.1 with same | same
  · exact .inl (by rw [same]; decide)
  · exact .inl (by rw [same]; decide)

theorem ageOut (inv : OutstandingSetAside store) (id : PaymentId) (now : Time) (hours : String) (flagged : Bool) :
    OutstandingSetAside (ageOutPayment config store id now hours flagged) := by
  unfold ageOutPayment
  split
  · exact inv
  next payment found =>
  split
  · next old =>
    have aged : OutstandingSetAside (store.putPayment (payment.ageOut hours)) :=
      inv.report (payment?_some found).1 (isOut_of_inFlight old.1) ⟨rfl, rfl, rfl, rfl, rfl, rfl⟩
    exact aged.of_same rfl rfl rfl
  · exact inv

theorem poll (inv : OutstandingSetAside store) (id : PaymentId) (upstream : AdapterStatus) (now : Time) :
    OutstandingSetAside (pollPayment store id upstream now) := by
  unfold pollPayment
  split
  · exact inv
  next payment found =>
  split
  · next moving => exact inv.report (payment?_some found).1 (isOut_of_inFlight moving.1) ⟨rfl, rfl, rfl, rfl, rfl, rfl⟩
  · exact inv

theorem bookRun (inv : OutstandingSetAside store) {run : RunId} {items : List (InvoiceId × String)} {after : PaymentStore}
    (booked : bookRunPayments run items store = some after) : OutstandingSetAside after := by
  induction items generalizing store with
  | nil =>
    cases Option.some.inj booked
    exact inv
  | cons item rest ih =>
    unfold bookRunPayments at booked
    split at booked
    · cases booked
    split at booked
    · cases booked
    next inserted => exact ih (inv.insert inserted) booked

theorem retries {before : PaymentStore} {run : RunId} (candidates : List Payment) {acc : PaymentStore × List String}
    (inv : OutstandingSetAside acc.1) : OutstandingSetAside (candidates.foldl (retryPayment before run) acc).1 := by
  induction candidates generalizing acc with
  | nil => exact inv
  | cons payment rest ih =>
    refine ih ?_
    rcases retryPayment_cases before run acc payment with same | ⟨amount, inserted⟩
    · rwa [same]
    · exact inv.insert inserted

theorem accept {result : Except Raised PaymentStore} (inv : OutstandingSetAside store)
    (accepted : ∀ after, result = .ok after → OutstandingSetAside after) : OutstandingSetAside (orUnchanged store result).1 := by
  cases result with
  | ok after => exact accepted after rfl
  | error => exact inv

theorem createRun (inv : OutstandingSetAside store) {user : UserId} {items : List (InvoiceId × String)} {requiresCfo : Bool}
    {after : PaymentStore} (accepted : createPaymentRun store user items requiresCfo = .ok after) : OutstandingSetAside after := by
  simp only [createPaymentRun] at accepted
  repeat' split at accepted
  all_goals cases accepted
  next booked =>
    refine bookRun ?_ booked
    exact inv.shrink (List.Sublist.refl _) (List.Sublist.refl _) (Nat.le_succ _) fun _ _ _ aside => aside

theorem createOne (inv : OutstandingSetAside store) {invoice : InvoiceId} {method reference : Option String} {amount : Option ℚ}
    {requiresCfo hasCfo : Bool} {after : PaymentStore}
    (accepted : createPayment store invoice method reference amount requiresCfo hasCfo = .ok after) : OutstandingSetAside after := by
  unfold createPayment at accepted
  repeat' split at accepted
  all_goals cases accepted
  · exact inv
  · next inserted => exact inv.insert inserted

theorem approveRun (inv : OutstandingSetAside store) {user : UserId} {run : RunId} {now : Time} {after : PaymentStore}
    (accepted : approvePaymentRun config store user run now = .ok after) : OutstandingSetAside after := by
  unfold approvePaymentRun at accepted
  repeat' split at accepted
  all_goals cases accepted
  exact inv.of_same rfl rfl rfl

theorem cancelRun (inv : OutstandingSetAside store) {run : RunId} {after : PaymentStore}
    (accepted : cancelPaymentRun store run = .ok after) : OutstandingSetAside after := by
  unfold cancelPaymentRun at accepted
  repeat' split at accepted
  all_goals cases accepted
  exact inv.shrink (List.Sublist.refl _) List.filter_sublist le_rfl fun _ _ _ aside => aside

theorem executeRun (inv : OutstandingSetAside store) {user : UserId} {run : RunId} {provider : Option String} {after : PaymentStore}
    (accepted : executePaymentRun config store user run provider = .ok after) : OutstandingSetAside after := by
  unfold executePaymentRun at accepted
  repeat' split at accepted
  all_goals cases accepted
  exact inv.of_same rfl rfl rfl

theorem resumeRun (inv : OutstandingSetAside store) {user : UserId} {run : RunId} {provider : Option String} {after : PaymentStore}
    (accepted : resumePaymentRun config store user run provider = .ok after) : OutstandingSetAside after := by
  unfold resumePaymentRun at accepted
  repeat' split at accepted
  all_goals cases accepted
  exact inv.of_same rfl rfl rfl

theorem retryRun (inv : OutstandingSetAside store) {user : UserId} {run : RunId} {provider : Option String} {after : PaymentStore}
    (accepted : retryFailedPayments config store user run provider = .ok after) : OutstandingSetAside after := by
  simp only [retryFailedPayments] at accepted
  repeat' split at accepted
  all_goals cases accepted
  have booked : OutstandingSetAside ((retryCandidates (store.runPayments run)).foldl (retryPayment store run) (store, [])).1 :=
    retries _ inv
  exact booked.of_same rfl rfl rfl

/-- One section of the payment endpoints. -/
theorem runPaymentLabel (inv : OutstandingSetAside store) {label : PaymentLabel} (keeps : KeepsSetAside store label) :
    OutstandingSetAside (runPaymentLabel config store label).1 := by
  cases label with
  | createRun => exact inv.accept fun _ accepted => inv.createRun accepted
  | createPayment => exact inv.accept fun _ accepted => inv.createOne accepted
  | approveRun => exact inv.accept fun _ accepted => inv.approveRun accepted
  | cancelRun => exact inv.accept fun _ accepted => inv.cancelRun accepted
  | executeRun => exact inv.accept fun _ accepted => inv.executeRun accepted
  | resumeRun => exact inv.accept fun _ accepted => inv.resumeRun accepted
  | retryFailed => exact inv.accept fun _ accepted => inv.retryRun accepted
  | readPending index =>
    simp only [Payables.runPaymentLabel, readPendingPayments]
    repeat' split
    all_goals exact inv.of_same rfl rfl rfl
  | dispatchNext index env => exact inv.dispatchNext index keeps
  | crashInDispatch => exact inv.of_same rfl rfl rfl
  | finishPass index now =>
    simp only [Payables.runPaymentLabel, finishDispatchPass]
    repeat' split
    all_goals exact inv.of_same rfl rfl rfl
  | crash => exact inv.of_same rfl rfl rfl
  | release user payment provider env =>
    simp only [Payables.runPaymentLabel]
    split
    · next accepted => exact inv.release keeps accepted
    · exact inv
  | crashInRelease =>
    simp only [Payables.runPaymentLabel]
    split <;> exact inv
  | dismiss => exact inv.accept fun _ accepted => inv.dismiss accepted
  | void => exact inv.accept fun _ accepted => inv.void accepted
  | webhook provider status reference failureReason now => exact inv.webhook provider status reference failureReason now
  | ageOut payment now hours flagged => exact inv.ageOut payment now hours flagged
  | poll payment upstream now => exact inv.poll payment upstream now
  | openException => exact inv.of_same rfl rfl rfl
  | setExceptionStatus => exact inv.of_same rfl rfl rfl
  | putInvoice invoice => exact inv.putInvoice rfl rfl rfl keeps

end OutstandingSetAside

end

section
variable {config : PaymentConfig} {store : CardStore}

/-- The payment endpoints see the statuses that are stored. -/
theorem setAsideIn_payable {id : InvoiceId} : SetAsideIn store.payable.invoices id ↔ SetAsideIn store.base.invoices id := by
  constructor
  · rintro ⟨_, member, same, status⟩
    obtain ⟨row, inTable, rfl⟩ := List.mem_map.mp member
    exact ⟨row, inTable, same, status⟩
  · rintro ⟨row, inTable, same, status⟩
    exact ⟨_, List.mem_map_of_mem inTable, same, status⟩

theorem OutstandingSetAside.payable (inv : OutstandingSetAside store.base) : OutstandingSetAside store.payable :=
  inv.shrink (by simp [CardStore.payable, Function.comp_def]) (List.Sublist.refl _) le_rfl fun _ _ _ aside => setAsideIn_payable.mpr aside

theorem KeepsSetAside.payable {label : PaymentLabel} (keeps : KeepsSetAside store.base label) : KeepsSetAside store.payable label := by
  cases label with
  | putInvoice invoice =>
    intro row member same status
    obtain ⟨source, inTable, rfl⟩ := List.mem_map.mp member
    exact keeps source inTable same status
  | _ => exact keeps

theorem OutstandingSetAside.dispatchCard (inv : OutstandingSetAside store.base) (pass : Nat) {env : DispatchEnv}
    (decides : env.decides = true) (issue : Except String CardIssue) :
    OutstandingSetAside (store.dispatchNext pass env issue).base := by
  have told (leg : Except String CardLeg) : OutstandingSetAside (dispatchNextPayment store.payable pass { env with card := leg }).1 :=
    inv.payable.dispatchNext pass decides
  unfold CardStore.dispatchNext
  split
  · exact told env.card
  split
  · simp only
    split
    · split
      · exact inv
      · exact told _
    · exact told _
  · exact told env.card

/-- One section of the two rails. -/
theorem OutstandingSetAside.runCardLabel (inv : OutstandingSetAside store.base) {label : CardLabel}
    (payments : ∀ inner, label = .payments inner → KeepsSetAside store.base inner)
    (dispatches : ∀ pass env issue, label = .dispatchNext pass env issue → env.decides = true) :
    OutstandingSetAside (runCardLabel config store label).base := by
  cases label with
  | payments inner => exact inv.payable.runPaymentLabel (payments inner rfl).payable
  | dispatchNext pass env issue => exact inv.dispatchCard pass (dispatches pass env issue rfl) issue
  | readInvoices => exact inv
  | readCarded =>
    simp only [Payables.runCardLabel, CardStore.readCarded]
    repeat' split
    all_goals exact inv
  | issueNext =>
    simp only [Payables.runCardLabel, CardStore.issueNext]
    repeat' split
    all_goals exact inv
  | flushCard =>
    simp only [Payables.runCardLabel, CardStore.flushCard]
    repeat' split
    all_goals exact inv
  | commitGenerate =>
    simp only [Payables.runCardLabel, CardStore.commitGenerate]
    repeat' split
    all_goals exact inv
  | crashGenerate => exact inv
  | applyCredit id amount =>
    simp only [Payables.runCardLabel, CardStore.applyCredit]
    split
    · exact inv
    next invoice found =>
    split
    · exact inv
    · obtain ⟨inTable, _⟩ := getRow_some found
      refine inv.putInvoice rfl rfl rfl fun row member same status => ?_
      have one : row = invoice := List.inj_on_of_nodup_map inv.keys member inTable same
      rwa [one] at status
  | cancelCard =>
    simp only [Payables.runCardLabel, CardStore.cancelCard]
    repeat' split
    all_goals exact inv

theorem OutstandingSetAside.cascade (inv : OutstandingSetAside store.base) (id : InvoiceId) :
    OutstandingSetAside (store.deleteInvoiceCascade id).base := by
  refine inv.shrink (List.filter_sublist.map _) List.filter_sublist le_rfl ?_
  rintro payment member _ ⟨invoice, inTable, same, status⟩
  have other := (List.mem_filter.mp member).2
  exact ⟨invoice, List.mem_filter.mpr ⟨inTable, by rwa [same]⟩, same, status⟩

theorem OutstandingSetAside.cascades (ids : List InvoiceId) (inv : OutstandingSetAside store.base) :
    OutstandingSetAside (ids.foldl CardStore.deleteInvoiceCascade store).base := by
  induction ids generalizing store with
  | nil => exact inv
  | cons id rest ih => exact ih (inv.cascade id)

/-- The cascades of a request leave the rows of every other invoice. -/
theorem cascades_payments (ids : List InvoiceId) : (ids.foldl CardStore.deleteInvoiceCascade store).base.payments =
    store.base.payments.filter fun payment => payment.invoiceId ∉ ids := by
  induction ids generalizing store with
  | nil => simp
  | cons id rest ih =>
    rw [List.foldl_cons, ih, CardStore.deleteInvoiceCascade, List.filter_filter]
    refine List.filter_congr fun payment _ => ?_
    by_cases same : payment.invoiceId = id <;> simp [same]

theorem cascades_cards (ids : List InvoiceId) : (ids.foldl CardStore.deleteInvoiceCascade store).cards =
    store.cards.filter fun card => card.invoiceId ∉ ids := by
  induction ids generalizing store with
  | nil => simp
  | cons id rest ih =>
    rw [List.foldl_cons, ih, CardStore.deleteInvoiceCascade, List.filter_filter]
    refine List.filter_congr fun card _ => ?_
    by_cases same : card.invoiceId = id <;> simp [same]

end

section
variable {config : PaymentConfig} {store : DeletionStore}

theorem OutstandingSetAside.flushStanding {tables : CardStore} (inv : OutstandingSetAside tables.base) (index : Nat) :
    OutstandingSetAside (tables.flushStanding index).base := by
  have flushed : OutstandingSetAside (tables.flushCard index).base := by
    unfold CardStore.flushCard
    repeat' split
    all_goals exact inv
  unfold CardStore.flushStanding
  repeat' split
  · exact inv
  · exact flushed
  · exact inv
  · exact inv

theorem OutstandingSetAside.cardWebhook {tables : CardStore} (inv : OutstandingSetAside tables.base) (id : CardId)
    (isAuth isSettled : Bool) (amount : ℚ) : OutstandingSetAside (tables.cardWebhook id isAuth isSettled amount).base := by
  unfold CardStore.cardWebhook
  repeat' split
  all_goals exact inv

/-- What a step does to the tables. -/
theorem OutstandingSetAside.runDeletionLabel (inv : OutstandingSetAside store.tables.base) {label : DeletionLabel}
    (tells : StatusTells store label) : OutstandingSetAside (runDeletionLabel config store label).tables.base := by
  cases label with
  | rails label =>
    cases label with
    | flushCard request => exact inv.flushStanding request
    | payments inner =>
      exact inv.payable.runPaymentLabel (KeepsSetAside.payable tells)
    | dispatchNext pass env issue => exact inv.dispatchCard pass tells issue
    | _ => exact inv.runCardLabel (by rintro _ ⟨⟩) (by rintro _ _ _ ⟨⟩)
  | cardWebhook card isAuth isSettled amount => exact inv.cardWebhook card isAuth isSettled amount
  | deleteInvoice id =>
    simp only [Payables.runDeletionLabel]
    split <;> exact inv
  | bulkDelete => exact inv
  | commitDelete index =>
    simp only [Payables.runDeletionLabel, DeletionStore.commitDelete]
    split
    · exact inv
    split
    · exact inv
    · exact inv.cascades _
  | crashDelete => exact inv

/-- Every reachable state keeps an invoice set aside under each payment that is out. -/
theorem reach_setAside (reach : (deletionMachine config).Reach StatusTells store) : OutstandingSetAside store.tables.base := by
  have start : ∀ first : DeletionStore, (deletionMachine config).init first → OutstandingSetAside first.tables.base := by
    rintro first ⟨⟨noPayments, _, _, _, _, _, keys, _⟩, _⟩
    refine ⟨keys, ?_, ?_, ?_, ?_⟩ <;> rw [noPayments]
    · exact List.nodup_nil
    · rintro _ ⟨⟩
    · rintro _ ⟨⟩
    · rintro _ ⟨⟩
  have step : ∀ before label, OutstandingSetAside before.tables.base → StatusTells before label →
      OutstandingSetAside ((deletionMachine config).step before label).tables.base :=
    fun before label inv tells => inv.runDeletionLabel tells
  exact reach.invariant start step

/-- A delete takes no payment that is in flight or settled, and no card of an invoice with such a payment: nothing
goes but what hangs on an invoice that may be deleted. -/
theorem deletes_only_idle (reach : (deletionMachine config).Reach StatusTells store) {index : Nat}
    (tells : StatusTells store (.commitDelete index)) :
    DeletesOnlyIdle store ((deletionMachine config).step store (.commitDelete index)) := by
  have inv := reach_setAside reach
  simp only [deletionMachine, runDeletionLabel, DeletionStore.commitDelete]
  split
  · exact ⟨fun _ member => .inl member, fun _ member => .inl member⟩
  next ids asked =>
  split
  · exact ⟨fun _ member => .inl member, fun _ member => .inl member⟩
  have deletable : ∀ invoice ∈ store.tables.base.invoices, invoice.id ∈ ids → invoice.status ∉ InvoiceStatus.immutableStatuses :=
    tells ids asked
  have idle : ∀ payment ∈ store.tables.base.payments, payment.invoiceId ∈ ids → payment.status ∉ PaymentStatus.outstanding := by
    intro payment member listed moving
    obtain ⟨invoice, inTable, same, aside⟩ := inv.aside payment member (.inl moving)
    exact deletable invoice inTable (same ▸ listed) (InvoiceStatus.immutable_of_setAside aside)
  refine ⟨fun payment member => ?_, fun card member => ?_⟩
  · show payment ∈ (ids.foldl CardStore.deleteInvoiceCascade store.tables).base.payments ∨ _
    rw [cascades_payments]
    by_cases listed : payment.invoiceId ∈ ids
    · exact .inr ⟨idle payment member listed, fun invoice inTable same => deletable invoice inTable (same ▸ listed)⟩
    · exact .inl (List.mem_filter.mpr ⟨member, decide_eq_true listed⟩)
  · show card ∈ (ids.foldl CardStore.deleteInvoiceCascade store.tables).cards ∨ _
    rw [cascades_cards]
    by_cases listed : card.invoiceId ∈ ids
    · refine .inr ⟨fun payment inTable same => idle payment inTable (same ▸ listed), fun invoice inTable same => ?_⟩
      exact deletable invoice inTable (same ▸ listed)
    · exact .inl (List.mem_filter.mpr ⟨member, decide_eq_true listed⟩)

end

/-- Two approved invoices, and nobody at work. -/
def DeletionStore.fresh : DeletionStore := ⟨.fresh, [], []⟩

/-- A delete of the second invoice beside an order for the first. -/
def deleteBesideOrder : List DeletionLabel := (payByProcessor 1 "ach").map .rails ++ [.deleteInvoice 2]

theorem deletes_only_idle_beside_order :
    DeletesOnlyIdle ((deletionMachine ⟨none, 0⟩).exec .fresh deleteBesideOrder)
      ((deletionMachine ⟨none, 0⟩).step ((deletionMachine ⟨none, 0⟩).exec .fresh deleteBesideOrder) (.commitDelete 0)) := by
  refine deletes_only_idle (Machine.Reach.exec (.start ?_) ?_) ?_
  · exact ⟨⟨rfl, rfl, rfl, rfl, rfl, rfl, by decide, by decide⟩, rfl, rfl⟩
  · decide
  · decide +kernel

/-- An order that is voided, after which its invoice is deleted. -/
def deleteAfterVoid : List DeletionLabel :=
  (payByProcessor 1 "ach").map .rails ++ [.rails (.payments (.void "Dana Reyes" 1 "wrong payee" 1)), .deleteInvoice 1]

/-- A card that is charged, after which its invoice is deleted. -/
def deleteAfterCharge : List DeletionLabel :=
  (generateCard 1).map .rails ++ [.cardWebhook 0 true false 100, .deleteInvoice 1]

/-- The row of a voided order goes with its invoice, and so does the row of a charged card. -/
theorem money_records_deleted :
    ((deletionMachine ⟨none, 0⟩).Permits StatusTells .fresh (deleteAfterVoid ++ [.commitDelete 0]) ∧
      ¬KeepsMoneyRecords ((deletionMachine ⟨none, 0⟩).exec .fresh deleteAfterVoid)
        ((deletionMachine ⟨none, 0⟩).exec .fresh (deleteAfterVoid ++ [.commitDelete 0]))) ∧
    (deletionMachine ⟨none, 0⟩).Permits StatusTells .fresh (deleteAfterCharge ++ [.commitDelete 0]) ∧
      ¬KeepsMoneyRecords ((deletionMachine ⟨none, 0⟩).exec .fresh deleteAfterCharge)
        ((deletionMachine ⟨none, 0⟩).exec .fresh (deleteAfterCharge ++ [.commitDelete 0])) := by
  refine ⟨⟨?_, ?_⟩, ?_, ?_⟩ <;> decide +kernel

end Payables
