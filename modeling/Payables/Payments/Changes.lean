import Payables.Payments.Bookings

namespace Payables
open Lib Relation

/-- How a section rewrites a live payment. -/
inductive Outcome (store : PaymentStore) (payment : Payment) : PaymentLabel → Payment → Prop
  | dispatched {index : Nat} {env : DispatchEnv} {pass : DispatchPass} {rest : List PaymentId}
      (current : store.passes[index]? = some pass) (queue : pass.queue = some (payment.id :: rest))
      (found : store.payment? payment.id = some payment) (waiting : payment.status = .pending) :
      Outcome store payment (.dispatchNext index env) (attempt store payment env).payment
  | released {user : UserId} {provider : Option String} {env : DispatchEnv}
      (found : store.payment? payment.id = some payment) (held : payment.status = .pendingCompliance) :
      Outcome store payment (.release user payment.id provider env) (attempt store payment env).payment
  | dismissed {userName reason : String} {now : Time} (found : store.payment? payment.id = some payment)
      (held : payment.status = .pendingCompliance) :
      Outcome store payment (.dismiss userName payment.id reason now) (payment.dismiss userName reason now)
  | voided {userName reason : String} {now : Time} (standing : payment.status.isLive = true) :
      Outcome store payment (.void userName payment.id reason now) (payment.reverse userName reason now)
  | event {provider : String} {status : AdapterStatus} {reference failureReason : Option String} {now : Time}
      (handle : payment.providerPaymentId = some provider) (moving : payment.status ∈ [.pending, .submitted, .processing]) :
      Outcome store payment (.webhook provider status reference failureReason now)
        (payment.applyEvent status reference failureReason now)
  | aged {now : Time} {hours : String} {flagged : Bool} (moving : payment.isInFlight = true) :
      Outcome store payment (.ageOut payment.id now hours flagged) (payment.ageOut hours)
  | polled {upstream : AdapterStatus} {now : Time} (moving : payment.isInFlight = true) :
      Outcome store payment (.poll payment.id upstream now) (payment.conclude upstream now)

theorem Payment.isInFlight_live {payment : Payment} (moving : payment.isInFlight = true) :
    payment.status.isLive = true := by
  simp only [isInFlight, Bool.and_eq_true, Bool.or_eq_true, beq_iff_eq] at moving
  rcases moving.1 with submitted | processing
  · rw [submitted]
    rfl
  · rw [processing]
    rfl

theorem Outcome.live {store : PaymentStore} {payment written : Payment} {label : PaymentLabel}
    (outcome : Outcome store payment label written) : payment.status.isLive = true := by
  cases outcome with
  | dispatched _ _ _ waiting => rw [waiting]; rfl
  | released _ held => rw [held]; rfl
  | dismissed _ held => rw [held]; rfl
  | voided standing => exact standing
  | event _ moving =>
    simp only [List.mem_cons, List.not_mem_nil, or_false] at moving
    rcases moving with here | here | here <;> rw [here] <;> rfl
  | aged moving => exact Payment.isInFlight_live moving
  | polled moving => exact Payment.isInFlight_live moving

theorem Outcome.sameOrder {store : PaymentStore} {payment written : Payment} {label : PaymentLabel}
    (outcome : Outcome store payment label written) : payment.SameOrder written := by
  cases outcome with
  | dispatched => exact attemptPayment_sameOrder _ _ _ _
  | released => exact attemptPayment_sameOrder _ _ _ _
  | dismissed => exact payment.fail_sameOrder _ _
  | voided => exact ⟨rfl, rfl, rfl, rfl, rfl, rfl⟩
  | event => exact ⟨rfl, rfl, rfl, rfl, rfl, rfl⟩
  | aged => exact ⟨rfl, rfl, rfl, rfl, rfl, rfl⟩
  | polled => exact ⟨rfl, rfl, rfl, rfl, rfl, rfl⟩

/-- The one payment a section may rewrite. -/
inductive Settled (store : PaymentStore) (label : PaymentLabel) : PaymentStore → Prop
  | untouched : Settled store label store
  | rewritten {payment written : Payment} (member : payment ∈ store.payments)
      (outcome : Outcome store payment label written) : Settled store label (store.putPayment written)

/-- A section rewrites at most one payment; the rest of it are bookings. -/
def Changes (config : PaymentConfig) (store : PaymentStore) (label : PaymentLabel) (after : PaymentStore) : Prop :=
  ∃ middle, Settled store label middle ∧ ReflTransGen (Booking config) middle after

theorem Settled.ledger {store middle : PaymentStore} {label : PaymentLabel} (settled : Settled store label middle)
    (ledger : Ledger store) : Ledger middle := by
  cases settled with
  | untouched => exact ledger
  | rewritten member outcome => exact ledger.rewrite member outcome.live outcome.sameOrder

theorem Ledger.bookings {config : PaymentConfig} {store after : PaymentStore} (ledger : Ledger store)
    (bookings : ReflTransGen (Booking config) store after) : Ledger after := by
  induction bookings with
  | refl => exact ledger
  | tail _ booking ih => exact ih.booking booking

theorem bookings_kept {config : PaymentConfig} {store after : PaymentStore}
    (bookings : ReflTransGen (Booking config) store after) : store.Kept after := by
  induction bookings with
  | refl =>
    exact ⟨Nat.le_refl _, fun _ => .inl, fun run member => .inl ⟨run, member, rfl, rfl⟩,
      fun exception member => ⟨exception, member, rfl, rfl, List.Subset.refl _⟩⟩
  | tail _ booking ih => exact ih.trans booking.kept

theorem Changes.ledger {config : PaymentConfig} {store after : PaymentStore} {label : PaymentLabel}
    (changes : Changes config store label after) (ledger : Ledger store) : Ledger after := by
  obtain ⟨middle, settled, bookings⟩ := changes
  exact (settled.ledger ledger).bookings bookings

section
variable {config : PaymentConfig} {store after : PaymentStore} {label : PaymentLabel}

theorem Changes.refl : Changes config store label store := ⟨store, .untouched, .refl⟩

theorem Changes.single (booking : Booking config store after) : Changes config store label after :=
  ⟨store, .untouched, .single booking⟩

theorem booking_passes {passes : List DispatchPass} (kept : passes.Sublist store.passes) :
    Booking config store { store with passes := passes } :=
  .passes passes fun pass member => ⟨pass, kept.subset member, rfl, rfl, fun ids queue _ listed =>
    .inl ⟨ids, queue, listed⟩⟩

theorem dropPass_booking (index : Nat) : Booking config store (dropPass store index) :=
  booking_passes (List.eraseIdx_sublist store.passes index)

/-- A pass may be replaced by one that works for the same run and user, on payments it knew or
finds in that run. -/
theorem setPass_booking {index : Nat} {pass next : DispatchPass} (current : store.passes[index]? = some pass)
    (sameRun : pass.run = next.run) (sameActor : pass.actor = next.actor)
    (sources : ∀ ids, next.queue = some ids → ∀ id ∈ ids, (∃ queue, pass.queue = some queue ∧ id ∈ queue) ∨
      ∃ payment ∈ store.runPayments next.run, payment.id = id) : Booking config store (setPass store index next) := by
  refine .passes _ fun other member => ?_
  rcases List.mem_or_eq_of_mem_set member with old | rfl
  · exact ⟨other, old, rfl, rfl, fun ids queue id listed => .inl ⟨ids, queue, listed⟩⟩
  · exact ⟨pass, List.mem_of_getElem? current, sameRun, sameActor, sources⟩

theorem booking_invoices (invoices : List PayableInvoice) : Booking config store { store with invoices := invoices } :=
  .outside invoices store.exceptions fun exception member => ⟨exception, member, rfl, rfl, fun _ listed => listed⟩

theorem run?_some {id : RunId} {run : PaymentRun} (found : store.run? id = some run) : run ∈ store.runs ∧ run.id = id :=
  getRow_some found

theorem payment?_some {id : PaymentId} {payment : Payment} (found : store.payment? id = some payment) :
    payment ∈ store.payments ∧ payment.id = id := getRow_some found

/-- The derived status of a run with payments is a step in its life. -/
theorem advances_deriveRunStatus {run : PaymentRun} {statuses : List PaymentStatus} (some' : statuses ≠ []) :
    run.Advances { run with status := deriveRunStatus (some run.status) (rollupPaymentStatuses statuses) } := by
  refine ⟨rfl, rfl, rfl, ?_⟩
  simp only [deriveRunStatus, Option.getD_some]
  split
  · exact .inl rfl
  · next unclaimed =>
    refine .inr ⟨fun cancelled => unclaimed (by rw [cancelled]; decide), fun draft => ?_, ?_⟩
    · have none' := PaymentRunRollup.runStatus_draft draft
      rw [rollupPaymentStatuses_total] at none'
      exact some' (List.eq_nil_of_length_eq_zero none')
    · exact PaymentRunRollup.runStatus_ne_cancelled _

theorem active_ne_nil (ledger : Ledger store) {run : RunId} {payment : Payment} (member : payment ∈ store.runPayments run) :
    activeRunPayments (store.runPayments run) ≠ [] := by
  obtain ⟨head, active, _⟩ := (ledger.linear run).headed payment member
  exact List.ne_nil_of_mem active

theorem recomputeParentRunStatus_bookings (ledger : Ledger store) {payment : Payment} (member : payment ∈ store.payments) :
    ReflTransGen (Booking config) store (store.recomputeParentRunStatus payment) := by
  unfold PaymentStore.recomputeParentRunStatus
  split
  · exact .refl
  · next run found =>
    obtain ⟨id, mine, found⟩ := Option.bind_eq_some_iff.mp found
    obtain ⟨inRuns, rfl⟩ := run?_some found
    have active := active_ne_nil ledger (PaymentStore.mem_runPayments.mpr ⟨member, mine⟩)
    exact .single (.status inRuns (advances_deriveRunStatus fun none' => active (List.map_eq_nil_iff.mp none')))

/-- A dispatch's commit: the row it rewrote, and perhaps the invoice. -/
theorem commitDispatch_bookings (result : DispatchResult) :
    ReflTransGen (Booking config) (store.putPayment result.payment) (commitDispatch store result) := by
  simp only [commitDispatch]
  split
  · exact .single (booking_invoices _)
  · exact .refl

theorem commitDispatch_payments (result : DispatchResult) :
    (commitDispatch store result).payments = (store.putPayment result.payment).payments := by
  simp only [commitDispatch]
  split <;> rfl

theorem recomputeParentRunStatus_payments (store : PaymentStore) (payment : Payment) :
    (store.recomputeParentRunStatus payment).payments = store.payments := by
  unfold PaymentStore.recomputeParentRunStatus
  split <;> rfl

theorem commitDispatch_passes (result : DispatchResult) : (commitDispatch store result).passes = store.passes := by
  simp only [commitDispatch]
  split <;> rfl

theorem mem_putPayment_self {payment written : Payment} (member : payment ∈ store.payments)
    (same : payment.SameOrder written) : written ∈ (store.putPayment written).payments :=
  mem_putRow_self member same.id.symm

theorem createPaymentRun_booking {user : UserId} {items : List (InvoiceId × String)} {requiresCfo : Bool}
    (accepted : createPaymentRun store user items requiresCfo = .ok after) : Booking config store after := by
  simp only [createPaymentRun] at accepted
  split at accepted
  · cases accepted
  next some' =>
  split at accepted
  · cases accepted
  next known =>
  split at accepted
  · cases accepted
  split at accepted
  · cases accepted
  split at accepted
  · cases accepted
  split at accepted
  · cases accepted
  next booked inserted =>
  cases accepted
  have distinct : (items.map (·.1)).Nodup := by
    by_contra repeated
    exact known (.inr repeated)
  exact .create rfl rfl rfl some' distinct inserted

theorem createPayment_changes {invoice : InvoiceId} {method reference : Option String} {amount : Option ℚ}
    {requiresCfo hasCfo : Bool}
    (accepted : createPayment store invoice method reference amount requiresCfo hasCfo = .ok after) :
    after = store ∨ Booking config store after := by
  unfold createPayment at accepted
  split at accepted
  · cases accepted
  split at accepted
  · cases accepted
  split at accepted
  · cases accepted
  split at accepted
  · cases accepted
  split at accepted
  · cases accepted
  split at accepted
  · cases accepted
  split at accepted
  · cases accepted
  split at accepted
  · cases accepted
    exact .inl rfl
  · next booked inserted =>
    cases accepted
    exact .inr (.standalone inserted)

theorem approvePaymentRun_booking {user : UserId} {run : RunId} {now : Time}
    (accepted : approvePaymentRun config store user run now = .ok after) : Booking config store after := by
  unfold approvePaymentRun at accepted
  split at accepted
  · cases accepted
  next found =>
  split at accepted
  · cases accepted
  split at accepted
  · cases accepted
  split at accepted
  · cases accepted
  split at accepted
  · cases accepted
  · cases accepted
    exact .status (run?_some found).1 ⟨rfl, rfl, rfl, .inl rfl⟩

theorem cancelPaymentRun_booking {run : RunId} (accepted : cancelPaymentRun store run = .ok after) :
    Booking config store after := by
  unfold cancelPaymentRun at accepted
  split at accepted
  · cases accepted
  next row found =>
  obtain ⟨member, rfl⟩ := run?_some found
  split at accepted
  · cases accepted
  next draft =>
  cases accepted
  exact .cancel member (not_not.mp draft)

/-- Claiming a run as `executing` and entering its pass. -/
theorem claim_bookings {run : PaymentRun} {actor : UserId} (seen : List (PaymentId × PaymentStatus))
    (member : run ∈ store.runs) (standing : run.status ≠ .cancelled)
    (checked : checkRunSegregation run.initiatedBy actor config "execute" = .ok ()) :
    ReflTransGen (Booking config) store
      { store.putRun { run with status := .executing } with
        passes := store.passes ++ [⟨run.id, actor, none, seen⟩] } := by
  have executing : RunStatus.executing ≠ .draft ∧ RunStatus.executing ≠ .cancelled := by decide
  have claimed : Booking config store (store.putRun { run with status := .executing }) :=
    .status member ⟨rfl, rfl, rfl, .inr ⟨standing, executing⟩⟩
  have inRuns : { run with status := .executing } ∈ (store.putRun { run with status := .executing }).runs :=
    mem_putRow_self member rfl
  have entered := Booking.enter seen inRuns rfl checked
  exact .tail (.single claimed) entered

theorem executePaymentRun_bookings {user : UserId} {run : RunId} {provider : Option String}
    (accepted : executePaymentRun config store user run provider = .ok after) :
    ReflTransGen (Booking config) store after := by
  unfold executePaymentRun at accepted
  split at accepted
  · cases accepted
  next row found =>
  obtain ⟨member, rfl⟩ := run?_some found
  split at accepted
  · cases accepted
  next draft =>
  split at accepted
  · cases accepted
  next checked =>
  split at accepted
  · cases accepted
  split at accepted
  · cases accepted
  cases accepted
  refine claim_bookings [] member ?_ checked
  rw [not_not.mp draft]
  decide

theorem resumePaymentRun_booking {user : UserId} {run : RunId} {provider : Option String}
    (accepted : resumePaymentRun config store user run provider = .ok after) : Booking config store after := by
  unfold resumePaymentRun at accepted
  split at accepted
  · cases accepted
  next row found =>
  obtain ⟨member, rfl⟩ := run?_some found
  split at accepted
  · cases accepted
  next executing =>
  split at accepted
  · cases accepted
  · cases accepted
  next checked =>
  cases accepted
  exact .enter [] member (not_not.mp executing) checked

/-- A retried payment is booked again, or nothing is written for it. -/
theorem retryPayment_cases (before : PaymentStore) (run : RunId) (acc : PaymentStore × List String) (payment : Payment) :
    (retryPayment before run acc payment).1 = acc.1 ∨ ∃ amount, acc.1.insertPayment payment.invoiceId (some run) amount
      payment.method none (some payment.id) = some (retryPayment before run acc payment).1 := by
  unfold retryPayment
  split
  · exact .inl rfl
  split
  · exact .inl rfl
  split
  · exact .inl rfl
  split
  · exact .inl rfl
  split
  · exact .inl rfl
  split
  · exact .inl rfl
  split
  · exact .inl rfl
  split
  · exact .inl rfl
  · next inserted => exact .inr ⟨_, inserted⟩

/-- The loop of `/retry-failed`. The candidates still to come stay active, so that each is replaced
at most once. -/
theorem foldl_retryPayment (config : PaymentConfig) (before : PaymentStore) (run : RunId) (candidates : List Payment)
    (acc : PaymentStore × List String) (rows : Rows acc.1.payments acc.1.nextId)
    (distinct : (candidates.map Payment.id).Nodup)
    (open' : ∀ payment ∈ candidates, payment ∈ activeRunPayments (acc.1.runPayments run) ∧
      payment.status.isRetryable = true) :
    ReflTransGen (Booking config) acc.1 (candidates.foldl (retryPayment before run) acc).1 ∧
      ∃ added, acc.1.Extends added (candidates.foldl (retryPayment before run) acc).1 := by
  induction candidates generalizing acc with
  | nil => exact ⟨.refl, [], by rw [List.foldl_nil, List.append_nil], Nat.le_refl _, fun _ member => nomatch member⟩
  | cons payment rest ih =>
    obtain ⟨active, retryable⟩ := open' payment List.mem_cons_self
    obtain ⟨new, distinctRest⟩ := List.nodup_cons.mp distinct
    rw [List.foldl_cons]
    rcases retryPayment_cases before run acc payment with unchanged | ⟨amount, inserted⟩
    · have restOpen := fun other listed => open' other (List.mem_cons_of_mem payment listed)
      rw [← unchanged] at rows restOpen ⊢
      exact ih _ rows distinctRest restOpen
    · have first := insertPayment_extends inserted
      have rowsAfter := rows.insert_successor active retryable inserted
      have grown : (retryPayment before run acc payment).1.runPayments run = acc.1.runPayments run ++
          [acc.1.newPayment payment.invoiceId (some run) amount payment.method none (some payment.id)] := by
        rw [PaymentStore.runPayments, first.same, List.filter_append,
          List.filter_cons_of_pos (by simp only [PaymentStore.newPayment, beq_self_eq_true]), List.filter_nil]
        rfl
      have stillOpen : ∀ other ∈ rest, other ∈ activeRunPayments ((retryPayment before run acc payment).1.runPayments run) ∧
          other.status.isRetryable = true := by
        intro other listed
        obtain ⟨otherActive, otherRetryable⟩ := open' other (List.mem_cons_of_mem payment listed)
        refine ⟨?_, otherRetryable⟩
        rw [grown]
        refine ((rows.lines run).mem_active_append_successor (fun row here => ?_) active rfl other).mpr
          (.inl ⟨otherActive, fun same => new ?_⟩)
        · exact Nat.ne_of_lt (rows.issued row (List.mem_filter.mp here).1).1
        · exact List.mem_map.mpr ⟨other, listed, same⟩
      obtain ⟨bookings, added, second⟩ := ih _ rowsAfter distinctRest stillOpen
      exact ⟨.head (.retry active retryable inserted) bookings, _, first.trans second⟩

theorem retryCandidates_open (rows : List Payment) : ∀ payment ∈ retryCandidates rows,
    payment ∈ activeRunPayments rows ∧ payment.status.isRetryable = true := by
  intro payment listed
  obtain ⟨member, facts⟩ := List.mem_filter.mp listed
  obtain ⟨retryable, current⟩ := Bool.and_eq_true_iff.mp facts
  exact ⟨List.mem_filter.mpr ⟨member, current⟩, retryable⟩

/-- A retry only adds rows, and then claims the run. -/
theorem retryFailedPayments_bookings (ledger : Ledger store) {user : UserId} {run : RunId} {provider : Option String}
    (accepted : retryFailedPayments config store user run provider = .ok after) :
    ReflTransGen (Booking config) store after ∧ ∃ added, after.payments = store.payments ++ added := by
  simp only [retryFailedPayments] at accepted
  split at accepted
  · cases accepted
  next row found =>
  obtain ⟨member, rfl⟩ := run?_some found
  split at accepted
  · cases accepted
  next finished =>
  split at accepted
  · cases accepted
  next checked =>
  split at accepted
  · cases accepted
  split at accepted
  · cases accepted
  cases accepted
  have distinct : ((retryCandidates (store.runPayments row.id)).map Payment.id).Nodup :=
    ledger.rows.distinct.sublist ((List.filter_sublist.trans List.filter_sublist).map _)
  obtain ⟨bookings, added, extended⟩ := foldl_retryPayment config store row.id
    (retryCandidates (store.runPayments row.id)) (store, []) ledger.rows distinct (retryCandidates_open _)
  have standing : row.status ≠ .cancelled := by
    intro cancelled
    have kept (rollup : PaymentRunRollup) : deriveRunStatus (some .cancelled) rollup = .cancelled := rfl
    rw [cancelled, kept] at finished
    exact finished (by decide)
  have inRuns : row ∈ ((retryCandidates (store.runPayments row.id)).foldl (retryPayment store row.id) (store, [])).1.runs := by
    rw [extended.same]
    exact member
  have claimed := claim_bookings ((store.runPayments row.id).map fun payment => (payment.id, payment.status)) inRuns
    standing checked
  have samePasses := congrArg PaymentStore.passes extended.same
  simp only at samePasses
  rw [samePasses] at claimed
  exact ⟨bookings.trans claimed, added, congrArg PaymentStore.payments extended.same⟩

theorem readPendingPayments_booking (index : Nat) :
    readPendingPayments store index = store ∨ Booking config store (readPendingPayments store index) := by
  unfold readPendingPayments
  split
  · exact .inl rfl
  next pass current =>
  split
  · exact .inl rfl
  refine .inr (setPass_booking current rfl rfl fun ids queue id listed => .inr ?_)
  cases Option.some.inj queue
  obtain ⟨payment, pending, same⟩ := List.mem_map.mp listed
  exact ⟨payment, (List.mem_filter.mp pending).1, same⟩

/-- A pass that goes on to the rest of its queue. -/
theorem nextPass_booking {index : Nat} {pass : DispatchPass} {id : PaymentId} {rest : List PaymentId}
    {seen : List (PaymentId × PaymentStatus)} (current : store.passes[index]? = some pass)
    (queue : pass.queue = some (id :: rest)) :
    Booking config store (setPass store index { pass with queue := some rest, seen := seen }) := by
  refine setPass_booking current rfl rfl fun ids same other listed => .inl ⟨_, queue, ?_⟩
  cases Option.some.inj same
  exact List.mem_cons_of_mem id listed

theorem dispatchNextPayment_changes (index : Nat) (env : DispatchEnv) :
    Changes config store (.dispatchNext index env) (dispatchNextPayment store index env).1 := by
  unfold dispatchNextPayment
  split
  · exact .refl
  next pass current =>
  split
  · exact .refl
  · exact .refl
  next id rest queue =>
  split
  · exact .single (dropPass_booking index)
  next payment found =>
  obtain ⟨member, rfl⟩ := payment?_some found
  split
  · exact .single (nextPass_booking current queue)
  next waiting =>
  have outcome : Outcome store payment (.dispatchNext index env) _ :=
    .dispatched current queue found (not_not.mp waiting)
  refine ⟨_, .rewritten member outcome, (commitDispatch_bookings _).tail (nextPass_booking ?_ queue)⟩
  rw [commitDispatch_passes]
  exact current

theorem finishDispatchPass_bookings (ledger : Ledger store) (index : Nat) (now : Time) :
    ReflTransGen (Booking config) store (finishDispatchPass store index now) := by
  unfold finishDispatchPass
  split
  · exact .refl
  next pass current =>
  split
  · next run queue found =>
    obtain ⟨inRuns, sameId⟩ := run?_some found
    obtain ⟨other, also, sameRun, undrafted, standing⟩ := ledger.claimed pass (List.mem_of_getElem? current)
    have one := ledger.run_eq also inRuns (sameRun.trans sameId.symm)
    subst one
    obtain ⟨nonempty, exactly⟩ := ledger.covered other also standing
    obtain ⟨invoice, rest, listed⟩ := List.exists_cons_of_ne_nil nonempty
    obtain ⟨payment, here, _⟩ := (exactly invoice).mp (by rw [listed]; exact List.mem_cons_self)
    rw [sameId] at here
    have active := active_ne_nil ledger here
    refine .tail (.single (.status inRuns ?_)) (dropPass_booking index)
    refine ⟨rfl, rfl, rfl, ?_⟩
    simp only
    split
    · exact .inl rfl
    · refine .inr ⟨standing, fun draft => ?_, PaymentRunRollup.runStatus_ne_cancelled _⟩
      have none' := PaymentRunRollup.runStatus_draft draft
      rw [rollupPaymentStatuses_total, List.length_map] at none'
      exact active (List.eq_nil_of_length_eq_zero none')
  · exact .refl

theorem releaseComplianceHold_changes (ledger : Ledger store) {user : UserId} {id : PaymentId} {provider : Option String}
    {env : DispatchEnv} {released : PaymentStore × Option Handoff}
    (accepted : releaseComplianceHold store user id provider env = .ok released) :
    Changes config store (.release user id provider env) released.1 := by
  unfold releaseComplianceHold at accepted
  split at accepted
  · cases accepted
  next payment found =>
  obtain ⟨member, rfl⟩ := payment?_some found
  split at accepted
  · cases accepted
  next held =>
  split at accepted
  · cases accepted
  cases accepted
  have outcome : Outcome store payment (.release user payment.id none env) _ :=
    .released found (not_not.mp held)
  have booked := ledger.rewrite member outcome.live outcome.sameOrder
  have commits : ReflTransGen (Booking config) (store.putPayment _) _ := commitDispatch_bookings (attempt store payment env)
  have inTable : (attempt store payment env).payment ∈ (commitDispatch store (attempt store payment env)).payments := by
    rw [commitDispatch_payments]
    exact mem_putPayment_self member outcome.sameOrder
  exact ⟨_, .rewritten member outcome, commits.trans
    (recomputeParentRunStatus_bookings (booked.bookings commits) inTable)⟩

theorem dismissComplianceHold_changes (ledger : Ledger store) {userName reason : String} {id : PaymentId} {now : Time}
    (accepted : dismissComplianceHold store userName id reason now = .ok after) :
    Changes config store (.dismiss userName id reason now) after := by
  unfold dismissComplianceHold at accepted
  split at accepted
  · cases accepted
  next payment found =>
  obtain ⟨member, rfl⟩ := payment?_some found
  split at accepted
  · cases accepted
  next held =>
  cases accepted
  have outcome : Outcome store payment (.dismiss userName payment.id reason now) _ :=
    .dismissed found (not_not.mp held)
  exact ⟨_, .rewritten member outcome, recomputeParentRunStatus_bookings
    (ledger.rewrite member outcome.live outcome.sameOrder) (mem_putPayment_self member outcome.sameOrder)⟩

theorem voidPayment_changes (ledger : Ledger store) {userName reason : String} {id : PaymentId} {now : Time}
    (accepted : voidPayment store userName id reason now = .ok after) :
    Changes config store (.void userName id reason now) after := by
  simp only [voidPayment] at accepted
  split at accepted
  · cases accepted
  next payment found =>
  obtain ⟨member, rfl⟩ := payment?_some found
  split at accepted
  · cases accepted
  next standing =>
  split at accepted
  · cases accepted
  next unfailed =>
  have live : payment.status.isLive = true := by
    simp only [List.mem_cons, List.not_mem_nil, or_false, not_or] at standing
    simp only [PaymentStatus.isLive, PaymentStatus.dead, List.contains_cons, List.contains_nil, Bool.or_false,
      Bool.not_or, Bool.and_eq_true, Bool.not_eq_true', beq_eq_false_iff_ne, ne_eq]
    exact ⟨standing.1, unfailed, standing.2⟩
  have outcome : Outcome store payment (.void userName payment.id reason now) _ := .voided live
  have booked := ledger.rewrite member outcome.live outcome.sameOrder
  have inTable := mem_putPayment_self member outcome.sameOrder
  cases accepted
  refine ⟨_, .rewritten member outcome, ?_⟩
  split
  · exact recomputeParentRunStatus_bookings booked inTable
  split
  · next invoice _ _ =>
    have reopened : Booking config (store.putPayment (payment.reverse userName reason now)) _ :=
      booking_invoices (putRow PayableInvoice.id { invoice with status := .approved } store.invoices)
    exact .head reopened (recomputeParentRunStatus_bookings (booked.booking reopened) inTable)
  · exact recomputeParentRunStatus_bookings booked inTable

theorem paymentWebhook_changes (provider : String) (status : AdapterStatus) (reference failureReason : Option String)
    (now : Time) : Changes config store (.webhook provider status reference failureReason now)
      (paymentWebhook store provider status reference failureReason now) := by
  unfold paymentWebhook
  split
  · next payment only =>
    split
    · next moving =>
      have listed : payment ∈ store.payments.filter (·.providerPaymentId == some provider) := by
        rw [only]
        exact List.mem_singleton.mpr rfl
      obtain ⟨member, handle⟩ := List.mem_filter.mp listed
      exact ⟨_, .rewritten member (.event (beq_iff_eq.mp handle) moving), .refl⟩
    · exact .refl
  · exact .refl

/-- Flagging keeps every exception, covering at least what it covered. -/
theorem flagAgedOutPayment_kept (exceptions : List InvoiceException) (payment : Payment) :
    ∀ exception ∈ exceptions, ∃ later ∈ flagAgedOutPayment exceptions payment, later.invoiceId = exception.invoiceId ∧
      later.exceptionType = exception.exceptionType ∧ exception.covers ⊆ later.covers := by
  intro exception member
  simp only [flagAgedOutPayment]
  split
  · refine ⟨_, List.mem_map_of_mem member, ?_⟩
    split
    · exact ⟨rfl, rfl, List.subset_cons_self _ _⟩
    · exact ⟨rfl, rfl, List.Subset.refl _⟩
  · exact ⟨exception, List.mem_append_left _ member, rfl, rfl, List.Subset.refl _⟩

theorem ageOutPayment_changes (id : PaymentId) (now : Time) (hours : String) (flagged : Bool) :
    Changes config store (.ageOut id now hours flagged) (ageOutPayment config store id now hours flagged) := by
  unfold ageOutPayment
  split
  · exact .refl
  next payment found =>
  obtain ⟨member, rfl⟩ := payment?_some found
  split
  · next old =>
    refine ⟨_, .rewritten member (.aged old.1), .single (.outside _ _ ?_)⟩
    intro exception listed
    split
    · exact flagAgedOutPayment_kept store.exceptions payment exception listed
    · exact ⟨exception, listed, rfl, rfl, List.Subset.refl _⟩
  · exact .refl

theorem pollPayment_changes (id : PaymentId) (upstream : AdapterStatus) (now : Time) :
    Changes config store (.poll id upstream now) (pollPayment store id upstream now) := by
  unfold pollPayment
  split
  · exact .refl
  next payment found =>
  obtain ⟨member, rfl⟩ := payment?_some found
  split
  · next moving => exact ⟨_, .rewritten member (.polled moving.1), .refl⟩
  · exact .refl

theorem Changes.orUnchanged {result : Except Raised PaymentStore}
    (changes : ∀ accepted, result = .ok accepted → Changes config store label accepted) :
    Changes config store label (orUnchanged store result).1 := by
  cases result with
  | ok accepted => exact changes accepted rfl
  | error => exact .refl

/-- Every section is one rewrite of a live payment at most, and bookings. -/
theorem runPaymentLabel_changes (ledger : Ledger store) (label : PaymentLabel) :
    Changes config store label (runPaymentLabel config store label).1 := by
  cases label with
  | createRun => exact .orUnchanged fun _ accepted => .single (createPaymentRun_booking accepted)
  | createPayment =>
    refine .orUnchanged fun _ accepted => ?_
    rcases createPayment_changes accepted with rfl | booking
    · exact .refl
    · exact .single booking
  | approveRun => exact .orUnchanged fun _ accepted => .single (approvePaymentRun_booking accepted)
  | cancelRun => exact .orUnchanged fun _ accepted => .single (cancelPaymentRun_booking accepted)
  | executeRun => exact .orUnchanged fun _ accepted => ⟨store, .untouched, executePaymentRun_bookings accepted⟩
  | resumeRun => exact .orUnchanged fun _ accepted => .single (resumePaymentRun_booking accepted)
  | retryFailed => exact .orUnchanged fun _ accepted => ⟨store, .untouched, (retryFailedPayments_bookings ledger accepted).1⟩
  | readPending index =>
    have read : readPendingPayments store index = store ∨ Booking config store (readPendingPayments store index) :=
      readPendingPayments_booking index
    simp only [runPaymentLabel]
    rcases read with same | booking
    · rw [same]
      exact .refl
    · exact .single booking
  | dispatchNext index env => exact dispatchNextPayment_changes index env
  | crashInDispatch index => exact .single (dropPass_booking index)
  | finishPass index now => exact ⟨store, .untouched, finishDispatchPass_bookings ledger index now⟩
  | crash index => exact .single (dropPass_booking index)
  | release user payment provider env =>
    simp only [runPaymentLabel]
    split
    · next accepted => exact releaseComplianceHold_changes ledger accepted
    · exact .refl
  | crashInRelease =>
    simp only [runPaymentLabel]
    split <;> exact .refl
  | dismiss => exact .orUnchanged fun _ accepted => dismissComplianceHold_changes ledger accepted
  | void => exact .orUnchanged fun _ accepted => voidPayment_changes ledger accepted
  | webhook provider status reference failureReason now =>
    exact paymentWebhook_changes provider status reference failureReason now
  | ageOut payment now hours flagged => exact ageOutPayment_changes payment now hours flagged
  | poll payment upstream now => exact pollPayment_changes payment upstream now
  | openException invoice type =>
    exact .single (.outside store.invoices _ fun exception member =>
      ⟨exception, List.mem_append_left _ member, rfl, rfl, List.Subset.refl _⟩)
  | setExceptionStatus index status =>
    refine .single (.outside store.invoices _ fun exception member => ?_)
    obtain ⟨position, below, rfl⟩ := List.getElem_of_mem member
    have inside : position < (store.exceptions.modify index fun exception => { exception with status := status }).length := by
      rwa [List.length_modify]
    refine ⟨_, List.getElem_mem inside, ?_⟩
    rw [List.getElem_modify]
    split
    · exact ⟨rfl, rfl, List.Subset.refl _⟩
    · exact ⟨rfl, rfl, List.Subset.refl _⟩
  | putInvoice => exact .single (booking_invoices _)

end

/-- Every reachable store keeps the ledger. -/
theorem reach_ledger {config : PaymentConfig} {allowed : PaymentStore → PaymentLabel → Prop} {store : PaymentStore}
    (reach : (paymentMachine config).Reach allowed store) : Ledger store := by
  have start : ∀ first, (paymentMachine config).init first → Ledger first :=
    fun first begins => .empty begins.1 begins.2.1 begins.2.2
  have step : ∀ before label, Ledger before → allowed before label → Ledger ((paymentMachine config).step before label) :=
    fun before label ledger _ => (runPaymentLabel_changes ledger label).ledger ledger
  exact reach.invariant start step

end Payables
