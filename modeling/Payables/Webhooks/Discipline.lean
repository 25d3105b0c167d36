import Payables.Webhooks.Delivery

namespace Payables
open Lib

/-- What happened since the last redeliver request, if there was one. -/
def sinceRedeliver (history : List DeliveryEvent) : List DeliveryEvent := history.takeWhile (· != .redelivered)

def DeliveryEvent.isPost : DeliveryEvent → Bool
  | posted .. => true
  | _ => false

/-- The POSTs since then. -/
def postsSince (history : List DeliveryEvent) : Nat := (sinceRedeliver history).countP (·.isPost)

/-- The `next_attempt_at` that the latest failure recorded. -/
def lastFailure : List DeliveryEvent → Option Time
  | [] => none
  | .failed next :: _ => some next
  | _ :: earlier => lastFailure earlier

/-- Nothing is sent after it was delivered, nor past the budget or after a dead letter unless a redeliver
request came, nor on its own account before a failure said. -/
def Disciplined : List DeliveryEvent → Prop
  | [] => True
  | .posted now automatic :: earlier =>
    (DeliveryEvent.delivered ∉ earlier ∧ DeliveryEvent.dead ∉ sinceRedeliver earlier ∧ postsSince earlier < maxAttempts ∧
      (automatic = true → ∀ next ∈ lastFailure earlier, next ≤ now)) ∧ Disciplined earlier
  | _ :: earlier => Disciplined earlier

instance Disciplined.decidable : (history : List DeliveryEvent) → Decidable (Disciplined history)
  | [] => inferInstanceAs (Decidable True)
  | .posted now automatic :: earlier =>
    have := Disciplined.decidable earlier
    inferInstanceAs (Decidable ((DeliveryEvent.delivered ∉ earlier ∧ DeliveryEvent.dead ∉ sinceRedeliver earlier ∧
      postsSince earlier < maxAttempts ∧ (automatic = true → ∀ next ∈ lastFailure earlier, next ≤ now)) ∧ Disciplined earlier))
  | .redelivered :: earlier => Disciplined.decidable earlier
  | .delivered :: earlier => Disciplined.decidable earlier
  | .failed _ :: earlier => Disciplined.decidable earlier
  | .dead :: earlier => Disciplined.decidable earlier

/-- The discipline of outbound delivery: one row a subscription and event, one POST of a row at a time, and
every row with a disciplined history, the POST in flight included. -/
structure DeliveryDiscipline (store : WebhookStore) : Prop where
  oneRow : (store.deliveries.map fun delivery => (delivery.subscriptionId, delivery.eventId)).Nodup
  oneInFlight : (store.inFlight.map (·.delivery)).Nodup
  rows : ∀ delivery ∈ store.deliveries, Disciplined delivery.state.history
  attempts : ∀ attempt ∈ store.inFlight, Disciplined attempt.state.history

/-- An immediate attempt does not find its row failed and not due yet. -/
def NotAhead (store : WebhookStore) : WebhookLabel → Prop
  | .immediate elapsed index _ => ∀ id ∈ store.spawned[index]?, ∀ delivery ∈ store.delivery? id,
      delivery.state.status = .failed → ∀ next ∈ delivery.state.nextAttemptAt, next ≤ store.clock + elapsed
  | _ => True

/-- A row whose attempt is still to come: nothing in its history stands against it. -/
structure Sendable (state : DeliveryState) : Prop where
  disciplined : Disciplined state.history
  undelivered : DeliveryEvent.delivered ∉ state.history
  alive : DeliveryEvent.dead ∉ sinceRedeliver state.history
  budget : postsSince state.history ≤ state.attemptCount
  left : state.attemptCount < maxAttempts

/-- A row as it is committed. -/
structure Committed (state : DeliveryState) : Prop where
  disciplined : Disciplined state.history
  undelivered : state.status ≠ .delivered → DeliveryEvent.delivered ∉ state.history
  sendable : state.isTerminal = false → Sendable state
  pending : state.status = .pending → lastFailure state.history = none
  failed : state.status = .failed → lastFailure state.history = state.nextAttemptAt

/-- A row in the session that sends it. -/
structure Sent (state : DeliveryState) : Prop where
  disciplined : Disciplined state.history
  undelivered : DeliveryEvent.delivered ∉ state.history
  alive : DeliveryEvent.dead ∉ sinceRedeliver state.history
  budget : postsSince state.history ≤ state.attemptCount
  within : state.attemptCount ≤ maxAttempts

section
variable {state : DeliveryState} {now : Time}

theorem Sendable.post (sendable : Sendable state) {automatic : Bool} (reachable : Bool)
    (due : automatic = true → ∀ next ∈ lastFailure state.history, next ≤ now) : Sent (state.post now automatic reachable) := by
  obtain ⟨disciplined, undelivered, alive, budget, left⟩ := sendable
  cases reachable with
  | false =>
    have budget' : postsSince state.history ≤ state.attemptCount + 1 := by omega
    exact ⟨disciplined, undelivered, alive, budget', left⟩
  | true =>
    have counted : postsSince (.posted now automatic :: state.history) = postsSince state.history + 1 := by
      simp only [postsSince, sinceRedeliver]
      rw [List.takeWhile_cons_of_pos (by rfl), List.countP_cons_of_pos (by rfl)]
    have budget' : postsSince state.history + 1 ≤ state.attemptCount + 1 := by omega
    refine ⟨⟨⟨undelivered, alive, by omega, due⟩, disciplined⟩, ?_, ?_, counted ▸ budget', left⟩
    · exact fun listed => (List.mem_cons.mp listed).elim DeliveryEvent.noConfusion undelivered
    · simp only [DeliveryState.post, if_true, sinceRedeliver]
      rw [List.takeWhile_cons_of_pos (by rfl)]
      exact fun listed => (List.mem_cons.mp listed).elim DeliveryEvent.noConfusion alive

theorem Committed.deadLetter (disciplined : Disciplined state.history) (undelivered : DeliveryEvent.delivered ∉ state.history) :
    Committed state.deadLetter where
  disciplined := disciplined
  undelivered := fun _ listed => (List.mem_cons.mp listed).elim DeliveryEvent.noConfusion undelivered
  sendable := Bool.noConfusion
  pending := DeliveryStatus.noConfusion
  failed := DeliveryStatus.noConfusion

theorem Sent.conclude (sent : Sent state) (now : Time) (ok : Bool) : Committed (state.conclude now ok) := by
  obtain ⟨disciplined, undelivered, alive, budget, within⟩ := sent
  unfold DeliveryState.conclude
  split
  · exact ⟨disciplined, fun open' => absurd rfl open', Bool.noConfusion, DeliveryStatus.noConfusion, DeliveryStatus.noConfusion⟩
  split
  · exact .deadLetter disciplined undelivered
  · next left =>
    have undelivered' : DeliveryEvent.delivered ∉ .failed (now + nextBackoff state.attemptCount) :: state.history :=
      fun listed => (List.mem_cons.mp listed).elim DeliveryEvent.noConfusion undelivered
    refine ⟨disciplined, fun _ => undelivered', fun _ => ⟨disciplined, undelivered', ?_, ?_, not_le.mp left⟩, DeliveryStatus.noConfusion,
      fun _ => rfl⟩
    · simp only [sinceRedeliver]
      rw [List.takeWhile_cons_of_pos (by rfl)]
      exact fun listed => (List.mem_cons.mp listed).elim DeliveryEvent.noConfusion alive
    · simp only [postsSince, sinceRedeliver] at budget ⊢
      rw [List.takeWhile_cons_of_pos (by rfl), List.countP_cons_of_neg (by exact Bool.false_ne_true)]
      exact budget

theorem Committed.requeue (committed : Committed state) (retryable : state.status = .failed ∨ state.status = .dead) (now : Time) :
    Sendable (state.requeue now) where
  disciplined := committed.disciplined
  undelivered := by
    have undelivered := committed.undelivered (by rcases retryable with status | status <;> rw [status] <;> exact DeliveryStatus.noConfusion)
    exact fun listed => (List.mem_cons.mp listed).elim DeliveryEvent.noConfusion undelivered
  alive := by
    simp only [DeliveryState.requeue, sinceRedeliver]
    rw [List.takeWhile_cons_of_neg (by exact Bool.false_ne_true)]
    exact List.not_mem_nil
  budget := Nat.le_refl 0
  left := Nat.zero_lt_succ 4

/-- A due row may be sent: its last failure asks for no more time. -/
theorem Committed.due (committed : Committed state) (due : state.isDue now = true) :
    state.isTerminal = false ∧ ∀ next ∈ lastFailure state.history, next ≤ now := by
  obtain ⟨waiting, reached⟩ := Bool.and_eq_true_iff.mp due
  rcases Bool.or_eq_true_iff.mp waiting with pending | failed
  · have status := beq_iff_eq.mp pending
    rw [committed.pending status]
    refine ⟨by rw [DeliveryState.isTerminal, status]; rfl, fun next listed => nomatch listed⟩
  · have status := beq_iff_eq.mp failed
    rw [committed.failed status]
    refine ⟨by rw [DeliveryState.isTerminal, status]; rfl, fun next listed => ?_⟩
    rw [Option.mem_def.mp listed] at reached
    exact of_decide_eq_true reached

end

/-- What holds of the control plane in every state. -/
structure DeliveryInv (store : WebhookStore) : Prop where
  keys : (store.deliveries.map fun delivery => (delivery.subscriptionId, delivery.eventId)).Nodup
  rows : ∀ delivery ∈ store.deliveries, Committed delivery.state
  flights : (store.inFlight.map (·.delivery)).Nodup
  sent : ∀ attempt ∈ store.inFlight, Sent attempt.state
  sweeps : ∀ sweep ∈ store.sweeps, sweep.now ≤ store.clock

namespace DeliveryInv

variable {store : WebhookStore}

theorem discipline (inv : DeliveryInv store) : DeliveryDiscipline store where
  oneRow := inv.keys
  oneInFlight := inv.flights
  rows := fun delivery member => (inv.rows delivery member).disciplined
  attempts := fun attempt member => (inv.sent attempt member).disciplined

theorem after (inv : DeliveryInv store) (elapsed : Nat) : DeliveryInv (store.after elapsed) := by
  refine ⟨inv.keys, inv.rows, inv.flights, inv.sent, fun sweep member => ?_⟩
  have before : sweep.now ≤ store.clock := inv.sweeps sweep member
  show sweep.now ≤ store.clock + elapsed
  exact before.trans (Int.le_add_of_nonneg_right (Int.natCast_nonneg elapsed))

theorem update (inv : DeliveryInv store) (id : DeliveryId) {state : DeliveryState} (committed : Committed state) :
    DeliveryInv (store.update id state) where
  keys := by
    have same : ((store.update id state).deliveries.map fun delivery => (delivery.subscriptionId, delivery.eventId)) =
        store.deliveries.map fun delivery => (delivery.subscriptionId, delivery.eventId) := by
      rw [WebhookStore.update, List.map_map]
      refine List.map_congr_left fun delivery _ => ?_
      simp only [Function.comp_apply]
      split <;> rfl
    rw [same]
    exact inv.keys
  rows := by
    intro delivery member
    obtain ⟨row, inTable, rfl⟩ := List.mem_map.mp member
    split
    · exact committed
    · exact inv.rows row inTable
  flights := inv.flights
  sent := inv.sent
  sweeps := inv.sweeps

theorem insert {acc : WebhookStore × List DeliveryId} (inv : DeliveryInv acc.1) (organization : OrganizationId) (eventId : String)
    (subscription : SubscriptionId) : DeliveryInv (WebhookStore.insertDelivery organization eventId acc subscription).1 := by
  unfold WebhookStore.insertDelivery
  split
  · exact inv
  next vacant =>
  refine ⟨?_, fun delivery member => ?_, inv.flights, inv.sent, inv.sweeps⟩
  · rw [List.map_append]
    refine List.Nodup.append inv.keys (List.nodup_singleton _) fun key old new => vacant ?_
    obtain ⟨row, member, rfl⟩ := List.mem_map.mp old
    have same := List.mem_singleton.mp new
    simp only [newDelivery, Prod.mk.injEq] at same
    exact List.any_eq_true.mpr ⟨row, member, by rw [same.1, same.2, beq_self_eq_true, beq_self_eq_true, Bool.and_self]⟩
  · rcases List.mem_append.mp member with old | new
    · exact inv.rows delivery old
    · rw [List.mem_singleton.mp new]
      have sendable : Sendable (newDelivery acc.1.nextId subscription organization eventId acc.1.clock).state :=
        ⟨trivial, List.not_mem_nil, List.not_mem_nil, Nat.le_refl 0, Nat.zero_lt_succ 4⟩
      exact ⟨trivial, fun _ => List.not_mem_nil, fun _ => sendable, fun _ => rfl, DeliveryStatus.noConfusion⟩

theorem emit (inv : DeliveryInv store) (organization : OrganizationId) (eventType eventKey : String) (spawns : Bool) :
    DeliveryInv (store.emit organization eventType eventKey spawns) := by
  have inserted (targets : List SubscriptionId) (acc : WebhookStore × List DeliveryId) (before : DeliveryInv acc.1) :
      DeliveryInv (targets.foldl (WebhookStore.insertDelivery organization (eventType ++ ":" ++ eventKey)) acc).1 := by
    induction targets generalizing acc with
    | nil => exact before
    | cons subscription rest ih => exact ih _ (before.insert organization _ subscription)
  have done := inserted ((store.subscriptions.filter fun subscription =>
    subscription.organizationId == organization && subscription.active && subscription.eventTypes.contains eventType).map
      (·.id)) (store, []) inv
  exact ⟨done.keys, done.rows, done.flights, done.sent, done.sweeps⟩

/-- The attempt on a row that nobody holds. -/
theorem process (inv : DeliveryInv store) {delivery : WebhookDelivery} {state : DeliveryState} {automatic reachable : Bool}
    (unlocked : store.isLocked delivery.id = false) (sendable : state.isTerminal = false → Sendable state)
    (due : automatic = true → state.isTerminal = false → ∀ next ∈ lastFailure state.history, next ≤ store.clock) :
    DeliveryInv (store.process delivery state automatic reachable) := by
  unfold WebhookStore.process
  split
  · exact inv
  next waiting =>
  have open' : state.isTerminal = false := Bool.not_eq_true _ ▸ waiting
  have ready := sendable open'
  split
  · exact inv.update delivery.id (.deadLetter ready.disciplined ready.undelivered)
  · refine ⟨inv.keys, inv.rows, ?_, fun attempt member => ?_, inv.sweeps⟩
    · rw [List.map_append]
      refine List.Nodup.append inv.flights (List.nodup_singleton _) fun id old new => ?_
      obtain ⟨attempt, member, rfl⟩ := List.mem_map.mp old
      have held : store.isLocked delivery.id = true :=
        List.any_eq_true.mpr ⟨attempt, member, beq_iff_eq.mpr (List.mem_singleton.mp new)⟩
      exact Bool.false_ne_true (unlocked.symm.trans held)
    · rcases List.mem_append.mp member with old | new
      · exact inv.sent attempt old
      · rw [List.mem_singleton.mp new]
        exact ready.post reachable fun automatic => due automatic open'

theorem delivery?_mem {id : DeliveryId} {delivery : WebhookDelivery} (found : store.delivery? id = some delivery) :
    delivery ∈ store.deliveries ∧ delivery.id = id := getRow_some found

theorem immediate (inv : DeliveryInv store) {index : Nat} {reachable : Bool}
    (notAhead : ∀ id ∈ store.spawned[index]?, ∀ delivery ∈ store.delivery? id, delivery.state.status = .failed →
      ∀ next ∈ delivery.state.nextAttemptAt, next ≤ store.clock) : DeliveryInv (store.immediate index reachable) := by
  unfold WebhookStore.immediate
  split
  · exact inv
  next id listed =>
  have taken : DeliveryInv { store with spawned := store.spawned.eraseIdx index } :=
    ⟨inv.keys, inv.rows, inv.flights, inv.sent, inv.sweeps⟩
  simp only
  split
  · exact taken
  next delivery found =>
  obtain ⟨member, same⟩ := delivery?_mem found
  have committed := inv.rows delivery member
  split
  · exact taken
  next free =>
  refine taken.process (by rw [same]; exact Bool.not_eq_true _ ▸ free) committed.sendable fun _ waiting next recorded => ?_
  cases status : delivery.state.status with
  | pending =>
    rw [committed.pending status] at recorded
    cases recorded
  | failed =>
    rw [committed.failed status] at recorded
    exact notAhead id listed delivery found status next recorded
  | delivered | dead =>
    rw [DeliveryState.isTerminal, status] at waiting
    cases waiting

theorem claimDue (inv : DeliveryInv store) (index : Nat) (reachable : Bool) : DeliveryInv (store.claimDue index reachable) := by
  unfold WebhookStore.claimDue
  split
  · exact inv
  next sweep current =>
  have past := inv.sweeps sweep (List.mem_of_getElem? current)
  split
  · exact ⟨inv.keys, inv.rows, inv.flights, inv.sent, fun other member =>
      inv.sweeps other ((List.eraseIdx_sublist store.sweeps index).subset member)⟩
  next id rest _ =>
  have taken : DeliveryInv { store with sweeps := store.sweeps.set index ⟨sweep.now, rest⟩ } := by
    refine ⟨inv.keys, inv.rows, inv.flights, inv.sent, fun other member => ?_⟩
    rcases List.mem_or_eq_of_mem_set member with old | rfl
    · exact inv.sweeps other old
    · exact past
  simp only
  split
  · exact taken
  next delivery found =>
  obtain ⟨member, same⟩ := delivery?_mem found
  have committed := inv.rows delivery member
  split
  · exact taken
  next free =>
  simp only [Bool.or_eq_true, Bool.not_eq_true', not_or, Bool.not_eq_true, Bool.not_eq_false] at free
  refine taken.process (by rw [same]; exact free.1) committed.sendable fun _ _ next recorded => ?_
  exact ((committed.due free.2).2 next recorded).trans past

theorem redeliver (inv : DeliveryInv store) (organization : OrganizationId) (id : DeliveryId) (reachable : Bool) :
    DeliveryInv (store.redeliver organization id reachable) := by
  unfold WebhookStore.redeliver
  split
  · exact inv
  next delivery found =>
  obtain ⟨member, same⟩ := delivery?_mem found
  split
  · exact inv
  next free =>
  obtain ⟨unlocked, _⟩ := not_or.mp free
  split
  · exact inv
  next retryable =>
  have retryable' : delivery.state.status = .failed ∨ delivery.state.status = .dead := by tauto
  refine inv.process (by rw [same]; exact Bool.not_eq_true _ ▸ unlocked) (fun _ => ?_) Bool.noConfusion
  exact (inv.rows delivery member).requeue retryable' store.clock

theorem finish (inv : DeliveryInv store) (index : Nat) (responseCode : Option Nat) :
    DeliveryInv (store.finish index responseCode) := by
  unfold WebhookStore.finish
  split
  · exact inv
  next attempt current =>
  have kept := List.eraseIdx_sublist store.inFlight index
  have sent := inv.sent attempt (List.mem_of_getElem? current)
  have written := inv.update attempt.delivery (sent.conclude store.clock
    (attempt.reachable && responseCode.any fun code => decide (200 ≤ code ∧ code < 300)))
  exact ⟨written.keys, written.rows, inv.flights.sublist (kept.map _), fun other member => inv.sent other (kept.subset member),
    written.sweeps⟩

theorem step (inv : DeliveryInv store) {label : WebhookLabel} (notAhead : NotAhead store label) :
    DeliveryInv (runWebhookLabel store label) := by
  cases label with
  | setActive => exact ⟨inv.keys, inv.rows, inv.flights, inv.sent, inv.sweeps⟩
  | emit elapsed organization eventType eventKey spawns => exact (inv.after elapsed).emit organization eventType eventKey spawns
  | immediate elapsed => exact (inv.after elapsed).immediate notAhead
  | readDue elapsed limit =>
    have later := inv.after elapsed
    refine ⟨later.keys, later.rows, later.flights, later.sent, fun sweep member => ?_⟩
    rcases List.mem_append.mp member with old | new
    · exact later.sweeps sweep old
    · rw [List.mem_singleton.mp new]
      exact le_refl _
  | claimDue elapsed sweep reachable => exact (inv.after elapsed).claimDue sweep reachable
  | redeliver elapsed organization id reachable => exact (inv.after elapsed).redeliver organization id reachable
  | finish elapsed index responseCode => exact (inv.after elapsed).finish index responseCode

end DeliveryInv

/-- Outbound delivery keeps its discipline in every run in which no immediate attempt finds its row already
failed and not due again. -/
theorem delivery_discipline (store : WebhookStore) (reach : webhookMachine.Reach NotAhead store) : DeliveryDiscipline store := by
  have start : ∀ first, webhookMachine.init first → DeliveryInv first := by
    rintro first ⟨noRows, _, noSweeps, noFlights⟩
    refine ⟨?_, ?_, ?_, ?_, ?_⟩
    · rw [noRows]
      exact List.nodup_nil
    · rw [noRows]
      exact fun delivery member => nomatch member
    · rw [noFlights]
      exact List.nodup_nil
    · rw [noFlights]
      exact fun attempt member => nomatch member
    · rw [noSweeps]
      exact fun sweep member => nomatch member
  have step : ∀ before label, DeliveryInv before → NotAhead before label → DeliveryInv (webhookMachine.step before label) :=
    fun _ _ inv notAhead => inv.step notAhead
  exact (reach.invariant start step).discipline

instance (store : WebhookStore) : (label : WebhookLabel) → Decidable (NotAhead store label)
  | .immediate elapsed index _ => inferInstanceAs (Decidable (∀ id ∈ store.spawned[index]?, ∀ delivery ∈ store.delivery? id,
      delivery.state.status = .failed → ∀ next ∈ delivery.state.nextAttemptAt, next ≤ store.clock + elapsed))
  | .setActive .. | .emit .. | .readDue .. | .claimDue .. | .redeliver .. | .finish .. => inferInstanceAs (Decidable True)

/-- One organization that listens to one type of event. -/
def subscribed : WebhookStore := ⟨[⟨1, 1, ["invoice.approved"], true⟩], [], 0, 0, [], [], []⟩

theorem delivery_discipline_retried : DeliveryDiscipline (webhookMachine.exec subscribed
    [.emit 0 1 "invoice.approved" "a" true, .emit 0 1 "invoice.approved" "a" true, .immediate 0 0 true, .finish 1 0 (some 500),
      .readDue 30000000 100, .claimDue 0 0 true, .finish 1 0 (some 200)]) := by
  refine delivery_discipline _ (Machine.Reach.exec (.start ?_) ?_)
  · exact ⟨rfl, rfl, rfl, rfl⟩
  · decide

/-- A sweep takes the row between the commit of `emit_event` and the attempt it spawned; its POST fails, and the
attempt then sends again at once. -/
theorem immediate_ahead : ¬DeliveryDiscipline (webhookMachine.exec subscribed
    [.emit 0 1 "invoice.approved" "a" true, .readDue 0 100, .claimDue 0 0 true, .finish 1 0 (some 500), .immediate 0 0 true]) := by
  intro held
  have sent := held.attempts
  revert sent
  decide +kernel

end Payables
