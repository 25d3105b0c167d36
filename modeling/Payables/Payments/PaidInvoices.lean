import Payables.Payments.TerminalPayments

namespace Payables
open Lib Relation

/-- A row that a section rewrites in a draft was untried, and it stays so. -/
theorem RowChange.stays_untried {store : RailStore} {payment written : Payment} {label : RailLabel} {columns : RailColumns}
    (ledger : Ledger store.base) (change : RowChange store payment label written columns) (untried : payment.IsUntried)
    {run : PaymentRun} (inRuns : run ∈ store.base.runs) (draft : run.status = .draft)
    (mine : payment.paymentRunId = some run.id) (member : payment ∈ store.base.payments) : written.IsUntried := by
  have never {status : PaymentStatus} (here : payment.status = status) (tried : status ≠ .pending ∧ status ≠ .voided) :
      written.IsUntried := by
    rcases untried with ⟨pending, _⟩ | voided
    · exact absurd (here.symm.trans pending) tried.1
    · exact absurd (here.symm.trans voided) tried.2
  cases change with
  | dispatched waiting =>
    obtain ⟨next, _⟩ := RailStore.waitingPayment_some waiting
    obtain ⟨id, queued, found⟩ := Option.bind_eq_some_iff.mp next
    obtain ⟨queue, reads, head⟩ := Option.bind_eq_some_iff.mp queued
    obtain ⟨pass, current, ids⟩ := Option.bind_eq_some_iff.mp reads
    have inPasses := List.mem_of_getElem? current
    have owned := (ledger.queued pass inPasses queue ids id (List.mem_of_mem_head? head)).2 payment member (payment?_some found).2
    obtain ⟨owner, also, sameId, undrafted, _⟩ := ledger.claimed pass inPasses
    have one := ledger.run_eq also inRuns (sameId.trans (Option.some.inj (owned.symm.trans mine)))
    rw [one] at undrafted
    exact absurd draft undrafted
  | released held => exact never (RailStore.heldPayment_some held).2.1 (by decide)
  | dismissed held => exact never held (by decide)
  | voided => exact .inr rfl
  | event handle moving =>
    rcases untried with ⟨_, unsent⟩ | voided
    · cases unsent.symm.trans handle
    · rw [voided] at moving
      exact absurd moving (by decide)
  | aged moving => rcases moving with here | here <;> exact never here (by decide)
  | polled moving => rcases moving with here | here <;> exact never here (by decide)

section
variable {config : ReconcilerConfig} {store after : RailStore} {label : RailLabel} {middle : PaymentStore}
  {columns : PaymentId → RailColumns} {concluded : List PaymentId}

theorem Touched.untried (ledger : Ledger store.base) (untried : DraftsUntried store.base)
    (touched : Touched store label middle columns concluded) : DraftsUntried middle := by
  cases touched with
  | nothing => exact untried
  | row member change =>
    intro run inRuns draft row here mine
    obtain ⟨source, old, kept, rowCase⟩ := mem_rewrite member change.sameOrder here
    have before := untried run inRuns draft source old (kept.paymentRunId.symm.trans mine)
    rcases rowCase with ⟨rfl, _⟩ | ⟨rfl, rfl⟩
    · exact before
    · exact change.stays_untried ledger before inRuns draft (kept.paymentRunId.symm.trans mine) member

theorem RailChanges.untried (ledger : Ledger store.base) (untried : DraftsUntried store.base)
    (changes : RailChanges config store label after) : DraftsUntried after.base := by
  obtain ⟨middle, touched, bookings, _⟩ := changes
  exact bookings_untried (touched.ledger ledger) (touched.untried ledger untried) bookings

theorem Touched.completed_stands (ledger : Ledger store.base) (touched : Touched store label middle columns concluded)
    {payment : Payment} (member : payment ∈ store.base.payments) (completed : payment.status = .completed) :
    payment ∈ middle.payments ∧ columns payment.id = store.columns payment.id ∨
      ∃ userName reason now, label = .payments (.void userName payment.id reason now) := by
  cases touched with
  | nothing => exact .inl ⟨member, rfl⟩
  | @row changed _ _ inTable change =>
    by_cases same : payment.id = changed.id
    · have one := ledger.rows.eq_of_id member inTable same
      rw [one] at completed ⊢
      exact .inr (change.of_completed completed).1
    · refine .inl ⟨mem_putRow_of_ne member fun clash => same (clash.trans change.sameOrder.id), ?_⟩
      rw [Function.update_of_ne same]

theorem Touched.nextId (touched : Touched store label middle columns concluded) : store.base.nextId = middle.nextId := by
  cases touched with
  | nothing => rfl
  | row => rfl

theorem RailChanges.grows (changes : RailChanges config store label after) : store.base.nextId ≤ after.base.nextId := by
  obtain ⟨middle, touched, bookings, _⟩ := changes
  exact touched.nextId.trans_le (PaymentStore.Grows.of_bookings bookings).next

/-- A completed row and its columns stand until the payment is voided. -/
theorem RailChanges.completed_stands (ledger : Ledger store.base) (untried : DraftsUntried store.base)
    (changes : RailChanges config store label after) {payment : Payment} (member : payment ∈ store.base.payments)
    (completed : payment.status = .completed) :
    payment ∈ after.base.payments ∧ after.columns payment.id = store.columns payment.id ∨
      ∃ userName reason now, label = .payments (.void userName payment.id reason now) := by
  have tried : ¬payment.IsUntried := by
    rintro (⟨pending, _⟩ | voided)
    · cases completed.symm.trans pending
    · cases completed.symm.trans voided
  obtain ⟨middle, touched, bookings, _⟩ := changes
  refine (touched.completed_stands ledger member completed).imp_left ?_
  rintro ⟨inMiddle, sameColumns⟩
  exact ⟨bookings_keep (touched.ledger ledger) (touched.untried ledger untried) bookings inMiddle tried, sameColumns⟩

theorem Touched.voided_stays (touched : Touched store label middle columns concluded) {id : PaymentId}
    (voided : ∀ payment ∈ store.base.payments, payment.id = id → payment.status = .voided) :
    ∀ payment ∈ middle.payments, payment.id = id → payment.status = .voided := by
  cases touched with
  | nothing => exact voided
  | @row changed _ _ member change =>
    intro payment here same
    rcases mem_putRow here with rfl | ⟨old, _⟩
    · have live := change.live
      rw [voided changed member (change.sameOrder.id.symm.trans same)] at live
      cases live
    · exact voided payment old same

/-- A voided row stays voided. -/
theorem RailChanges.voided_stays (changes : RailChanges config store label after) {id : PaymentId}
    (issued : id < store.base.nextId)
    (voided : ∀ payment ∈ store.base.payments, payment.id = id → payment.status = .voided) :
    ∀ payment ∈ after.base.payments, payment.id = id → payment.status = .voided := by
  obtain ⟨middle, touched, bookings, _⟩ := changes
  intro payment here same
  rcases (PaymentStore.Grows.of_bookings bookings).rows payment here with old | fresh
  · exact touched.voided_stays voided payment old same
  · have above := fresh.issued
    rw [same, ← touched.nextId] at above
    exact absurd issued (Nat.not_lt.mpr above)

end

/-- Nothing refuses the void of a completed payment. -/
theorem voidPayment_completed {store : PaymentStore} (ledger : Ledger store) {payment : Payment}
    (member : payment ∈ store.payments) (completed : payment.status = .completed) (userName reason : String) (now : Time) :
    ∃ after, voidPayment store userName payment.id reason now = .ok after ∧
      after.payments = putRow Payment.id (payment.reverse userName reason now) store.payments := by
  have found : store.payment? payment.id = some payment := getRow_of_mem ledger.rows.distinct member
  simp only [voidPayment, found, completed]
  rw [if_neg (by decide), if_neg (by decide)]
  refine ⟨_, rfl, ?_⟩
  rw [recomputeParentRunStatus_payments]
  split
  · rfl
  split <;> rfl

/-- What holds of the sync legs of every reachable store: the payment of a leg is the row it read, with
the same columns, or a void has come in since. -/
structure LegsStand (store : RailStore) : Prop where
  completed : ∀ leg ∈ store.legs, leg.payment.status = .completed
  issued : ∀ leg ∈ store.legs, leg.payment.id < store.base.nextId
  stands : ∀ leg ∈ store.legs, leg.overtaken = false →
    leg.payment ∈ store.base.payments ∧ store.columns leg.payment.id = leg.columns
  voided : ∀ leg ∈ store.legs, leg.overtaken = true →
    ∀ payment ∈ store.base.payments, payment.id = leg.payment.id → payment.status = .voided

namespace LegsStand

variable {config : ReconcilerConfig} {store after : RailStore} {label : RailLabel}

/-- A section that no void is part of: the legs there are have been there before. -/
theorem kept (stand : LegsStand store) (ledger : Ledger store.base) (untried : DraftsUntried store.base)
    (changes : RailChanges config store label after) (noVoid : ∀ userName id reason now, label ≠ .payments (.void userName id reason now))
    (legs : after.legs ⊆ store.legs) : LegsStand after where
  completed := fun leg here => stand.completed leg (legs here)
  issued := fun leg here => Nat.lt_of_lt_of_le (stand.issued leg (legs here)) changes.grows
  stands := by
    intro leg here fresh
    obtain ⟨member, sameColumns⟩ := stand.stands leg (legs here) fresh
    rcases changes.completed_stands ledger untried member (stand.completed leg (legs here)) with ⟨still, unchanged⟩ | voids
    · exact ⟨still, unchanged.trans sameColumns⟩
    · obtain ⟨userName, reason, now, same⟩ := voids
      exact absurd same (noVoid userName _ reason now)
  voided := fun leg here overtaken =>
    changes.voided_stays (stand.issued leg (legs here)) (stand.voided leg (legs here) overtaken)

/-- A void overtakes the legs that have read its payment, and the row of those is voided. -/
theorem void (stand : LegsStand store) (ledger : Ledger store.base) (untried : DraftsUntried store.base)
    (userName : String) (id : PaymentId) (reason : String) (now : Time) :
    LegsStand (runRailLabel config store (.payments (.void userName id reason now))) := by
  have changes : RailChanges config store (.payments (.void userName id reason now)) _ :=
    RailStore.runRailLabel_changes ledger _
  have origin : ∀ leg ∈ (runRailLabel config store (.payments (.void userName id reason now))).legs,
      ∃ old ∈ store.legs, leg = { old with overtaken := old.overtaken || old.payment.id == id } := by
    intro leg here
    obtain ⟨old, member, rfl⟩ := List.mem_map.mp here
    exact ⟨old, member, rfl⟩
  constructor
  · intro leg here
    obtain ⟨old, member, rfl⟩ := origin leg here
    exact stand.completed old member
  · intro leg here
    obtain ⟨old, member, rfl⟩ := origin leg here
    exact Nat.lt_of_lt_of_le (stand.issued old member) changes.grows
  · intro leg here fresh
    obtain ⟨old, member, rfl⟩ := origin leg here
    obtain ⟨before, other⟩ := Bool.or_eq_false_iff.mp fresh
    obtain ⟨inTable, sameColumns⟩ := stand.stands old member before
    rcases changes.completed_stands ledger untried inTable (stand.completed old member) with ⟨still, unchanged⟩ | voids
    · exact ⟨still, unchanged.trans sameColumns⟩
    · obtain ⟨_, _, _, same⟩ := voids
      cases same
      exact absurd rfl (beq_eq_false_iff_ne.mp other)
  · intro leg here overtaken payment inTable same
    obtain ⟨old, member, rfl⟩ := origin leg here
    cases before : old.overtaken with
    | true => exact changes.voided_stays (stand.issued old member) (stand.voided old member before) payment inTable same
    | false =>
      simp only [before, Bool.false_or, beq_iff_eq] at overtaken
      obtain ⟨old', _⟩ := stand.stands old member before
      obtain ⟨booked, accepted, rows⟩ := voidPayment_completed ledger old' (stand.completed old member) userName reason now
      rw [overtaken] at accepted
      simp only [runRailLabel, PaymentLabel.isRefined, Bool.false_eq_true, if_false, runPaymentLabel, orUnchanged,
        accepted, rows] at inTable
      rcases mem_putRow inTable with rfl | ⟨_, different⟩
      · rfl
      · exact absurd same different

/-- A sync leg reads its payment and its columns in one section. -/
theorem beginSync (stand : LegsStand store) (ledger : Ledger store.base) (id : PaymentId) : LegsStand (store.beginSync id) := by
  unfold RailStore.beginSync
  split
  · exact stand
  next payment found =>
  split
  · next completed =>
    obtain ⟨member, rfl⟩ := payment?_some found
    have new {P : SyncLeg → Prop} (old : ∀ leg ∈ store.legs, P leg) (read : P ⟨payment, store.columns payment.id, false⟩) :
        ∀ leg ∈ store.legs ++ [⟨payment, store.columns payment.id, false⟩], P leg := by
      intro leg here
      rcases List.mem_append.mp here with earlier | last
      · exact old leg earlier
      · rw [List.mem_singleton.mp last]
        exact read
    exact ⟨new stand.completed completed.1, new stand.issued (ledger.rows.issued payment member).1,
      new stand.stands fun _ => ⟨member, rfl⟩, new stand.voided Bool.noConfusion⟩
  · exact stand

end LegsStand

namespace RailStore

variable {config : ReconcilerConfig} {store : RailStore}

theorem settle_legs (written : Payment) (amount : Option Decimal) (currency : Option String) (fetched : SettlementReport) :
    (store.settle written amount currency fetched).legs = store.legs := by
  unfold settle
  split
  · simp only
    split <;> rfl
  · rfl

theorem receiveEvent_legs (event : RailEvent) (fetched : SettlementReport) (now : Time) :
    (store.receiveEvent event fetched now).legs = store.legs := by
  unfold receiveEvent
  split
  · split
    · exact settle_legs _ _ _ _
    · rfl
  · rfl

theorem reconcilePayment_legs (now : Time) (candidate : Candidate) (turn : ReconcileTurn) :
    (store.reconcilePayment config now candidate turn).legs = store.legs := by
  unfold reconcilePayment
  simp only
  split
  · rfl
  split
  · split <;> rfl
  split
  · rfl
  split
  · rfl
  split
  · rfl
  split
  · split
    · rfl
    · exact settle_legs _ _ _ _
  · rfl

theorem nextTurn_legs (sweep : Nat) {step : RailStore → Time → Candidate → RailStore}
    (same : ∀ store now candidate, (step store now candidate).legs = store.legs) :
    (store.nextTurn sweep step).legs = store.legs := by
  unfold nextTurn
  split
  · rfl
  split
  · rfl
  · exact same _ _ _

theorem dispatch_legs (payment : Option Payment) (env : DispatchEnv) (inputs : FxInputs)
    (label : DispatchEnv → PaymentLabel) : (store.dispatch config payment env inputs label).legs = store.legs := by
  unfold dispatch
  split <;> rfl

/-- Only a new read adds a leg, and only a void changes one. -/
theorem runRailLabel_legs (label : RailLabel) (noRead : ∀ id, label ≠ .beginSync id)
    (noVoid : ∀ userName id reason now, label ≠ .payments (.void userName id reason now)) :
    (runRailLabel config store label).legs ⊆ store.legs := by
  have same {legs : List SyncLeg} (eq : legs = store.legs) : legs ⊆ store.legs := by
    rw [eq]
    exact List.Subset.refl _
  cases label with
  | payments label =>
    simp only [runRailLabel]
    split
    · exact List.Subset.refl _
    · cases label with
      | void userName id reason now => exact absurd rfl (noVoid userName id reason now)
      | _ => exact List.Subset.refl _
  | dispatchNext => exact same (dispatch_legs _ _ _ _)
  | release => exact same (dispatch_legs _ _ _ _)
  | webhook event fetched now => exact same (receiveEvent_legs event fetched now)
  | reconcile sweep turn =>
    exact same (nextTurn_legs sweep fun store now candidate => reconcilePayment_legs now candidate turn)
  | failTurn sweep => exact same (nextTurn_legs sweep fun _ _ _ => rfl)
  | beginSweep | dropSweep => exact List.Subset.refl _
  | beginSync id => exact absurd rfl (noRead id)
  | finishSync leg =>
    simp only [runRailLabel, finishSync]
    split
    · exact List.Subset.refl _
    · split <;> exact (List.eraseIdx_sublist _ _).subset
  | dropSync leg => exact (List.eraseIdx_sublist _ _).subset
  | erpWebhook invoice status =>
    simp only [runRailLabel, receiveErpStatus]
    split
    · exact List.Subset.refl _
    split <;> exact List.Subset.refl _

end RailStore

section
variable {config : ReconcilerConfig} {store : RailStore}

/-- Every section keeps the legs standing. -/
theorem LegsStand.step (stand : LegsStand store) (ledger : Ledger store.base) (untried : DraftsUntried store.base)
    (label : RailLabel) : LegsStand (runRailLabel config store label) := by
  have changes : RailChanges config store label _ := RailStore.runRailLabel_changes ledger label
  by_cases read : ∃ id, label = .beginSync id
  · obtain ⟨id, rfl⟩ := read
    exact stand.beginSync ledger id
  by_cases voids : ∃ userName id reason now, label = .payments (.void userName id reason now)
  · obtain ⟨userName, id, reason, now, rfl⟩ := voids
    exact stand.void ledger untried userName id reason now
  have noVoid : ∀ userName id reason now, label ≠ .payments (.void userName id reason now) :=
    fun userName id reason now same => voids ⟨userName, id, reason, now, same⟩
  exact stand.kept ledger untried changes noVoid (RailStore.runRailLabel_legs label (fun id same => read ⟨id, same⟩) noVoid)

/-- The facts that the markings of invoices rest on. -/
structure Synced (store : RailStore) : Prop where
  ledger : Ledger store.base
  untried : DraftsUntried store.base
  legs : LegsStand store

theorem reach_synced {allowed : RailStore → RailLabel → Prop} (reach : (railMachine config).Reach allowed store) :
    Synced store := by
  have start : ∀ first, (railMachine config).init first → Synced first := by
    rintro first ⟨noPayments, noRuns, noPasses, _, _, noLegs, _⟩
    refine ⟨.empty noPayments noRuns noPasses, fun run member => ?_, ?_⟩
    · rw [noRuns] at member
      cases member
    · constructor <;> simp only [noLegs, List.not_mem_nil, false_implies, implies_true]
  have step : ∀ before label, Synced before → allowed before label → Synced ((railMachine config).step before label) := by
    intro before label holds _
    have changes : RailChanges config before label _ := RailStore.runRailLabel_changes holds.ledger label
    exact ⟨changes.ledger holds.ledger, changes.untried holds.ledger holds.untried,
      holds.legs.step holds.ledger holds.untried label⟩
  exact reach.invariant start step

end

/-- The invoice that a sync leg or an ERP status moves from `payment_scheduled` to `paid`, and the
payment it does so for. -/
def marksPaid (store : RailStore) : RailLabel → Option (PayableInvoice × Option PaymentId)
  | .finishSync index =>
    store.legs[index]?.bind fun leg => (store.discharged leg).map fun invoice => (invoice, some leg.payment.id)
  | .erpWebhook id status =>
    (store.base.invoice? id).bind fun invoice =>
      if invoice.status = .paymentScheduled ∧ store.erpTransition invoice status = some .paid then
        some (invoice, (store.settling invoice.id).map Payment.id)
      else none
  | _ => none

/-- No payment of the invoice is in flight, and the one it is paid for is completed, with a settlement
that covers it. -/
def LiveSettlement (store : RailStore) (invoice : PayableInvoice) (paidFor : Option PaymentId) : Prop :=
  (∀ payment ∈ store.base.payments, payment.invoiceId = invoice.id → payment.status.isTerminal = true) ∧
    ∃ payment ∈ store.base.payments, paidFor = some payment.id ∧ payment.invoiceId = invoice.id ∧
      payment.status = .completed ∧ RailStore.covers payment (store.columns payment.id) invoice = true

/-- A sync leg that a void has overtaken marks no invoice, and an ERP reports a scheduled invoice as paid
only once a payment of it is completed. -/
def MarksInTime (store : RailStore) : RailLabel → Prop
  | .finishSync index => ∀ leg, store.legs[index]? = some leg → leg.overtaken = true → store.discharged leg = none
  | .erpWebhook id status => ∀ invoice, store.base.invoice? id = some invoice → invoice.status = .paymentScheduled →
      RailStore.erpStatusMap.lookup status = some .paid → (store.settling invoice.id).isSome = true
  | _ => True

section
variable {config : ReconcilerConfig} {store : RailStore} {label : RailLabel} {invoice : PayableInvoice}
  {paidFor : Option PaymentId}

theorem marksPaid_finishSync {index : Nat} (marks : marksPaid store (.finishSync index) = some (invoice, paidFor)) :
    ∃ leg, store.legs[index]? = some leg ∧ store.discharged leg = some invoice ∧ paidFor = some leg.payment.id := by
  obtain ⟨leg, current, marked⟩ := Option.bind_eq_some_iff.mp marks
  obtain ⟨other, discharged, same⟩ := Option.map_eq_some_iff.mp marked
  cases same
  exact ⟨leg, current, discharged, rfl⟩

theorem marksPaid_erpWebhook {id : InvoiceId} {status : String}
    (marks : marksPaid store (.erpWebhook id status) = some (invoice, paidFor)) : store.base.invoice? id = some invoice ∧
      invoice.status = .paymentScheduled ∧ store.erpTransition invoice status = some .paid ∧
      paidFor = (store.settling invoice.id).map Payment.id := by
  obtain ⟨other, found, marked⟩ := Option.bind_eq_some_iff.mp marks
  split at marked
  · next granted =>
    cases marked
    exact ⟨found, granted.1, granted.2, rfl⟩
  · cases marked

theorem discharged_some {leg : SyncLeg} (discharged : store.discharged leg = some invoice) :
    invoice ∈ store.base.invoices ∧ invoice.id = leg.payment.invoiceId ∧ invoice.status = .paymentScheduled ∧
      RailStore.covers leg.payment leg.columns invoice = true := by
  obtain ⟨found, gates⟩ := Option.filter_eq_some_iff.mp discharged
  obtain ⟨scheduled, covered⟩ := Bool.and_eq_true_iff.mp gates
  obtain ⟨member, same⟩ := getRow_some found
  exact ⟨member, same, beq_iff_eq.mp scheduled, covered⟩

/-- A marked invoice is one that the section moves from `payment_scheduled` to `paid`. -/
theorem marksPaid_moves (marks : marksPaid store label = some (invoice, paidFor)) :
    invoice ∈ store.base.invoices ∧ invoice.status = .paymentScheduled ∧ (runRailLabel config store label).base.invoices =
      putRow PayableInvoice.id { invoice with status := .paid } store.base.invoices := by
  cases label with
  | finishSync index =>
    obtain ⟨leg, current, discharged, _⟩ := marksPaid_finishSync marks
    obtain ⟨member, _, scheduled, _⟩ := discharged_some discharged
    refine ⟨member, scheduled, ?_⟩
    simp only [runRailLabel, RailStore.finishSync, current, discharged, RailStore.setInvoiceStatus]
  | erpWebhook id status =>
    obtain ⟨found, scheduled, granted, _⟩ := marksPaid_erpWebhook marks
    refine ⟨(getRow_some found).1, scheduled, ?_⟩
    simp only [runRailLabel, RailStore.receiveErpStatus, found, granted, RailStore.setInvoiceStatus]
  | _ => cases marks

/-- A sync leg or an ERP status that marks none makes no invoice `paid`. -/
theorem marksPaid_only (acts : (∃ index, label = .finishSync index) ∨ ∃ id status, label = .erpWebhook id status)
    (unmarked : marksPaid store label = none) {later : PayableInvoice}
    (member : later ∈ (runRailLabel config store label).base.invoices) (paid : later.status = .paid) :
    later ∈ store.base.invoices := by
  rcases acts with ⟨index, rfl⟩ | ⟨id, status, rfl⟩
  · simp only [runRailLabel, RailStore.finishSync] at member
    split at member
    · exact member
    next leg current =>
    split at member
    · exact member
    next discharged =>
    simp only [marksPaid, current, discharged, Option.bind_some, Option.map_some] at unmarked
    cases unmarked
  · simp only [runRailLabel, RailStore.receiveErpStatus] at member
    split at member
    · exact member
    next current found =>
    split at member
    · exact member
    next target granted =>
    rcases mem_putRow member with rfl | ⟨old, _⟩
    · have reaches : target = .paid := paid
      rw [reaches] at granted
      obtain ⟨_, gates⟩ := Option.filter_eq_some_iff.mp granted
      have edge := of_decide_eq_true (Bool.and_eq_true_iff.mp gates).1
      have scheduled : current.status = .paymentScheduled := by
        cases status : current.status <;> rw [status] at edge <;> first | rfl | exact absurd edge (by decide)
      simp only [marksPaid, found, Option.bind_some, scheduled, granted, and_self, if_true] at unmarked
      cases unmarked
    · exact old

theorem settling_some {id : InvoiceId} {payment : Payment} (newest : store.settling id = some payment) :
    payment ∈ store.base.payments ∧ payment.invoiceId = id ∧ payment.status = .completed := by
  obtain ⟨member, gates⟩ := List.mem_filter.mp (List.mem_of_getLast? newest)
  simp only [Bool.and_eq_true, beq_iff_eq] at gates
  exact ⟨member, gates⟩

/-- Beside a completed payment of an invoice, no payment of it is in flight. -/
theorem Ledger.only_completed (ledger : Ledger store.base) {payment : Payment} (member : payment ∈ store.base.payments)
    (completed : payment.status = .completed) (other : Payment) (also : other ∈ store.base.payments)
    (sameInvoice : other.invoiceId = payment.invoiceId) : other.status.isTerminal = true := by
  have live : payment.status.isLive = true := by
    rw [completed]
    rfl
  cases otherLive : other.status.isLive with
  | true =>
    rw [ledger.rows.oneLive other also payment member sameInvoice otherLive live, completed]
    rfl
  | false =>
    cases status : other.status <;> rw [status] at otherLive <;> first | rfl | cases otherLive

/-- One section marks by live settlements exactly when it marks in time. -/
theorem liveSettlement_iff (synced : Synced store) : (∀ invoice paidFor, marksPaid store label = some (invoice, paidFor) →
    LiveSettlement store invoice paidFor) ↔ MarksInTime store label := by
  cases label with
  | finishSync index =>
    constructor
    · intro live leg current overtaken
      cases discharged : store.discharged leg with
      | none => rfl
      | some invoice =>
        have marks : marksPaid store (.finishSync index) = some (invoice, some leg.payment.id) := by
          simp only [marksPaid, current, discharged, Option.bind_some, Option.map_some]
        obtain ⟨_, payment, member, same, _, completed, _⟩ := live invoice _ marks
        have voided := synced.legs.voided leg (List.mem_of_getElem? current) overtaken payment member
          (Option.some.inj same).symm
        cases completed.symm.trans voided
    · intro inTime invoice paidFor marks
      obtain ⟨leg, current, discharged, rfl⟩ := marksPaid_finishSync marks
      obtain ⟨_, sameInvoice, _, covered⟩ := discharged_some discharged
      have here := List.mem_of_getElem? current
      cases overtaken : leg.overtaken with
      | true =>
        rw [inTime leg current overtaken] at discharged
        cases discharged
      | false =>
        obtain ⟨member, columns⟩ := synced.legs.stands leg here overtaken
        have completed := synced.legs.completed leg here
        refine ⟨fun other also same => ?_, leg.payment, member, rfl, sameInvoice.symm, completed, ?_⟩
        · exact synced.ledger.only_completed member completed other also (same.trans sameInvoice)
        · rw [columns]
          exact covered
  | erpWebhook id status =>
    constructor
    · intro live invoice found scheduled reported
      cases newest : store.settling invoice.id with
      | some => rfl
      | none =>
        have granted : store.erpTransition invoice status = some .paid := by
          refine Option.filter_eq_some_iff.mpr ⟨reported, ?_⟩
          rw [scheduled, newest]
          rfl
        have marks : marksPaid store (.erpWebhook id status) = some (invoice, none) := by
          simp only [marksPaid, found, Option.bind_some, scheduled, granted, newest, Option.map_none, and_self, if_true]
        obtain ⟨_, payment, _, same, _⟩ := live invoice none marks
        cases same
    · intro inTime invoice paidFor marks
      obtain ⟨found, scheduled, granted, rfl⟩ := marksPaid_erpWebhook marks
      obtain ⟨reported, gates⟩ := Option.filter_eq_some_iff.mp granted
      obtain ⟨payment, newest⟩ := Option.isSome_iff_exists.mp (inTime invoice found scheduled reported)
      obtain ⟨member, sameInvoice, completed⟩ := settling_some newest
      have covered := (Bool.and_eq_true_iff.mp gates).2
      rw [scheduled, newest] at covered
      rw [newest]
      refine ⟨fun other also same => ?_, payment, member, rfl, sameInvoice, completed, ?_⟩
      · exact synced.ledger.only_completed member completed other also (same.trans sameInvoice.symm)
      · simpa using covered
  | _ => exact ⟨fun _ => trivial, fun _ _ _ marks => by cases marks⟩

/-- Over any run: every marking has a live settlement behind it exactly when every section marks in time. -/
theorem paid_by_live_settlement_iff {first : RailStore} (begins : (railMachine config).init first) (labels : List RailLabel) :
    (∀ before label after, labels = before ++ label :: after → ∀ invoice paidFor,
      marksPaid ((railMachine config).exec first before) label = some (invoice, paidFor) →
        LiveSettlement ((railMachine config).exec first before) invoice paidFor) ↔
      (railMachine config).Permits MarksInTime first labels := by
  have each (before : List RailLabel) (label : RailLabel) : (∀ invoice paidFor,
      marksPaid ((railMachine config).exec first before) label = some (invoice, paidFor) →
        LiveSettlement ((railMachine config).exec first before) invoice paidFor) ↔
      MarksInTime ((railMachine config).exec first before) label :=
    liveSettlement_iff (reach_synced (Machine.reach_exec begins before))
  rw [Machine.permits_iff]
  constructor
  · exact fun live before label after split => (each before label).mp (live before label after split)
  · exact fun inTime before label after split => (each before label).mpr (inTime before label after split)

end

/-- A leg reads the settled payment; before it gets to the invoice the payment is voided, and a new order
for the invoice goes out. -/
def overtakenRun : List RailLabel :=
  orderedRun ++ [.webhook .settled none 2, .beginSync 1, .payments (.void "manager" 1 "sent to the wrong account" 3),
    .payments (.createRun "maker" [(1, "ach")] false), .payments (.executeRun "checker" 3 none), .payments (.readPending 0),
    .dispatchNext 0 (.hearing (.ok ⟨.submitted, some "order-2", none, none⟩)) .domestic]

/-- The late leg marks the invoice paid while the new order is in flight; so does an ERP status that
comes before the processor has settled anything. -/
theorem paid_without_live_settlement :
    (∃ invoice paidFor, marksPaid ((railMachine ⟨⟨none, 100⟩, 1⟩).exec (.approved [1]) overtakenRun) (.finishSync 0) =
        some (invoice, paidFor) ∧
      ¬LiveSettlement ((railMachine ⟨⟨none, 100⟩, 1⟩).exec (.approved [1]) overtakenRun) invoice paidFor) ∧
    ∃ invoice paidFor, marksPaid ((railMachine ⟨⟨none, 100⟩, 1⟩).exec (.approved [1]) orderedRun) (.erpWebhook 1 "Paid") =
        some (invoice, paidFor) ∧
      ¬LiveSettlement ((railMachine ⟨⟨none, 100⟩, 1⟩).exec (.approved [1]) orderedRun) invoice paidFor := by
  have late : marksPaid ((railMachine ⟨⟨none, 100⟩, 1⟩).exec (.approved [1]) overtakenRun) (.finishSync 0) =
      some (⟨1, "INV", .paymentScheduled, "USD", 100, 0, false⟩, some 1) := by decide +kernel
  have early : marksPaid ((railMachine ⟨⟨none, 100⟩, 1⟩).exec (.approved [1]) orderedRun) (.erpWebhook 1 "Paid") =
      some (⟨1, "INV", .paymentScheduled, "USD", 100, 0, false⟩, none) := by decide +kernel
  refine ⟨⟨_, _, late, fun live => ?_⟩, ⟨_, _, early, fun live => ?_⟩⟩
  · have moving : ∃ payment ∈ ((railMachine ⟨⟨none, 100⟩, 1⟩).exec (.approved [1]) overtakenRun).base.payments,
        payment.invoiceId = 1 ∧ payment.status.isTerminal = false := by decide +kernel
    obtain ⟨payment, member, invoice, inFlight⟩ := moving
    cases inFlight.symm.trans (live.1 payment member invoice)
  · obtain ⟨_, _, _, same, _⟩ := live
    cases same

/-- The settled payment's leg runs undisturbed. -/
theorem paid_by_live_settlement_undisturbed :
    LiveSettlement ((railMachine ⟨⟨none, 100⟩, 1⟩).exec (.approved [1]) (orderedRun ++ [.webhook .settled none 2, .beginSync 1]))
      ⟨1, "INV", .paymentScheduled, "USD", 100, 0, false⟩ (some 1) := by
  have first : (railMachine ⟨⟨none, 100⟩, 1⟩).init (.approved [1]) := ⟨rfl, rfl, rfl, rfl, rfl, rfl, rfl⟩
  have permitted : (railMachine ⟨⟨none, 100⟩, 1⟩).Permits MarksInTime (.approved [1])
      (orderedRun ++ [.webhook .settled none 2, .beginSync 1, .finishSync 0]) := by
    refine ⟨trivial, trivial, trivial, trivial, trivial, trivial, trivial, ?_, trivial⟩
    intro leg current overtaken
    have only : ((railMachine ⟨⟨none, 100⟩, 1⟩).exec (.approved [1]) (orderedRun ++ [.webhook .settled none 2,
        .beginSync 1])).legs.all (!·.overtaken) = true := by decide +kernel
    have fresh := List.all_eq_true.mp only leg (List.mem_of_getElem? current)
    rw [overtaken] at fresh
    cases fresh
  have marks : marksPaid ((railMachine ⟨⟨none, 100⟩, 1⟩).exec (.approved [1])
      (orderedRun ++ [.webhook .settled none 2, .beginSync 1])) (.finishSync 0) =
      some (⟨1, "INV", .paymentScheduled, "USD", 100, 0, false⟩, some 1) := by decide +kernel
  exact (paid_by_live_settlement_iff first _).mpr permitted (orderedRun ++ [.webhook .settled none 2, .beginSync 1])
    (.finishSync 0) [] rfl _ _ marks

end Payables
