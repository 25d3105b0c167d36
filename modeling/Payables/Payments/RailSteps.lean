import Payables.Lib.Raising
import Payables.Payments.Rails

namespace Payables
open Lib Relation

/-- The two sections by which a rail reports on a payment. -/
def RailLabel.reports : RailLabel → Bool
  | .webhook .. | .reconcile .. => true
  | _ => false

/-- Columns that differ in what was settled at most. -/
def RailColumns.SameLeg (columns next : RailColumns) : Prop :=
  ∃ settlement, next = { columns with settlement := settlement }

theorem RailColumns.SameLeg.refl (columns : RailColumns) : columns.SameLeg columns := ⟨columns.settlement, rfl⟩

/-- How a section rewrites a live row, and its columns with it. -/
inductive RowChange (store : RailStore) (payment : Payment) : RailLabel → Payment → RailColumns → Prop
  | dispatched {pass : Nat} {env : DispatchEnv} {inputs : FxInputs} (waiting : store.waitingPayment pass = some payment) :
      RowChange store payment (.dispatchNext pass env inputs)
        (attempt store.base payment { env with fx := fxLegOf (store.legOf payment inputs) }).payment
        (store.prepareLeg payment (store.legOf payment inputs) payment.id)
  | released {user : UserId} {provider : Option String} {env : DispatchEnv} {inputs : FxInputs}
      (held : store.heldPayment payment.id provider = some payment) :
      RowChange store payment (.release user payment.id provider env inputs)
        (attempt store.base payment { env with fx := fxLegOf (store.legOf payment inputs) }).payment
        (store.prepareLeg payment (store.legOf payment inputs) payment.id)
  | dismissed {userName reason : String} {now : Time} (held : payment.status = .pendingCompliance) :
      RowChange store payment (.payments (.dismiss userName payment.id reason now)) (payment.dismiss userName reason now)
        (store.columns payment.id)
  | voided {userName reason : String} {now : Time} (standing : payment.status.isLive = true) :
      RowChange store payment (.payments (.void userName payment.id reason now)) (payment.reverse userName reason now)
        (store.columns payment.id)
  | event {event : RailEvent} {fetched : SettlementReport} {now : Time} {columns : RailColumns}
      (handle : payment.providerPaymentId = some event.providerPaymentId)
      (moving : payment.status ∈ [.pending, .submitted, .processing]) (leg : (store.columns payment.id).SameLeg columns) :
      RowChange store payment (.webhook event fetched now)
        (payment.applyEvent event.status event.reference event.failureReason now) columns
  | aged {sweep : Nat} {turn : ReconcileTurn} (moving : payment.status = .submitted ∨ payment.status = .processing) :
      RowChange store payment (.reconcile sweep turn) (payment.ageOut turn.hours) (store.columns payment.id)
  | polled {sweep : Nat} {turn : ReconcileTurn} {upstream : AdapterStatus} {now : Time} {columns : RailColumns}
      (moving : payment.status = .submitted ∨ payment.status = .processing)
      (terminal : upstream ∈ [AdapterStatus.completed, .failed, .cancelled]) (leg : (store.columns payment.id).SameLeg columns) :
      RowChange store payment (.reconcile sweep turn) (payment.conclude upstream now) columns

namespace RailStore

variable {store : RailStore} {payment written : Payment} {label : RailLabel} {columns : RailColumns}

theorem waitingPayment_some {pass : Nat} (waiting : store.waitingPayment pass = some payment) :
    store.base.nextPayment? pass = some payment ∧ payment.status = .pending := by
  obtain ⟨next, pending⟩ := Option.filter_eq_some_iff.mp waiting
  exact ⟨next, beq_iff_eq.mp pending⟩

theorem heldPayment_some {id : PaymentId} {provider : Option String} (held : store.heldPayment id provider = some payment) :
    store.base.payment? id = some payment ∧ payment.status = .pendingCompliance ∧ provider = none := by
  obtain ⟨found, gates⟩ := Option.filter_eq_some_iff.mp held
  obtain ⟨status, supported⟩ := Bool.and_eq_true_iff.mp gates
  exact ⟨found, beq_iff_eq.mp status, Option.isNone_iff_eq_none.mp supported⟩

theorem lockInFlight_some {id : PaymentId} (locked : store.lockInFlight id = some payment) :
    payment ∈ store.base.payments ∧ payment.id = id ∧ (payment.status = .submitted ∨ payment.status = .processing) := by
  obtain ⟨found, status⟩ := Option.filter_eq_some_iff.mp locked
  obtain ⟨member, same⟩ := payment?_some found
  exact ⟨member, same, (Bool.or_eq_true_iff.mp status).imp beq_iff_eq.mp beq_iff_eq.mp⟩

/-- The columns with a prepared leg differ at the payment only. -/
theorem prepareLeg_eq (store : RailStore) (payment : Payment) (leg : Option (Except PrepareError PreparedPayment)) :
    store.prepareLeg payment leg = Function.update store.columns payment.id (store.prepareLeg payment leg payment.id) := by
  unfold prepareLeg
  split
  · rw [Function.update_self]
  · rw [Function.update_eq_self]

end RailStore

theorem PaymentStatus.isLive_of_moving {status : PaymentStatus} (moving : status = .submitted ∨ status = .processing) :
    status.isLive = true := by
  rcases moving with rfl | rfl <;> rfl

namespace RowChange

variable {store : RailStore} {payment written : Payment} {label : RailLabel} {columns : RailColumns}

theorem live (change : RowChange store payment label written columns) : payment.status.isLive = true := by
  cases change with
  | dispatched waiting => rw [(RailStore.waitingPayment_some waiting).2]; rfl
  | released held => rw [(RailStore.heldPayment_some held).2.1]; rfl
  | dismissed held => rw [held]; rfl
  | voided standing => exact standing
  | event _ moving =>
    simp only [List.mem_cons, List.not_mem_nil, or_false] at moving
    rcases moving with here | here | here <;> rw [here] <;> rfl
  | aged moving => exact PaymentStatus.isLive_of_moving moving
  | polled moving => exact PaymentStatus.isLive_of_moving moving

theorem sameOrder (change : RowChange store payment label written columns) : payment.SameOrder written := by
  cases change with
  | dispatched => exact attemptPayment_sameOrder _ _ _ _
  | released => exact attemptPayment_sameOrder _ _ _ _
  | dismissed => exact payment.fail_sameOrder _ _
  | voided => exact ⟨rfl, rfl, rfl, rfl, rfl, rfl⟩
  | event => exact ⟨rfl, rfl, rfl, rfl, rfl, rfl⟩
  | aged => exact ⟨rfl, rfl, rfl, rfl, rfl, rfl⟩
  | polled => exact ⟨rfl, rfl, rfl, rfl, rfl, rfl⟩

/-- Of a completed row, only a void makes something else. -/
theorem of_completed (change : RowChange store payment label written columns) (completed : payment.status = .completed) :
    (∃ userName reason now, label = .payments (.void userName payment.id reason now)) ∧ written.status = .voided := by
  cases change with
  | dispatched waiting => cases completed.symm.trans (RailStore.waitingPayment_some waiting).2
  | released held => cases completed.symm.trans (RailStore.heldPayment_some held).2.1
  | dismissed held => cases completed.symm.trans held
  | voided => exact ⟨⟨_, _, _, rfl⟩, rfl⟩
  | event _ moving =>
    rw [completed] at moving
    exact absurd moving (by decide)
  | aged moving =>
    rw [completed] at moving
    exact absurd moving (by decide)
  | polled moving =>
    rw [completed] at moving
    exact absurd moving (by decide)

/-- What a rail reports about is not terminal yet. -/
theorem not_terminal (change : RowChange store payment label written columns) (reports : label.reports = true) :
    payment.status.isTerminal = false := by
  cases change with
  | event _ moving =>
    simp only [List.mem_cons, List.not_mem_nil, or_false] at moving
    rcases moving with here | here | here <;> rw [here] <;> rfl
  | aged moving => rcases moving with here | here <;> rw [here] <;> rfl
  | polled moving => rcases moving with here | here <;> rw [here] <;> rfl
  | _ => cases reports

end RowChange

/-- The one row that a section may change, and the payments it then counts as concluded. -/
inductive Touched (store : RailStore) (label : RailLabel) : PaymentStore → (PaymentId → RailColumns) → List PaymentId → Prop
  | nothing : Touched store label store.base store.columns store.concluded
  | row {payment written : Payment} {columns : RailColumns} (member : payment ∈ store.base.payments)
      (change : RowChange store payment label written columns) :
      Touched store label (store.base.putPayment written) (Function.update store.columns payment.id columns)
        (if label.reports && written.status.isTerminal then payment.id :: store.concluded else store.concluded)

theorem Touched.of_sweeps {store : RailStore} {label : RailLabel} {sweeps : List Sweep} {middle : PaymentStore}
    {columns : PaymentId → RailColumns} {concluded : List PaymentId} (reports : label.reports = true)
    (touched : Touched { store with sweeps := sweeps } label middle columns concluded) :
    Touched store label middle columns concluded := by
  cases touched with
  | nothing => exact .nothing
  | row member change =>
    refine .row member ?_
    cases change with
    | event handle moving leg => exact .event handle moving leg
    | aged moving => exact .aged moving
    | polled moving terminal leg => exact .polled moving terminal leg
    | _ => cases reports

/-- A section changes one row at most, with its columns; the rest of it are bookings, and a report books
no payment. -/
def RailChanges (config : ReconcilerConfig) (store : RailStore) (label : RailLabel) (after : RailStore) : Prop :=
  ∃ middle, Touched store label middle after.columns after.concluded ∧
    ReflTransGen (Booking config.payments) middle after.base ∧
    (label.reports = true → after.base.payments = middle.payments)

theorem Touched.ledger {store : RailStore} {label : RailLabel} {middle : PaymentStore} {columns : PaymentId → RailColumns}
    {concluded : List PaymentId} (touched : Touched store label middle columns concluded) (ledger : Ledger store.base) :
    Ledger middle := by
  cases touched with
  | nothing => exact ledger
  | row member change => exact ledger.rewrite member change.live change.sameOrder

theorem RailChanges.ledger {config : ReconcilerConfig} {store after : RailStore} {label : RailLabel}
    (changes : RailChanges config store label after) (ledger : Ledger store.base) : Ledger after.base := by
  obtain ⟨middle, touched, bookings, _⟩ := changes
  exact (touched.ledger ledger).bookings bookings

namespace RailStore

variable {config : ReconcilerConfig} {store : RailStore} {payment : Payment} {label : RailLabel}

theorem changes_of_quiet {after : RailStore} (columns : after.columns = store.columns)
    (concluded : after.concluded = store.concluded) (bookings : ReflTransGen (Booking config.payments) store.base after.base)
    (rows : label.reports = true → after.base.payments = store.base.payments) : RailChanges config store label after := by
  refine ⟨store.base, ?_, bookings, rows⟩
  rw [columns, concluded]
  exact .nothing

theorem changes_of_row {written : Payment} {columns : RailColumns} {after : RailStore} (member : payment ∈ store.base.payments)
    (change : RowChange store payment label written columns)
    (sameColumns : after.columns = Function.update store.columns payment.id columns)
    (concluded : after.concluded = if label.reports && written.status.isTerminal then payment.id :: store.concluded
      else store.concluded)
    (bookings : ReflTransGen (Booking config.payments) (store.base.putPayment written) after.base)
    (rows : label.reports = true → after.base.payments = (store.base.putPayment written).payments) :
    RailChanges config store label after := by
  refine ⟨_, ?_, bookings, rows⟩
  rw [sameColumns, concluded]
  exact .row member change

/-- The plain sections of the payment tables. -/
theorem payments_changes (ledger : Ledger store.base) {label : PaymentLabel} (plain : label.isRefined = false)
    {after : RailStore} (base : after.base = (runPaymentLabel config.payments store.base label).1)
    (columns : after.columns = store.columns) (concluded : after.concluded = store.concluded) :
    RailChanges config store (.payments label) after := by
  have changes : Changes config.payments store.base label _ := runPaymentLabel_changes ledger label
  obtain ⟨middle, settled, bookings⟩ := changes
  rw [← base] at bookings
  cases settled with
  | untouched => exact changes_of_quiet columns concluded bookings Bool.noConfusion
  | @rewritten payment written member outcome =>
    have same : after.columns = Function.update store.columns payment.id (store.columns payment.id) := by
      rw [columns, Function.update_eq_self]
    cases outcome with
    | dismissed _ held => exact changes_of_row member (.dismissed held) same concluded bookings Bool.noConfusion
    | voided standing => exact changes_of_row member (.voided standing) same concluded bookings Bool.noConfusion
    | dispatched | released | event | aged | polled => cases plain

theorem dispatchNextPayment_sends {store : PaymentStore} {index : Nat} (env : DispatchEnv)
    (next : store.nextPayment? index = some payment) (pending : payment.status = .pending) :
    payment ∈ store.payments ∧ ReflTransGen (Booking config.payments)
      (store.putPayment (attempt store payment env).payment) (dispatchNextPayment store index env).1 := by
  obtain ⟨id, queued, found⟩ := Option.bind_eq_some_iff.mp next
  obtain ⟨queue, reads, head⟩ := Option.bind_eq_some_iff.mp queued
  obtain ⟨pass, current, queue'⟩ := Option.bind_eq_some_iff.mp reads
  obtain ⟨rest, rfl⟩ := List.head?_eq_some_iff.mp head
  obtain ⟨member, rfl⟩ := payment?_some found
  refine ⟨member, ?_⟩
  unfold dispatchNextPayment
  simp only [current, queue', found, pending, ne_eq, not_true_eq_false, if_false]
  refine (commitDispatch_bookings _).tail (nextPass_booking ?_ queue')
  rw [commitDispatch_passes]
  exact current

theorem dispatchNext_changes (ledger : Ledger store.base) (pass : Nat) (env : DispatchEnv) (inputs : FxInputs) :
    RailChanges config store (.dispatchNext pass env inputs)
      (store.dispatch config (store.waitingPayment pass) env inputs (.dispatchNext pass)) := by
  cases waiting : store.waitingPayment pass with
  | none =>
    have changes : Changes config.payments store.base (.dispatchNext pass env) _ := runPaymentLabel_changes ledger _
    obtain ⟨middle, settled, bookings⟩ := changes
    cases settled with
    | untouched => exact changes_of_quiet rfl rfl bookings Bool.noConfusion
    | @rewritten payment _ _ outcome =>
      cases outcome with
      | dispatched current queue found pending =>
        have next : store.base.nextPayment? pass = some payment := by
          simp only [PaymentStore.nextPayment?, current, queue, found, Option.bind_some, List.head?_cons]
        have sends : store.waitingPayment pass = some payment :=
          Option.filter_eq_some_iff.mpr ⟨next, beq_iff_eq.mpr pending⟩
        rw [waiting] at sends
        cases sends
  | some payment =>
    obtain ⟨next, pending⟩ := waitingPayment_some waiting
    obtain ⟨member, bookings⟩ := dispatchNextPayment_sends _ next pending
    exact changes_of_row member (.dispatched waiting) (prepareLeg_eq store payment _) rfl bookings Bool.noConfusion

theorem releaseComplianceHold_sends {store : PaymentStore} (ledger : Ledger store) (user : UserId) (env : DispatchEnv)
    (found : store.payment? payment.id = some payment) (held : payment.status = .pendingCompliance) :
    payment ∈ store.payments ∧ ReflTransGen (Booking config.payments) (store.putPayment (attempt store payment env).payment)
      (runPaymentLabel config.payments store (.release user payment.id none env)).1 := by
  obtain ⟨member, _⟩ := payment?_some found
  refine ⟨member, ?_⟩
  have outcome : Outcome store payment (.release user payment.id none env) _ := .released found held
  have booked := ledger.rewrite member outcome.live outcome.sameOrder
  have commits : ReflTransGen (Booking config.payments) (store.putPayment _) _ :=
    commitDispatch_bookings (attempt store payment env)
  have inTable : (attempt store payment env).payment ∈ (commitDispatch store (attempt store payment env)).payments := by
    rw [commitDispatch_payments]
    exact mem_putPayment_self member outcome.sameOrder
  simp only [runPaymentLabel, releaseComplianceHold, found, held, ne_eq, not_true_eq_false, if_false]
  exact commits.trans (recomputeParentRunStatus_bookings (booked.bookings commits) inTable)

theorem release_refused {user : UserId} {id : PaymentId} {provider : Option String} (env : DispatchEnv)
    (none' : store.heldPayment id provider = none) :
    (runPaymentLabel config.payments store.base (.release user id provider env)).1 = store.base := by
  simp only [runPaymentLabel, releaseComplianceHold]
  cases found : store.base.payment? id with
  | none => rfl
  | some payment =>
    have gate := Option.filter_eq_none_iff.mp none' payment found
    by_cases held : payment.status = .pendingCompliance
    · cases provider with
      | none => exact absurd (Bool.and_eq_true_iff.mpr ⟨beq_iff_eq.mpr held, rfl⟩) gate
      | some => simp only [held, ne_eq, not_true_eq_false, if_false]
    · simp only [held, ne_eq, not_false_eq_true, if_true]

theorem release_changes (ledger : Ledger store.base) (user : UserId) (id : PaymentId) (provider : Option String)
    (env : DispatchEnv) (inputs : FxInputs) : RailChanges config store (.release user id provider env inputs)
      (store.dispatch config (store.heldPayment id provider) env inputs (.release user id provider)) := by
  cases held : store.heldPayment id provider with
  | none =>
    refine changes_of_quiet rfl rfl ?_ Bool.noConfusion
    simp only [dispatch]
    rw [release_refused env held]
  | some payment =>
    obtain ⟨found, status, rfl⟩ := heldPayment_some held
    obtain ⟨_, rfl⟩ := payment?_some found
    obtain ⟨member, bookings⟩ := releaseComplianceHold_sends ledger user _ found status
    exact changes_of_row member (.released held) (prepareLeg_eq store payment _) rfl bookings Bool.noConfusion

theorem openSettlementMismatch_kept (exceptions : List InvoiceException) (invoice : Option PayableInvoice) :
    exceptions ⊆ openSettlementMismatch exceptions invoice := by
  unfold openSettlementMismatch
  split
  · exact List.Subset.refl exceptions
  split
  · exact List.Subset.refl exceptions
  · exact List.subset_append_left _ _

/-- Exceptions may be added to, in a section that leaves the invoices alone. -/
theorem booking_exceptions {store : PaymentStore} {exceptions : List InvoiceException} (kept : store.exceptions ⊆ exceptions) :
    Booking config.payments store { store with exceptions := exceptions } :=
  .outside store.invoices exceptions fun exception member => ⟨exception, kept member, rfl, rfl, List.Subset.refl _⟩

theorem recordSettlement_leg {columns recorded : RailColumns} {invoice : Option PayableInvoice} {amount : Option Decimal}
    {currency : Option String} {fetched : SettlementReport} {verification : SettlementVerification}
    (ok : recordSettlement payment columns invoice amount currency fetched = .ok (verification, recorded)) :
    columns.SameLeg recorded := by
  obtain ⟨verdict, _, result⟩ := bind_eq_ok.mp ok
  cases pure_eq_ok.mp result
  exact ⟨_, rfl⟩

/-- A row that a rail moves on, with or without a settlement to record. -/
theorem settle_changes {written : Payment} (member : payment ∈ store.base.payments) (same : written.id = payment.id)
    (reports : label.reports = true) (amount : Option Decimal) (currency : Option String) (fetched : SettlementReport)
    (change : ∀ columns, (store.columns payment.id).SameLeg columns → RowChange store payment label written columns) :
    RailChanges config store label (store.settle written amount currency fetched) := by
  have concludes : (if written.status.isTerminal then written.id :: store.concluded else store.concluded) =
      if label.reports && written.status.isTerminal then payment.id :: store.concluded else store.concluded := by
    rw [same, reports, Bool.true_and]
  unfold settle
  split
  · simp only
    split
    · exact changes_of_quiet rfl rfl .refl fun _ => rfl
    · next verification columns recorded =>
      rw [same] at recorded
      refine changes_of_row member (change columns (recordSettlement_leg recorded)) ?_ concludes (.single ?_) fun _ => rfl
      · rw [← same]
        rfl
      · have kept : (store.base.putPayment written).exceptions ⊆
            if verification.isDiscrepancy then
              openSettlementMismatch store.base.exceptions (store.base.invoice? written.invoiceId)
            else store.base.exceptions := by
          split
          · exact openSettlementMismatch_kept store.base.exceptions _
          · exact List.Subset.refl _
        exact booking_exceptions kept
  · refine changes_of_row member (change _ (.refl _)) ?_ concludes .refl fun _ => rfl
    rw [Function.update_eq_self]
    rfl

theorem receiveEvent_changes (event : RailEvent) (fetched : SettlementReport) (now : Time) :
    RailChanges config store (.webhook event fetched now) (store.receiveEvent event fetched now) := by
  unfold receiveEvent
  split
  · next payment only =>
    have listed : payment ∈ store.base.payments.filter (·.providerPaymentId == some event.providerPaymentId) := by
      rw [only]
      exact List.mem_singleton.mpr rfl
    obtain ⟨member, handle⟩ := List.mem_filter.mp listed
    split
    · next moving =>
      have change : ∀ columns, (store.columns payment.id).SameLeg columns → RowChange store payment
          (.webhook event fetched now) (payment.applyEvent event.status event.reference event.failureReason now) columns :=
        fun columns leg => .event (beq_iff_eq.mp handle) moving leg
      refine settle_changes member ?_ rfl _ _ _ change
      rfl
    · exact changes_of_quiet rfl rfl .refl fun _ => rfl
  · exact changes_of_quiet rfl rfl .refl fun _ => rfl

theorem reconcilePayment_changes (sweep : Nat) (now : Time) (candidate : Candidate) (turn : ReconcileTurn) :
    RailChanges config store (.reconcile sweep turn) (store.reconcilePayment config now candidate turn) := by
  unfold reconcilePayment
  simp only
  split
  · exact changes_of_quiet rfl rfl .refl fun _ => rfl
  split
  · split
    · exact changes_of_quiet rfl rfl .refl fun _ => rfl
    · next payment locked =>
      obtain ⟨member, _, moving⟩ := lockInFlight_some locked
      refine changes_of_row member (.aged moving) ?_ rfl (.single (.outside store.base.invoices _ ?_)) fun _ => rfl
      · rw [Function.update_eq_self]
        rfl
      · intro exception listed
        split
        · exact flagAgedOutPayment_kept store.base.exceptions payment exception listed
        · exact ⟨exception, listed, rfl, rfl, List.Subset.refl _⟩
  split
  · exact changes_of_quiet rfl rfl .refl fun _ => rfl
  split
  · exact changes_of_quiet rfl rfl .refl fun _ => rfl
  split
  · exact changes_of_quiet rfl rfl .refl fun _ => rfl
  split
  · next terminal =>
    split
    · exact changes_of_quiet rfl rfl .refl fun _ => rfl
    · next payment locked =>
      obtain ⟨member, _, moving⟩ := lockInFlight_some locked
      have change : ∀ columns, (store.columns payment.id).SameLeg columns → RowChange store payment
          (.reconcile sweep turn) (payment.conclude _ now) columns :=
        fun columns leg => .polled moving terminal leg
      refine settle_changes member ?_ rfl _ _ _ change
      rfl
  · exact changes_of_quiet rfl rfl .refl fun _ => rfl

/-- What a report does to the rows does not depend on the sweeps. -/
theorem nextTurn_changes {sweep : Nat} {turn : ReconcileTurn} {step : RailStore → Time → Candidate → RailStore}
    (changes : ∀ (store : RailStore) now candidate, RailChanges config store (.reconcile sweep turn) (step store now candidate)) :
    RailChanges config store (.reconcile sweep turn) (store.nextTurn sweep step) := by
  unfold nextTurn
  split
  · exact changes_of_quiet rfl rfl .refl fun _ => rfl
  next found current =>
  split
  · exact changes_of_quiet rfl rfl .refl fun _ => rfl
  next candidate rest _ =>
  obtain ⟨middle, touched, bookings, rows⟩ := changes { store with sweeps := store.sweeps.set sweep ⟨found.now, rest⟩ } found.now
    candidate
  exact ⟨middle, touched.of_sweeps rfl, bookings, rows⟩

theorem nextTurn_quiet (sweep : Nat) : RailChanges config store label (store.nextTurn sweep fun store _ _ => store) := by
  unfold nextTurn
  split
  · exact changes_of_quiet rfl rfl .refl fun _ => rfl
  split
  · exact changes_of_quiet rfl rfl .refl fun _ => rfl
  · exact changes_of_quiet rfl rfl .refl fun _ => rfl

theorem setInvoiceStatus_changes (invoice : PayableInvoice) (status : InvoiceStatus) {legs : List SyncLeg} :
    RailChanges config store label ({ store with legs := legs }.setInvoiceStatus invoice status) :=
  changes_of_quiet rfl rfl (.single (booking_invoices _)) fun _ => rfl

/-- Every section changes one row at most, and books. -/
theorem runRailLabel_changes (ledger : Ledger store.base) (label : RailLabel) :
    RailChanges config store label (runRailLabel config store label) := by
  cases label with
  | payments label =>
    simp only [runRailLabel]
    split
    · exact changes_of_quiet rfl rfl .refl fun _ => rfl
    · next plain => exact payments_changes ledger (Bool.eq_false_iff.mpr plain) rfl rfl rfl
  | dispatchNext pass env inputs => exact dispatchNext_changes ledger pass env inputs
  | release user payment provider env inputs => exact release_changes ledger user payment provider env inputs
  | webhook event fetched now => exact receiveEvent_changes event fetched now
  | beginSweep => exact changes_of_quiet rfl rfl .refl fun _ => rfl
  | reconcile sweep turn =>
    exact nextTurn_changes fun store now candidate => reconcilePayment_changes sweep now candidate turn
  | failTurn sweep => exact nextTurn_quiet sweep
  | dropSweep => exact changes_of_quiet rfl rfl .refl fun _ => rfl
  | beginSync payment =>
    simp only [runRailLabel, beginSync]
    split
    · exact changes_of_quiet rfl rfl .refl fun _ => rfl
    split
    · exact changes_of_quiet rfl rfl .refl fun _ => rfl
    · exact changes_of_quiet rfl rfl .refl fun _ => rfl
  | finishSync leg =>
    simp only [runRailLabel, finishSync]
    split
    · exact changes_of_quiet rfl rfl .refl fun _ => rfl
    split
    · exact changes_of_quiet rfl rfl .refl fun _ => rfl
    · exact setInvoiceStatus_changes _ _
  | dropSync => exact changes_of_quiet rfl rfl .refl fun _ => rfl
  | erpWebhook invoice status =>
    simp only [runRailLabel, receiveErpStatus]
    split
    · exact changes_of_quiet rfl rfl .refl fun _ => rfl
    split
    · exact changes_of_quiet rfl rfl .refl fun _ => rfl
    · exact setInvoiceStatus_changes _ _

end RailStore

/-- Every reachable store of the rails keeps the ledger. -/
theorem reach_railLedger {config : ReconcilerConfig} {allowed : RailStore → RailLabel → Prop} {store : RailStore}
    (reach : (railMachine config).Reach allowed store) : Ledger store.base := by
  have start : ∀ first, (railMachine config).init first → Ledger first.base :=
    fun first begins => .empty begins.1 begins.2.1 begins.2.2.1
  have step : ∀ before label, Ledger before.base → allowed before label → Ledger ((railMachine config).step before label).base :=
    fun before label ledger _ => (RailStore.runRailLabel_changes ledger label : RailChanges config before label _).ledger ledger
  exact reach.invariant start step

end Payables
