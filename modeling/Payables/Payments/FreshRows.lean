import Payables.Payments.Changes

namespace Payables
open Lib Relation

/-- A row as it is booked: under an identifier of its own, and sent nowhere. -/
structure Payment.IsFresh (next : Nat) (payment : Payment) : Prop where
  issued : next ≤ payment.id
  pending : payment.status = .pending
  unsent : payment.providerPaymentId = none
  unpriced : payment.fxRate = none

theorem Payment.IsFresh.mono {next later : Nat} {payment : Payment} (fresh : payment.IsFresh later) (grows : next ≤ later) :
    payment.IsFresh next := ⟨grows.trans fresh.issued, fresh.pending, fresh.unsent, fresh.unpriced⟩

/-- Every row is an old one or a fresh one. -/
structure PaymentStore.Grows (store after : PaymentStore) : Prop where
  next : store.nextId ≤ after.nextId
  rows : ∀ payment ∈ after.payments, payment ∈ store.payments ∨ payment.IsFresh store.nextId

namespace PaymentStore.Grows

variable {config : PaymentConfig} {store middle after : PaymentStore}

theorem of_sublist (next : store.nextId ≤ after.nextId) (kept : after.payments ⊆ store.payments) : store.Grows after :=
  ⟨next, fun _ member => .inl (kept member)⟩

theorem trans (first : store.Grows middle) (second : middle.Grows after) : store.Grows after where
  next := first.next.trans second.next
  rows := by
    intro payment member
    rcases second.rows payment member with old | fresh
    · exact first.rows payment old
    · exact .inr (fresh.mono first.next)

theorem of_insertPayment {invoice : InvoiceId} {run : Option RunId} {amount : ℚ} {method reference : Option String}
    {retryOf : Option PaymentId} (inserted : store.insertPayment invoice run amount method reference retryOf = some after) :
    store.Grows after := by
  obtain ⟨_, rfl⟩ := insertPayment_some inserted
  refine ⟨Nat.le_add_right _ 2, fun payment member => (List.mem_append.mp member).imp_right fun new => ?_⟩
  rw [List.mem_singleton.mp new]
  exact ⟨Nat.le_refl _, rfl, rfl, rfl⟩

theorem of_bookRunPayments {run : RunId} {items : List (InvoiceId × String)}
    (booked : bookRunPayments run items store = some after) : store.Grows after := by
  induction items generalizing store with
  | nil =>
    cases Option.some.inj booked
    exact of_sublist (Nat.le_refl _) (List.Subset.refl _)
  | cons item items ih =>
    obtain ⟨invoiceId, method⟩ := item
    unfold bookRunPayments at booked
    split at booked
    · cases booked
    split at booked
    · cases booked
    next middle inserted => exact (of_insertPayment inserted).trans (ih booked)

theorem of_booking (booking : Booking config store after) : store.Grows after := by
  cases booking with
  | outside | passes | enter | status => exact of_sublist (Nat.le_refl _) (List.Subset.refl _)
  | standalone inserted => exact of_insertPayment inserted
  | retry _ _ inserted => exact of_insertPayment inserted
  | create _ _ _ _ _ booked =>
    have grows := of_bookRunPayments booked
    refine ⟨(Nat.le_succ _).trans grows.next, fun payment member => ?_⟩
    exact (grows.rows payment member).imp_right fun fresh => fresh.mono (Nat.le_succ _)
  | cancel => exact of_sublist (Nat.le_refl _) (List.filter_subset_self _)

theorem of_bookings (bookings : ReflTransGen (Booking config) store after) : store.Grows after := by
  induction bookings with
  | refl => exact of_sublist (Nat.le_refl _) (List.Subset.refl _)
  | tail _ booking ih => exact ih.trans (of_booking booking)

end PaymentStore.Grows

/-- A row that no pass has come to: pending and unsent, or voided before. -/
def Payment.IsUntried (payment : Payment) : Prop :=
  payment.status = .pending ∧ payment.providerPaymentId = none ∨ payment.status = .voided

/-- The rows of a draft are untried. -/
def DraftsUntried (store : PaymentStore) : Prop :=
  ∀ run ∈ store.runs, run.status = .draft → ∀ payment ∈ store.payments, payment.paymentRunId = some run.id → payment.IsUntried

theorem Payment.IsFresh.isUntried {next : Nat} {payment : Payment} (fresh : payment.IsFresh next) : payment.IsUntried :=
  .inl ⟨fresh.pending, fresh.unsent⟩

section
variable {config : PaymentConfig} {store after : PaymentStore}

/-- Rows may come and go under the same runs. -/
theorem DraftsUntried.grow (untried : DraftsUntried store) (grows : store.Grows after) (runs : after.runs = store.runs) :
    DraftsUntried after := by
  intro run inRuns draft payment member mine
  rw [runs] at inRuns
  rcases grows.rows payment member with old | fresh
  · exact untried run inRuns draft payment old mine
  · exact fresh.isUntried

theorem DraftsUntried.booking (untried : DraftsUntried store) (ledger : Ledger store) (booking : Booking config store after) :
    DraftsUntried after := by
  have grows := PaymentStore.Grows.of_booking booking
  cases booking with
  | outside | passes | enter => exact untried
  | @status run next inRuns advances =>
    intro other here draft payment member mine
    rcases mem_putRow here with rfl | ⟨old, _⟩
    · rcases advances.status with same | ⟨_, undrafted, _⟩
      · rw [advances.id] at mine
        exact untried run inRuns (same.symm.trans draft) payment member mine
      · exact absurd draft undrafted
    · exact untried other old draft payment member mine
  | standalone inserted =>
    obtain ⟨_, rfl⟩ := insertPayment_some inserted
    exact untried.grow grows rfl
  | retry _ _ inserted =>
    obtain ⟨_, rfl⟩ := insertPayment_some inserted
    exact untried.grow grows rfl
  | create fresh _ _ _ _ booked =>
    obtain ⟨added, extends', _, _⟩ := bookRunPayments_extends booked
    have runs := congrArg PaymentStore.runs extends'.same
    simp only at runs
    intro other here draft payment member mine
    rcases grows.rows payment member with old | new
    · rw [runs] at here
      rcases List.mem_append.mp here with early | newRun
      · exact untried other early draft payment old mine
      · obtain ⟨owner, inRuns, sameId, _⟩ := ledger.owned payment old _ mine
        have below := ledger.runIssued owner inRuns
        rw [sameId, List.mem_singleton.mp newRun, fresh] at below
        exact absurd below (Nat.lt_irrefl _)
    · exact new.isUntried
  | @cancel run inRuns =>
    intro other here draft payment member mine
    have inTable : payment ∈ store.payments := (List.mem_filter.mp member).1
    rcases mem_putRow here with rfl | ⟨old, _⟩
    · cases draft
    · exact untried other old draft payment inTable mine

/-- Only an untried row is ever deleted. -/
theorem Booking.keeps (booking : Booking config store after) (untried : DraftsUntried store) {payment : Payment}
    (member : payment ∈ store.payments) (tried : ¬payment.IsUntried) : payment ∈ after.payments := by
  cases booking with
  | outside | passes | enter | status => exact member
  | standalone inserted =>
    obtain ⟨_, rfl⟩ := insertPayment_some inserted
    exact List.mem_append_left _ member
  | retry _ _ inserted =>
    obtain ⟨_, rfl⟩ := insertPayment_some inserted
    exact List.mem_append_left _ member
  | create _ _ _ _ _ booked =>
    obtain ⟨added, extends', _, _⟩ := bookRunPayments_extends booked
    rw [extends'.same]
    exact List.mem_append_left _ member
  | @cancel run inRuns draft =>
    refine List.mem_filter.mpr ⟨member, bne_iff_ne.mpr fun mine => tried ?_⟩
    exact untried run inRuns draft payment member mine

theorem bookings_untried (ledger : Ledger store) (untried : DraftsUntried store)
    (bookings : ReflTransGen (Booking config) store after) : DraftsUntried after := by
  induction bookings with
  | refl => exact untried
  | tail before booking ih => exact ih.booking (ledger.bookings before) booking

theorem bookings_keep (ledger : Ledger store) (untried : DraftsUntried store)
    (bookings : ReflTransGen (Booking config) store after) {payment : Payment} (member : payment ∈ store.payments)
    (tried : ¬payment.IsUntried) : payment ∈ after.payments := by
  induction bookings with
  | refl => exact member
  | tail before booking ih => exact booking.keeps (bookings_untried ledger untried before) ih tried

end

end Payables
