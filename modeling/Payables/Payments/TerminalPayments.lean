import Payables.Payments.FreshRows
import Payables.Payments.RailSteps

namespace Payables
open Lib Relation

/-- A live row in a terminal status is a completed one. -/
theorem PaymentStatus.completed_of_terminal {status : PaymentStatus} (terminal : status.isTerminal = true)
    (live : status.isLive = true) : status = .completed := by
  cases status with
  | completed => rfl
  | pending | submitted | processing | pendingCompliance | unknown => cases terminal
  | failed | cancelled | voided => cases live

/-- A row that ended stays ended when it is rewritten. -/
theorem RowChange.stays_terminal {store : RailStore} {payment written : Payment} {label : RailLabel}
    {columns : RailColumns} (change : RowChange store payment label written columns)
    (terminal : payment.status.isTerminal = true) : written.status.isTerminal = true := by
  rw [(change.of_completed (PaymentStatus.completed_of_terminal terminal change.live)).2]
  rfl

/-- A report leaves the rows that ended alone, and counts the ones that it ends. -/
theorem Touched.report {store : RailStore} {label : RailLabel} {middle : PaymentStore}
    {columns : PaymentId → RailColumns} {concluded : List PaymentId} (ledger : Ledger store.base)
    (touched : Touched store label middle columns concluded) (reports : label.reports = true) {payment : Payment}
    (member : payment ∈ store.base.payments) :
    (payment.status.isTerminal = true → payment ∈ middle.payments ∧ columns payment.id = store.columns payment.id) ∧
      (payment.status.isTerminal = false → ∀ later ∈ middle.payments, later.id = payment.id →
        later.status.isTerminal = true → concluded = payment.id :: store.concluded) := by
  cases touched with
  | nothing =>
    refine ⟨fun _ => ⟨member, rfl⟩, fun moving later also same ended => ?_⟩
    rw [ledger.rows.eq_of_id also member same, moving] at ended
    cases ended
  | @row changed written _ inTable change =>
    have sameId := change.sameOrder.id
    constructor
    · intro terminal
      have other : payment.id ≠ changed.id := by
        intro same
        rw [ledger.rows.eq_of_id member inTable same, change.not_terminal reports] at terminal
        cases terminal
      refine ⟨mem_putRow_of_ne member fun same => other (same.trans sameId), ?_⟩
      rw [Function.update_of_ne other]
    · intro moving later also same ended
      rcases mem_putRow also with rfl | ⟨old, _⟩
      · rw [reports, Bool.true_and, if_pos ended, ← same, sameId]
      · rw [ledger.rows.eq_of_id old member same, moving] at ended
        cases ended

/-- What holds of the payments that the reports have concluded. -/
structure Concluded (store : RailStore) : Prop where
  once : store.concluded.Nodup
  issued : ∀ id ∈ store.concluded, id < store.base.nextId
  ended : ∀ id ∈ store.concluded, ∀ payment ∈ store.base.payments, payment.id = id → payment.status.isTerminal = true

theorem Touched.concluded {store : RailStore} {label : RailLabel} {middle : PaymentStore}
    {columns : PaymentId → RailColumns} {concluded : List PaymentId} (ledger : Ledger store.base) (holds : Concluded store)
    (touched : Touched store label middle columns concluded) : concluded.Nodup ∧ middle.nextId = store.base.nextId ∧
      ∀ id ∈ concluded, id < store.base.nextId ∧ ∀ payment ∈ middle.payments, payment.id = id →
        payment.status.isTerminal = true := by
  cases touched with
  | nothing => exact ⟨holds.once, rfl, fun id listed => ⟨holds.issued id listed, holds.ended id listed⟩⟩
  | @row payment written _ member change =>
    have sameId := change.sameOrder.id
    have before : ∀ id ∈ store.concluded, id < store.base.nextId ∧
        ∀ row ∈ (store.base.putPayment written).payments, row.id = id → row.status.isTerminal = true := by
      intro id listed
      refine ⟨holds.issued id listed, fun row here same => ?_⟩
      rcases mem_putRow here with rfl | ⟨old, _⟩
      · exact change.stays_terminal (holds.ended id listed payment member (sameId.symm.trans same))
      · exact holds.ended id listed row old same
    by_cases concludes : (label.reports && written.status.isTerminal) = true
    · rw [if_pos concludes]
      obtain ⟨reports, ended⟩ := Bool.and_eq_true_iff.mp concludes
      have moving := change.not_terminal reports
      refine ⟨List.nodup_cons.mpr ⟨fun listed => ?_, holds.once⟩, rfl, List.forall_mem_cons.mpr ⟨⟨?_, ?_⟩, before⟩⟩
      · rw [holds.ended _ listed payment member rfl] at moving
        cases moving
      · exact (ledger.rows.issued payment member).1
      · intro row here same
        rcases mem_putRow here with rfl | ⟨_, different⟩
        · exact ended
        · exact absurd (same.trans sameId.symm) different
    · rw [if_neg concludes]
      exact ⟨holds.once, rfl, before⟩

theorem Concluded.step {config : ReconcilerConfig} {store after : RailStore} {label : RailLabel} (ledger : Ledger store.base)
    (holds : Concluded store) (changes : RailChanges config store label after) : Concluded after := by
  obtain ⟨middle, touched, bookings, _⟩ := changes
  obtain ⟨once, sameNext, ended⟩ := touched.concluded ledger holds
  have grows := PaymentStore.Grows.of_bookings bookings
  rw [← sameNext] at ended
  refine ⟨once, fun id listed => Nat.lt_of_lt_of_le (ended id listed).1 grows.next, fun id listed row here same => ?_⟩
  rcases grows.rows row here with old | fresh
  · exact (ended id listed).2 row old same
  · have issued := fresh.issued
    rw [same] at issued
    exact absurd (ended id listed).1 (Nat.not_lt.mpr issued)

theorem reach_concluded {config : ReconcilerConfig} {allowed : RailStore → RailLabel → Prop} {store : RailStore}
    (reach : (railMachine config).Reach allowed store) : Ledger store.base ∧ Concluded store := by
  have start : ∀ first, (railMachine config).init first → Ledger first.base ∧ Concluded first := by
    rintro first ⟨noPayments, noRuns, noPasses, _, _, _, none'⟩
    refine ⟨.empty noPayments noRuns noPasses, ?_⟩
    constructor <;> simp only [none', List.nodup_nil, List.not_mem_nil, false_implies, implies_true]
  have step : ∀ before label, Ledger before.base ∧ Concluded before → allowed before label →
      Ledger ((railMachine config).step before label).base ∧ Concluded ((railMachine config).step before label) := by
    intro before label holds _
    have changes : RailChanges config before label _ := RailStore.runRailLabel_changes holds.1 label
    exact ⟨changes.ledger holds.1, holds.2.step holds.1 changes⟩
  exact reach.invariant start step

/-- In every reachable state, a webhook or a turn of the reconciler leaves every payment that ended as it
is, row and columns; `concluded` takes up each payment that one of them ends, and holds none twice. -/
theorem terminal_payments_stay {config : ReconcilerConfig} {store : RailStore}
    (reach : (railMachine config).Reach Machine.Anything store) :
    (∀ label : RailLabel, label.reports = true → ∀ payment ∈ store.base.payments,
      (payment.status.isTerminal = true → payment ∈ (runRailLabel config store label).base.payments ∧
        (runRailLabel config store label).columns payment.id = store.columns payment.id) ∧
      (payment.status.isTerminal = false → ∀ later ∈ (runRailLabel config store label).base.payments,
        later.id = payment.id → later.status.isTerminal = true →
          (runRailLabel config store label).concluded = payment.id :: store.concluded)) ∧
    store.concluded.Nodup := by
  obtain ⟨ledger, concluded⟩ := reach_concluded reach
  refine ⟨fun label reports payment member => ?_, concluded.once⟩
  have changes : RailChanges config store label _ := RailStore.runRailLabel_changes ledger label
  obtain ⟨middle, touched, _, rows⟩ := changes
  rw [rows reports]
  exact touched.report ledger reports member

/-- A settled payment, and a `failed` event that comes too late. -/
theorem terminal_payments_stay_late_failure :
    let store := (railMachine ⟨⟨none, 100⟩, 1⟩).exec (.approved [1]) (orderedRun ++ [.webhook .settled none 2])
    (∃ payment ∈ store.base.payments, payment.status.isTerminal = true) ∧
      ∀ payment ∈ store.base.payments, payment.status.isTerminal = true → payment ∈ (runRailLabel ⟨⟨none, 100⟩, 1⟩ store
        (.webhook ⟨"order-1", .failed, none, some "R01", none, none⟩ none 3)).base.payments := by
  intro store
  have first : (railMachine ⟨⟨none, 100⟩, 1⟩).init (.approved [1]) := ⟨rfl, rfl, rfl, rfl, rfl, rfl, rfl⟩
  have ended : ∃ payment ∈ store.base.payments, payment.status.isTerminal = true := by decide +kernel
  refine ⟨ended, fun payment member terminal => ?_⟩
  exact (((terminal_payments_stay (Machine.reach_exec first _)).1 _ rfl payment member).1 terminal).1

end Payables
