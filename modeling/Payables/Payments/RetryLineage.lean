import Payables.Payments.Changes

namespace Payables
open Lib

/-- The rows of a run as lines of attempts, one line for each of its invoices. -/
structure RunLines (config : PaymentConfig) (store : PaymentStore) (run : PaymentRun) : Prop where
  invoices : run.status ≠ .cancelled → run.invoices ≠ [] ∧
    ∀ invoice, invoice ∈ run.invoices ↔ ∃ payment ∈ store.runPayments run.id, payment.invoiceId = invoice
  oneActive : run.status ≠ .cancelled → ∀ invoice ∈ run.invoices,
    ∃! payment, payment ∈ activeRunPayments (store.runPayments run.id) ∧ payment.invoiceId = invoice
  deleted : run.status = .cancelled → store.runPayments run.id = []
  superseded : ∀ payment ∈ store.runPayments run.id,
    payment.id ∈ supersededPaymentIds (store.runPayments run.id) → payment.status = .failed ∨ payment.status = .cancelled
  untouched : ∀ user id provider,
    ∃ added, (runPaymentLabel config store (.retryFailed user id provider)).1.payments = store.payments ++ added

/-- What a derived status says about the rows it is derived from, whatever strings they carry. -/
structure RollupSound (run : PaymentRun) (payments : List Payment) : Prop where
  completed : deriveRunStatus (some run.status) (activeRollup payments) = .completed →
    activeRunPayments payments ≠ [] ∧ ∀ payment ∈ activeRunPayments payments, payment.status = .completed
  unknown : ∀ payment ∈ activeRunPayments payments, ∀ text, payment.status = .unknown text →
    deriveRunStatus (some run.status) (activeRollup payments) ≠ .completed
  unordered : ∀ others, payments.Perm others → deriveRunStatus (some run.status) (activeRollup payments) =
    deriveRunStatus (some run.status) (activeRollup others)

theorem rollupSound (run : PaymentRun) (payments : List Payment) : RollupSound run payments := by
  have completed (claimed : deriveRunStatus (some run.status) (activeRollup payments) = .completed) :
      activeRunPayments payments ≠ [] ∧ ∀ payment ∈ activeRunPayments payments, payment.status = .completed := by
    obtain ⟨nonempty, all⟩ := deriveRunStatus_completed claimed
    refine ⟨fun none' => nonempty (by rw [none']; rfl), fun payment member => ?_⟩
    exact all _ (List.mem_map_of_mem member)
  refine ⟨completed, fun payment member text unknown claimed => ?_, fun _ perm => deriveRunStatus_perm perm _⟩
  have done := (completed claimed).2 payment member
  rw [unknown] at done
  cases done

theorem PaymentStatus.isRetryable_iff {status : PaymentStatus} :
    status.isRetryable = true ↔ status = .failed ∨ status = .cancelled := by
  simp only [isRetryable, Bool.or_eq_true, beq_iff_eq]

theorem Ledger.runLines {store : PaymentStore} (ledger : Ledger store) (config : PaymentConfig) {run : PaymentRun}
    (member : run ∈ store.runs) : RunLines config store run where
  invoices := ledger.covered run member
  oneActive := by
    intro standing invoice listed
    obtain ⟨payment, here, rfl⟩ := ((ledger.covered run member standing).2 invoice).mp listed
    exact (ledger.linear run.id).existsUnique_active here
  deleted := by
    intro cancelled
    refine List.filter_eq_nil_iff.mpr fun payment inTable mine => ?_
    obtain ⟨owner, inRuns, same, standing⟩ := ledger.owned payment inTable run.id (beq_iff_eq.mp mine)
    rw [ledger.run_eq inRuns member same] at standing
    exact standing cancelled
  superseded := by
    intro payment here replaced
    obtain ⟨other, also, names⟩ := List.mem_filterMap.mp replaced
    have retryable := ledger.rows.replaced payment (PaymentStore.mem_runPayments.mp here).1 other
      (PaymentStore.mem_runPayments.mp also).1 names
    exact PaymentStatus.isRetryable_iff.mp retryable
  untouched := by
    intro user id provider
    simp only [runPaymentLabel]
    cases result : retryFailedPayments config store user id provider with
    | error => exact ⟨[], (List.append_nil _).symm⟩
    | ok after => exact (retryFailedPayments_bookings ledger result).2

/-- In every run of the payment endpoints: one active payment for each invoice of a payment run, only
failed or cancelled attempts below it, and a derived status that claims success for nothing less
than a complete run, in whatever order its rows come back. -/
theorem reach_runLines_rollupSound {config : PaymentConfig} {store : PaymentStore}
    (reach : (paymentMachine config).Reach Machine.Anything store) {run : PaymentRun} (member : run ∈ store.runs) :
    RunLines config store run ∧ ∀ payments, RollupSound run payments :=
  ⟨(reach_ledger reach).runLines config member, rollupSound run⟩

/-- A run of two invoices whose first payment is refused by compliance and then retried. -/
def retriedRun : List PaymentLabel :=
  [.createRun "maker" [(1, "ach"), (2, "ach")] false, .executeRun "checker" 0 none, .readPending 0,
    .dispatchNext 0 { DispatchEnv.hearing (.error "") with compliance := .ok (.refuse "sanctions") },
    .dispatchNext 0 (.hearing (.ok ⟨.completed, some "order-2", none, none⟩)), .finishPass 0 1,
    .retryFailed "checker" 0 none]

theorem runLines_retriedRun :
    supersededPaymentIds (((paymentMachine ⟨none, 0⟩).exec (.approved [1, 2]) retriedRun).runPayments 0) = [1] ∧
      ∃ run ∈ ((paymentMachine ⟨none, 0⟩).exec (.approved [1, 2]) retriedRun).runs,
        RunLines ⟨none, 0⟩ ((paymentMachine ⟨none, 0⟩).exec (.approved [1, 2]) retriedRun) run ∧
          ∀ payments, RollupSound run payments := by
  have replaced : supersededPaymentIds (((paymentMachine ⟨none, 0⟩).exec (.approved [1, 2]) retriedRun).runPayments 0) =
      [1] := by decide +kernel
  have found : ∃ run ∈ ((paymentMachine ⟨none, 0⟩).exec (.approved [1, 2]) retriedRun).runs, run.id = 0 := by
    decide +kernel
  have first : (paymentMachine ⟨none, 0⟩).init (.approved [1, 2]) := ⟨rfl, rfl, rfl⟩
  obtain ⟨run, member, _⟩ := found
  exact ⟨replaced, run, member, reach_runLines_rollupSound (Machine.reach_exec first retriedRun) member⟩

end Payables
