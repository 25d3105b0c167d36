import Payables.Lib.Lineage
import Payables.Payments.Model

namespace Payables
open Lib

/-- Per-outcome tallies over the payments of one run. -/
structure PaymentRunRollup where
  total : Nat
  completed : Nat
  failed : Nat
  inFlight : Nat
  pending : Nat
  deriving DecidableEq

namespace PaymentRunRollup

def empty : PaymentRunRollup := ⟨0, 0, 0, 0, 0⟩

/-- The bucket of one status. A status the code does not know counts towards the total alone. -/
def tally (rollup : PaymentRunRollup) (status : PaymentStatus) : PaymentRunRollup :=
  let counted := { rollup with total := rollup.total + 1 }
  match status with
  | .completed => { counted with completed := rollup.completed + 1 }
  | .failed | .cancelled | .voided => { counted with failed := rollup.failed + 1 }
  | .submitted | .processing | .pendingCompliance => { counted with inFlight := rollup.inFlight + 1 }
  | .pending => { counted with pending := rollup.pending + 1 }
  | .unknown _ => counted

/-- `run_status`. -/
def runStatus (rollup : PaymentRunRollup) : RunStatus :=
  if rollup.failed ≠ 0 ∧ ¬(rollup.completed ≠ 0 ∨ rollup.inFlight ≠ 0) then .failed
  else if rollup.failed ≠ 0 then .partly
  else if rollup.inFlight ≠ 0 then .submitted
  else if rollup.total = 0 then .draft
  else if rollup.pending ≠ 0 then .executing
  else if rollup.completed = rollup.total then .completed
  else if rollup.completed ≠ 0 then .partly
  else .failed

end PaymentRunRollup

def rollupPaymentStatuses (statuses : List PaymentStatus) : PaymentRunRollup :=
  statuses.foldl PaymentRunRollup.tally .empty

/-- `CLAIM_RUN_STATUSES`. -/
def claimRunStatuses : List RunStatus := [.draft, .executing, .cancelled]

def deriveRunStatus (persistedStatus : Option RunStatus) (rollup : PaymentRunRollup) : RunStatus :=
  let status := persistedStatus.getD .draft
  if status ∈ claimRunStatuses then status else rollup.runStatus

/-- A retry books a new payment for the invoice of the payment it replaces. -/
def Payment.lineage : Lineage Payment PaymentId InvoiceId where
  ident := Payment.id
  prev := Payment.retryOfPaymentId
  key := Payment.invoiceId

def supersededPaymentIds (payments : List Payment) : List PaymentId := Payment.lineage.superseded payments

def activeRunPayments (payments : List Payment) : List Payment := Payment.lineage.active payments

/-- The rollup of a run: its active payments, bucketed. -/
def activeRollup (payments : List Payment) : PaymentRunRollup :=
  rollupPaymentStatuses ((activeRunPayments payments).map (·.status))

theorem foldl_tally_total (statuses : List PaymentStatus) (rollup : PaymentRunRollup) :
    (statuses.foldl PaymentRunRollup.tally rollup).total = rollup.total + statuses.length := by
  induction statuses generalizing rollup with
  | nil => rfl
  | cons status rest ih =>
    have step : (rollup.tally status).total = rollup.total + 1 := by cases status <;> rfl
    rw [List.foldl_cons, ih, step, List.length_cons]
    omega

theorem foldl_tally_completed (statuses : List PaymentStatus) (rollup : PaymentRunRollup) :
    (statuses.foldl PaymentRunRollup.tally rollup).completed = rollup.completed + statuses.count .completed := by
  induction statuses generalizing rollup with
  | nil => rfl
  | cons status rest ih =>
    rw [List.foldl_cons, ih]
    by_cases here : status = .completed
    · subst here
      rw [List.count_cons_self]
      show rollup.completed + 1 + _ = _
      omega
    · have same : (rollup.tally status).completed = rollup.completed := by cases status <;> first | rfl | exact absurd rfl here
      rw [List.count_cons_of_ne here, same]

theorem rollupPaymentStatuses_total (statuses : List PaymentStatus) :
    (rollupPaymentStatuses statuses).total = statuses.length := by
  rw [rollupPaymentStatuses, foldl_tally_total]
  exact Nat.zero_add _

theorem PaymentRunRollup.runStatus_draft {rollup : PaymentRunRollup} (drafted : rollup.runStatus = .draft) :
    rollup.total = 0 := by
  unfold runStatus at drafted
  split_ifs at drafted with _ _ _ none'
  exact none'

theorem PaymentRunRollup.runStatus_ne_cancelled (rollup : PaymentRunRollup) : rollup.runStatus ≠ .cancelled := by
  unfold runStatus
  split_ifs <;> decide

/-- Success is claimed only for a run that has payments, all of them completed. -/
theorem runStatus_rollup_completed {statuses : List PaymentStatus}
    (claimed : (rollupPaymentStatuses statuses).runStatus = .completed) :
    statuses ≠ [] ∧ ∀ status ∈ statuses, status = .completed := by
  have total := rollupPaymentStatuses_total statuses
  have completed : (rollupPaymentStatuses statuses).completed = statuses.count .completed := by
    rw [rollupPaymentStatuses, foldl_tally_completed]
    exact Nat.zero_add _
  unfold PaymentRunRollup.runStatus at claimed
  split at claimed
  · cases claimed
  split at claimed
  · cases claimed
  split at claimed
  · cases claimed
  split at claimed
  · cases claimed
  rename_i nonempty
  split at claimed
  · cases claimed
  split at claimed
  · rename_i all
    rw [total] at nonempty
    rw [total, completed] at all
    refine ⟨fun empty => nonempty (by rw [empty]; rfl), fun status member => ?_⟩
    exact (List.count_eq_length.mp all status member).symm
  split at claimed
  · cases claimed
  · cases claimed

theorem tally_comm (rollup : PaymentRunRollup) (first second : PaymentStatus) :
    (rollup.tally first).tally second = (rollup.tally second).tally first := by
  cases first <;> cases second <;> rfl

/-- The order in which the rows come back does not matter. -/
theorem rollupPaymentStatuses_perm {statuses others : List PaymentStatus} (perm : statuses.Perm others) :
    rollupPaymentStatuses statuses = rollupPaymentStatuses others :=
  perm.foldl_eq' (fun first _ second _ rollup => tally_comm rollup first second) _

theorem superseded_perm {payments others : List Payment} (perm : payments.Perm others) (id : PaymentId) :
    id ∈ supersededPaymentIds payments ↔ id ∈ supersededPaymentIds others :=
  (perm.filterMap _).mem_iff

theorem activeRunPayments_perm {payments others : List Payment} (perm : payments.Perm others) :
    (activeRunPayments payments).Perm (activeRunPayments others) := by
  have same (payment : Payment) : (Payment.lineage.superseded payments).contains (Payment.lineage.ident payment) =
      (Payment.lineage.superseded others).contains (Payment.lineage.ident payment) := by
    rw [Bool.eq_iff_iff, List.contains_iff_mem, List.contains_iff_mem]
    exact superseded_perm perm _
  unfold activeRunPayments Lineage.active
  simp only [same]
  exact perm.filter _

/-- The derived status of a run is a function of the set of its rows. -/
theorem deriveRunStatus_perm {payments others : List Payment} (perm : payments.Perm others)
    (persistedStatus : Option RunStatus) :
    deriveRunStatus persistedStatus (activeRollup payments) = deriveRunStatus persistedStatus (activeRollup others) := by
  unfold activeRollup
  rw [rollupPaymentStatuses_perm ((activeRunPayments_perm perm).map _)]

theorem deriveRunStatus_completed {persistedStatus : Option RunStatus} {statuses : List PaymentStatus}
    (claimed : deriveRunStatus persistedStatus (rollupPaymentStatuses statuses) = .completed) :
    statuses ≠ [] ∧ ∀ status ∈ statuses, status = .completed := by
  simp only [deriveRunStatus] at claimed
  split at claimed
  · rename_i claim
    rw [claimed] at claim
    exact absurd claim (by decide)
  · exact runStatus_rollup_completed claimed

end Payables
