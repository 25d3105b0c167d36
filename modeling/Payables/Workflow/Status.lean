import Payables.Basic

namespace Payables

inductive InvoiceStatus
  | new
  | pending
  | readyForReview
  | approved
  | rejected
  | sendingToErp
  | sentToErp
  | postedInErp
  | paymentScheduled
  | paid
  | done
  | failed
  deriving DecidableEq

namespace InvoiceStatus

/-- The stored spelling. -/
def value : InvoiceStatus → String
  | new => "new"
  | pending => "pending"
  | readyForReview => "ready_for_review"
  | approved => "approved"
  | rejected => "rejected"
  | sendingToErp => "sending_to_erp"
  | sentToErp => "sent_to_erp"
  | postedInErp => "posted_in_erp"
  | paymentScheduled => "payment_scheduled"
  | paid => "paid"
  | done => "done"
  | failed => "failed"

/-- `VALID_TRANSITIONS`. -/
def validTransitions : InvoiceStatus → List InvoiceStatus
  | new => [pending, readyForReview, approved, done]
  | pending => [readyForReview, approved, failed]
  | readyForReview => [approved, rejected]
  | approved => [sendingToErp, paymentScheduled, done]
  | rejected => [readyForReview, new]
  | sendingToErp => [sentToErp, failed]
  | sentToErp => [postedInErp, done]
  | postedInErp => [paymentScheduled, done]
  | paymentScheduled => [paid, approved]
  | paid => [done, approved]
  | done => []
  | failed => [pending, sendingToErp]

/-- `validate_transition`, as the refusal it raises. -/
def validateTransition (current target : InvoiceStatus) : Except Raised Unit :=
  if target ∈ current.validTransitions then .ok ()
  else .error (.http 409 s!"Cannot transition from \x27{current.value}\x27 to \x27{target.value}\x27")

/-- `IMMUTABLE_STATUSES`. -/
def immutableStatuses : List InvoiceStatus :=
  [sendingToErp, sentToErp, postedInErp, paymentScheduled, paid, done]

/-- `_FINANCIALLY_LOCKED_STATUSES`. -/
def financiallyLockedStatuses : List InvoiceStatus := approved :: immutableStatuses

/-- `PAYABLE_INVOICE_STATUSES`. -/
def payableStatuses : List InvoiceStatus := [approved, postedInErp, paymentScheduled]

/-- `SCHEDULABLE_INVOICE_STATUSES`: the payable ones that can still become `payment_scheduled`. -/
def schedulableStatuses : List InvoiceStatus :=
  payableStatuses.filter fun status => status.validTransitions.contains paymentScheduled

theorem validateTransition_eq_ok {current target : InvoiceStatus} :
    validateTransition current target = .ok () ↔ target ∈ current.validTransitions := by
  unfold validateTransition
  split <;> simp_all only [reduceCtorEq]

end InvoiceStatus

end Payables
