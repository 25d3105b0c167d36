import Payables.Banking.ClaimedOnce

namespace Payables.Banking
open Lib

/-- The reference of a transaction names one payment. -/
def Identified (books : Books) (transaction : BankTransaction) (payment : Payment) : Prop :=
  ∃ reference ∈ transaction.reference, reference ≠ "" ∧ Identifies books reference payment

/-- A debit whose reference names a payment is matched with it or not at all. -/
def IdentityKept (books : Books) (before after : BankTransaction) : Prop :=
  before.direction = .debit → ∀ payment, Identified books before payment →
    after.matchedPaymentId = none ∨ after.matchedPaymentId = some payment.id

/-- A debit whose payment is claimed by its turn finds nothing that settles like it by chance. -/
def DuplicatesStandAlone (books : Books) (windowDays : Nat) (claimed : Finset PaymentId) (transactions : List BankTransaction) :
    Prop :=
  ∀ before transaction after, transactions = before ++ transaction :: after → transaction.direction = .debit →
    ∀ payment, Identified books transaction payment → payment.id ∈ (matching books windowDays).takenAfter claimed before →
      NoCoincidence books windowDays ((matching books windowDays).takenAfter claimed before) transaction

section Turn

variable {books : Books} {windowDays : Nat} {now : Time} {claimed : Finset PaymentId} {transaction : BankTransaction}
  {payment : Payment}

theorem named_of_identified (identified : Identified books transaction payment) :
    (transaction.reference.filter (· ≠ "")).bind (paymentByReference books) = some payment := by
  obtain ⟨reference, named, nonempty, identifies⟩ := identified
  rw [Option.mem_def.mp named]
  simp [Option.filter, nonempty, paymentByReference_iff.mpr identifies]

/-- One turn keeps the identity, unless the payment is claimed and something else settles like the transaction. -/
theorem turn_identity_iff (blank : Blank transaction) (debit : transaction.direction = .debit)
    (identified : Identified books transaction payment) :
    ((transaction.link now (matchAttempt books windowDays claimed transaction)).matchedPaymentId = none ∨
      (transaction.link now (matchAttempt books windowDays claimed transaction)).matchedPaymentId = some payment.id) ↔
      (payment.id ∈ claimed → NoCoincidence books windowDays claimed transaction) := by
  rw [link_matchedPaymentId blank, matchAttempt, if_neg (not_not.mpr debit), referenceAttempt, named_of_identified identified]
  by_cases taken : payment.id ∈ claimed
  · simp only [if_pos taken, Option.none_or]
    rw [← heuristicAttempt_none_iff]
    constructor
    · rintro (unmatched | same) -
      · exact Option.map_eq_none_iff.mp unmatched
      · obtain ⟨attempt, attempted, samePayment⟩ := Option.map_eq_some_iff.mp same
        obtain ⟨-, other, listed, isOther⟩ := heuristicAttempt_spec attempted
        rw [← samePayment, isOther] at taken
        exact absurd taken (mem_unclaimedCandidates listed).2.2.1
    · intro alone
      rw [alone taken]
      exact .inl rfl
  · simp [taken]

end Turn

def maySecond : CalendarDate := (CalendarDate.of? 2031 5 2).get (by decide)

def paidTwice : Books where
  payments := [⟨1, 1, 100, none, none, .completed, some "TRACE-1", none, some maySecond, none, none⟩,
    ⟨2, 2, 100, none, none, .completed, some "TRACE-2", none, some maySecond, none, none⟩]
  invoices := [⟨1, some "USD", some "Acme"⟩, ⟨2, some "USD", some "Globex"⟩]

end Payables.Banking
