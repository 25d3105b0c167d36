import Payables.Approval.Gates
import Payables.Lib.Calendar
import Payables.Lib.Column
import Payables.Lib.Rows
import Payables.Lib.Sessions

namespace Payables.CardExpenses
open Lib

inductive ReconciliationStatus
  | unmatched
  | matched
  | ignored
  deriving DecidableEq

inductive ExpensePaymentMethod
  | outOfPocket
  | corporateCard
  | virtualCard
  deriving DecidableEq

structure CorporateCardTransaction where
  id : Nat
  virtualCardId : Option Nat
  txnDate : CalendarDate
  merchant : Option String
  amount : ℚ
  currency : String
  matchedExpenseId : Option Nat
  reconciliationStatus : ReconciliationStatus
  deriving DecidableEq

/-- An expense. `firstMethod` is no column: it keeps the payment method from before the first match. -/
structure Expense where
  id : Nat
  expenseDate : CalendarDate
  merchant : Option String
  amount : ℚ
  currency : String
  paymentMethod : ExpensePaymentMethod
  cardTransactionId : Option Nat
  paymentMethodBeforeMatch : Option ExpensePaymentMethod
  firstMethod : ExpensePaymentMethod
  deriving DecidableEq

/-- `_payment_method_for`. -/
def paymentMethodFor (txn : CorporateCardTransaction) : ExpensePaymentMethod :=
  if txn.virtualCardId.isSome then .virtualCard else .corporateCard

/-- The side of the expense in `_link_both_sides`. -/
def Expense.linked (expense : Expense) (txn : CorporateCardTransaction) : Expense :=
  { expense with
    cardTransactionId := some txn.id
    paymentMethodBeforeMatch := some expense.paymentMethod
    paymentMethod := paymentMethodFor txn }

/-- The side of the expense in `unmatch_card_transaction`. -/
def Expense.unlinked (expense : Expense) : Expense :=
  match expense.paymentMethodBeforeMatch with
  | some restored => { expense with cardTransactionId := none, paymentMethod := restored, paymentMethodBeforeMatch := none }
  | none => { expense with cardTransactionId := none }

/-- The UPDATE of an expense over what it is by now. -/
def Expense.flush (loaded edited current : Expense) : Expense :=
  { current with
    paymentMethod := writeBack loaded.paymentMethod edited.paymentMethod current.paymentMethod
    cardTransactionId := writeBack loaded.cardTransactionId edited.cardTransactionId current.cardTransactionId
    paymentMethodBeforeMatch :=
      writeBack loaded.paymentMethodBeforeMatch edited.paymentMethodBeforeMatch current.paymentMethodBeforeMatch }

/-- The expense of `create_expense_from_card`. -/
def expenseOf (txn : CorporateCardTransaction) (id : Nat) : Expense where
  id := id
  expenseDate := txn.txnDate
  merchant := txn.merchant
  amount := txn.amount
  currency := txn.currency
  paymentMethod := paymentMethodFor txn
  cardTransactionId := none
  paymentMethodBeforeMatch := none
  firstMethod := paymentMethodFor txn

inductive LinkRequest
  | matchExpense (expenseId : Nat)
  | unmatch
  | ignore
  | createExpense

/-- What a request goes on to write, with the expense as it has read it. -/
inductive LinkWork
  | link (expense : Expense)
  | unlink (expense : Option Expense)
  | ignore
  | create

/-- A request that has its transaction locked. -/
structure LinkCall where
  txn : CorporateCardTransaction
  work : LinkWork

structure LinkArrival where
  txnId : Nat
  request : LinkRequest

/-- The two tables. `locks` are the transactions that a request in flight holds locked, `nextExpense` the ids of
expenses that are given out. -/
structure LinkTables where
  txns : List CorporateCardTransaction
  expenses : List Expense
  locks : List Nat
  nextExpense : Nat

namespace LinkTables

variable (tables : LinkTables)

def txn? (id : Nat) : Option CorporateCardTransaction := getRow (·.id) id tables.txns

def expense? (id : Nat) : Option Expense := getRow (·.id) id tables.expenses

/-- The checks of a request on the rows it has read. -/
def prepare (txn : CorporateCardTransaction) : LinkRequest → Except Raised LinkWork
  | .matchExpense expenseId =>
    match tables.expense? expenseId with
    | none => .error (.http 404 "Expense not found")
    | some expense =>
      if txn.matchedExpenseId ≠ none ∨ txn.reconciliationStatus = .matched then
        .error (.http 409 "Transaction is already matched")
      else if expense.cardTransactionId ≠ none then .error (.http 409 "Expense is already matched")
      else if pyUpper expense.currency ≠ pyUpper txn.currency then
        .error (.http 409 s!"Currency mismatch: transaction is {txn.currency}, expense is {expense.currency}.")
      else .ok (.link expense)
  | .unmatch =>
    if txn.reconciliationStatus ≠ .matched then .error (.http 409 "Transaction is not matched")
    else
      match txn.matchedExpenseId with
      | none => .ok (.unlink none)
      | some expenseId =>
        match tables.expense? expenseId with
        | none => .error (.http 404 "Expense not found")
        | some expense => .ok (.unlink (some expense))
  | .ignore =>
    if txn.reconciliationStatus = .matched ∨ txn.matchedExpenseId ≠ none then
      .error (.http 409 "Transaction is matched — unmatch it before ignoring.")
    else .ok .ignore
  | .createExpense =>
    if txn.matchedExpenseId ≠ none ∨ txn.reconciliationStatus = .matched then
      .error (.http 409 "Transaction is already matched")
    else .ok .create

/-- A request waits for the lock of its transaction. One that is refused lets go of it at once. -/
def arrive (arrival : LinkArrival) : LinkTables × Option LinkCall :=
  if arrival.txnId ∈ tables.locks then (tables, none)
  else
    match tables.txn? arrival.txnId with
    | none => (tables, none)
    | some txn =>
      match tables.prepare txn arrival.request with
      | .ok work => ({ tables with locks := arrival.txnId :: tables.locks }, some ⟨txn, work⟩)
      | .error _ => (tables, none)

/-- The end of a transaction. -/
def unlock (txnId : Nat) : LinkTables := { tables with locks := tables.locks.filter (· ≠ txnId) }

/-- The write of a locked transaction. -/
def setTxn (txnId : Nat) (expenseId : Option Nat) (status : ReconciliationStatus) : LinkTables :=
  { tables with
    txns := changeRow (·.id) txnId
      (fun txn => { txn with matchedExpenseId := expenseId, reconciliationStatus := status }) tables.txns }

/-- The write of an expense that was read without a lock. -/
def flushExpense (loaded edited : Expense) : LinkTables :=
  { tables with expenses := changeRow (·.id) loaded.id (Expense.flush loaded edited) tables.expenses }

def addExpense (expense : Expense) : LinkTables :=
  { tables with expenses := tables.expenses ++ [expense], nextExpense := tables.nextExpense + 1 }

/-- The writes of a request. -/
def write (txn : CorporateCardTransaction) : LinkWork → LinkTables
  | .link expense => (tables.flushExpense expense (expense.linked txn)).setTxn txn.id (some expense.id) .matched
  | .unlink (some expense) => (tables.flushExpense expense expense.unlinked).setTxn txn.id none .unmatched
  | .unlink none => tables.setTxn txn.id none .unmatched
  | .ignore => tables.setTxn txn.id txn.matchedExpenseId .ignored
  | .create =>
    (tables.addExpense ((expenseOf txn tables.nextExpense).linked txn)).setTxn txn.id (some tables.nextExpense) .matched

def commit (call : LinkCall) : LinkTables := (tables.write call.txn call.work).unlock call.txn.id

end LinkTables

/-- Card transactions and expenses that are not linked yet. -/
structure Unlinked (tables : LinkTables) : Prop where
  txns : ∀ txn ∈ tables.txns, txn.matchedExpenseId = none ∧ txn.reconciliationStatus ≠ .matched
  expenses : ∀ expense ∈ tables.expenses, expense.cardTransactionId = none ∧ expense.paymentMethodBeforeMatch = none ∧
    expense.firstMethod = expense.paymentMethod ∧ expense.id < tables.nextExpense
  locks : tables.locks = []

/-- The requests on card transactions. -/
def linkService : Service LinkTables LinkCall LinkArrival Unit where
  init := Unlinked
  arrive tables arrival := tables.arrive arrival
  advance tables call _ := (tables.commit call, none)
  abort tables call := tables.unlock call.txn.id

end Payables.CardExpenses
