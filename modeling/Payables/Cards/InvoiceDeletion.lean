import Payables.Cards.Lifecycle
import Payables.Cards.OneRail

namespace Payables
open Lib

/-- The payment and card tables with the delete requests between their read and their commit, each with the
invoices it is to delete. `handed` is no table: the payments that a provider was called for. -/
structure DeletionStore where
  tables : CardStore
  deletes : List (List InvoiceId)
  handed : List PaymentId
  deriving DecidableEq

/-- `delete_invoice` up to its cascade. The read takes no lock. -/
def deleteInvoice (store : PaymentStore) (id : InvoiceId) : Except Raised (List InvoiceId) :=
  match store.invoice? id with
  | none => .error (.http 404 "Invoice not found")
  | some invoice =>
    if invoice.status ∈ InvoiceStatus.immutableStatuses then .error (.http 409 "Cannot delete invoice in this status")
    else .ok [id]

/-- The loop of `bulk_delete`: the invoices it deletes, and those it skips. -/
def bulkDelete (store : PaymentStore) (ids : List InvoiceId) : List InvoiceId × List InvoiceId :=
  let selected := store.invoices.filter fun invoice => ids.contains invoice.id
  ((selected.filter fun invoice => invoice.status ∉ InvoiceStatus.immutableStatuses).map (·.id),
    (selected.filter fun invoice => invoice.status ∈ InvoiceStatus.immutableStatuses).map (·.id))

namespace CardStore

variable (store : CardStore)

/-- `_delete_invoice_cascade`, as far as the tables of money go. -/
def deleteInvoiceCascade (id : InvoiceId) : CardStore :=
  { store with
    base := { store.base with
      invoices := store.base.invoices.filter fun invoice => invoice.id != id
      payments := store.base.payments.filter fun payment => payment.invoiceId != id
      exceptions := store.base.exceptions.filter fun exception => exception.invoiceId != id }
    cards := store.cards.filter fun card => card.invoiceId != id }

/-- What a card webhook writes, its event classified and its amount read. -/
def cardWebhook (id : CardId) (isAuth isSettled : Bool) (amount : ℚ) : CardStore :=
  match getRow VirtualCardRow.id id store.cards with
  | none => store
  | some card =>
    if isAuth ∧ card.status ∈ VirtualCardStatus.chargeable then
      { store with cards := putRow VirtualCardRow.id { card with status := .charged, amountCharged := some amount } store.cards }
    else if isSettled ∧ card.status = .charged then
      { store with cards := putRow VirtualCardRow.id { card with status := .completed, amountCharged := some amount } store.cards }
    else store

/-- A flush for an invoice that is gone loses against the foreign key as it would against another card. -/
def flushStanding (index : Nat) : CardStore :=
  match store.requests[index]? with
  | none => store
  | some request =>
    match request.issued, request.carded with
    | some card, some carded =>
      if (store.base.invoice? card.invoiceId).isSome then store.flushCard index
      else store.setRequest index { request with issued := none, carded := some (card.invoiceId :: carded) }
    | _, _ => store

/-- What the dispatch of a pass hears, its card leg from the card table. -/
def dispatchEnv (pass : Nat) (env : DispatchEnv) (issue : Except String CardIssue) : DispatchEnv :=
  match (store.payable.nextPayment? pass).filter (·.status == .pending) with
  | none => env
  | some payment =>
    match store.payable.invoice? payment.invoiceId with
    | none => env
    | some invoice => { env with card := .ok (store.chooseCard payment invoice env.now issue).leg }

/-- The call that a section of the two rails makes outside. -/
def handoff (config : PaymentConfig) : CardLabel → Option Handoff
  | .payments label => (runPaymentLabel config store.payable label).2
  | .dispatchNext pass env issue => (dispatchNextPayment store.payable pass (store.dispatchEnv pass env issue)).2
  | _ => none

end CardStore

inductive DeletionLabel
  | rails (label : CardLabel)
  | cardWebhook (card : CardId) (isAuth isSettled : Bool) (amount : ℚ)
  | deleteInvoice (invoice : InvoiceId)
  | bulkDelete (invoices : List InvoiceId)
  | commitDelete (request : Nat)
  | crashDelete (request : Nat)

namespace DeletionStore

variable (store : DeletionStore)

def runRails (config : PaymentConfig) (label : CardLabel) : DeletionStore :=
  { store with
    tables :=
      match label with
      | .flushCard request => store.tables.flushStanding request
      | label => runCardLabel config store.tables label
    handed := ((store.tables.handoff config label).toList.map Handoff.payment) ++ store.handed }

/-- The cascades of a request and its commit. They wait for a card that another request has flushed for
one of the invoices. -/
def commitDelete (index : Nat) : DeletionStore :=
  match store.deletes[index]? with
  | none => store
  | some ids =>
    if ids.any store.tables.slotReserved then store
    else
      { store with
        tables := ids.foldl CardStore.deleteInvoiceCascade store.tables
        deletes := store.deletes.eraseIdx index }

end DeletionStore

def runDeletionLabel (config : PaymentConfig) (store : DeletionStore) : DeletionLabel → DeletionStore
  | .rails label => store.runRails config label
  | .cardWebhook card isAuth isSettled amount => { store with tables := store.tables.cardWebhook card isAuth isSettled amount }
  | .deleteInvoice id =>
    match deleteInvoice store.tables.base id with
    | .error _ => store
    | .ok ids => { store with deletes := store.deletes ++ [ids] }
  | .bulkDelete ids => { store with deletes := store.deletes ++ [(bulkDelete store.tables.base ids).1] }
  | .commitDelete request => store.commitDelete request
  | .crashDelete request => { store with deletes := store.deletes.eraseIdx request }

/-- The two rails, with invoices deleted under them. -/
def deletionMachine (config : PaymentConfig) : Machine DeletionStore DeletionLabel where
  init store := (cardMachine config).init store.tables ∧ store.deletes = [] ∧ store.handed = []
  step := runDeletionLabel config

/-- In flight, or settled. -/
def PaymentStatus.outstanding : List PaymentStatus := [submitted, processing, completed]

/-- Where a payment that goes out leaves its invoice, and what follows without a void. -/
def InvoiceStatus.setAsideStatuses : List InvoiceStatus := [paymentScheduled, paid, done]

/-- No row is gone that stands for money: of a payment that a provider was called for or that is in flight or
settled, of a card that is live or was charged. -/
def KeepsMoneyRecords (before after : DeletionStore) : Prop :=
  (∀ payment ∈ before.tables.base.payments, payment.id ∈ before.handed ∨ payment.status ∈ PaymentStatus.outstanding →
      payment ∈ after.tables.base.payments) ∧
    ∀ card ∈ before.tables.cards, card.isLive = true ∨ card.status ∈ VirtualCardStatus.spent → card ∈ after.tables.cards
  deriving Decidable

/-- The rows that are gone belonged to invoices that may be deleted, none with a payment in flight or settled. -/
structure DeletesOnlyIdle (before after : DeletionStore) : Prop where
  payments : ∀ payment ∈ before.tables.base.payments, payment ∈ after.tables.base.payments ∨
    payment.status ∉ PaymentStatus.outstanding ∧
      ∀ invoice ∈ before.tables.base.invoices, invoice.id = payment.invoiceId → invoice.status ∉ InvoiceStatus.immutableStatuses
  cards : ∀ card ∈ before.tables.cards, card ∈ after.tables.cards ∨
    (∀ payment ∈ before.tables.base.payments, payment.invoiceId = card.invoiceId → payment.status ∉ PaymentStatus.outstanding) ∧
      ∀ invoice ∈ before.tables.base.invoices, invoice.id = card.invoiceId → invoice.status ∉ InvoiceStatus.immutableStatuses

/-- No adapter answers a new payment with `pending`. -/
def DispatchEnv.decides (env : DispatchEnv) : Bool :=
  match env.adapter with
  | .ok answer => answer.status != .pending
  | .error _ => true

/-- Only a void takes an invoice back that was set aside for a payment. -/
def KeepsSetAside (store : PaymentStore) : PaymentLabel → Prop
  | .putInvoice invoice => ∀ row ∈ store.invoices, row.id = invoice.id → row.status ∈ InvoiceStatus.setAsideStatuses →
      invoice.status ∈ InvoiceStatus.setAsideStatuses
  | .dispatchNext _ env => env.decides = true
  | .release _ _ _ env => env.decides = true
  | _ => True

instance (store : PaymentStore) : (label : PaymentLabel) → Decidable (KeepsSetAside store label)
  | .putInvoice _ => inferInstanceAs (Decidable (∀ row ∈ store.invoices, _))
  | .dispatchNext _ env | .release _ _ _ env => inferInstanceAs (Decidable (env.decides = true))
  | .createRun .. | .createPayment .. | .approveRun .. | .cancelRun .. | .executeRun .. | .resumeRun .. | .retryFailed .. |
    .readPending .. | .crashInDispatch .. | .finishPass .. | .crash .. | .crashInRelease .. | .dismiss .. | .void .. |
    .webhook .. | .ageOut .. | .poll .. | .openException .. | .setExceptionStatus .. => inferInstanceAs (Decidable True)

/-- A delete commits while its invoices may still be deleted. -/
def StillDeletable (store : DeletionStore) (index : Nat) : Prop :=
  ∀ ids ∈ store.deletes[index]?, ∀ invoice ∈ store.tables.base.invoices, invoice.id ∈ ids →
    invoice.status ∉ InvoiceStatus.immutableStatuses
  deriving Decidable

/-- The steps of a run in which statuses mean what the delete takes them to mean. -/
def StatusTells (store : DeletionStore) : DeletionLabel → Prop
  | .rails (.payments label) => KeepsSetAside store.tables.base label
  | .rails (.dispatchNext _ env _) => env.decides = true
  | .commitDelete index => StillDeletable store index
  | _ => True

instance (store : DeletionStore) : (label : DeletionLabel) → Decidable (StatusTells store label)
  | .rails (.payments label) => inferInstanceAs (Decidable (KeepsSetAside store.tables.base label))
  | .rails (.dispatchNext _ env _) => inferInstanceAs (Decidable (env.decides = true))
  | .commitDelete index => inferInstanceAs (Decidable (StillDeletable store index))
  | .rails (.readInvoices ..) | .rails (.readCarded ..) | .rails (.issueNext ..) | .rails (.flushCard ..) |
    .rails (.commitGenerate ..) | .rails (.crashGenerate ..) | .rails (.applyCredit ..) | .rails (.cancelCard ..) |
    .cardWebhook .. | .deleteInvoice .. | .bulkDelete .. | .crashDelete .. => inferInstanceAs (Decidable True)

end Payables
