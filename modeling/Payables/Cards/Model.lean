import Payables.Payments.InDoubt

namespace Payables
open Lib

abbrev CardId := Nat

/-- `VirtualCard.status`, a free-form column. -/
inductive VirtualCardStatus
  | created
  | sent
  | active
  | charged
  | completed
  | cancelled
  | other (text : String)
  deriving DecidableEq

namespace VirtualCardStatus

/-- The stored spelling. -/
def value : VirtualCardStatus → String
  | created => "created"
  | sent => "sent"
  | active => "active"
  | charged => "charged"
  | completed => "completed"
  | cancelled => "cancelled"
  | other text => text

/-- `CARD_SPENT_STATUSES`. -/
def spent : List VirtualCardStatus := [charged, completed]

/-- The statuses `cancel_card` refuses. -/
def uncancellable : List VirtualCardStatus := [charged, completed, cancelled]

end VirtualCardStatus

structure VirtualCardRow where
  id : CardId
  invoiceId : InvoiceId
  paymentId : Option PaymentId
  cardProvider : String
  lastFour : Option String
  amountLimit : ℚ
  amountCharged : Option ℚ
  status : VirtualCardStatus
  expiresAt : Option Time
  deriving DecidableEq

def VirtualCardRow.isLive (card : VirtualCardRow) : Bool := card.status != .cancelled

/-- `find_live_card_for_invoice`: the predicate of `uq_virtual_cards_one_live_per_invoice`. -/
def findLiveCard (cards : List VirtualCardRow) (invoiceId : InvoiceId) : Option VirtualCardRow :=
  cards.find? fun card => card.invoiceId == invoiceId && card.isLive

/-- `card_settlement_block`. -/
def cardSettlementBlock (card : VirtualCardRow) (amount : ℚ) (now : Time) : Option String :=
  if card.status ∈ VirtualCardStatus.spent then some "card_already_charged"
  else if card.expiresAt.any (· ≤ now) then some "card_expired"
  else if card.amountLimit < amount then some "card_already_issued_insufficient_limit"
  else none

/-- What the card provider answers to `create_card`. -/
structure CardIssue where
  cardProvider : String
  lastFour : Option String
  expiresAt : Option Time
  deriving DecidableEq

/-- A card that the provider made, and the net amount of its invoice then. No table keeps it. -/
structure Mint where
  invoiceId : InvoiceId
  amountLimit : ℚ
  net : ℚ
  deriving DecidableEq

/-- One `POST /api/cards/generate` between its reads and its commit. `invoices` are the rows it still has
to look at, `carded` is `none` until the second read, `issued` is the card it holds between the
provider's answer and the flush. -/
structure GenerateRequest where
  ids : List InvoiceId
  invoices : List PayableInvoice
  carded : Option (List InvoiceId)
  issued : Option VirtualCardRow
  flushed : List VirtualCardRow
  deriving DecidableEq

/-- The payment tables with the card table beside them. -/
structure CardStore where
  base : PaymentStore
  cards : List VirtualCardRow
  nextCard : CardId
  requests : List GenerateRequest
  mints : List Mint
  deriving DecidableEq

/-- One atomic section of the two rails. -/
inductive CardLabel
  | payments (label : PaymentLabel)
  | dispatchNext (pass : Nat) (env : DispatchEnv) (issue : Except String CardIssue)
  | readInvoices (ids : List InvoiceId)
  | readCarded (request : Nat)
  | issueNext (request : Nat) (issue : Except String CardIssue)
  | flushCard (request : Nat)
  | commitGenerate (request : Nat)
  | crashGenerate (request : Nat)
  | applyCredit (invoice : InvoiceId) (amount : ℚ)
  | cancelCard (card : CardId)

/-- `VirtualCard(...)` of `issue_card_for_invoice`. `amount or invoice.amount` takes a zero for no amount. -/
def newCard (id : CardId) (invoice : PayableInvoice) (paymentId : Option PaymentId) (amount : Option ℚ) (issue : CardIssue) :
    VirtualCardRow where
  id := id
  invoiceId := invoice.id
  paymentId := paymentId
  cardProvider := issue.cardProvider
  lastFour := issue.lastFour
  amountLimit := if amount.getD 0 = 0 then invoice.amount else amount.getD 0
  amountCharged := none
  status := .created
  expiresAt := issue.expiresAt

/-- What the card leg of a dispatch settles on. -/
inductive CardChoice
  | live (card : VirtualCardRow) (block : Option String)
  | issued (card : VirtualCardRow)
  | refused (reason : String)

def CardChoice.leg : CardChoice → CardLeg
  | live card none => .converged card.cardProvider (card.lastFour.getD "")
  | live _ (some reason) => .unusable reason
  | issued card => .minted card.cardProvider (card.lastFour.getD "")
  | refused reason => .notIssued (some reason)

namespace CardStore

variable (store : CardStore)

/-- What the payment endpoints see: `live_card_invoice_ids` answers from the card table. -/
def payable : PaymentStore :=
  { store.base with
    invoices := store.base.invoices.map fun invoice =>
      { invoice with hasLiveCard := (findLiveCard store.cards invoice.id).isSome } }

/-- A request has flushed a card of the invoice and not committed it: whoever flushes another waits. -/
def slotReserved (invoiceId : InvoiceId) : Bool :=
  store.requests.any fun request => (findLiveCard request.flushed invoiceId).isSome

/-- The card of the card leg: the live one of the invoice, judged, else the one the provider makes. -/
def chooseCard (payment : Payment) (invoice : PayableInvoice) (now : Time) (issue : Except String CardIssue) : CardChoice :=
  match findLiveCard store.cards invoice.id with
  | some card => .live card (cardSettlementBlock card payment.amount now)
  | none =>
    match issue with
    | .error reason => .refused reason
    | .ok made => .issued (newCard store.nextCard invoice (some payment.id) (some payment.amount) made)

/-- The dispatch gets as far as asking for a card: it is the one that would fail if the provider did. -/
def asksForCard (payment : Payment) (env : DispatchEnv) : Bool :=
  (attempt store.payable payment { env with card := .error "" }).called == some .issueCard

/-- `card.payment_id = payment.id`, when nothing else owns the card. -/
def linkCard (card : VirtualCardRow) (payment : PaymentId) : List VirtualCardRow :=
  putRow VirtualCardRow.id { card with paymentId := card.paymentId.orElse fun _ => some payment } store.cards

/-- What the card leg leaves in the card table. -/
def settleOn (payment : Payment) (invoice : PayableInvoice) : CardChoice → CardStore
  | .live card none => { store with cards := store.linkCard card payment.id }
  | .live _ (some _) => store
  | .refused _ => store
  | .issued card =>
    { store with
      cards := store.cards ++ [card]
      nextCard := store.nextCard + 1
      mints := ⟨invoice.id, card.amountLimit, invoice.netPayableAmount⟩ :: store.mints }

/-- A section of the payment endpoints. -/
def withPayments (after : PaymentStore) : CardStore := { store with base := after }

/-- The next payment of a pass, with the card leg reading the card table. A dispatch that would flush a
second card of the invoice waits for the request that has flushed the first. -/
def dispatchNext (pass : Nat) (env : DispatchEnv) (issue : Except String CardIssue) : CardStore :=
  match (store.payable.nextPayment? pass).filter (·.status == .pending) with
  | none => store.withPayments (dispatchNextPayment store.payable pass env).1
  | some payment =>
    match store.payable.invoice? payment.invoiceId, store.asksForCard payment env with
    | some invoice, true =>
      let choice := store.chooseCard payment invoice env.now issue
      let sent := (dispatchNextPayment store.payable pass { env with card := .ok choice.leg }).1
      match choice with
      | .issued _ => if store.slotReserved invoice.id then store else (store.settleOn payment invoice choice).withPayments sent
      | _ => (store.settleOn payment invoice choice).withPayments sent
    | _, _ => store.withPayments (dispatchNextPayment store.payable pass env).1

def setRequest (index : Nat) (request : GenerateRequest) : CardStore :=
  { store with requests := store.requests.set index request }

def dropRequest (index : Nat) : CardStore := { store with requests := store.requests.eraseIdx index }

/-- The first read of `generate_cards`: the payable invoices among the requested ones. -/
def readInvoices (ids : List InvoiceId) : CardStore :=
  { store with
    requests := store.requests ++ [{
      ids := ids
      invoices := store.base.invoices.filter fun invoice => ids.contains invoice.id && InvoiceStatus.payableStatuses.contains invoice.status
      carded := none
      issued := none
      flushed := [] }] }

/-- The second read: which of them hold a live card. -/
def readCarded (index : Nat) : CardStore :=
  match store.requests[index]? with
  | none => store
  | some request =>
    match request.carded with
    | some _ => store
    | none =>
      store.setRequest index { request with carded := some (request.ids.filter fun id => (findLiveCard store.cards id).isSome) }

/-- The next invoice of the loop, up to the provider's answer. An error stands for every reason to skip
it: no vendor to screen, a compliance verdict, a refused issuance. -/
def issueNext (index : Nat) (issue : Except String CardIssue) : CardStore :=
  match store.requests[index]? with
  | none => store
  | some request =>
    match request.carded, request.issued, request.invoices with
    | some carded, none, invoice :: rest =>
      match carded.contains invoice.id, issue with
      | false, .ok made =>
        let card := newCard store.nextCard invoice none none made
        { store.setRequest index { request with invoices := rest, issued := some card } with
          nextCard := store.nextCard + 1
          mints := ⟨invoice.id, card.amountLimit, ((store.base.invoice? invoice.id).getD invoice).netPayableAmount⟩ :: store.mints }
      | _, _ => store.setRequest index { request with invoices := rest }
    | _, _, _ => store

/-- `persist_card`: the flush in its savepoint. It waits for another request that has flushed a card of
the invoice, and loses against a committed one. -/
def flushCard (index : Nat) : CardStore :=
  match store.requests[index]? with
  | none => store
  | some request =>
    match request.issued, request.carded with
    | some card, some carded =>
      if store.slotReserved card.invoiceId then store
      else if (findLiveCard store.cards card.invoiceId).isSome then
        store.setRequest index { request with issued := none, carded := some (card.invoiceId :: carded) }
      else store.setRequest index { request with issued := none, flushed := request.flushed ++ [card] }
    | _, _ => store

/-- The commit of `generate_cards`, once its loop is through. -/
def commitGenerate (index : Nat) : CardStore :=
  match store.requests[index]? with
  | none => store
  | some request =>
    match request.carded, request.issued, request.invoices with
    | some _, none, [] => { store.dropRequest index with cards := store.cards ++ request.flushed }
    | _, _, _ => store

/-- A credit memo applied: positive, and within what is left of the invoice. -/
def applyCredit (invoiceId : InvoiceId) (amount : ℚ) : CardStore :=
  match store.base.invoice? invoiceId with
  | none => store
  | some invoice =>
    if amount ≤ 0 ∨ invoice.amount - invoice.appliedCredit < amount then store
    else
      store.withPayments { store.base with
        invoices := putRow PayableInvoice.id { invoice with appliedCredit := invoice.appliedCredit + amount } store.base.invoices }

/-- `cancel_card`, with a provider that confirms the close. -/
def cancelCard (id : CardId) : CardStore :=
  match getRow VirtualCardRow.id id store.cards with
  | none => store
  | some card =>
    if card.status ∈ VirtualCardStatus.uncancellable then store
    else { store with cards := putRow VirtualCardRow.id { card with status := .cancelled } store.cards }

end CardStore

/-- One section of the two rails. -/
def runCardLabel (config : PaymentConfig) (store : CardStore) : CardLabel → CardStore
  | .payments label => store.withPayments (runPaymentLabel config store.payable label).1
  | .dispatchNext pass env issue => store.dispatchNext pass env issue
  | .readInvoices ids => store.readInvoices ids
  | .readCarded request => store.readCarded request
  | .issueNext request issue => store.issueNext request issue
  | .flushCard request => store.flushCard request
  | .commitGenerate request => store.commitGenerate request
  | .crashGenerate request => store.dropRequest request
  | .applyCredit invoice amount => store.applyCredit invoice amount
  | .cancelCard card => store.cancelCard card

/-- Both rails under any interleaving, from invoices that nothing was booked, minted or credited for. -/
def cardMachine (config : PaymentConfig) : Machine CardStore CardLabel where
  init store := store.base.payments = [] ∧ store.base.runs = [] ∧ store.base.passes = [] ∧ store.cards = [] ∧
    store.requests = [] ∧ store.mints = [] ∧ (store.base.invoices.map PayableInvoice.id).Nodup ∧
    ∀ invoice ∈ store.base.invoices, 0 ≤ invoice.appliedCredit
  step := runCardLabel config

end Payables
