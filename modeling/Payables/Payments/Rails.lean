import Mathlib.Logic.Function.Basic
import Payables.Adapters.Http
import Payables.Payments.InDoubt
import Payables.Payments.International
import Payables.Payments.Settlement

namespace Payables
open Lib

/-- The columns of a payment beside its order: the outflow leg, the corridor and what the rail settled. -/
structure RailColumns where
  sourceAmount : Option ℚ
  sourceCurrency : Option String
  corridor : Option String
  settlement : SettlementColumns
  deriving DecidableEq

def RailColumns.blank : RailColumns := ⟨none, none, none, .blank⟩

/-- The writes of the international leg. -/
def RailColumns.prepare (columns : RailColumns) (prepared : PreparedPayment) : RailColumns :=
  { columns with
    sourceAmount := some prepared.sourceAmount
    sourceCurrency := some prepared.sourceCurrency
    corridor := some prepared.corridor.method }

/-- What a payment authorizes, against an invoice in the given currency. -/
def authorizationOf (payment : Payment) (columns : RailColumns) (currency : Option String) : Authorization :=
  ⟨payment.amount, currency, columns.sourceAmount, columns.sourceCurrency⟩

/-- A row as the sweep of the reconciler read it, unlocked. -/
structure Candidate where
  payment : PaymentId
  knownStatus : PaymentStatus
  submittedAt : Option Time
  providerPaymentId : Option String
  deriving DecidableEq

/-- A sweep of the reconciler: its clock, and the candidates it has not come to yet. -/
structure Sweep where
  now : Time
  candidates : List Candidate
  deriving DecidableEq

/-- A payment-sync leg between its plain read of the payment and its lock on the invoice. `overtaken` is
no column: a void of the payment has come in since the read. -/
structure SyncLeg where
  payment : Payment
  columns : RailColumns
  overtaken : Bool
  deriving DecidableEq

/-- The payment tables with the columns of the rails, and the sweeps and sync legs at work on them.
`concluded` is no column: the payments that the webhook and the reconciler moved to a terminal status,
latest first. -/
structure RailStore where
  base : PaymentStore
  columns : PaymentId → RailColumns
  sweeps : List Sweep
  legs : List SyncLeg
  concluded : List PaymentId

structure ReconcilerConfig where
  payments : PaymentConfig
  settleAfter : Time
  deriving DecidableEq

/-- `PaymentEvent`, verified: what a webhook says about a payment. -/
structure RailEvent where
  providerPaymentId : String
  status : AdapterStatus
  reference : Option String
  failureReason : Option String
  amount : Option Decimal
  currency : Option String
  deriving DecidableEq

/-- What `fetch_settlement` has to say, when it is available and names an amount. -/
abbrev SettlementReport := Option (Decimal × Option String)

/-- What one turn of a sweep hears: the age in hours as printed, whether the flag of an aged-out payment
lands, the answer of `get_payment_status` and the settlement fetched with it. -/
structure ReconcileTurn where
  hours : String
  flagged : Bool
  upstream : Except AdapterError AdapterStatus
  report : SettlementReport
  deriving DecidableEq

/-- The sections of the payment tables, those that dispatch or settle with what they hear beside it. -/
inductive RailLabel
  | payments (label : PaymentLabel)
  | dispatchNext (pass : Nat) (env : DispatchEnv) (inputs : FxInputs)
  | release (user : UserId) (payment : PaymentId) (unsupportedProvider : Option String) (env : DispatchEnv)
      (inputs : FxInputs)
  | webhook (event : RailEvent) (fetched : SettlementReport) (now : Time)
  | beginSweep (now : Time)
  | reconcile (sweep : Nat) (turn : ReconcileTurn)
  | failTurn (sweep : Nat)
  | dropSweep (sweep : Nat)
  | beginSync (payment : PaymentId)
  | finishSync (leg : Nat)
  | dropSync (leg : Nat)
  | erpWebhook (invoice : InvoiceId) (status : String)

/-- The sections that have a label of their own in `RailLabel`. -/
def PaymentLabel.isRefined : PaymentLabel → Bool
  | .dispatchNext .. | .release .. | .webhook .. | .ageOut .. | .poll .. => true
  | _ => false

def SettlementVerification.isDiscrepancy (verification : SettlementVerification) : Bool :=
  verification.outcome == .amountMismatch || verification.outcome == .currencyMismatch

/-- `record_settlement`: the verdict, and the columns with it. -/
def recordSettlement (payment : Payment) (columns : RailColumns) (invoice : Option PayableInvoice)
    (reportedAmount : Option Decimal) (reportedCurrency : Option String) (fetched : SettlementReport) :
    Except Raised (SettlementVerification × RailColumns) := do
  let figure := match reportedAmount, fetched with
    | none, some (amount, currency) =>
      if payment.providerPaymentId.getD "" = "" then (none, reportedCurrency) else (some amount, currency)
    | _, _ => (reportedAmount, reportedCurrency)
  let verification ← verifySettlement figure.1 figure.2 (authorizationOf payment columns (invoice.map (·.currency)))
  return (verification, { columns with settlement := columns.settlement.record verification })

/-- `open_settlement_mismatch_exception`, one open fraud flag an invoice. -/
def openSettlementMismatch (exceptions : List InvoiceException) (invoice : Option PayableInvoice) : List InvoiceException :=
  match invoice with
  | none => exceptions
  | some invoice =>
    if exceptions.any fun exception => exception.invoiceId == invoice.id && exception.exceptionType == .fraudFlag &&
        (exception.status == .opened || exception.status == .escalated) then exceptions
    else exceptions ++ [⟨invoice.id, .fraudFlag, .opened, []⟩]

def PaymentStatus.isTerminal (status : PaymentStatus) : Bool :=
  [PaymentStatus.completed, .failed, .cancelled, .voided].contains status

namespace RailStore

/-- A row that the webhook or the reconciler moves on. -/
def advance (store : RailStore) (written : Payment) : RailStore :=
  { store with
    base := store.base.putPayment written
    concluded := if written.status.isTerminal then written.id :: store.concluded else store.concluded }

/-- A row on its way into `advance`: a completed one is verified first, and what that raises rolls the
section back. -/
def settle (store : RailStore) (written : Payment) (reportedAmount : Option Decimal) (reportedCurrency : Option String)
    (fetched : SettlementReport) : RailStore :=
  if written.status = .completed then
    let invoice := store.base.invoice? written.invoiceId
    match recordSettlement written (store.columns written.id) invoice reportedAmount reportedCurrency fetched with
    | .error _ => store
    | .ok (verification, columns) =>
      { store with
        base := { store.base with
          exceptions := if verification.isDiscrepancy then openSettlementMismatch store.base.exceptions invoice
            else store.base.exceptions }
        columns := Function.update store.columns written.id columns }.advance written
  else store.advance written

/-- `payment_webhook`, once the event is verified. -/
def receiveEvent (store : RailStore) (event : RailEvent) (fetched : SettlementReport) (now : Time) : RailStore :=
  match store.base.payments.filter (·.providerPaymentId == some event.providerPaymentId) with
  | [payment] =>
    if payment.status ∈ [.pending, .submitted, .processing] then
      store.settle (payment.applyEvent event.status event.reference event.failureReason now) event.amount event.currency fetched
    else store
  | _ => store

/-- The plain read at the start of `_reconcile_tenant`. -/
def beginSweep (store : RailStore) (now : Time) : RailStore :=
  let stuck := store.base.payments.filter (·.isInFlight)
  { store with sweeps := store.sweeps ++
      [⟨now, stuck.map fun payment => ⟨payment.id, payment.status, payment.submittedAt, payment.providerPaymentId⟩⟩] }

/-- The row lock of the reconciler, which looks at the status again. -/
def lockInFlight (store : RailStore) (id : PaymentId) : Option Payment :=
  (store.base.payment? id).filter fun payment => payment.status == .submitted || payment.status == .processing

/-- One candidate of `_reconcile_tenant`. -/
def reconcilePayment (config : ReconcilerConfig) (store : RailStore) (now : Time) (candidate : Candidate)
    (turn : ReconcileTurn) : RailStore :=
  let age := now - candidate.submittedAt.getD now
  if age < config.settleAfter then store
  else if config.payments.reconcileMaxAge < age then
    match store.lockInFlight candidate.payment with
    | none => store
    | some payment =>
      { store with
        base := { store.base with
          exceptions := if turn.flagged then flagAgedOutPayment store.base.exceptions payment else store.base.exceptions }
        }.advance (payment.ageOut turn.hours)
  else if candidate.providerPaymentId.getD "" = "" then store
  else
    match turn.upstream with
    | .error _ => store
    | .ok upstream =>
      if upstream.toPaymentStatus = candidate.knownStatus then store
      else if upstream ∈ [AdapterStatus.completed, .failed, .cancelled] then
        match store.lockInFlight candidate.payment with
        | none => store
        | some payment =>
          store.settle (payment.conclude upstream now) (turn.report.map (·.1)) (turn.report.bind (·.2)) none
      else store

/-- A sweep comes to its next candidate. -/
def nextTurn (store : RailStore) (index : Nat) (turn : RailStore → Time → Candidate → RailStore) : RailStore :=
  match store.sweeps[index]? with
  | none => store
  | some sweep =>
    match sweep.candidates with
    | [] => store
    | candidate :: rest => turn { store with sweeps := store.sweeps.set index ⟨sweep.now, rest⟩ } sweep.now candidate

/-- The payment a dispatching section is about, with what its international leg comes to. -/
def legOf (store : RailStore) (payment : Payment) (inputs : FxInputs) : Option (Except PrepareError PreparedPayment) :=
  (reachesRail (store.base.invoice? payment.invoiceId) store.base.exceptions payment).bind fun invoice =>
    internationalLeg invoice payment (store.columns payment.id).corridor inputs

/-- The columns with a prepared leg on them. -/
def prepareLeg (store : RailStore) (payment : Payment) : Option (Except PrepareError PreparedPayment) → PaymentId → RailColumns
  | some (.ok prepared) => Function.update store.columns payment.id ((store.columns payment.id).prepare prepared)
  | _ => store.columns

/-- A section that may dispatch a payment. -/
def dispatch (config : ReconcilerConfig) (store : RailStore) (payment : Option Payment) (env : DispatchEnv)
    (inputs : FxInputs) (label : DispatchEnv → PaymentLabel) : RailStore :=
  match payment with
  | none => { store with base := (runPaymentLabel config.payments store.base (label env)).1 }
  | some payment =>
    let leg := store.legOf payment inputs
    { store with
      base := (runPaymentLabel config.payments store.base (label { env with fx := fxLegOf leg })).1
      columns := store.prepareLeg payment leg }

/-- The payment that a pass or a release sends. -/
def waitingPayment (store : RailStore) (pass : Nat) : Option Payment :=
  (store.base.nextPayment? pass).filter (·.status == .pending)

def heldPayment (store : RailStore) (id : PaymentId) (unsupportedProvider : Option String) : Option Payment :=
  (store.base.payment? id).filter fun payment => payment.status == .pendingCompliance && unsupportedProvider.isNone

/-- `settlement_coverage` discharges the invoice; a leg that it raises in fails. -/
def covers (payment : Payment) (columns : RailColumns) (invoice : PayableInvoice) : Bool :=
  match settlementCoverage columns.settlement (authorizationOf payment columns (some invoice.currency)) with
  | .ok coverage => coverage.completesInvoice
  | .error _ => false

/-- The plain read of `_sync_one_leg`, for a payment of a run. -/
def beginSync (store : RailStore) (id : PaymentId) : RailStore :=
  match store.base.payment? id with
  | none => store
  | some payment =>
    if payment.status = .completed ∧ payment.paymentRunId.isSome then
      { store with legs := store.legs ++ [⟨payment, store.columns payment.id, false⟩] }
    else store

/-- The invoice that a leg marks paid, under its lock. -/
def discharged (store : RailStore) (leg : SyncLeg) : Option PayableInvoice :=
  (store.base.invoice? leg.payment.invoiceId).filter fun invoice =>
    invoice.status == .paymentScheduled && covers leg.payment leg.columns invoice

def setInvoiceStatus (store : RailStore) (invoice : PayableInvoice) (status : InvoiceStatus) : RailStore :=
  { store with base := { store.base with
      invoices := putRow PayableInvoice.id { invoice with status := status } store.base.invoices } }

/-- The rest of `_sync_one_leg`. -/
def finishSync (store : RailStore) (index : Nat) : RailStore :=
  match store.legs[index]? with
  | none => store
  | some leg =>
    let done := { store with legs := store.legs.eraseIdx index }
    match store.discharged leg with
    | none => done
    | some invoice => done.setInvoiceStatus invoice .paid

/-- `ERP_STATUS_MAP`. -/
def erpStatusMap : List (String × InvoiceStatus) :=
  [("OPEN", .postedInErp), ("SUBMITTED", .postedInErp), ("Open", .postedInErp), ("Paid", .paid), ("open", .postedInErp),
    ("paidInFull", .paid), ("posted", .postedInErp), ("paid", .paid), ("cancelled", .failed), ("voided", .failed)]

/-- The payment the ERP webhook looks at: the newest completed one. -/
def settling (store : RailStore) (invoice : InvoiceId) : Option Payment :=
  (store.base.payments.filter fun payment => payment.invoiceId == invoice && payment.status == .completed).getLast?

/-- The transition that an ERP status asks for and is granted. -/
def erpTransition (store : RailStore) (invoice : PayableInvoice) (status : String) : Option InvoiceStatus :=
  (erpStatusMap.lookup status).filter fun target =>
    decide (target ∈ invoice.status.validTransitions) &&
      (!(target == .paid && invoice.status == .paymentScheduled) ||
        (store.settling invoice.id).all fun payment => covers payment (store.columns payment.id) invoice)

/-- `erp_webhook`, once it is verified. -/
def receiveErpStatus (store : RailStore) (id : InvoiceId) (status : String) : RailStore :=
  match store.base.invoice? id with
  | none => store
  | some invoice =>
    match store.erpTransition invoice status with
    | none => store
    | some target => store.setInvoiceStatus invoice target

/-- A void catches the legs that have read its payment. -/
def overtake (store : RailStore) : PaymentLabel → List SyncLeg
  | .void _ id _ _ => store.legs.map fun leg => { leg with overtaken := leg.overtaken || leg.payment.id == id }
  | _ => store.legs

end RailStore

/-- One section of the rails. -/
def runRailLabel (config : ReconcilerConfig) (store : RailStore) : RailLabel → RailStore
  | .payments label =>
    if label.isRefined then store
    else { store with base := (runPaymentLabel config.payments store.base label).1, legs := store.overtake label }
  | .dispatchNext pass env inputs => store.dispatch config (store.waitingPayment pass) env inputs (.dispatchNext pass)
  | .release user payment provider env inputs =>
    store.dispatch config (store.heldPayment payment provider) env inputs (.release user payment provider)
  | .webhook event fetched now => store.receiveEvent event fetched now
  | .beginSweep now => store.beginSweep now
  | .reconcile sweep turn =>
    store.nextTurn sweep fun store now candidate => store.reconcilePayment config now candidate turn
  | .failTurn sweep => store.nextTurn sweep fun store _ _ => store
  | .dropSweep sweep => { store with sweeps := store.sweeps.eraseIdx sweep }
  | .beginSync payment => store.beginSync payment
  | .finishSync leg => store.finishSync leg
  | .dropSync leg => { store with legs := store.legs.eraseIdx leg }
  | .erpWebhook invoice status => store.receiveErpStatus invoice status

/-- The payment tables and the rails under any interleaving, from any invoices and exceptions. -/
def railMachine (config : ReconcilerConfig) : Machine RailStore RailLabel where
  init store := store.base.payments = [] ∧ store.base.runs = [] ∧ store.base.passes = [] ∧
    store.columns = (fun _ => .blank) ∧ store.sweeps = [] ∧ store.legs = [] ∧ store.concluded = []
  step := runRailLabel config

/-- Where the examples start. -/
def RailStore.approved (invoices : List InvoiceId) : RailStore := ⟨.approved invoices, fun _ => .blank, [], [], []⟩

/-- A payee at home. -/
def FxInputs.domestic : FxInputs := ⟨some "USD", ⟨false, none, false, false⟩, none⟩

/-- One invoice goes out in a run of its own, and the processor takes the order. -/
def orderedRun : List RailLabel :=
  [.payments (.createRun "maker" [(1, "ach")] false), .payments (.executeRun "checker" 0 none), .payments (.readPending 0),
    .dispatchNext 0 (.hearing (.ok ⟨.submitted, some "order-1", none, none⟩)) .domestic, .payments (.finishPass 0 1)]

/-- The event that settles it in full. -/
def RailEvent.settled : RailEvent := ⟨"order-1", .completed, none, none, some (.finite 100), some "USD"⟩

end Payables
