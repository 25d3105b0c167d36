import Payables.Agents.Coordinator
import Payables.Lib.Column
import Payables.Lib.Sessions

namespace Payables.Exceptions
open Lib

/-- A row of the exception queue with what its decisions read and write. -/
structure ExceptionRow extends QueueException where
  id : Nat
  invoiceId : Option InvoiceId
  severity : String
  resolution : Option String
  deriving DecidableEq

def statusText : ExceptionStatus → String
  | .opened => "open"
  | .escalated => "escalated"
  | .resolved => "resolved"
  | .dismissed => "dismissed"
  | .other text => text

/-- `RESOLUTION_ACTIONS`, by the verb of a request. -/
def queueAction? (verb : String) : Option QueueAction :=
  if verb = "resolve" then some .resolve
  else if verb = "escalate" then some .escalate
  else if verb = "dismiss" then some .dismiss
  else none

section Segregation

/-- The actors an invoice implicates. -/
structure InvoiceActors where
  uploadedById : Option UserId
  segregationActorIds : List UserId

/-- `segregation_refusal`, of an exception with or without an invoice. -/
def segregationRefusal (exception : ExceptionRow) (invoice : Option InvoiceActors) (actorId : UserId) (action : QueueAction)
    (requireSegregation : Option Bool) : Option SegregationRefusal :=
  if action ∉ clearingActions then none
  else if requireSegregation = some false then none
  else if exception.exceptionType ∉ paymentBlockingExceptionTypes then none
  else if exception.raisedByUserId = some actorId then some .raiser
  else
    match invoice with
    | some actors =>
      if violatesSegregation actors.uploadedById actors.segregationActorIds actorId .empty then some .implicated else none
    | none => none

/-- The rule the agents are held to is the one of the queue. -/
theorem segregationRefusal_of_invoice (exception : ExceptionRow) (invoice : Invoice) (actorId : UserId) (action : QueueAction)
    (requireSegregation : Option Bool) :
    segregationRefusal exception (some ⟨invoice.uploadedById, invoice.segregationActorIds⟩) actorId action requireSegregation =
      Payables.segregationRefusal exception.toQueueException invoice actorId action requireSegregation := rfl

def refusalCode : SegregationRefusal → String
  | .raiser => "segregation_raiser"
  | .implicated => "segregation_implicated"

end Segregation

section Decisions

inductive LifecycleAction
  | raised
  | resolved
  | escalated
  | dismissed
  deriving DecidableEq

def LifecycleAction.text : LifecycleAction → String
  | raised => "exception.raised"
  | resolved => "exception.resolved"
  | escalated => "exception.escalated"
  | dismissed => "exception.dismissed"

/-- The audit action of a verb. -/
def lifecycleAction : QueueAction → LifecycleAction
  | .resolve => .resolved
  | .escalate => .escalated
  | .dismiss => .dismissed

/-- A row of the audit trail with its details. -/
structure ExceptionAudit where
  action : LifecycleAction
  entityId : Nat
  actorId : Option UserId
  exceptionType : ExceptionType
  severity : String
  invoiceId : Option InvoiceId
  paymentBlocking : Bool
  oldStatus : Option ExceptionStatus
  newStatus : ExceptionStatus
  resolution : Option String
  timeToResolutionSeconds : Option Int
  deriving DecidableEq

/-- `resolution[:_MAX_RESOLUTION_CHARS]`, left out where it is empty. -/
def auditedResolution (resolution : String) : Option String :=
  if resolution = "" then none else some (String.ofList (resolution.toList.take 500))

/-- `apply_resolution`. -/
def ExceptionRow.apply (exception : ExceptionRow) (action : QueueAction) (resolution actorName : String) (now : Time) :
    ExceptionRow :=
  { exception with
    toQueueException := applyResolution exception.toQueueException action actorName now
    resolution := some resolution }

/-- The audit row of `record_raised`. -/
def raisedAudit (exception : ExceptionRow) : ExceptionAudit where
  action := .raised
  entityId := exception.id
  actorId := exception.raisedByUserId
  exceptionType := exception.exceptionType
  severity := exception.severity
  invoiceId := exception.invoiceId
  paymentBlocking := paymentBlockingExceptionTypes.contains exception.exceptionType
  oldStatus := none
  newStatus := exception.status
  resolution := none
  timeToResolutionSeconds := none

/-- The audit row of `record_decision`, of the row before and after it. -/
def decisionAudit (loaded decided : ExceptionRow) (action : QueueAction) (resolution : String) (actorId : UserId) :
    ExceptionAudit where
  action := lifecycleAction action
  entityId := loaded.id
  actorId := some actorId
  exceptionType := loaded.exceptionType
  severity := loaded.severity
  invoiceId := loaded.invoiceId
  paymentBlocking := paymentBlockingExceptionTypes.contains loaded.exceptionType
  oldStatus := some loaded.status
  newStatus := decided.status
  resolution := auditedResolution resolution
  timeToResolutionSeconds := decided.timeToResolutionSeconds

/-- The UPDATE of a decided row over what it is by now. -/
def ExceptionRow.flush (loaded decided current : ExceptionRow) : ExceptionRow :=
  { current with
    status := writeBack loaded.status decided.status current.status
    resolution := writeBack loaded.resolution decided.resolution current.resolution
    resolvedBy := writeBack loaded.resolvedBy decided.resolvedBy current.resolvedBy
    resolvedAt := writeBack loaded.resolvedAt decided.resolvedAt current.resolvedAt
    timeToResolutionSeconds :=
      writeBack loaded.timeToResolutionSeconds decided.timeToResolutionSeconds current.timeToResolutionSeconds }

end Decisions

/-- The queue and its audit trail. -/
structure QueueTables where
  exceptions : List ExceptionRow
  audit : List ExceptionAudit

/-- Who decides, with what is read besides the queue: the actors of the invoices and the opt-out of the organisation. -/
structure Decider where
  actorId : UserId
  fullName : String
  invoices : InvoiceId → Option InvoiceActors
  requireSegregation : Option Bool

/-- A request between its checks and its commit, with the rows it decides as it read them. -/
structure DecisionCall where
  actorId : UserId
  actorName : String
  action : QueueAction
  resolution : String
  loaded : List ExceptionRow

structure BulkResolveResponse where
  updated : Nat
  skipped : List (Nat × String)
  deriving DecidableEq

inductive QueueArrival
  | raise (exceptionType : ExceptionType) (severity : String) (invoiceId : Option InvoiceId) (raisedByUserId : Option UserId)
      (now : Time)
  | resolve (id : Nat) (decider : Decider) (verb resolution : String)
  | bulkResolve (ids : List Nat) (decider : Decider) (verb resolution : String)

namespace QueueTables

def empty : QueueTables := ⟨[], []⟩

variable (tables : QueueTables)

def exception? (id : Nat) : Option ExceptionRow := getRow (·.id) id tables.exceptions

/-- `create_exception` and `record_raised`. -/
def raise (exceptionType : ExceptionType) (severity : String) (invoiceId : Option InvoiceId) (raisedByUserId : Option UserId)
    (now : Time) : QueueTables :=
  let row : ExceptionRow :=
    { exceptionType := exceptionType
      status := .opened
      raisedByUserId := raisedByUserId
      createdAt := now
      resolvedBy := none
      resolvedAt := none
      timeToResolutionSeconds := none
      id := tables.exceptions.length
      invoiceId := invoiceId
      severity := severity
      resolution := none }
  ⟨tables.exceptions ++ [row], tables.audit ++ [raisedAudit row]⟩

/-- What the decider is refused on a row. -/
def refusal? (decider : Decider) (action : QueueAction) (row : ExceptionRow) : Option SegregationRefusal :=
  segregationRefusal row (row.invoiceId.bind decider.invoices) decider.actorId action decider.requireSegregation

/-- `resolve_exception` up to its writes. -/
def resolveException (id : Nat) (decider : Decider) (verb resolution : String) : Except Raised DecisionCall :=
  match tables.exception? id with
  | none => .error (.http 404 "Exception not found")
  | some row =>
    if row.status ∉ actionableStatuses then
      .error (.http 409 s!"Cannot resolve from \x27{statusText row.status}\x27 status")
    else
      match queueAction? verb with
      | none => .error (.http 400 s!"Unknown action: {verb}")
      | some action =>
        match refusal? decider action row with
        | some refusal => .error (.http 403 refusal.message)
        | none => .ok ⟨decider.actorId, decider.fullName, action, resolution, [row]⟩

/-- Why the bulk endpoint passes a row over. -/
def skipReason? (decider : Decider) (action : QueueAction) (row : ExceptionRow) : Option String :=
  if row.status ∉ actionableStatuses then some ("already_" ++ statusText row.status)
  else (refusal? decider action row).map refusalCode

/-- `bulk_resolve` up to its writes, with its response. -/
def bulkResolve (ids : List Nat) (decider : Decider) (verb resolution : String) :
    Except Raised (DecisionCall × BulkResolveResponse) :=
  match queueAction? verb with
  | none => .error (.http 400 s!"Unknown action: {verb}")
  | some action =>
    let rows := tables.exceptions.filter fun row => row.id ∈ ids
    let decided := rows.filter fun row => skipReason? decider action row = none
    let notFound := (ids.filter fun id => id ∉ rows.map (·.id)).map fun id => (id, "not_found")
    let skipped := rows.filterMap fun row => (skipReason? decider action row).map fun reason => (row.id, reason)
    .ok (⟨decider.actorId, decider.fullName, action, resolution, decided⟩, ⟨decided.length, notFound ++ skipped⟩)

def arrive : QueueArrival → QueueTables × Option DecisionCall
  | .raise exceptionType severity invoiceId raisedByUserId now =>
    (tables.raise exceptionType severity invoiceId raisedByUserId now, none)
  | .resolve id decider verb resolution =>
    match tables.resolveException id decider verb resolution with
    | .ok call => (tables, some call)
    | .error _ => (tables, none)
  | .bulkResolve ids decider verb resolution =>
    match tables.bulkResolve ids decider verb resolution with
    | .ok (call, _) => (tables, some call)
    | .error _ => (tables, none)

end QueueTables

namespace DecisionCall

variable (call : DecisionCall)

/-- A row the call has decided, in its session. -/
def decide (now : Nat → Time) (loaded : ExceptionRow) : ExceptionRow :=
  loaded.apply call.action call.resolution call.actorName (now loaded.id)

/-- What the commit makes of a row of the table. -/
def write (now : Nat → Time) (row : ExceptionRow) : ExceptionRow :=
  match getRow (·.id) row.id call.loaded with
  | some loaded => ExceptionRow.flush loaded (call.decide now loaded) row
  | none => row

/-- The audit rows of the call. -/
def audit (now : Nat → Time) : List ExceptionAudit :=
  call.loaded.map fun loaded => decisionAudit loaded (call.decide now loaded) call.action call.resolution call.actorId

/-- `record_decision` on each row of the call, and its commit. `now` is the clock at each of them. -/
def commit (tables : QueueTables) (now : Nat → Time) : QueueTables :=
  ⟨tables.exceptions.map (call.write now), tables.audit ++ call.audit now⟩

end DecisionCall

/-- The decisions on the queue, one by one and in bulk. -/
def queueService : Service QueueTables DecisionCall QueueArrival (Nat → Time) where
  init tables := tables = .empty
  arrive tables arrival := tables.arrive arrival
  advance tables call now := (call.commit tables now, none)

end Payables.Exceptions
