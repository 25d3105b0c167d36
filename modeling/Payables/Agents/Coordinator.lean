import Payables.Agents.Resolvers

namespace Payables

inductive AutonomyLevel
  | conservative
  | balanced
  | aggressive
  deriving DecidableEq

/-- `resolve_autonomy_level`. -/
def resolveAutonomyLevel (settings : AgentTenant) : AutonomyLevel :=
  if settings.autonomyLevel = some "balanced" then .balanced
  else if settings.autonomyLevel = some "aggressive" then .aggressive
  else .conservative

/-- `autonomy_threshold`. -/
def autonomyThreshold : AutonomyLevel → ℚ
  | .conservative => 101 / 100
  | .balanced => 90 / 100
  | .aggressive => 75 / 100

/-- The registered resolvers: two dispatchers and the stubs that always escalate. -/
inductive Resolver
  | poMismatch
  | missingData
  | stub (agentType : String)
  deriving DecidableEq

/-- `_RESOLVER_REGISTRY`. -/
def resolverRegistry : List (String × Resolver) :=
  [("po_mismatch", .poMismatch), ("missing_data", .missingData), ("duplicate", .stub "duplicate_stub_v0"),
    ("fraud_flag", .stub "fraud_stub_v0")]

def getResolver (exceptionType : ExceptionType) : Option Resolver := List.lookup exceptionType.value resolverRegistry

/-- The `agent_type` of the delegate that a plan comes from. -/
def ResolutionPlan.agentType : ResolutionPlan → String
  | adjustAmount _ => "amount_mismatch_v1"
  | linkOrder _ => "missing_po_v1"
  | linkOrders _ _ => "multi_po_split_v1"
  | codeGl _ _ _ _ => "gl_coding_v1"

/-- The loop of a dispatcher over its delegates. -/
def firstResolving : List (Except Raised AgentEvaluation) → Except Raised AgentEvaluation
  | [] => .ok .escalate
  | evaluation :: rest =>
    match evaluation with
    | .error raised => .error raised
    | .ok .escalate => firstResolving rest
    | .ok (.autoResolve plan confidence) => .ok (.autoResolve plan confidence)

namespace Resolver

/-- The delegates of a dispatcher, in the order in which it tries them. -/
def delegates (view : AgentView) (settings : AgentTenant) (invoice : AgentInvoice) : Resolver → List (Except Raised AgentEvaluation)
  | poMismatch =>
    [view.amountMismatchEvaluate settings invoice, .ok (view.missingPoEvaluate settings invoice),
      .ok (view.multiPoSplitEvaluate settings invoice)]
  | missingData => [view.glCodingEvaluate settings invoice]
  | stub _ => []

def evaluate (resolver : Resolver) (view : AgentView) (settings : AgentTenant) (invoice : AgentInvoice) :
    Except Raised AgentEvaluation :=
  firstResolving (resolver.delegates view settings invoice)

/-- The `agent_type` after an evaluation: of the delegate it selected, else the resolver's own. -/
def agentType (resolver : Resolver) : AgentEvaluation → String
  | .autoResolve plan _ => plan.agentType
  | .escalate =>
    match resolver with
    | poMismatch => "po_mismatch_dispatch_v1"
    | missingData => "missing_data_dispatch_v1"
    | stub agentType => agentType

end Resolver

/-- A row of the exception queue, as its decisions write it. -/
structure QueueException where
  exceptionType : ExceptionType
  status : ExceptionStatus
  raisedByUserId : Option UserId
  createdAt : Time
  resolvedBy : Option String
  resolvedAt : Option Time
  timeToResolutionSeconds : Option Int
  deriving DecidableEq

inductive QueueAction
  | resolve
  | escalate
  | dismiss
  deriving DecidableEq

/-- `CLEARING_ACTIONS`. -/
def clearingActions : List QueueAction := [.resolve, .dismiss]

/-- `ACTIONABLE_STATUSES`. -/
def actionableStatuses : List ExceptionStatus := [.opened, .escalated]

/-- `RESOLUTION_STATUSES`. -/
def QueueAction.newStatus : QueueAction → ExceptionStatus
  | resolve => .resolved
  | escalate => .escalated
  | dismiss => .dismissed

inductive SegregationRefusal
  | raiser
  | implicated
  deriving DecidableEq

/-- `refusal_message`. -/
def SegregationRefusal.message : SegregationRefusal → String
  | raiser => "Segregation of duties: the user whose action raised this exception cannot also clear it. " ++
      "Escalate it, or ask a different user to decide."
  | implicated => "Segregation of duties: a user involved in creating this invoice cannot also clear an exception " ++
      "that blocks its payment. Escalate it, or ask a different user to decide."

/-- `segregation_refusal`. -/
def segregationRefusal (exception : QueueException) (invoice : Invoice) (actorId : UserId) (action : QueueAction)
    (requireSegregation : Option Bool) : Option SegregationRefusal :=
  if action ∉ clearingActions then none
  else if requireSegregation = some false then none
  else if exception.exceptionType ∉ paymentBlockingExceptionTypes then none
  else if exception.raisedByUserId = some actorId then some .raiser
  else if violatesSegregation invoice.uploadedById invoice.segregationActorIds actorId .empty then some .implicated
  else none

/-- `apply_resolution`. -/
def applyResolution (exception : QueueException) (action : QueueAction) (actorName : String) (now : Time) : QueueException :=
  if action = .escalate then { exception with status := action.newStatus }
  else { exception with
    status := action.newStatus
    resolvedBy := some actorName
    resolvedAt := some now
    timeToResolutionSeconds := some ((now - exception.createdAt).tdiv 1000000) }

/-- `record_decision`. -/
def recordDecision (exception : QueueException) (action : QueueAction) (actorId : UserId) (actorName : String) (invoice : Invoice)
    (requireSegregation : Option Bool) (now : Time) : Except Raised QueueException :=
  match segregationRefusal exception invoice actorId action requireSegregation with
  | some refusal => .error (.http 403 refusal.message)
  | none => .ok (applyResolution exception action actorName now)

inductive AgentAction
  | autoResolved
  | escalated
  | noAction
  deriving DecidableEq

/-- A row of the decision log. -/
structure AgentDecision where
  invoiceId : InvoiceId
  exceptionType : ExceptionType
  actionTaken : AgentAction
  confidence : ℚ
  autonomyLevel : AutonomyLevel
  agentType : String
  entityId : Option EntityId
  deriving DecidableEq

/-- The rows that a run works on: the locked exception, its invoice and the decision log. -/
structure RunStore where
  exception : QueueException
  invoice : AgentInvoice
  decisions : List AgentDecision
  deriving DecidableEq

/-- A run with what it hears. The invoice is read once without a lock, and the tables once for the evaluation and
once under the lock of the invoice. -/
structure AgentRun where
  settings : AgentTenant
  caller : AgentCaller
  now : Time
  seen : AgentInvoice
  seenView : AgentView
  lockedView : AgentView

inductive RunFailure
  | notActionable (status : ExceptionStatus)
  | raised (raised : Raised)
  deriving DecidableEq

/-- An exception that ends the savepoint alone, as against one that ends the run. -/
def ApplyError.isRefusal : ApplyError → Bool
  | notApprovable _ => true
  | raised (.http statusCode _) => decide (statusCode < 500)
  | raised (.uncaught _) => false

def ApplyError.failure : ApplyError → RunFailure
  | notApprovable _ => .raised (.uncaught "NotApprovable")
  | raised other => .raised other

/-- `async with db.begin_nested()`: what raises is rolled back. -/
def savepoint (before : AgentInvoice) : Except ApplyError Unit × AgentInvoice → Except ApplyError Unit × AgentInvoice
  | (.ok (), after) => (.ok (), after)
  | (.error error, _) => (.error error, before)

namespace AgentRun

variable (run : AgentRun)

/-- `_record`. -/
def record (store : RunStore) (action : AgentAction) (confidence : ℚ) (agentType : String) : RunStore :=
  { store with decisions := store.decisions ++ [{
      invoiceId := store.invoice.id
      exceptionType := store.exception.exceptionType
      actionTaken := action
      confidence := confidence
      autonomyLevel := resolveAutonomyLevel run.settings
      agentType := agentType
      entityId := store.invoice.entityId }] }

/-- A decision on the exception, with its row of the log. -/
def conclude (store : RunStore) (action : QueueAction) (taken : AgentAction) (requireSegregation : Option Bool) (confidence : ℚ)
    (agentType : String) : Except RunFailure RunStore :=
  match recordDecision store.exception action run.caller.actorId agentActorName store.invoice.row requireSegregation run.now with
  | .error raised => .error (.raised raised)
  | .ok exception => .ok (run.record { store with exception := exception } taken confidence agentType)

/-- `_escalate`, which passes no settings. -/
def escalate (store : RunStore) (confidence : ℚ) (agentType : String) : Except RunFailure RunStore :=
  run.conclude store .escalate .escalated none confidence agentType

/-- The plan that an evaluation recommends with enough confidence. -/
def resolvable : AgentEvaluation → Option ResolutionPlan
  | .escalate => none
  | .autoResolve plan confidence =>
    if autonomyThreshold (resolveAutonomyLevel run.settings) ≤ confidence then some plan else none

/-- The run is withheld before it changes anything. -/
def withheld (store : RunStore) : Bool :=
  run.caller.actorRoles.isEmpty ||
    (segregationRefusal store.exception run.seen.row run.caller.actorId .resolve run.settings.requireExceptionSegregation).isSome

/-- A plan is applied inside a savepoint, and the exception resolved; a refusal escalates instead. -/
def carryOut (store : RunStore) (plan : ResolutionPlan) (confidence : ℚ) (agentType : String) : Except RunFailure RunStore :=
  match savepoint store.invoice (run.lockedView.apply run.settings run.caller run.now plan store.invoice) with
  | (.error error, restored) =>
    if error.isRefusal then run.escalate { store with invoice := restored } confidence agentType else .error error.failure
  | (.ok (), approved) =>
    run.conclude { store with invoice := approved } .resolve .autoResolved run.settings.requireExceptionSegregation confidence
      agentType

end AgentRun

/-- `run_agent`, which commits what it returns. -/
def runAgent (run : AgentRun) (store : RunStore) : Except RunFailure RunStore :=
  if store.exception.status ∉ actionableStatuses then .error (.notActionable store.exception.status)
  else
    match getResolver store.exception.exceptionType with
    | none => .ok (run.record store .noAction 0 "none")
    | some resolver =>
      match resolver.evaluate run.seenView run.settings run.seen with
      | .error raised => .error (.raised raised)
      | .ok evaluation =>
        let agentType := resolver.agentType evaluation
        match run.resolvable evaluation with
        | none => run.escalate store evaluation.confidence agentType
        | some plan =>
          if run.withheld store then run.escalate store evaluation.confidence agentType
          else run.carryOut store plan evaluation.confidence agentType

end Payables
