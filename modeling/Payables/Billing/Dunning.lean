import Payables.Billing.PlanChanges

namespace Payables.Billing
open Lib

/-- A change of the status of a subscription. -/
structure StatusChange where
  subscriptionId : Nat
  fromStatus : SubscriptionStatus
  toStatus : SubscriptionStatus
  deriving DecidableEq

/-- A cancellation by the dunning sweep: the clock of its tick, and the end of the period that the subscription was in
when it last became past due. -/
structure DunningCancellation where
  subscriptionId : Nat
  now : Datetime
  dueEnd : Option Datetime
  deriving DecidableEq

/-- The control plane as one tenant sees it, with its clock and the `billing.subscription_*` rows of the tenant's audit log.
The committed changes, the audited ones that are not committed yet, the period ends and the cancellations are no columns. -/
structure LifecycleTables extends BillingTables where
  nextId : Nat
  clock : Datetime
  trail : List StatusChange
  committed : List StatusChange
  uncommitted : List Nat
  fellDue : Nat → Option Datetime
  dunned : List DunningCancellation

/-- A normalized event of the provider. -/
structure BillingWebhookEvent where
  externalSubscriptionId : Option String
  status : Option String

/-- A call of `apply_billing_event` that has something to apply. -/
structure EventCall where
  subscriptionId : Nat
  previous : SubscriptionStatus
  status : SubscriptionStatus
  audited : Bool

inductive TickStage
  | selected
  | canceling (subscription : Subscription)
  | audited (subscription : Subscription)

/-- A call of `run_dunning_once`, with the ids that it has still to handle. -/
structure DunningTick where
  now : Datetime
  dueIds : List Nat
  stage : TickStage

inductive LifecycleCall
  | plan (call : PlanCall)
  | event (call : EventCall)
  | tick (tick : DunningTick)

inductive LifecycleArrival
  | passTime (later : Datetime)
  | ensureSubscription (planCode : String)
  | bindExternal (id : Nat) (externalSubscriptionId : String)
  | changePlan (newPlanCode : String)
  | applyBillingEvent (event : BillingWebhookEvent)
  | runDunningOnce

/-- `SUBSCRIPTION_STATUSES`. -/
def SubscriptionStatus.ofText : String → Option SubscriptionStatus
  | "trialing" => some .trialing
  | "active" => some .active
  | "past_due" => some .pastDue
  | "canceled" => some .canceled
  | _ => none

/-- A period end that lies the grace days back. There is nothing to wait for where no end is recorded. -/
def Overdue (graceDays : Nat) (now : Datetime) (periodEnd : Option Datetime) : Prop :=
  ∀ stop ∈ periodEnd, stop.stamp + graceDays * microsPerDay ≤ now.stamp
  deriving Decidable

namespace LifecycleTables

variable (tables : LifecycleTables)

def subscription? (id : Nat) : Option Subscription := getRow (·.id) id tables.subscriptions

def withBilling (billing : BillingTables) : LifecycleTables := { tables with toBillingTables := billing }

/-- `ensure_subscription`. -/
def ensureSubscription (planCode : String) : LifecycleTables :=
  match tables.live? with
  | some _ => tables
  | none =>
    match tables.plans.find? fun plan => plan.code = planCode with
    | none => tables
    | some plan =>
      match addMonths tables.clock 1 with
      | none => tables
      | some stop =>
        let cleared := tables.clearStaleCanceledSubscription plan.id
        { tables with
          subscriptions :=
            cleared.subscriptions ++ [⟨tables.nextId, plan.id, .active, some tables.clock, some stop, tables.clock, none⟩]
          nextId := tables.nextId + 1 }

/-- The id of the provider is stored on a subscription, while nobody holds it locked. -/
def bindExternal (id : Nat) (external : String) : LifecycleTables :=
  if tables.locked then tables
  else
    { tables with
      subscriptions := changeRow (·.id) id (fun row => { row with externalSubscriptionId := some external }) tables.subscriptions }

/-- `apply_billing_event` up to its plain read of the subscription. It is in flight where it has something to apply. -/
def readEvent (event : BillingWebhookEvent) : Option EventCall :=
  match event.externalSubscriptionId, event.status.bind SubscriptionStatus.ofText with
  | some external, some status =>
    if external = "" then none
    else
      match tables.subscriptions.filter fun row => row.externalSubscriptionId = some external with
      | [subscription] =>
        if subscription.status = status then none else some ⟨subscription.id, subscription.status, status, false⟩
      | _ => none
  | _, _ => none

/-- `run_dunning_once` up to the ids that it selects. It raises where the cutoff is before year 1. -/
def selectDue (graceDays : Nat) : Option DunningTick :=
  if tables.clock.stamp < (graceDays + 1) * microsPerDay then none
  else some ⟨tables.clock, (tables.subscriptions.filter fun row => row.status = .pastDue).map (·.id), .selected⟩

/-- An audit row, which is durable before the change that it is about. -/
def audit (entry : StatusChange) : LifecycleTables :=
  { tables with trail := tables.trail ++ [entry], uncommitted := tables.uncommitted ++ [entry.subscriptionId] }

/-- The end of a call whose commit has failed, or that dies, after its audit row. -/
def giveUp (id : Nat) : LifecycleTables := { tables with uncommitted := tables.uncommitted.filter (· ≠ id) }

/-- The status of a subscription is committed. -/
def commitStatus (subscription : Subscription) (status : SubscriptionStatus) : LifecycleTables :=
  let done := tables.giveUp subscription.id
  if subscription.status = status then done
  else
    { done with
      subscriptions := changeRow (·.id) subscription.id ({ · with status := status }) tables.subscriptions
      committed := tables.committed ++ [⟨subscription.id, subscription.status, status⟩]
      fellDue :=
        if status = .pastDue then
          Function.update tables.fellDue subscription.id ((currentPeriod subscription tables.clock).map (·.stop))
        else tables.fellDue }

/-- The commit of a status breaks the index of one live subscription. -/
def Collides (id : Nat) (status : SubscriptionStatus) : Prop :=
  status ≠ .canceled ∧ ∃ other ∈ tables.subscriptions, other.id ≠ id ∧ other.status ≠ .canceled
  deriving Decidable

/-- The commit of an event waits for whoever holds the live subscription locked. -/
def Waits (subscription : Subscription) : Prop := tables.locked ∧ subscription.status ≠ .canceled
  deriving Decidable

/-- The next part of an event: its audit row, then its commit. -/
def advanceEvent (call : EventCall) : LifecycleTables × Option EventCall :=
  if ¬call.audited then
    (tables.audit ⟨call.subscriptionId, call.previous, call.status⟩, some { call with audited := true })
  else
    match tables.subscription? call.subscriptionId with
    | none => (tables.giveUp call.subscriptionId, none)
    | some subscription =>
      if tables.Waits subscription then (tables, some call)
      else if tables.Collides subscription.id call.status then (tables.giveUp subscription.id, none)
      else (tables.commitStatus subscription call.status, none)

/-- The next part of a tick. The leg of an id locks the subscription and checks it again, audits the cancellation, and
commits it. -/
def advanceTick (graceDays : Nat) (tick : DunningTick) : LifecycleTables × Option DunningTick :=
  match tick.stage with
  | .selected =>
    match tick.dueIds with
    | [] => (tables, none)
    | id :: rest =>
      match tables.subscription? id with
      | none => (tables, some { tick with dueIds := rest })
      | some subscription =>
        if subscription.status ≠ .pastDue then (tables, some { tick with dueIds := rest })
        else if tables.locked then (tables, some tick)
        else if ¬Overdue graceDays tick.now subscription.currentPeriodEnd then (tables, some { tick with dueIds := rest })
        else (tables.withBilling { tables.toBillingTables with locked := true }, some ⟨tick.now, rest, .canceling subscription⟩)
  | .canceling subscription =>
    (tables.audit ⟨subscription.id, subscription.status, .canceled⟩, some { tick with stage := .audited subscription })
  | .audited subscription =>
    ({ tables.commitStatus subscription .canceled with
        locked := false
        dunned := tables.dunned ++ [⟨subscription.id, tick.now, tables.fellDue subscription.id⟩] },
      some { tick with stage := .selected })

/-- What comes in. Everything but a plan change, an event and a tick is done at once. -/
def receive (graceDays : Nat) : LifecycleArrival → LifecycleTables × Option LifecycleCall
  | .passTime later => ({ tables with clock := if tables.clock ≤ later then later else tables.clock }, none)
  | .ensureSubscription planCode => (tables.ensureSubscription planCode, none)
  | .bindExternal id external => (tables.bindExternal id external, none)
  | .changePlan newPlanCode =>
    let result := tables.toBillingTables.arrive ⟨newPlanCode, tables.clock⟩
    (tables.withBilling result.1, result.2.map .plan)
  | .applyBillingEvent event => (tables, (tables.readEvent event).map .event)
  | .runDunningOnce => (tables, (tables.selectDue graceDays).map .tick)

/-- The next part of a call, with what the provider creates for a plan change. -/
def proceed (graceDays : Nat) (call : LifecycleCall) (created : Option ProvisionedIds) : LifecycleTables × Option LifecycleCall :=
  match call with
  | .plan call =>
    let result := tables.toBillingTables.advance call created
    (tables.withBilling result.1, result.2.map .plan)
  | .event call =>
    let result := tables.advanceEvent call
    (result.1, result.2.map .event)
  | .tick tick =>
    let result := tables.advanceTick graceDays tick
    (result.1, result.2.map .tick)

end LifecycleTables

/-- A tenant before its first event. A subscription has a window of a month, or none where it is older than windows are. -/
structure Opened (tables : LifecycleTables) : Prop where
  ids : (tables.subscriptions.map (·.id)).Nodup
  fresh : ∀ row ∈ tables.subscriptions, row.id < tables.nextId
  oneLive : (tables.subscriptions.filter fun row => row.status ≠ .canceled).length ≤ 1
  windows : ∀ row ∈ tables.subscriptions, ∀ stop ∈ row.currentPeriodEnd, ∃ start ∈ row.currentPeriodStart,
    stop.date.months = start.date.months + 1
  unlocked : tables.locked = false
  untrailed : tables.trail = [] ∧ tables.committed = [] ∧ tables.uncommitted = []
  undunned : tables.dunned = [] ∧ tables.fellDue = fun _ => none

/-- The calls on one tenant. -/
def lifecycleService (graceDays : Nat) : Service LifecycleTables LifecycleCall LifecycleArrival (Option ProvisionedIds) where
  init := Opened
  arrive tables arrival := tables.receive graceDays arrival
  advance tables call created := tables.proceed graceDays call created

/-- A part of a call. -/
inductive LifecyclePart
  | arrive (number : Nat) (arrival : LifecycleArrival)
  | advance (number : Nat) (created : Option ProvisionedIds)

/-- Any interleaving of the parts of any calls, none of which dies on the way. -/
def lifecycleMachine (graceDays : Nat) : Machine (Served LifecycleTables LifecycleCall) LifecyclePart where
  init := (lifecycleService graceDays).machine.init
  step state
    | .arrive number arrival => (lifecycleService graceDays).step state (.arrive number arrival)
    | .advance number created => (lifecycleService graceDays).step state (.advance number created)

end Payables.Billing
