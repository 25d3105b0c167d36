import Payables.Billing.Periods
import Payables.Lib.Rows
import Payables.Lib.Sessions
import Payables.Money

namespace Payables.Billing
open Lib

/-- A sellable tier. Its price has two decimals. -/
structure Plan where
  id : PlanId
  code : String
  monthlyPrice : ℚ
  isActive : Bool
  cents : OnCents monthlyPrice

structure ProrationResult where
  amount : ℚ
  unusedDays : Nat
  periodDays : Nat
  oldMonthly : ℚ
  newMonthly : ℚ
  deriving DecidableEq

/-- `_whole_days`. -/
def wholeDays (start stop : Datetime) : Nat := if stop ≤ start then 0 else (stop.stamp - start.stamp) / microsPerDay

/-- `compute_proration`. -/
def computeProration (oldMonthly newMonthly : ℚ) (periodStart periodEnd changeAt : Datetime) : ProrationResult :=
  if periodEnd ≤ periodStart then ⟨0, 0, 0, oldMonthly, newMonthly⟩
  else
    let periodDays := wholeDays periodStart periodEnd
    let effective :=
      if changeAt < periodStart then periodStart
      else if periodEnd < changeAt then periodEnd
      else changeAt
    let remaining := wholeDays effective periodEnd
    let unusedDays := if periodDays < remaining then periodDays else remaining
    let priceDelta := newMonthly - oldMonthly
    if priceDelta = 0 ∨ periodDays = 0 ∨ unusedDays = 0 then ⟨0, unusedDays, periodDays, oldMonthly, newMonthly⟩
    else ⟨quantizeMoney (priceDelta * unusedDays / periodDays), unusedDays, periodDays, oldMonthly, newMonthly⟩

/-- The audit row of a plan change. The window and the instant are no columns of it. -/
structure PlanChange where
  fromPlan : String
  toPlan : String
  proration : ProrationResult
  period : BillingPeriod
  changeAt : Datetime
  deriving DecidableEq

/-- `Organization.settings.billing`. -/
structure BillingSettings where
  stripeCustomerId : Option String
  planPriceIds : List (String × String)
  deriving DecidableEq

structure ProvisionedIds where
  customerId : String
  priceId : String

/-- A subscription on another plan, with the window of the change. -/
def Subscription.repoint (subscription : Subscription) (period : BillingPeriod) (planId : PlanId) : Subscription :=
  { subscription.persist period with planId := planId }

/-- The control plane as one tenant sees it. There is one live subscription at most. -/
structure BillingTables where
  plans : List Plan
  subscriptions : List Subscription
  settings : BillingSettings
  changes : List PlanChange
  locked : Bool

inductive PlanStage
  | peeked (settings : BillingSettings)
  | provisioned
  | locked (subscription : Subscription) (currentPlan : Plan) (change : PlanChange)

/-- A call of `change_plan`, with the clock that it has read first. -/
structure PlanCall where
  newPlan : Plan
  now : Datetime
  stage : PlanStage

structure PlanArrival where
  newPlanCode : String
  changeAt : Datetime

/-- An id that provisioning has to create. -/
def Missing (id : Option String) : Prop := ∀ found ∈ id, found = ""
  deriving Decidable

namespace BillingSettings

variable (settings : BillingSettings)

def priceId? (code : String) : Option String := (settings.planPriceIds.find? fun entry => entry.1 = code).map (·.2)

/-- The settings that `provision_org_billing` writes back, over the ones it has read, where an id is missing. -/
def provision (plan : Plan) (created : ProvisionedIds) : Option BillingSettings :=
  if Missing settings.stripeCustomerId ∨ Missing (settings.priceId? plan.code) then
    some {
      stripeCustomerId :=
        if Missing settings.stripeCustomerId then some created.customerId else settings.stripeCustomerId
      planPriceIds :=
        if Missing (settings.priceId? plan.code) then (plan.code, created.priceId) :: settings.planPriceIds
        else settings.planPriceIds }
  else none

end BillingSettings

namespace BillingTables

variable (tables : BillingTables)

/-- The live subscription of the tenant. -/
def live? : Option Subscription := tables.subscriptions.find? fun row => row.status ≠ .canceled

def plan? (id : PlanId) : Option Plan := tables.plans.find? fun plan => plan.id = id

/-- `get_active_subscription`. -/
def activeSubscription : Option (Subscription × Plan) := do
  let subscription ← tables.live?
  let plan ← tables.plan? subscription.planId
  return (subscription, plan)

/-- The call up to its peek. It is in flight where it has something to change. -/
def arrive (arrival : PlanArrival) : BillingTables × Option PlanCall :=
  match tables.plans.find? fun plan => plan.code = arrival.newPlanCode ∧ plan.isActive with
  | none => (tables, none)
  | some newPlan =>
    match tables.activeSubscription with
    | none => (tables, none)
    | some (_, peekPlan) =>
      if peekPlan.id = newPlan.id then (tables, none)
      else (tables, some ⟨newPlan, arrival.changeAt, .peeked tables.settings⟩)

/-- What a call is about to write, from the subscription that it has locked. -/
def priceChange (subscription : Subscription) (currentPlan newPlan : Plan) (now : Datetime) : Option PlanChange := do
  let period ← currentPeriod subscription now
  return {
    fromPlan := currentPlan.code
    toPlan := newPlan.code
    proration := computeProration currentPlan.monthlyPrice newPlan.monthlyPrice period.start period.stop now
    period := period
    changeAt := now }

/-- The locked read of a call. It waits for the lock, and ends where there is nothing to change. -/
def lock (call : PlanCall) : BillingTables × Option PlanCall :=
  if tables.locked then (tables, some call)
  else
    match tables.activeSubscription with
    | none => (tables, none)
    | some (subscription, currentPlan) =>
      if currentPlan.id = call.newPlan.id then (tables, none)
      else
        match priceChange subscription currentPlan call.newPlan call.now with
        | none => (tables, none)
        | some change =>
          ({ tables with locked := true }, some { call with stage := .locked subscription currentPlan change })

/-- `clear_stale_canceled_subscription`. -/
def clearStaleCanceledSubscription (planId : PlanId) : BillingTables :=
  { tables with subscriptions := tables.subscriptions.filter fun row => ¬(row.planId = planId ∧ row.status = .canceled) }

/-- The writes of a change, on the subscription that it has locked. -/
def write (subscription : Subscription) (newPlan : Plan) (change : PlanChange) : BillingTables :=
  let cleared := tables.clearStaleCanceledSubscription newPlan.id
  { cleared with
    subscriptions := changeRow (·.id) subscription.id (·.repoint change.period newPlan.id) cleared.subscriptions
    changes := tables.changes ++ [change] }

/-- The next part of a call, with what the provider creates where ids are missing. -/
def advance (call : PlanCall) (created : Option ProvisionedIds) : BillingTables × Option PlanCall :=
  match call.stage with
  | .peeked settings =>
    match created with
    | none => (tables, none)
    | some created =>
      ({ tables with settings := (settings.provision call.newPlan created).getD tables.settings },
        some { call with stage := .provisioned })
  | .provisioned => tables.lock call
  | .locked subscription _ change =>
    ({ tables.write subscription call.newPlan change with locked := false }, none)

/-- A call that dies lets go of its lock. -/
def abort (call : PlanCall) : BillingTables :=
  match call.stage with
  | .locked _ _ _ => { tables with locked := false }
  | _ => tables

end BillingTables

/-- A tenant with a subscription, before any change. -/
structure Subscribed (tables : BillingTables) : Prop where
  planIds : ∀ plan ∈ tables.plans, ∀ other ∈ tables.plans, plan.id = other.id → plan = other
  codes : ∀ plan ∈ tables.plans, ∀ other ∈ tables.plans, plan.code = other.code → plan = other
  ids : (tables.subscriptions.map (·.id)).Nodup
  oneLive : (tables.subscriptions.filter fun row => row.status ≠ .canceled).length ≤ 1
  unlocked : tables.locked = false
  fresh : tables.changes = []

/-- The calls of `change_plan` on one tenant. -/
def planService : Service BillingTables PlanCall PlanArrival (Option ProvisionedIds) where
  init := Subscribed
  arrive tables arrival := tables.arrive arrival
  advance tables call created := tables.advance call created
  abort tables call := tables.abort call

end Payables.Billing
