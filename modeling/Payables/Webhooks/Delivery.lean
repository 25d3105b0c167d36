import Mathlib.Data.List.Sort
import Payables.Basic
import Payables.Lib.Rows
import Payables.Lib.Runs

namespace Payables
open Lib

abbrev DeliveryId := Nat
abbrev SubscriptionId := Nat
abbrev OrganizationId := Nat

/-- `WebhookDelivery.status`. -/
inductive DeliveryStatus
  | pending
  | delivered
  | failed
  | dead
  deriving DecidableEq

/-- What happened to a delivery: a redeliver request, a POST, or the outcome that an attempt committed. -/
inductive DeliveryEvent
  | redelivered
  | posted (now : Time) (automatic : Bool)
  | delivered
  | failed (nextAttemptAt : Time)
  | dead
  deriving DecidableEq

/-- The columns an attempt writes. `history` is no column: it lists what happened to the row, newest first. -/
structure DeliveryState where
  status : DeliveryStatus
  attemptCount : Nat
  nextAttemptAt : Option Time
  history : List DeliveryEvent
  deriving DecidableEq

structure WebhookDelivery where
  id : DeliveryId
  subscriptionId : SubscriptionId
  organizationId : OrganizationId
  eventId : String
  state : DeliveryState
  deriving DecidableEq

structure WebhookSubscription where
  id : SubscriptionId
  organizationId : OrganizationId
  eventTypes : List String
  active : Bool
  deriving DecidableEq

/-- A delivery on its way: its row is locked until the outcome is committed. `reachable` is whether the
target guard let the POST out. -/
structure DeliveryAttempt where
  delivery : DeliveryId
  state : DeliveryState
  reachable : Bool
  deriving DecidableEq

/-- A tick of `deliver_due` on some replica: the time it took at its start, and the ids still to claim. -/
structure DueSweep where
  now : Time
  ids : List DeliveryId
  deriving DecidableEq

/-- The control plane: its tables, the immediate attempts still to run, the sweeps and what is in flight. -/
structure WebhookStore where
  subscriptions : List WebhookSubscription
  deliveries : List WebhookDelivery
  nextId : DeliveryId
  clock : Time
  spawned : List DeliveryId
  sweeps : List DueSweep
  inFlight : List DeliveryAttempt
  deriving DecidableEq

def maxAttempts : Nat := 5

/-- `_next_backoff`, in microseconds. -/
def nextBackoff (attemptCount : Nat) : Time := 30000000 * 2 ^ (attemptCount - 1)

/-- One section of the delivery paths. `elapsed` is how long after the previous one it runs. -/
inductive WebhookLabel
  | setActive (subscription : SubscriptionId) (active : Bool)
  | emit (elapsed : Nat) (organization : OrganizationId) (eventType eventKey : String) (spawns : Bool)
  | immediate (elapsed : Nat) (index : Nat) (reachable : Bool)
  | readDue (elapsed : Nat) (limit : Nat)
  | claimDue (elapsed : Nat) (sweep : Nat) (reachable : Bool)
  | redeliver (elapsed : Nat) (organization : OrganizationId) (delivery : DeliveryId) (reachable : Bool)
  | finish (elapsed : Nat) (index : Nat) (responseCode : Option Nat)

namespace DeliveryState

def isTerminal (state : DeliveryState) : Bool := state.status == .delivered || state.status == .dead

/-- The predicate of `deliver_due`. -/
def isDue (state : DeliveryState) (now : Time) : Bool :=
  (state.status == .pending || state.status == .failed) && state.nextAttemptAt.any (· ≤ now)

/-- `process_delivery` on a row whose subscription is gone or inactive. -/
def deadLetter (state : DeliveryState) : DeliveryState :=
  { state with status := .dead, nextAttemptAt := none, history := .dead :: state.history }

/-- `process_delivery` up to the POST. -/
def post (state : DeliveryState) (now : Time) (automatic reachable : Bool) : DeliveryState :=
  { state with
    attemptCount := state.attemptCount + 1
    history := if reachable then .posted now automatic :: state.history else state.history }

/-- What `redeliver` resets. -/
def requeue (state : DeliveryState) (now : Time) : DeliveryState :=
  ⟨.pending, 0, some now, .redelivered :: state.history⟩

/-- The rest of `process_delivery`, from the answer to the commit. -/
def conclude (state : DeliveryState) (now : Time) (ok : Bool) : DeliveryState :=
  if ok then { state with status := .delivered, nextAttemptAt := none, history := .delivered :: state.history }
  else if maxAttempts ≤ state.attemptCount then state.deadLetter
  else
    let next := now + nextBackoff state.attemptCount
    { state with status := .failed, nextAttemptAt := some next, history := .failed next :: state.history }

end DeliveryState

/-- A row as `_emit` inserts it. -/
def newDelivery (id : DeliveryId) (subscription : SubscriptionId) (organization : OrganizationId) (eventId : String) (now : Time) :
    WebhookDelivery :=
  ⟨id, subscription, organization, eventId, ⟨.pending, 0, some now, []⟩⟩

namespace WebhookStore

variable (store : WebhookStore)

def delivery? (id : DeliveryId) : Option WebhookDelivery := getRow WebhookDelivery.id id store.deliveries

def isLocked (id : DeliveryId) : Bool := store.inFlight.any (·.delivery == id)

def after (elapsed : Nat) : WebhookStore := { store with clock := store.clock + elapsed }

/-- The `UPDATE` of a row. -/
def update (id : DeliveryId) (state : DeliveryState) : WebhookStore :=
  { store with
    deliveries := store.deliveries.map fun delivery => if delivery.id = id then { delivery with state := state } else delivery }

/-- The insert of one row, `ON CONFLICT DO NOTHING`. -/
def insertDelivery (organization : OrganizationId) (eventId : String) (acc : WebhookStore × List DeliveryId)
    (subscription : SubscriptionId) : WebhookStore × List DeliveryId :=
  if acc.1.deliveries.any fun delivery => delivery.subscriptionId == subscription && delivery.eventId == eventId then acc
  else
    ({ acc.1 with
        deliveries := acc.1.deliveries ++ [newDelivery acc.1.nextId subscription organization eventId acc.1.clock]
        nextId := acc.1.nextId + 1 },
      acc.2 ++ [acc.1.nextId])

/-- `_emit`. Whether the attempts are spawned depends on the event loop it runs in. -/
def emit (organization : OrganizationId) (eventType eventKey : String) (spawns : Bool) : WebhookStore :=
  let targets := store.subscriptions.filter fun subscription =>
    subscription.organizationId == organization && subscription.active && subscription.eventTypes.contains eventType
  let inserted := (targets.map (·.id)).foldl (insertDelivery organization (eventType ++ ":" ++ eventKey)) (store, [])
  { inserted.1 with spawned := if spawns then inserted.1.spawned ++ inserted.2 else inserted.1.spawned }

/-- `process_delivery` on a locked row, up to the POST. `state` is the row as the session holds it. -/
def process (delivery : WebhookDelivery) (state : DeliveryState) (automatic reachable : Bool) : WebhookStore :=
  if state.isTerminal then store
  else
    match store.subscriptions.find? fun subscription => subscription.id == delivery.subscriptionId && subscription.active with
    | none => store.update delivery.id state.deadLetter
    | some _ =>
      { store with inFlight := store.inFlight ++ [⟨delivery.id, state.post store.clock automatic reachable, reachable⟩] }

/-- `process_delivery_by_id`: a row that somebody holds is skipped. -/
def immediate (index : Nat) (reachable : Bool) : WebhookStore :=
  match store.spawned[index]? with
  | none => store
  | some id =>
    let taken := { store with spawned := store.spawned.eraseIdx index }
    match store.delivery? id with
    | none => taken
    | some delivery => if store.isLocked id then taken else taken.process delivery delivery.state true reachable

/-- The unlocked read of `deliver_due`. -/
def readDue (limit : Nat) : WebhookStore :=
  let due := store.deliveries.filter (·.state.isDue store.clock)
  let ordered := due.mergeSort fun one other => one.state.nextAttemptAt.getD 0 ≤ other.state.nextAttemptAt.getD 0
  { store with sweeps := store.sweeps ++ [⟨store.clock, (ordered.take limit).map (·.id)⟩] }

/-- The claim of the next id: the predicate is applied again under the lock, with the time of the tick. -/
def claimDue (index : Nat) (reachable : Bool) : WebhookStore :=
  match store.sweeps[index]? with
  | none => store
  | some sweep =>
    match sweep.ids with
    | [] => { store with sweeps := store.sweeps.eraseIdx index }
    | id :: rest =>
      let taken := { store with sweeps := store.sweeps.set index ⟨sweep.now, rest⟩ }
      match store.delivery? id with
      | none => taken
      | some delivery =>
        if store.isLocked id || !delivery.state.isDue sweep.now then taken
        else taken.process delivery delivery.state true reachable

/-- `redeliver`, which waits for the lock. -/
def redeliver (organization : OrganizationId) (id : DeliveryId) (reachable : Bool) : WebhookStore :=
  match store.delivery? id with
  | none => store
  | some delivery =>
    if store.isLocked id ∨ delivery.organizationId ≠ organization then store
    else if delivery.state.status ≠ .failed ∧ delivery.state.status ≠ .dead then store
    else store.process delivery (delivery.state.requeue store.clock) false reachable

/-- The end of an attempt: the answer, and the commit that releases the row. -/
def finish (index : Nat) (responseCode : Option Nat) : WebhookStore :=
  match store.inFlight[index]? with
  | none => store
  | some attempt =>
    let ok := attempt.reachable && responseCode.any fun code => decide (200 ≤ code ∧ code < 300)
    { store.update attempt.delivery (attempt.state.conclude store.clock ok) with inFlight := store.inFlight.eraseIdx index }

end WebhookStore

def runWebhookLabel (store : WebhookStore) : WebhookLabel → WebhookStore
  | .setActive id active =>
    { store with
      subscriptions := store.subscriptions.map fun subscription =>
        if subscription.id = id then { subscription with active := active } else subscription }
  | .emit elapsed organization eventType eventKey spawns => (store.after elapsed).emit organization eventType eventKey spawns
  | .immediate elapsed index reachable => (store.after elapsed).immediate index reachable
  | .readDue elapsed limit => (store.after elapsed).readDue limit
  | .claimDue elapsed sweep reachable => (store.after elapsed).claimDue sweep reachable
  | .redeliver elapsed organization id reachable => (store.after elapsed).redeliver organization id reachable
  | .finish elapsed index responseCode => (store.after elapsed).finish index responseCode

/-- The delivery paths under any interleaving, on any subscriptions and no deliveries yet. -/
def webhookMachine : Machine WebhookStore WebhookLabel where
  init store := store.deliveries = [] ∧ store.spawned = [] ∧ store.sweeps = [] ∧ store.inFlight = []
  step := runWebhookLabel

end Payables
