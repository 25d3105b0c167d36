import Payables.Basic
import Payables.Lib.JsonText
import Payables.Lib.Runs

namespace Payables.Audit

open Lib

/-- A snapshot of a row, as the adapters get it. -/
structure AuditLogRow where
  id : Nat
  tenantDb : String
  organizationId : Nat
  correlationId : Option Nat
  actorId : Option Nat
  action : String
  entityType : String
  entityId : Option Nat
  details : Json
  createdAt : Int

/-- A row of `audit_log`. -/
structure AuditLog where
  id : Nat
  organizationId : Nat
  correlationId : Option Nat
  actorId : Option Nat
  action : String
  entityType : String
  entityId : Option Nat
  details : Json
  createdAt : Int
  shippedAt : Option Int

def AuditLog.snapshot (dbName : String) (row : AuditLog) : AuditLogRow where
  id := row.id
  tenantDb := dbName
  organizationId := row.organizationId
  correlationId := row.correlationId
  actorId := row.actorId
  action := row.action
  entityType := row.entityType
  entityId := row.entityId
  details := row.details
  createdAt := row.createdAt

mutual

/-- `json.dumps(value)`, with its default separators. -/
def dumps : Json → List Char
  | .list items => '[' :: (commaSeparated (dumpsItems items) ++ [']'])
  | .object fields => Char.ofNat 123 :: (commaSeparated (dumpsFields fields) ++ [Char.ofNat 125])
  | other => other.dumps

def dumpsItems : List Json → List (List Char)
  | [] => []
  | item :: rest => dumps item :: dumpsItems rest

def dumpsFields : List (String × Json) → List (List Char)
  | [] => []
  | (key, value) :: rest => (Json.quoted key ++ [':', ' '] ++ dumps value) :: dumpsFields rest

end

/-- `_quarantined_row`. -/
def quarantinedRow (row : AuditLogRow) (errorClass : String) : AuditLogRow :=
  { row with details := .object [("_details_quarantined", .bool true), ("reason", .str "sink_rejected_row"),
      ("error_class", .str errorClass), ("original_bytes", .int (dumps row.details).length),
      ("note", .str "the sink refused this row\x27s details; the complete row remains in the tenant audit_log table")] }

variable {α : Type}

/-- A call of `adapter.ship`, with the class of what it raised, if anything. -/
structure ShipCall (α : Type) where
  adapter : α
  rows : List AuditLogRow
  refusal : Option String

section Shipping

-- What the n-th call of `ship` raises, counted from the first tick on.
variable (answers : Nat → Option String) (adapters : List α)

/-- The loop that offers a whole batch, after `made` calls. -/
def shipBatch (batch : List AuditLogRow) : Nat → List α → Option String × List (ShipCall α)
  | _, [] => (none, [])
  | made, adapter :: rest =>
    match answers made with
    | some error => (some error, [⟨adapter, batch, some error⟩])
    | none =>
      let later := shipBatch batch (made + 1) rest
      (later.1, ⟨adapter, batch, none⟩ :: later.2)

structure RowOutcome (α : Type) where
  fatal : Option String
  substitute : Option AuditLogRow
  calls : List (ShipCall α)

/-- `_ship_row`, after `made` calls and with the substitute made so far. -/
def shipRow (row : AuditLogRow) : Nat → Option AuditLogRow → List α → RowOutcome α
  | _, substitute, [] => ⟨none, substitute, []⟩
  | made, substitute, adapter :: rest =>
    match answers made with
    | none =>
      let later := shipRow row (made + 1) substitute rest
      { later with calls := ⟨adapter, [row], none⟩ :: later.calls }
    | some error =>
      let marked := substitute.getD (quarantinedRow row error)
      match answers (made + 1) with
      | some fatal => ⟨some fatal, some marked, [⟨adapter, [row], some error⟩, ⟨adapter, [marked], some fatal⟩]⟩
      | none =>
        let later := shipRow row (made + 2) (some marked) rest
        { later with calls := ⟨adapter, [row], some error⟩ :: ⟨adapter, [marked], none⟩ :: later.calls }

structure IsolationOutcome (α : Type) where
  shipped : List Nat
  quarantined : Nat
  fatal : Option String
  calls : List (ShipCall α)

/-- A fatal refusal is raised again once the rows before it are stamped. -/
def IsolationOutcome.result (outcome : IsolationOutcome α) : Except Raised Nat :=
  match outcome.fatal with
  | some fatal => .error (.uncaught fatal)
  | none => .ok outcome.shipped.length

/-- `_isolate_and_ship`, after `made` calls. -/
def isolateAndShip : Nat → List AuditLogRow → IsolationOutcome α
  | _, [] => ⟨[], 0, none, []⟩
  | made, row :: rest =>
    let outcome := shipRow answers row made none adapters
    match outcome.fatal with
    | some fatal => ⟨[], 0, some fatal, outcome.calls⟩
    | none =>
      let later := isolateAndShip (made + outcome.calls.length) rest
      ⟨row.id :: later.shipped, (if outcome.substitute.isSome then 1 else 0) + later.quarantined, later.fatal,
        outcome.calls ++ later.calls⟩

end Shipping

/-- `ORDER BY created_at ASC`, which leaves open how rows of one instant are ordered. -/
structure OrderBy where
  apply : List AuditLog → List AuditLog
  perm : ∀ rows, (apply rows).Perm rows
  sorted : ∀ rows, (apply rows).Pairwise fun one other => one.createdAt ≤ other.createdAt

/-- A tenant's table, and the calls that have been made. -/
structure ShipperState (α : Type) where
  table : List AuditLog
  log : List (ShipCall α)
  keys : (table.map (·.id)).Nodup

namespace ShipperState

def empty : ShipperState α := ⟨[], [], List.nodup_nil⟩

def unshipped (state : ShipperState α) : List AuditLog := state.table.filter fun row => row.shippedAt = none

/-- `UPDATE ... SET shipped_at WHERE id IN ids`. -/
def stampRow (ids : List Nat) (now : Int) (row : AuditLog) : AuditLog :=
  if row.id ∈ ids then { row with shippedAt := some now } else row

theorem stampRow_id (ids : List Nat) (now : Int) (row : AuditLog) : (stampRow ids now row).id = row.id := by
  unfold stampRow
  split <;> rfl

theorem stamp_keys (state : ShipperState α) (ids : List Nat) (now : Int) :
    ((state.table.map (stampRow ids now)).map (·.id)).Nodup := by
  have same : (fun row : AuditLog => row.id) ∘ stampRow ids now = fun row => row.id := funext (stampRow_id ids now)
  rw [List.map_map, same]
  exact state.keys

/-- The rows of some identifiers are stamped, and some calls were made. -/
def stamp (state : ShipperState α) (ids : List Nat) (now : Int) (calls : List (ShipCall α)) : ShipperState α where
  table := state.table.map (stampRow ids now)
  log := state.log ++ calls
  keys := state.stamp_keys ids now

theorem add_keys (state : ShipperState α) {row : AuditLog} (fresh : row.id ∉ state.table.map (·.id)) :
    ((state.table ++ [({ row with shippedAt := none } : AuditLog)]).map (·.id)).Nodup := by
  rw [List.map_append, List.nodup_append]
  refine ⟨state.keys, List.nodup_singleton _, ?_⟩
  rintro id known other same rfl
  rw [List.map_singleton, List.mem_singleton] at same
  exact fresh (same ▸ known)

/-- A new row, which is not shipped. One with a known identifier is refused. -/
def add (state : ShipperState α) (row : AuditLog) : ShipperState α :=
  if fresh : row.id ∉ state.table.map (·.id) then
    { state with table := state.table ++ [{ row with shippedAt := none }], keys := state.add_keys fresh }
  else state

end ShipperState

/-- What a tick leaves, what it returns, and the `rows_quarantined` it counts. -/
structure Tick (α : Type) where
  state : ShipperState α
  result : Except Raised Nat
  quarantined : Nat

section Tenant

variable (answers : Nat → Option String) (adapters : List α) (batchSize : Nat) (dbName : String)

/-- The rows of the query. -/
def ShipperState.rowsOrm (state : ShipperState α) (order : OrderBy) : List AuditLog := (order.apply state.unshipped).take batchSize

def ShipperState.batch (state : ShipperState α) (order : OrderBy) : List AuditLogRow :=
  (state.rowsOrm batchSize order).map (AuditLog.snapshot dbName)

/-- `_ship_tenant`. -/
def shipTenant (state : ShipperState α) (order : OrderBy) (now : Int) : Tick α :=
  if state.rowsOrm batchSize order = [] then ⟨state, .ok 0, 0⟩
  else
    let offered := shipBatch answers (state.batch batchSize dbName order) state.log.length adapters
    match offered.1 with
    | none =>
      ⟨state.stamp ((state.rowsOrm batchSize order).map (·.id)) now offered.2, .ok (state.rowsOrm batchSize order).length, 0⟩
    | some _ =>
      let isolated := isolateAndShip answers adapters (state.log.length + offered.2.length) (state.batch batchSize dbName order)
      ⟨state.stamp isolated.shipped now (offered.2 ++ isolated.calls), isolated.result, isolated.quarantined⟩

inductive ShipperEvent
  | arrive (row : AuditLog)
  | tick (order : OrderBy) (now : Int)

/-- The table of a tenant, with rows that arrive and ticks. -/
def shipper : Machine (ShipperState α) ShipperEvent where
  init := fun state => state = .empty
  step := fun state event =>
    match event with
    | .arrive row => state.add row
    | .tick order now => (shipTenant answers adapters batchSize dbName state order now).state

end Tenant

end Payables.Audit
