import Payables.Lib.Json
import Payables.Lib.Rows
import Payables.Lib.Runs
import Payables.Payments.Settlement

namespace Payables
open Lib

/-- An invoice of a tenant, as far as the ERP webhook reads it: its latest completed payment, and whether an
open `erp_reconciliation` exception hangs off it. -/
structure ReportedInvoice where
  id : Nat
  correlationId : Nat
  status : InvoiceStatus
  settling : Option (SettlementColumns × Authorization)
  reconciliation : Bool
  deriving DecidableEq

/-- An organization and its tenant database. -/
structure ErpTenant where
  slug : String
  invoices : List ReportedInvoice
  deriving DecidableEq

/-- The body of a delivery after its shape was normalised. -/
structure ErpFields where
  tenantSlug : Json
  correlationId : Json
  erpDocumentId : Json
  eventId : Json
  status : Json

/-- `mapping.get(key, default)`, which only a mapping has. -/
def getField (key : String) (default : Json) : Json → Except Raised Json
  | .object fields => .ok ((fields.lookup key).getD default)
  | _ => .error (.uncaught "AttributeError")

/-- The fields of the Merge.dev shape. -/
def mergeFields (body data : Json) : Except Raised ErpFields := do
  let tenantSlug ← getField "linked_account_id" .null body
  let params ← getField "integration_params" (.object []) data
  let correlationId ← getField "correlation_id" .null params
  let erpDocumentId ← getField "id" .null data
  let hook ← getField "hook" (.object []) body
  let hookEvent ← getField "event" .null hook
  let event ← getField "event" .null body
  let status ← getField "status" .null data
  return ⟨tenantSlug, correlationId, erpDocumentId, hookEvent.orElse event, status⟩

/-- The normalisation of `erp_webhook`. -/
def normaliseErpBody (erpType : String) (body : Json) : Except Raised ErpFields :=
  match if erpType = "merge_dev" then body.field? "data" else none with
  | some data => mergeFields body data
  | none => do
    let tenantSlug ← getField "tenant_slug" .null body
    let correlationId ← getField "correlation_id" .null body
    let erpDocumentId ← getField "erp_document_id" .null body
    let status ← getField "status" (.str "") body
    let eventId ← getField "event_id" .null body
    return ⟨tenantSlug, correlationId, erpDocumentId, eventId, status⟩

/-- `ERP_STATUS_MAP`. -/
def erpStatusMap : List (String × InvoiceStatus) :=
  [("OPEN", .postedInErp), ("SUBMITTED", .postedInErp), ("Open", .postedInErp), ("Paid", .paid), ("open", .postedInErp),
    ("paidInFull", .paid), ("posted", .postedInErp), ("paid", .paid), ("cancelled", .failed), ("voided", .failed)]

/-- `ERP_STATUS_MAP.get(erp_status)`: a list or a mapping has no hash. -/
def mapErpStatus : Json → Except Raised (Option InvoiceStatus)
  | .str status => .ok (erpStatusMap.lookup status)
  | .list _ => .error (.uncaught "TypeError")
  | .object _ => .error (.uncaught "TypeError")
  | _ => .ok none

/-- `text.replace(needle, "")`; `skip` characters of an occurrence are still to drop. -/
def dropText (needle : List Char) : Nat → List Char → List Char
  | _, [] => []
  | skip + 1, _ :: rest => dropText needle skip rest
  | 0, c :: rest => if needle <+: c :: rest then dropText needle (needle.length - 1) rest else c :: dropText needle 0 rest

def hexDigit? (c : Char) : Option Nat :=
  "0123456789abcdef".toList.findIdx? (· == c.toLower)

/-- `uuid.UUID(text)`: 32 hexadecimal digits, with a URN prefix, braces and hyphens left out. -/
def parseUuid (text : String) : Option Nat :=
  let bare := dropText "uuid:".toList 0 (dropText "urn:".toList 0 text.toList)
  let isBrace (c : Char) : Bool := c == Char.ofNat 123 || c == Char.ofNat 125
  let digits := ((bare.dropWhile isBrace).rdropWhile isBrace).filter (· != '-')
  if digits.length ≠ 32 then none
  else (digits.mapM hexDigit?).map fun values => values.foldl (fun total value => total * 16 + value) 0

/-- What a delivery ends in when the tenant's work is committed. -/
inductive ErpDecision
  | applied (target : InvoiceStatus)
  | exceptionOpened
  | ignored
  deriving DecidableEq

def ReportedInvoice.flag (invoice : ReportedInvoice) : ReportedInvoice := { invoice with reconciliation := true }

/-- The work on the locked invoice: what it is rewritten to, and the decision. -/
def applyErpStatus (invoice : ReportedInvoice) (target : InvoiceStatus) : Except Raised (ReportedInvoice × ErpDecision) := do
  if target ∉ invoice.status.validTransitions then
    if target = .failed then return (invoice.flag, .exceptionOpened) else return (invoice, .ignored)
  else if target = .paid ∧ invoice.status = .paymentScheduled then
    match invoice.settling with
    | none => return ({ invoice with status := target }, .applied target)
    | some (columns, authorization) =>
      let coverage ← settlementCoverage columns authorization
      if coverage.completesInvoice then return ({ invoice with status := target }, .applied target)
      else return (invoice.flag, .exceptionOpened)
  else return ({ invoice with status := target }, .applied target)

/-- The tenant's work of one delivery, inside the `try` of the handler. -/
def processErpEvent (tenant : ErpTenant) (fields : ErpFields) (target : InvoiceStatus) : Except Raised (ErpTenant × ErpDecision) :=
  if !fields.correlationId.truthy then .ok (tenant, .ignored)
  else
    match fields.correlationId with
    | .str text =>
      match parseUuid text with
      | none => .error (.uncaught "ValueError")
      | some correlation =>
        match tenant.invoices.filter (·.correlationId == correlation) with
        | [] => .ok (tenant, .ignored)
        | [invoice] => do
          let (written, decision) ← applyErpStatus invoice target
          return ({ tenant with invoices := putRow ReportedInvoice.id written tenant.invoices }, decision)
        | _ => .error (.uncaught "MultipleResultsFound")
    | _ => .error (.uncaught "AttributeError")

/-- What a delivery reports: of which tenant, on which invoice, and which status. -/
structure ErpUpdate where
  tenant : String
  invoice : List Char
  status : List Char
  deriving DecidableEq

/-- The invoice is the one its correlation id names, else the one its document id names. -/
def ErpFields.update (fields : ErpFields) (slug : String) : ErpUpdate :=
  ⟨slug, (fields.correlationId.orElse fields.erpDocumentId).repr, fields.status.repr⟩

/-- The key of the dedup claim. A missing event id claims nothing. -/
def dedupKey (erpType : String) (eventId : Json) : Option (List Char) :=
  if eventId.truthy then some ("erp:".toList ++ erpType.toList ++ ':' :: eventId.toText) else none

/-- A delivery between its claim and its end. -/
structure ErpProcessing where
  slug : String
  fields : ErpFields
  key : Option (List Char)

/-- A dedup key, and the update it was claimed for. -/
structure ErpClaim where
  key : List Char
  update : ErpUpdate
  deriving DecidableEq

/-- The tenants, the dedup keys and the deliveries being processed. `dropped` lists what was taken for a replay,
`decided` what a decision was committed on; neither is data of the program. -/
structure ErpStore where
  tenants : List ErpTenant
  claims : List ErpClaim
  processing : List ErpProcessing
  dropped : List ErpUpdate
  decided : List ErpUpdate

/-- Where the work of a delivery fails: before the `try` of the handler, or in it. -/
inductive ErpFault
  | outside
  | inside
  deriving DecidableEq

inductive ErpHookLabel
  | receive (erpType : String) (body : Json)
  | decide (index : Nat) (fault : Option ErpFault)
  | crash (index : Nat)
  | expire (key : List Char)

/-- What a validly signed delivery comes to before its claim: the fields and the key. -/
def admitErpEvent (store : ErpStore) (erpType : String) (body : Json) : Option ErpProcessing :=
  match normaliseErpBody erpType body with
  | .error _ => none
  | .ok fields =>
    if !fields.tenantSlug.truthy then none
    else if !fields.correlationId.truthy && !fields.erpDocumentId.truthy then none
    else
      match fields.tenantSlug with
      | .str slug =>
        if store.tenants.any (·.slug == slug) then some ⟨slug, fields, dedupKey erpType fields.eventId⟩ else none
      | _ => none

def ErpProcessing.update (delivery : ErpProcessing) : ErpUpdate := delivery.fields.update delivery.slug

namespace ErpStore

variable (store : ErpStore)

/-- The handler up to its claim: `SET key NX`. -/
def receive (erpType : String) (body : Json) : ErpStore :=
  match admitErpEvent store erpType body with
  | none => store
  | some delivery =>
    match delivery.key with
    | none => { store with processing := store.processing ++ [delivery] }
    | some key =>
      if store.claims.any (·.key == key) then { store with dropped := delivery.update :: store.dropped }
      else { store with claims := ⟨key, delivery.update⟩ :: store.claims, processing := store.processing ++ [delivery] }

/-- A delivery that ends without having decided: its claim stays. -/
def abandon (index : Nat) : ErpStore := { store with processing := store.processing.eraseIdx index }

/-- `release_event_claim`. -/
def release (key : Option (List Char)) : ErpStore :=
  { store with claims := store.claims.filter fun claim => some claim.key != key }

/-- The end of a delivery with a decision. -/
def conclude (index : Nat) (delivery : ErpProcessing) : ErpStore :=
  { store with processing := store.processing.eraseIdx index, decided := delivery.update :: store.decided }

def putTenant (tenant : ErpTenant) : ErpStore := { store with tenants := putRow ErpTenant.slug tenant store.tenants }

/-- The handler from the claim on. -/
def decide (index : Nat) (fault : Option ErpFault) : ErpStore :=
  match store.processing[index]? with
  | none => store
  | some delivery =>
    match mapErpStatus delivery.fields.status with
    | .error _ => store.abandon index
    | .ok none => store.conclude index delivery
    | .ok (some target) =>
      match fault, getRow ErpTenant.slug delivery.slug store.tenants with
      | some .outside, _ => store.abandon index
      | some .inside, _ => (store.abandon index).release delivery.key
      | none, none => (store.abandon index).release delivery.key
      | none, some tenant =>
        match processErpEvent tenant delivery.fields target with
        | .error _ => (store.abandon index).release delivery.key
        | .ok (written, _) => (store.conclude index delivery).putTenant written

end ErpStore

def runErpHookLabel (store : ErpStore) : ErpHookLabel → ErpStore
  | .receive erpType body => store.receive erpType body
  | .decide index fault => store.decide index fault
  | .crash index => store.abandon index
  | .expire key => store.release (some key)

/-- The ERP webhook under any deliveries, of any tenants with any invoices. -/
def erpWebhookMachine : Machine ErpStore ErpHookLabel where
  init store := store.claims = [] ∧ store.processing = [] ∧ store.dropped = [] ∧ store.decided = []
  step := runErpHookLabel

end Payables
