import Payables.Approval.Gates
import Payables.Lib.Calendar
import Payables.Lib.Column
import Payables.Lib.Sessions

namespace Payables.Procurement
open Lib

inductive RequisitionStatus
  | draft
  | submitted
  | pendingApproval
  | approved
  | rejected
  | converted
  | cancelled
  deriving DecidableEq

namespace RequisitionStatus

def text : RequisitionStatus → String
  | draft => "draft"
  | submitted => "submitted"
  | pendingApproval => "pending_approval"
  | approved => "approved"
  | rejected => "rejected"
  | converted => "converted"
  | cancelled => "cancelled"

/-- `VALID_TRANSITIONS`. -/
def validTransitions : RequisitionStatus → List RequisitionStatus
  | draft => [pendingApproval, cancelled]
  | submitted => [pendingApproval, cancelled]
  | pendingApproval => [approved, rejected, cancelled]
  | approved => [converted, cancelled]
  | rejected => [draft]
  | converted => []
  | cancelled => []

end RequisitionStatus

def guardTransition (current target : RequisitionStatus) : Except Raised Unit :=
  if target ∈ current.validTransitions then .ok ()
  else .error (.http 422 s!"Cannot move a requisition from \x27{current.text}\x27 to \x27{target.text}\x27.")

section Lines

structure RequisitionLineItemCreate where
  lineNumber : Option Int := none
  description : Option String := none
  quantity : Option ℚ := none
  unitPrice : Option ℚ := none
  deriving DecidableEq

structure RequisitionLineItem where
  id : Nat
  lineNumber : Int
  description : Option String
  quantity : Option ℚ
  unitPrice : Option ℚ
  total : Option ℚ
  deriving DecidableEq

structure POLineItem where
  description : Option String
  quantity : Option ℚ
  unitPrice : Option ℚ
  total : Option ℚ
  deriving DecidableEq

def lineTotal : Option ℚ → Option ℚ → Option ℚ
  | some quantity, some unitPrice => some (quantizeMoney (quantity * unitPrice))
  | _, _ => none

def recomputeTotal (lineItems : List RequisitionLineItem) : ℚ := (lineItems.map fun line => line.total.getD 0).sum

/-- `build_line_items`, with the ids the rows get. -/
def buildLineItems (firstId : Nat) (rows : List RequisitionLineItemCreate) : List RequisitionLineItem :=
  rows.mapIdx fun index row =>
    { id := firstId + index
      lineNumber := row.lineNumber.getD (index + 1)
      description := row.description
      quantity := row.quantity
      unitPrice := row.unitPrice
      total := lineTotal row.quantity row.unitPrice }

/-- What a PO line takes over. -/
def RequisitionLineItem.ordered (line : RequisitionLineItem) : POLineItem :=
  ⟨line.description, line.quantity, line.unitPrice, line.total⟩

/-- A value that `Numeric(15, 2)` holds. -/
def fitsMoneyColumn (value : ℚ) : Bool := |value| < 10 ^ 13

/-- No total overflows its column. -/
def storable (lineItems : List RequisitionLineItem) : Bool :=
  lineItems.all (fun line => fitsMoneyColumn (line.total.getD 0)) && fitsMoneyColumn (recomputeTotal lineItems)

end Lines

structure PurchaseRequisition where
  requisitionNumber : String
  title : Option String
  requesterUserId : UserId
  department : Option String
  status : RequisitionStatus
  neededBy : Option CalendarDate
  justification : Option String
  vendorId : Option VendorId
  contractId : Option Nat
  budgetId : Option Nat
  total : ℚ
  currency : String
  notes : Option String
  submittedAt : Option Time
  approvedAt : Option Time
  approvedBy : Option UserId
  rejectionReason : Option String
  convertedPoId : Option Nat
  lineItems : List RequisitionLineItem
  deriving DecidableEq

structure PurchaseOrder where
  id : Nat
  poNumber : String
  vendorId : Option VendorId
  total : ℚ
  status : String
  lineItems : List POLineItem
  deriving DecidableEq

/-- The flush of a session: every column it set to another value than it had loaded, the lines it removed and the ones
it added, over whatever the row is by now. -/
def PurchaseRequisition.flush (loaded edited current : PurchaseRequisition) : PurchaseRequisition where
  requisitionNumber := writeBack loaded.requisitionNumber edited.requisitionNumber current.requisitionNumber
  title := writeBack loaded.title edited.title current.title
  requesterUserId := writeBack loaded.requesterUserId edited.requesterUserId current.requesterUserId
  department := writeBack loaded.department edited.department current.department
  status := writeBack loaded.status edited.status current.status
  neededBy := writeBack loaded.neededBy edited.neededBy current.neededBy
  justification := writeBack loaded.justification edited.justification current.justification
  vendorId := writeBack loaded.vendorId edited.vendorId current.vendorId
  contractId := writeBack loaded.contractId edited.contractId current.contractId
  budgetId := writeBack loaded.budgetId edited.budgetId current.budgetId
  total := writeBack loaded.total edited.total current.total
  currency := writeBack loaded.currency edited.currency current.currency
  notes := writeBack loaded.notes edited.notes current.notes
  submittedAt := writeBack loaded.submittedAt edited.submittedAt current.submittedAt
  approvedAt := writeBack loaded.approvedAt edited.approvedAt current.approvedAt
  approvedBy := writeBack loaded.approvedBy edited.approvedBy current.approvedBy
  rejectionReason := writeBack loaded.rejectionReason edited.rejectionReason current.rejectionReason
  convertedPoId := writeBack loaded.convertedPoId edited.convertedPoId current.convertedPoId
  lineItems :=
    (current.lineItems.filter fun line => line ∉ loaded.lineItems ∨ line ∈ edited.lineItems) ++
      edited.lineItems.filter fun line => line ∉ loaded.lineItems

section Requests

/-- The body of a create, its links resolved. -/
structure RequisitionCreate where
  requisitionNumber : String
  title : Option String := none
  department : Option String := none
  neededBy : Option CalendarDate := none
  justification : Option String := none
  vendorId : Option VendorId := none
  contractId : Option Nat := none
  budgetId : Option Nat := none
  currency : String := "USD"
  notes : Option String := none
  lineItems : List RequisitionLineItemCreate := []

/-- The body of a PATCH, its links resolved. `none` is a field that was not sent. -/
structure RequisitionUpdate where
  requisitionNumber : Option String := none
  title : Option (Option String) := none
  department : Option (Option String) := none
  neededBy : Option (Option CalendarDate) := none
  justification : Option (Option String) := none
  vendorId : Option (Option VendorId) := none
  contractId : Option (Option Nat) := none
  budgetId : Option (Option Nat) := none
  currency : Option String := none
  notes : Option (Option String) := none
  lineItems : Option (List RequisitionLineItemCreate) := none

def RequisitionUpdate.lines (update : RequisitionUpdate) (firstId : Nat) (loaded : PurchaseRequisition) :
    List RequisitionLineItem :=
  match update.lineItems with
  | some rows => buildLineItems firstId rows
  | none => loaded.lineItems

/-- The row of `update_requisition` in its session. -/
def RequisitionUpdate.edit (update : RequisitionUpdate) (firstId : Nat) (loaded : PurchaseRequisition) : PurchaseRequisition :=
  { loaded with
    requisitionNumber := update.requisitionNumber.getD loaded.requisitionNumber
    title := update.title.getD loaded.title
    department := update.department.getD loaded.department
    neededBy := update.neededBy.getD loaded.neededBy
    justification := update.justification.getD loaded.justification
    vendorId := update.vendorId.getD loaded.vendorId
    contractId := update.contractId.getD loaded.contractId
    budgetId := update.budgetId.getD loaded.budgetId
    currency := update.currency.getD loaded.currency
    notes := update.notes.getD loaded.notes
    lineItems := update.lines firstId loaded
    total := if update.lineItems.isSome then recomputeTotal (update.lines firstId loaded) else loaded.total }

/-- A request that reads the row without a lock. `links` is what `_resolve_links` raises. -/
inductive RequisitionRequest
  | update (body : RequisitionUpdate) (links : Option Raised)
  | delete (linkedIntake : Bool)
  | submit
  | approve
  | reject (reason : Option String)
  | cancel
  | reopen

/-- The checks of a request on the row it has read. -/
def RequisitionRequest.check (request : RequisitionRequest) (userId : UserId) (row : PurchaseRequisition) :
    Except Raised Unit :=
  match request with
  | .update _ links =>
    if row.status ≠ .draft then
      .error (.http 422 s!"Cannot edit a requisition in \x27{row.status.text}\x27 state")
    else
      match links with
      | some raised => .error raised
      | none => .ok ()
  | .delete linkedIntake =>
    if row.convertedPoId ≠ none ∨ row.status = .converted then
      .error (.http 409 "Requisition has been converted to a PO; it cannot be deleted.")
    else if linkedIntake then
      .error (.http 409 "Requisition was converted from an intake request; cancel it instead.")
    else .ok ()
  | .submit => guardTransition row.status .pendingApproval
  | .approve => do
    guardTransition row.status .approved
    checkSegregation (some row.requesterUserId) [] userId { ApprovalConfig.empty with requireSegregation := some true }
  | .reject _ => guardTransition row.status .rejected
  | .cancel => guardTransition row.status .cancelled
  | .reopen => guardTransition row.status .draft

/-- The row of a request in its session before the flush. A delete has none. -/
def RequisitionRequest.edit (request : RequisitionRequest) (userId : UserId) (now : Time) (firstId : Nat)
    (loaded : PurchaseRequisition) : PurchaseRequisition :=
  match request with
  | .update body _ => body.edit firstId loaded
  | .delete _ => loaded
  | .submit => { loaded with status := .pendingApproval, submittedAt := some now }
  | .approve => { loaded with status := .approved, approvedAt := some now, approvedBy := some userId }
  | .reject reason => { loaded with status := .rejected, rejectionReason := reason }
  | .cancel => { loaded with status := .cancelled }
  | .reopen => { loaded with status := .draft, submittedAt := none }

end Requests

def convertRequisitionToPo (row : PurchaseRequisition) (id : Nat) (poNumber : String) : PurchaseOrder where
  id := id
  poNumber := poNumber
  vendorId := row.vendorId
  total := row.total
  status := "open"
  lineItems := row.lineItems.map RequisitionLineItem.ordered

structure ConvertToPoResponse where
  poId : Nat
  poNumber : String
  total : ℚ
  created : Bool
  deriving DecidableEq

/-- What an approval was given to. -/
structure Approval where
  approver : UserId
  vendorId : Option VendorId
  total : ℚ
  lineItems : List POLineItem
  deriving DecidableEq

/-- A requisition and what was ordered from it. `ids` counts the ids given out for it; before its creation there are
none. `approvals` and `converted` are no columns: they keep what each approval found, and the row as its conversion
left it. -/
structure RequisitionTables where
  requisition : Option PurchaseRequisition
  orders : List PurchaseOrder
  ids : Nat
  approvals : List Approval
  converted : Option PurchaseRequisition

/-- A request in flight, with the row it has read. -/
structure RequisitionCall where
  userId : UserId
  request : RequisitionRequest
  loaded : PurchaseRequisition

inductive RequisitionArrival
  | create (userId : UserId) (body : RequisitionCreate) (links : Option Raised)
  | convertToPo
  | request (userId : UserId) (request : RequisitionRequest)

namespace RequisitionTables

def empty : RequisitionTables := ⟨none, [], 0, [], none⟩

variable (tables : RequisitionTables)

def order? (id : Nat) : Option PurchaseOrder := tables.orders.find? fun order => order.id = id

def createRequisition (userId : UserId) (body : RequisitionCreate) : PurchaseRequisition :=
  let lineItems := buildLineItems (tables.ids + 1) body.lineItems
  { requisitionNumber := body.requisitionNumber
    title := body.title
    requesterUserId := userId
    department := body.department
    status := .draft
    neededBy := body.neededBy
    justification := body.justification
    vendorId := body.vendorId
    contractId := body.contractId
    budgetId := body.budgetId
    total := recomputeTotal lineItems
    currency := body.currency
    notes := body.notes
    submittedAt := none
    approvedAt := none
    approvedBy := none
    rejectionReason := none
    convertedPoId := none
    lineItems := lineItems }

/-- A second create makes another requisition. -/
def create (userId : UserId) (body : RequisitionCreate) (links : Option Raised) : RequisitionTables :=
  let row := tables.createRequisition userId body
  if tables.ids = 0 ∧ links = none ∧ storable row.lineItems then
    { tables with requisition := some row, ids := 1 + body.lineItems.length }
  else tables

/-- `convert_to_po`, which holds the row locked from its read to its commit. -/
def convertToPo : Except Raised (RequisitionTables × ConvertToPoResponse) :=
  match tables.requisition with
  | none => .error (.http 404 "Requisition not found")
  | some row =>
    match row.convertedPoId.bind tables.order? with
    | some order => .ok (tables, ⟨order.id, order.poNumber, order.total, false⟩)
    | none => do
      guardTransition row.status .converted
      let order := convertRequisitionToPo row tables.ids s!"PO-{row.requisitionNumber}"
      let converted := { row with status := .converted, convertedPoId := some order.id }
      .ok ({ tables with
          requisition := some converted
          orders := tables.orders ++ [order]
          ids := tables.ids + 1
          converted := some converted },
        ⟨order.id, order.poNumber, order.total, true⟩)

def arrive : RequisitionArrival → RequisitionTables × Option RequisitionCall
  | .create userId body links => (tables.create userId body links, none)
  | .convertToPo =>
    match tables.convertToPo with
    | .ok (later, _) => (later, none)
    | .error _ => (tables, none)
  | .request userId request =>
    match tables.requisition with
    | none => (tables, none)
    | some row =>
      match request.check userId row with
      | .ok () => (tables, some ⟨userId, request, row⟩)
      | .error _ => (tables, none)

/-- The approvals after a request was committed on the row. -/
def approvalsAfter (call : RequisitionCall) (row : PurchaseRequisition) : List Approval :=
  match call.request with
  | .approve =>
    tables.approvals ++ [⟨call.userId, row.vendorId, row.total, row.lineItems.map RequisitionLineItem.ordered⟩]
  | _ => tables.approvals

/-- The flush of a request that keeps the row. An UPDATE of a row that is gone fails, and so does one that overflows. -/
def flush (call : RequisitionCall) (now : Time) : RequisitionTables :=
  let edited := call.request.edit call.userId now tables.ids call.loaded
  match tables.requisition with
  | none => tables
  | some row =>
    if storable edited.lineItems then
      let written := PurchaseRequisition.flush call.loaded edited row
      { tables with
        requisition := some written
        ids := tables.ids + edited.lineItems.length
        approvals := tables.approvalsAfter call written }
    else tables

/-- The flush of a delete, which the foreign key stops where the row has lines that were not read with it. -/
def delete (call : RequisitionCall) : RequisitionTables :=
  match tables.requisition with
  | none => tables
  | some row =>
    if ∀ line ∈ row.lineItems, line ∈ call.loaded.lineItems then { tables with requisition := none } else tables

/-- The writes of a request and its commit. -/
def commit (call : RequisitionCall) (now : Time) : RequisitionTables :=
  match call.request with
  | .delete _ => tables.delete call
  | _ => tables.flush call now

end RequisitionTables

/-- The requests on one requisition. -/
def requisitionService : Service RequisitionTables RequisitionCall RequisitionArrival Time where
  init tables := tables = .empty
  arrive tables arrival := tables.arrive arrival
  advance tables call now := (tables.commit call now, none)

end Payables.Procurement
