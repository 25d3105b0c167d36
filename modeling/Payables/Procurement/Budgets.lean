import Payables.Agents.Orders
import Payables.Lib.Sql
import Payables.Payments.MinorUnits
import Payables.Procurement.Requisitions
import Payables.Workflow.Status

namespace Payables.Budgets
open Lib Procurement

inductive BudgetDimension
  | department
  | project
  | costCenter
  | glAccount
  deriving DecidableEq

/-- A `Budget`. Dates are ordinals. -/
structure Budget where
  id : Nat
  dimension : BudgetDimension
  dimensionValue : String
  periodStart : Option Int
  periodEnd : Option Int
  amount : StoredMoney
  currency : String
  entityId : Option Nat

structure PurchaseRequisition where
  id : Nat
  budgetId : Option Nat
  status : RequisitionStatus
  total : StoredMoney
  currency : Option String
  convertedPoId : Option Nat

structure PurchaseOrder where
  id : Nat
  poNumber : String
  total : StoredMoney
  status : String

structure Invoice where
  entityId : Option Nat
  costCenter : Option String
  glAccount : Option String
  department : Option String
  project : Option String
  status : InvoiceStatus
  invoiceDate : Option Int
  poNumber : Option String
  amount : StoredMoney
  currency : Option String

/-- The three tables a budget is measured on, with the keys of orders and requisitions and the link between them. -/
structure BudgetTables where
  requisitions : List PurchaseRequisition
  orders : List PurchaseOrder
  invoices : List Invoice
  requisitionIds : (requisitions.map (·.id)).Nodup
  orderIds : (orders.map (·.id)).Nodup
  linked : ∀ requisition ∈ requisitions, ∀ id ∈ requisition.convertedPoId, ∃ order ∈ orders, order.id = id

/-- `OPEN_COMMITMENT_REQ_STATUSES`. -/
def openCommitmentReqStatuses : List RequisitionStatus := [.submitted, .pendingApproval, .approved]

/-- `_DEAD_PO_STATUSES`. -/
def deadPoStatuses : List String := ["cancelled", "closed", "voided"]

/-- `REALISED_INVOICE_STATUSES`. -/
def realisedInvoiceStatuses : List InvoiceStatus := [.approved, .sentToErp, .postedInErp, .paymentScheduled, .paid, .done]

/-- `_DIMENSION_MATCH_COLUMN`. -/
def BudgetDimension.matchColumn : BudgetDimension → Invoice → Option String
  | department => Invoice.department
  | project => Invoice.project
  | costCenter => Invoice.costCenter
  | glAccount => Invoice.glAccount

/-- `_Leg`. -/
structure Leg where
  total : ℚ
  excluded : Nat

structure BudgetSpend where
  allocated : ℚ
  committed : ℚ
  actual : ℚ
  remaining : ℚ
  utilizationPct : ℚ
  currency : String
  excludedRowCount : Nat

/-- `_q`. -/
def q (value : Option ℚ) : ℚ := quantizeHalfEven (value.getD 0)

section Legs

variable (budget : Budget) (tables : BudgetTables)

/-- `_leg_columns` with the coercion of `_collect_legs`. -/
def legColumns {ρ : Type} (amount : ρ → StoredMoney) (currency : ρ → Option String) (rows : List ρ) : Leg :=
  let matching := fun row => Sql.eq (currency row) (some budget.currency)
  ⟨q (some ((Sql.sum ((Sql.select rows matching).map fun row => some (amount row).value)).getD 0)),
    (rows.filter fun row => !Sql.holds (matching row)).length⟩

def reqClause (requisition : PurchaseRequisition) : Sql.Truth :=
  Sql.and (Sql.eq requisition.budgetId (some budget.id))
    (Sql.isIn (some requisition.status) (openCommitmentReqStatuses.map some))

/-- `_committed_requisition_legs`, of one budget. -/
def committedRequisitionLeg : Leg :=
  legColumns budget PurchaseRequisition.total PurchaseRequisition.currency (Sql.select tables.requisitions (reqClause budget))

def poClause (requisition : PurchaseRequisition) (order : PurchaseOrder) : Sql.Truth :=
  Sql.all [Sql.eq requisition.budgetId (some budget.id), Sql.eq requisition.convertedPoId (some order.id),
    Sql.eq (some requisition.status) (some .converted), Sql.not (Sql.isIn (some order.status) (deadPoStatuses.map some))]

/-- `_committed_po_legs`, of one budget. -/
def committedPoLeg : Leg :=
  legColumns budget (fun row => row.2.total) (fun row => row.1.currency)
    (tables.requisitions.flatMap fun requisition =>
      (Sql.select tables.orders (poClause budget requisition)).map fun order => (requisition, order))

def invoiceClause (invoice : Invoice) : Sql.Truth :=
  Sql.all [Sql.eq (budget.dimension.matchColumn invoice) (some budget.dimensionValue),
    Sql.isIn (some invoice.status) (realisedInvoiceStatuses.map some),
    Sql.or (Sql.not (Sql.isNotNull budget.periodStart)) (Sql.or (Sql.not (Sql.isNotNull budget.periodEnd))
      (Sql.and (Sql.le budget.periodStart invoice.invoiceDate) (Sql.le invoice.invoiceDate budget.periodEnd))),
    Sql.or (Sql.not (Sql.isNotNull budget.entityId)) (Sql.eq invoice.entityId budget.entityId)]

/-- `_actual_invoice_legs`, of one budget. -/
def actualInvoiceLeg : Leg :=
  legColumns budget Invoice.amount Invoice.currency (Sql.select tables.invoices (invoiceClause budget))

/-- `_assemble_spend`. -/
def assembleSpend (req po actualLeg : Leg) : BudgetSpend :=
  let allocated := q (some budget.amount.value)
  let committed := req.total + po.total
  let actual := actualLeg.total
  { allocated
    committed
    actual
    remaining := allocated - committed - actual
    utilizationPct := if 0 < allocated then quantizeHalfEven ((committed + actual) / allocated * 100) else 0
    currency := budget.currency
    excludedRowCount := req.excluded + po.excluded + actualLeg.excluded }

/-- `compute_budget_spend`. -/
def computeBudgetSpend : BudgetSpend :=
  assembleSpend budget (committedRequisitionLeg budget tables) (committedPoLeg budget tables) (actualInvoiceLeg budget tables)

end Legs

def PurchaseRequisition.convertedTo (orderId : Nat) (requisition : PurchaseRequisition) : PurchaseRequisition :=
  { requisition with status := .converted, convertedPoId := some orderId }

def PurchaseOrder.cancelled (order : PurchaseOrder) : PurchaseOrder := { order with status := "cancelled" }

namespace BudgetTables

variable (tables : BudgetTables)

/-- A conversion of a requisition into a new order. -/
def convert (requisitionId : Nat) (order : PurchaseOrder) (fresh : order.id ∉ tables.orders.map (·.id)) : BudgetTables where
  requisitions := changeRow (·.id) requisitionId (PurchaseRequisition.convertedTo order.id) tables.requisitions
  orders := order :: tables.orders
  invoices := tables.invoices
  requisitionIds := by
    have keeps : ∀ requisition : PurchaseRequisition, (requisition.convertedTo order.id).id = requisition.id := fun _ => rfl
    rw [map_ident_changeRow keeps]
    exact tables.requisitionIds
  orderIds := List.nodup_cons.mpr ⟨fresh, tables.orderIds⟩
  linked := by
    intro requisition member id link
    obtain ⟨source, stored, ⟨_, rfl⟩ | ⟨_, rfl⟩⟩ := mem_changeRow member
    · exact ⟨order, List.mem_cons_self, Option.some.inj link⟩
    · obtain ⟨other, among, same⟩ := tables.linked requisition stored id link
      exact ⟨other, List.mem_cons_of_mem order among, same⟩

/-- The cancellation of an order. -/
def cancel (orderId : Nat) : BudgetTables where
  requisitions := tables.requisitions
  orders := changeRow (·.id) orderId PurchaseOrder.cancelled tables.orders
  invoices := tables.invoices
  requisitionIds := tables.requisitionIds
  orderIds := by
    have keeps : ∀ order : PurchaseOrder, order.cancelled.id = order.id := fun _ => rfl
    rw [map_ident_changeRow keeps]
    exact tables.orderIds
  linked := by
    intro requisition member id link
    obtain ⟨order, stored, same⟩ := tables.linked requisition member id link
    refine ⟨_, List.mem_map.mpr ⟨order, stored, rfl⟩, ?_⟩
    split
    · exact same
    · exact same

end BudgetTables

end Payables.Budgets
