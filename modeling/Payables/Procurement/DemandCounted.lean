import Mathlib.Tactic.Ring
import Payables.Money
import Payables.Procurement.Budgets

namespace Payables.Budgets
open Lib Procurement

namespace PurchaseRequisition

variable (budget : Budget) (requisition : PurchaseRequisition)

/-- In the currency of a budget that it is linked to. -/
def isOn : Bool := requisition.budgetId == some budget.id && requisition.currency == some budget.currency

def isOpen : Bool := openCommitmentReqStatuses.contains requisition.status

/-- A requisition of the budget that became the given order. -/
def became (orderId : Nat) : Bool :=
  requisition.isOn budget && requisition.status == .converted && requisition.convertedPoId == some orderId

end PurchaseRequisition

def PurchaseOrder.isLive (order : PurchaseOrder) : Bool := !deadPoStatuses.contains order.status

/-- Realised spend in the dimension, the period, the entity and the currency of a budget. -/
def Invoice.isRealised (budget : Budget) (invoice : Invoice) : Bool :=
  Sql.holds (invoiceClause budget invoice) && invoice.currency == some budget.currency

namespace BudgetTables

variable (tables : BudgetTables) (budget : Budget)

/-- Committed plus actual. -/
def spent : ℚ := (computeBudgetSpend budget tables).committed + (computeBudgetSpend budget tables).actual

/-- The requisitions of the budget that became the given order. -/
def sources (orderId : Nat) : List PurchaseRequisition := tables.requisitions.filter (·.became budget orderId)

/-- The live orders of the budget. -/
def counted : List PurchaseOrder := tables.orders.filter fun order => order.isLive && !(tables.sources budget order.id).isEmpty

def realised : List Invoice := tables.invoices.filter (·.isRealised budget)

/-- The live order of the budget that an invoice is billed against, by its number. -/
def billedOrder (invoice : Invoice) : Option PurchaseOrder :=
  (tables.counted budget).find? fun order => invoice.poNumber = some order.poNumber

def billed (orderId : Nat) : ℚ :=
  (((tables.realised budget).filter fun invoice => (tables.billedOrder budget invoice).map (·.id) = some orderId).map
    (·.amount.value)).sum

/-- Open requisitions, the larger of what each live order comes to and what is billed against it, and what is billed
against none. -/
def demand : ℚ :=
  ((tables.requisitions.filter fun requisition => requisition.isOn budget && requisition.isOpen).map (·.total.value)).sum +
    ((tables.counted budget).map fun order => max order.total.value (tables.billed budget order.id)).sum +
    (((tables.realised budget).filter fun invoice => (tables.billedOrder budget invoice).isNone).map (·.amount.value)).sum

/-- No invoice bears the number of the order. -/
def InvoiceFree (order : PurchaseOrder) : Prop := ∀ invoice ∈ tables.invoices, invoice.poNumber ≠ some order.poNumber

/-- The rollup of a budget counts each demand once, and keeps to it through conversions and cancellations. -/
structure CountsOnce : Prop where
  bound : tables.spent budget ≤ tables.demand budget
  converts : ∀ requisition ∈ tables.requisitions, requisition.status ≠ .converted → ∀ order fresh, order.isLive = true →
    order.total = requisition.total →
      (tables.convert requisition.id order fresh).spent budget = tables.spent budget ∨
        (tables.convert requisition.id order fresh).spent budget = tables.spent budget + order.total.value
  cancels : ∀ order ∈ tables.orders, tables.InvoiceFree order →
    (tables.cancel order.id).spent budget = tables.spent budget ∨
      (tables.cancel order.id).spent budget = tables.spent budget - order.total.value

/-- What a live order is counted for beyond its demand: its total with each requisition after the first, and whichever
is smaller of its total and what is billed against it. -/
def repeated (order : PurchaseOrder) : ℚ :=
  ((tables.sources budget order.id).length - 1) * order.total.value + min order.total.value (tables.billed budget order.id)

/-- Nothing is counted twice, on balance and for each order without an invoice. -/
structure NothingRepeated : Prop where
  balance : ((tables.counted budget).map (tables.repeated budget)).sum ≤ 0
  sourced : ∀ order ∈ tables.counted budget, tables.InvoiceFree order →
    (tables.sources budget order.id).length = 1 ∨ order.total.value = 0

end BudgetTables

section Spent

variable {budget : Budget} {tables : BudgetTables}

theorem quantizeHalfEven_onCents {value : ℚ} (cents : OnCents value) : quantizeHalfEven value = value := by
  obtain ⟨n, rfl⟩ := cents
  have scaled : (n : ℚ) / 100 * 100 = n := by ring
  rw [quantizeHalfEven, scaled, roundHalfEven_intCast]

theorem total_legColumns {ρ : Type} (amount : ρ → StoredMoney) (currency : ρ → Option String) (rows : List ρ) :
    (legColumns budget amount currency rows).total =
      ((rows.filter fun row => currency row == some budget.currency).map fun row => (amount row).value).sum := by
  have chosen : (Sql.select rows fun row => Sql.eq (currency row) (some budget.currency)) =
      rows.filter fun row => currency row == some budget.currency := by
    refine List.filter_congr fun row _ => ?_
    rw [Sql.holds_eq]
    exact (Bool.beq_eq_decide_eq _ _).symm
  have summed := Sql.coalesce_sum ((rows.filter fun row => currency row == some budget.currency).map fun row => (amount row).value)
  rw [List.map_map] at summed
  rw [legColumns, q, Option.getD_some, chosen]
  refine (congrArg quantizeHalfEven summed).trans (quantizeHalfEven_onCents (OnCents.sum fun value member => ?_))
  obtain ⟨row, _, rfl⟩ := List.mem_map.mp member
  exact (amount row).onCents

theorem holds_reqClause (requisition : PurchaseRequisition) :
    Sql.holds (reqClause budget requisition) = (requisition.budgetId == some budget.id && requisition.isOpen) := by
  rw [reqClause, Sql.holds_and, Sql.holds_eq, Sql.isIn_some, Sql.holds_some, Bool.beq_eq_decide_eq]
  rfl

theorem requisitionLeg_total : (committedRequisitionLeg budget tables).total =
    ((tables.requisitions.filter fun requisition => requisition.isOn budget && requisition.isOpen).map (·.total.value)).sum := by
  rw [committedRequisitionLeg, total_legColumns, Sql.select, List.filter_filter]
  refine congrArg (fun rows => (List.map (fun row : PurchaseRequisition => row.total.value) rows).sum) (List.filter_congr fun requisition _ => ?_)
  rw [holds_reqClause, PurchaseRequisition.isOn]
  cases requisition.budgetId == some budget.id <;> cases requisition.currency == some budget.currency <;> simp

theorem holds_poClause (requisition : PurchaseRequisition) (order : PurchaseOrder) :
    (Sql.holds (poClause budget requisition order) && requisition.currency == some budget.currency) =
      (order.isLive && requisition.became budget order.id) := by
  rw [poClause, Sql.holds_all]
  simp only [List.all_cons, List.all_nil, Bool.and_true, Sql.holds_eq, Sql.holds_notIn, Option.some.injEq]
  rw [PurchaseRequisition.became, PurchaseRequisition.isOn, PurchaseOrder.isLive]
  simp only [Bool.beq_eq_decide_eq]
  grind

/-- What a requisition that became live orders is counted for. -/
def ordered (budget : Budget) (orders : List PurchaseOrder) (requisition : PurchaseRequisition) : ℚ :=
  (orders.map fun order => if order.isLive && requisition.became budget order.id then order.total.value else 0).sum

theorem poLeg_total : (committedPoLeg budget tables).total = (tables.requisitions.map (ordered budget tables.orders)).sum := by
  rw [committedPoLeg, total_legColumns, List.filter_flatMap, Sql.sum_flatMap]
  refine congrArg List.sum (List.map_congr_left fun requisition _ => ?_)
  rw [Sql.select, List.filter_map, List.map_map, List.filter_filter]
  refine (Sql.sum_filter _ _ tables.orders).trans (congrArg List.sum (List.map_congr_left fun order _ => ?_))
  simp only [Function.comp_apply]
  rw [← holds_poClause, Bool.and_comm]

/-- An order is counted with each requisition of the budget that became it. -/
theorem sum_ordered : (tables.requisitions.map (ordered budget tables.orders)).sum =
    ((tables.counted budget).map fun order => ((tables.sources budget order.id).length : ℚ) * order.total.value).sum := by
  refine (Sql.sum_comm _ _ fun (requisition : PurchaseRequisition) (order : PurchaseOrder) =>
    if order.isLive && requisition.became budget order.id then order.total.value else 0).trans ?_
  rw [BudgetTables.counted, Sql.sum_filter]
  refine congrArg List.sum (List.map_congr_left fun order _ => ?_)
  rw [BudgetTables.sources]
  cases live : order.isLive with
  | false => simp
  | true =>
    simp only [Bool.true_and]
    rw [← Sql.sum_filter (fun requisition : PurchaseRequisition => requisition.became budget order.id) fun _ => order.total.value]
    simp only [List.map_const', List.sum_replicate, nsmul_eq_mul]
    by_cases none : tables.requisitions.filter (·.became budget order.id) = []
    · simp [none]
    · simp [none]

theorem invoiceLeg_total :
    (actualInvoiceLeg budget tables).total = ((tables.realised budget).map (·.amount.value)).sum := by
  rw [actualInvoiceLeg, total_legColumns, Sql.select, List.filter_filter, BudgetTables.realised]
  refine congrArg (fun rows => (List.map (fun row : Invoice => row.amount.value) rows).sum) (List.filter_congr fun invoice _ => ?_)
  exact Bool.and_comm _ _

/-- What one requisition is counted for, open or as an order. -/
def standsFor (budget : Budget) (orders : List PurchaseOrder) (requisition : PurchaseRequisition) : ℚ :=
  (if requisition.isOn budget && requisition.isOpen then requisition.total.value else 0) + ordered budget orders requisition

theorem spent_eq : tables.spent budget =
    (tables.requisitions.map (standsFor budget tables.orders)).sum + ((tables.realised budget).map (·.amount.value)).sum := by
  have legs : (tables.requisitions.map (standsFor budget tables.orders)).sum =
      (committedRequisitionLeg budget tables).total + (committedPoLeg budget tables).total := by
    rw [requisitionLeg_total, poLeg_total, Sql.sum_filter, ← List.sum_map_add]
    rfl
  rw [legs, ← invoiceLeg_total]
  rfl

/-- Each invoice billed against a counted order is billed against exactly one. -/
theorem billed_total : ((tables.realised budget).map (·.amount.value)).sum =
    ((tables.counted budget).map fun order => tables.billed budget order.id).sum +
      (((tables.realised budget).filter fun invoice => (tables.billedOrder budget invoice).isNone).map (·.amount.value)).sum := by
  have distinct : ((tables.counted budget).map fun order => some order.id).Nodup := by
    have ids : ((tables.counted budget).map (·.id)).Nodup := (List.filter_sublist.map _).nodup tables.orderIds
    have lifted := ids.map (Option.some_injective Nat)
    rwa [List.map_map] at lifted
  have groups := Sql.sum_groups (fun invoice => (tables.billedOrder budget invoice).map (·.id))
    (fun invoice : Invoice => invoice.amount.value) (tables.realised budget) _ distinct
  rw [List.map_map] at groups
  have counted : ∀ invoice, decide ((tables.billedOrder budget invoice).map (·.id) ∈
      (tables.counted budget).map fun order => some order.id) = !(tables.billedOrder budget invoice).isNone := by
    intro invoice
    cases found : tables.billedOrder budget invoice with
    | none => simp
    | some order =>
      have member : order ∈ tables.counted budget := List.mem_of_find?_eq_some found
      simpa using ⟨order, member, rfl⟩
  rw [← Sql.sum_filter_not fun invoice => (tables.billedOrder budget invoice).isNone, add_comm]
  refine congrArg₂ (· + ·) ?_ rfl
  refine Eq.trans (congrArg (fun rows => (List.map (fun invoice : Invoice => invoice.amount.value) rows).sum) ?_) groups.symm
  exact List.filter_congr fun invoice _ => (counted invoice).symm.trans (by congr)

/-- What a rollup counts beyond the demand is what it repeats. -/
theorem spent_eq_demand_add : tables.spent budget =
    tables.demand budget + ((tables.counted budget).map (tables.repeated budget)).sum := by
  have orders : ((tables.counted budget).map fun order =>
      ((tables.sources budget order.id).length : ℚ) * order.total.value).sum +
        ((tables.counted budget).map fun order => tables.billed budget order.id).sum =
      ((tables.counted budget).map fun order => max order.total.value (tables.billed budget order.id)).sum +
        ((tables.counted budget).map (tables.repeated budget)).sum := by
    rw [← List.sum_map_add, ← List.sum_map_add]
    refine congrArg List.sum (List.map_congr_left fun order _ => ?_)
    have larger := max_add_min order.total.value (tables.billed budget order.id)
    rw [BudgetTables.repeated]
    linarith
  have counts : tables.spent budget =
      (committedRequisitionLeg budget tables).total + (committedPoLeg budget tables).total +
        (actualInvoiceLeg budget tables).total := rfl
  rw [counts, requisitionLeg_total, poLeg_total, sum_ordered, invoiceLeg_total, billed_total, BudgetTables.demand]
  linarith

theorem bound_iff : tables.spent budget ≤ tables.demand budget ↔
    ((tables.counted budget).map (tables.repeated budget)).sum ≤ 0 := by
  rw [spent_eq_demand_add]
  exact add_le_iff_nonpos_right _

end Spent

section Conversion

variable {budget : Budget} {tables : BudgetTables}

/-- A requisition that is not converted stands for no order. -/
theorem ordered_unconverted {requisition : PurchaseRequisition} (unconverted : requisition.status ≠ .converted)
    (orders : List PurchaseOrder) : ordered budget orders requisition = 0 := by
  refine List.sum_eq_zero fun value member => ?_
  obtain ⟨order, _, rfl⟩ := List.mem_map.mp member
  simp [PurchaseRequisition.became, unconverted]

/-- A requisition stands for the one order it became. -/
theorem ordered_convertedTo {order : PurchaseOrder} (live : order.isLive = true) {orders : List PurchaseOrder}
    (fresh : order.id ∉ orders.map (·.id)) (requisition : PurchaseRequisition) :
    ordered budget (order :: orders) (requisition.convertedTo order.id) =
      if requisition.isOn budget then order.total.value else 0 := by
  have others : ordered budget orders (requisition.convertedTo order.id) = 0 := by
    refine List.sum_eq_zero fun value member => ?_
    obtain ⟨other, stored, rfl⟩ := List.mem_map.mp member
    have apart : order.id ≠ other.id := fun same => fresh (List.mem_map.mpr ⟨other, stored, same.symm⟩)
    simp [PurchaseRequisition.became, PurchaseRequisition.convertedTo, apart]
  rw [ordered, List.map_cons, List.sum_cons, live]
  refine (congrArg (_ + ·) others).trans ((add_zero _).trans ?_)
  simp [PurchaseRequisition.became, PurchaseRequisition.convertedTo, PurchaseRequisition.isOn]

/-- An order that is not there yet stands for no requisition that is. -/
theorem standsFor_fresh {order : PurchaseOrder} (fresh : order.id ∉ tables.orders.map (·.id))
    {requisition : PurchaseRequisition} (stored : requisition ∈ tables.requisitions) :
    standsFor budget (order :: tables.orders) requisition = standsFor budget tables.orders requisition := by
  have apart : requisition.convertedPoId ≠ some order.id := by
    intro link
    obtain ⟨other, among, same⟩ := tables.linked requisition stored order.id link
    exact fresh (List.mem_map.mpr ⟨other, among, same⟩)
  rw [standsFor, standsFor, ordered, List.map_cons, List.sum_cons]
  simp [PurchaseRequisition.became, apart, ordered]

/-- A requisition that becomes an order leaves the open ones and stands for the order. -/
theorem convert_spent {requisition : PurchaseRequisition} (stored : requisition ∈ tables.requisitions)
    (unconverted : requisition.status ≠ .converted) {order : PurchaseOrder} (fresh : order.id ∉ tables.orders.map (·.id))
    (live : order.isLive = true) (same : order.total = requisition.total) :
    (tables.convert requisition.id order fresh).spent budget = tables.spent budget +
      if requisition.isOn budget && !requisition.isOpen then order.total.value else 0 := by
  have before : standsFor budget (order :: tables.orders) requisition =
      if requisition.isOn budget && requisition.isOpen then requisition.total.value else 0 := by
    rw [standsFor, ordered_unconverted unconverted, add_zero]
  have after : standsFor budget (order :: tables.orders) (requisition.convertedTo order.id) =
      if requisition.isOn budget then order.total.value else 0 := by
    rw [standsFor, ordered_convertedTo live fresh]
    simp [PurchaseRequisition.convertedTo, PurchaseRequisition.isOpen, openCommitmentReqStatuses]
  have keeps : (requisition.convertedTo order.id).id = requisition.id := rfl
  have rows : ((tables.convert requisition.id order fresh).requisitions.map
      (standsFor budget (order :: tables.orders))).sum = _ :=
    sum_changeRow (standsFor budget (order :: tables.orders)) tables.requisitionIds stored keeps
  rw [List.map_congr_left fun _ => standsFor_fresh fresh, before, after] at rows
  have invoices : (tables.convert requisition.id order fresh).realised budget = tables.realised budget := rfl
  rw [spent_eq, spent_eq, show (tables.convert requisition.id order fresh).orders = order :: tables.orders from rfl, rows,
    invoices, same]
  cases requisition.isOn budget with
  | false => simp
  | true => cases requisition.isOpen with
    | false => simp only [Bool.and_false, Bool.false_eq_true, if_false, Bool.not_false, Bool.and_true, if_true]; ring
    | true => simp

/-- An order that is cancelled stands for none of its requisitions any more. -/
theorem cancel_spent {order : PurchaseOrder} (stored : order ∈ tables.orders) :
    (tables.cancel order.id).spent budget = tables.spent budget -
      if order.isLive then ((tables.sources budget order.id).length : ℚ) * order.total.value else 0 := by
  have keeps : order.cancelled.id = order.id := rfl
  have dead : order.cancelled.isLive = false := by simp [PurchaseOrder.cancelled, PurchaseOrder.isLive, deadPoStatuses]
  have row : ∀ requisition, standsFor budget tables.orders requisition =
      standsFor budget (tables.cancel order.id).orders requisition +
        if order.isLive && requisition.became budget order.id then order.total.value else 0 := by
    intro requisition
    have changed : ordered budget (tables.cancel order.id).orders requisition = _ :=
      sum_changeRow (fun order : PurchaseOrder => if order.isLive && requisition.became budget order.id then order.total.value else 0)
        tables.orderIds stored keeps
    rw [standsFor, standsFor, changed, dead, ordered, Bool.false_and, if_neg Bool.false_ne_true]
    ring
  have all : (tables.requisitions.map fun requisition : PurchaseRequisition =>
      if order.isLive && requisition.became budget order.id then order.total.value else 0).sum =
      if order.isLive then ((tables.sources budget order.id).length : ℚ) * order.total.value else 0 := by
    cases order.isLive with
    | false => simp
    | true =>
      simp only [Bool.true_and, if_true]
      rw [← Sql.sum_filter (fun requisition : PurchaseRequisition => requisition.became budget order.id) fun _ => order.total.value]
      simp [BudgetTables.sources]
  have total := congrArg List.sum (List.map_congr_left fun requisition (_ : requisition ∈ tables.requisitions) => row requisition)
  rw [List.sum_map_add, all] at total
  rw [spent_eq, spent_eq, total]
  have regroup : ∀ a b c : ℚ, a + c = a + b + c - b := fun a b c => by ring
  exact regroup _ _ _

end Conversion

namespace BudgetTables

variable {tables : BudgetTables} {budget : Budget}

theorem length_sources {order : PurchaseOrder} (member : order ∈ tables.counted budget) :
    1 ≤ (tables.sources budget order.id).length := by
  have sourced := (Bool.and_eq_true_iff.mp (List.mem_filter.mp member).2).2
  have filled : tables.sources budget order.id ≠ [] := by simpa using sourced
  exact List.length_pos_iff.mpr filled

theorem repeated_nonneg (orders : ∀ order ∈ tables.orders, 0 ≤ order.total.value)
    (invoices : ∀ invoice ∈ tables.invoices, 0 ≤ invoice.amount.value) {order : PurchaseOrder}
    (member : order ∈ tables.counted budget) :
    0 ≤ (((tables.sources budget order.id).length : ℚ) - 1) * order.total.value ∧
      0 ≤ min order.total.value (tables.billed budget order.id) := by
  have total := orders order (List.mem_of_mem_filter member)
  have sources : (1 : ℚ) ≤ (tables.sources budget order.id).length := by exact_mod_cast length_sources member
  have billed : 0 ≤ tables.billed budget order.id := by
    refine List.sum_nonneg fun value among => ?_
    obtain ⟨invoice, chosen, rfl⟩ := List.mem_map.mp among
    exact invoices invoice (List.mem_of_mem_filter (List.mem_of_mem_filter chosen))
  exact ⟨mul_nonneg (sub_nonneg.mpr sources) total, le_min total billed⟩

/-- Where no amount is negative, nothing is repeated exactly where each order of the budget that comes to anything has
one source and nothing realised billed against it. -/
theorem nothingRepeated_iff (orders : ∀ order ∈ tables.orders, 0 ≤ order.total.value)
    (invoices : ∀ invoice ∈ tables.invoices, 0 ≤ invoice.amount.value) : tables.NothingRepeated budget ↔
      ∀ order ∈ tables.counted budget, order.total.value ≠ 0 →
        (tables.sources budget order.id).length = 1 ∧ tables.billed budget order.id = 0 := by
  have parts : ∀ order ∈ tables.counted budget, _ := fun order member => repeated_nonneg orders invoices member
  constructor
  · intro once order member comes
    have each : ∀ value ∈ (tables.counted budget).map (tables.repeated budget), 0 ≤ value := by
      intro value among
      obtain ⟨other, counted, rfl⟩ := List.mem_map.mp among
      exact add_nonneg (parts other counted).1 (parts other counted).2
    have nothing : tables.repeated budget order = 0 :=
      List.all_zero_of_le_zero_le_of_sum_eq_zero each (le_antisymm once.balance (List.sum_nonneg each))
        (List.mem_map_of_mem member)
    obtain ⟨twice, billed⟩ := (add_eq_zero_iff_of_nonneg (parts order member).1 (parts order member).2).mp nothing
    have total := (orders order (List.mem_of_mem_filter member)).lt_of_ne comes.symm
    refine ⟨?_, ?_⟩
    · have single := (mul_eq_zero.mp twice).resolve_right comes
      exact_mod_cast sub_eq_zero.mp single
    · rcases min_choice order.total.value (tables.billed budget order.id) with left | right
      · exact absurd (left.symm.trans billed) comes
      · exact right.symm.trans billed
  · intro once
    have nothing : ∀ order ∈ tables.counted budget, tables.repeated budget order = 0 := by
      intro order member
      by_cases comes : order.total.value = 0
      · have billed := (parts order member).2
        rw [comes] at billed
        rw [repeated, comes, mul_zero, zero_add]
        exact le_antisymm (min_le_left _ _) billed
      · obtain ⟨single, unbilled⟩ := once order member comes
        rw [repeated, single, unbilled, Nat.cast_one, sub_self, zero_mul, zero_add]
        exact min_eq_right (orders order (List.mem_of_mem_filter member))
    refine ⟨?_, fun order member _ => ?_⟩
    · rw [List.map_congr_left nothing]
      simp
    · by_cases comes : order.total.value = 0
      · exact .inr comes
      · exact .inl (once order member comes).1

/-- Demand is counted once exactly where no order is counted beyond its demand, on balance and wherever it has no
invoice. -/
theorem counts_once_iff (tables : BudgetTables) (budget : Budget) : tables.CountsOnce budget ↔ tables.NothingRepeated budget := by
  constructor
  · intro once
    refine ⟨bound_iff.mp once.bound, fun order member free => ?_⟩
    obtain ⟨stored, standing⟩ := List.mem_filter.mp member
    have change := @cancel_spent budget tables order stored
    rw [if_pos (Bool.and_eq_true_iff.mp standing).1] at change
    have sources : ((tables.sources budget order.id).length : ℚ) ≠ 0 := by
      exact_mod_cast Nat.one_le_iff_ne_zero.mp (length_sources member)
    rcases once.cancels order stored free with kept | less
    · have nothing : ((tables.sources budget order.id).length : ℚ) * order.total.value = 0 := by linarith
      exact .inr ((mul_eq_zero.mp nothing).resolve_left sources)
    · have nothing : (((tables.sources budget order.id).length : ℚ) - 1) * order.total.value = 0 := by linarith
      rcases mul_eq_zero.mp nothing with single | zero
      · exact .inl (by exact_mod_cast sub_eq_zero.mp single)
      · exact .inr zero
  · intro once
    refine ⟨bound_iff.mpr once.balance, fun requisition stored unconverted order fresh live same => ?_, fun order stored free => ?_⟩
    · rw [convert_spent stored unconverted fresh live same]
      split
      · exact .inr rfl
      · exact .inl (add_zero _)
    · rw [cancel_spent stored]
      by_cases member : order ∈ tables.counted budget
      · rcases once.sourced order member free with single | zero
        · rw [single, Nat.cast_one, one_mul]
          split
          · exact .inr rfl
          · exact .inl (sub_zero _)
        · rw [zero, mul_zero, ite_self]
          exact .inl (sub_zero _)
      · have gone : order.isLive = true → tables.sources budget order.id = [] := by
          intro live
          by_contra sourced
          exact member (List.mem_filter.mpr ⟨stored, by simpa [live] using sourced⟩)
        split
        next live => exact .inl (by rw [gone live, List.length_nil, Nat.cast_zero, zero_mul, sub_zero])
        next => exact .inl (sub_zero _)

end BudgetTables

def hundred : StoredMoney := ⟨10000, by decide⟩

theorem limit_fits : |(100000 : ℤ)| < 10 ^ 15 := by decide

def research : Budget :=
  ⟨1, .department, "R&D", none, none, ⟨100000, limit_fits⟩, "USD", none⟩

def bench : PurchaseOrder := ⟨5, "PO-5", hundred, "open"⟩

/-- An order of 100, converted from a requisition of the budget and invoiced in full. -/
def benchInvoiced : BudgetTables where
  requisitions := [⟨3, some 1, .converted, hundred, some "USD", some 5⟩]
  orders := [bench]
  invoices := [⟨none, none, none, some "R&D", none, .approved, none, some "PO-5", hundred, some "USD"⟩]
  requisitionIds := List.nodup_singleton _
  orderIds := List.nodup_singleton _
  linked := by decide

theorem bench_counted_twice : ¬∀ (tables : BudgetTables) (budget : Budget), tables.CountsOnce budget := by
  intro always
  have balance := bound_iff.mp (always benchInvoiced research).bound
  have order : benchInvoiced.counted research = [bench] := rfl
  have source : (benchInvoiced.sources research bench.id).length = 1 := rfl
  have billed : benchInvoiced.billed research bench.id = hundred.value + 0 := rfl
  rw [order, List.map_singleton, List.sum_singleton, BudgetTables.repeated, source, billed] at balance
  norm_num [bench, hundred, StoredMoney.value] at balance

end Payables.Budgets
