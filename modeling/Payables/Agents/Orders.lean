import Mathlib.Data.List.Sublists
import Payables.Lib.Rows
import Payables.Workflow.Invoice

namespace Payables
open Lib

abbrev OrderId := Nat
abbrev EntityId := Nat

/-- `date.toordinal`. -/
abbrev Day := Int

/-- `created_at.date()`. -/
def Time.day (time : Time) : Day := time / 86400000000

/-- `Decimal.quantize(Decimal("0.01"))`. -/
def quantizeHalfEven (value : ℚ) : ℚ := roundHalfEven (value * 100) / 100

/-- A `PurchaseOrder` with the quantities of its lines. -/
structure PurchaseOrder where
  id : OrderId
  poNumber : String
  vendorId : Option VendorId
  entityId : Option EntityId
  total : ℚ
  status : String
  createdAt : Time
  quantities : List (Option ℚ)
  deriving DecidableEq

/-- A `GoodsReceipt` with the quantities of its lines. -/
structure GoodsReceipt where
  id : Nat
  poId : Option OrderId
  entityId : Option EntityId
  status : String
  createdAt : Time
  quantities : List (Option ℚ)
  deriving DecidableEq

structure QualityInspection where
  id : Nat
  poId : Option OrderId
  grId : Option Nat
  result : String
  acceptedQuantity : Option ℚ
  createdAt : Time
  deriving DecidableEq

/-- The procurement tables that a match reads. -/
structure OrderBook where
  orders : List PurchaseOrder
  receipts : List GoodsReceipt
  inspections : List QualityInspection
  idsNodup : (orders.map (·.id)).Nodup
  deriving DecidableEq

/-- `order_by(created_at.desc()).limit(1)`. -/
def newest {ρ : Type} (createdAt : ρ → Time) : List ρ → Option ρ
  | [] => none
  | row :: rest =>
    match newest createdAt rest with
    | none => some row
    | some other => if createdAt row < createdAt other then some other else some row

/-- `apply_entity_scope`, without the shared rows. -/
def inEntityScope (entityId : Option EntityId) (rowEntity : Option EntityId) : Bool :=
  match entityId with
  | none => true
  | some id => rowEntity == some id

/-- One layer of the match rules: a vendor's, a commodity's or the organisation's. -/
structure MatchRuleLayer where
  requireInspection : Option Bool
  tolerancePct : RawMoney
  deriving DecidableEq

def MatchRuleLayer.empty : MatchRuleLayer := ⟨none, .unset⟩

/-- `settings.matching`. -/
structure MatchingSettings where
  vendorRules : List (VendorId × MatchRuleLayer)
  commodityRules : List (String × MatchRuleLayer)
  org : MatchRuleLayer
  deriving DecidableEq

/-- `_coerce_tolerance`. -/
def MatchRuleLayer.tolerance (layer : MatchRuleLayer) : Option ℚ :=
  match layer.tolerancePct with
  | .number (.finite value) => some value
  | _ => none

/-- `EffectiveMatchRule`. -/
structure EffectiveMatchRule where
  requireInspection : Bool
  tolerancePct : ℚ
  deriving DecidableEq

/-- `resolve_match_rule`: each field from the first layer that has it. -/
def resolveMatchRule (settings : MatchingSettings) (vendorId : Option VendorId) (glAccount : Option String) : EffectiveMatchRule :=
  let vendorRule := (vendorId.bind fun id => List.lookup id settings.vendorRules).getD .empty
  let commodityRule := (glAccount.bind fun account => List.lookup account settings.commodityRules).getD .empty
  let layers := [vendorRule, commodityRule, settings.org]
  { requireInspection := (layers.findSome? (·.requireInspection)).getD false
    tolerancePct := (layers.findSome? (·.tolerance)).getD 5 }

inductive MatchType
  | unmatched
  | twoWay
  | threeWay
  | fourWay
  deriving DecidableEq

inductive MatchStatus
  | noPo
  | matched
  | mismatch
  | partly
  deriving DecidableEq

/-- The stored spelling. -/
def MatchStatus.value : MatchStatus → String
  | noPo => "no_po"
  | matched => "matched"
  | mismatch => "mismatch"
  | partly => "partial"

/-- `MatchResult`, without its texts. -/
structure MatchResult where
  matchType : MatchType
  status : MatchStatus
  poId : Option OrderId
  poNumber : Option String
  poTotal : Option ℚ
  grId : Option Nat
  amountVariance : ℚ
  amountVariancePct : ℚ
  withinTolerance : Bool
  inspectionId : Option Nat
  inspectionResult : Option String
  inspectionAcceptedQuantity : Option ℚ
  inspectionRequired : Bool
  overReceipt : Bool
  orderedQuantity : Option ℚ
  receivedQuantity : Option ℚ
  deriving DecidableEq

/-- `MatchResult()`. -/
def MatchResult.empty : MatchResult :=
  ⟨.unmatched, .noPo, none, none, none, none, 0, 0, false, none, none, none, false, false, none, none⟩

/-- What `match_invoice_to_po` reads of an invoice. -/
structure MatchKey where
  poNumber : Option String
  vendorId : Option VendorId
  entityId : Option EntityId
  amount : ℚ
  deriving DecidableEq

/-- `CANCELLED_GR_STATUSES`. -/
def cancelledReceiptStatuses : List String := ["cancelled", "canceled", "void", "voided", "reversed"]

def GoodsReceipt.isLive (receipt : GoodsReceipt) : Bool :=
  !cancelledReceiptStatuses.contains (String.ofList (receipt.status.toList.map Char.toLower))

namespace OrderBook

variable (book : OrderBook)

/-- `scalar_one_or_none` of a lookup by primary key. -/
def orderById (id : OrderId) : Option PurchaseOrder := getRow PurchaseOrder.id id book.orders

/-- `PurchaseOrder.id.in_(ids)`. -/
def ordersByIds (ids : List OrderId) : List PurchaseOrder := book.orders.filter fun order => ids.contains order.id

/-- The order of a number, in the entity and of the vendor of the invoice when it has them. -/
def findOrder (key : MatchKey) (number : String) : Option PurchaseOrder :=
  newest PurchaseOrder.createdAt (book.orders.filter fun order =>
    order.poNumber == number && inEntityScope key.entityId order.entityId && (key.vendorId.isNone || order.vendorId == key.vendorId))

def liveReceipts (key : MatchKey) (order : PurchaseOrder) : List GoodsReceipt :=
  book.receipts.filter fun receipt => receipt.poId == some order.id && receipt.isLive && inEntityScope key.entityId receipt.entityId

def quantitySum (quantities : List (Option ℚ)) : ℚ := (quantities.map (·.getD 0)).sum

/-- The two-way leg. -/
def compareAmounts (key : MatchKey) (order : PurchaseOrder) (tolerance : ℚ) : MatchResult :=
  let variance := key.amount - order.total
  let variancePct := if 0 < order.total then variance / order.total * 100 else if 0 < key.amount then 100 else 0
  { MatchResult.empty with
    matchType := .twoWay
    status := if |variancePct| ≤ tolerance then .matched else .mismatch
    poId := some order.id
    poNumber := some order.poNumber
    poTotal := some order.total
    amountVariance := variance
    amountVariancePct := variancePct
    withinTolerance := |variancePct| ≤ tolerance }

/-- The receipt leg. -/
def compareReceipts (order : PurchaseOrder) (receipts : List GoodsReceipt) (result : MatchResult) : MatchResult :=
  match newest GoodsReceipt.createdAt receipts with
  | none => result
  | some receipt =>
    let seen := { result with matchType := .threeWay, grId := some receipt.id }
    if order.quantities = [] ∨ ∀ other ∈ receipts, other.quantities = [] then seen
    else
      let ordered := quantitySum order.quantities
      let received := (receipts.map fun other => quantitySum other.quantities).sum
      let counted := { seen with orderedQuantity := some ordered, receivedQuantity := some received }
      if 0 < ordered ∧ received < ordered then
        { counted with status := if counted.status = .matched then .partly else counted.status }
      else { counted with overReceipt := decide (0 < ordered ∧ ordered < received) }

/-- The inspection that counts: of the receipt, else one of the order alone. -/
def findInspection (order : PurchaseOrder) (grId : Option Nat) : Option QualityInspection :=
  let ofReceipt := grId.bind fun id =>
    newest QualityInspection.createdAt (book.inspections.filter fun inspection => inspection.grId == some id)
  ofReceipt.orElse fun _ => newest QualityInspection.createdAt
    (book.inspections.filter fun inspection => inspection.poId == some order.id && inspection.grId.isNone)

/-- The inspection leg. -/
def compareInspection (inspection : Option QualityInspection) (requireInspection : Bool) (result : MatchResult) : MatchResult :=
  match inspection with
  | none => { result with inspectionRequired := requireInspection }
  | some inspection =>
    { result with
      matchType := .fourWay
      inspectionId := some inspection.id
      inspectionResult := some inspection.result
      inspectionAcceptedQuantity := inspection.acceptedQuantity
      status :=
        if inspection.result = "fail" then .mismatch
        else if inspection.result = "partial" ∧ result.status = .matched then .partly
        else result.status }

/-- `match_invoice_to_po`. -/
def matchInvoiceToPo (key : MatchKey) (tolerance : ℚ) (requireInspection : Bool) : MatchResult :=
  match key.poNumber.filter (· != "") with
  | none => .empty
  | some number =>
    match book.findOrder key number with
    | none => .empty
    | some order =>
      let received := compareReceipts order (book.liveReceipts key order) (compareAmounts key order tolerance)
      compareInspection (book.findInspection order received.grId) requireInspection received

end OrderBook

/-- `_within_amount_band` of the missing-PO resolver: the variance as a share of the order. -/
def withinOrderBand (poTotal invoiceAmount tolPct : ℚ) : Bool :=
  decide (0 < poTotal) && decide (|invoiceAmount - poTotal| / poTotal * 100 ≤ tolPct)

/-- `_within_amount_band` of the split resolver: the variance as a share of the invoice. -/
def withinInvoiceBand (combined target tolPct : ℚ) : Bool :=
  decide (0 < target) && decide (|combined - target| / target * 100 ≤ tolPct)

/-- `_within_date_window`. -/
def withinDateWindow (poCreated : Day) (invoiceDate : Option Day) (lookbackDays : Int) : Bool :=
  match invoiceDate with
  | none => true
  | some date => decide (date - lookbackDays ≤ poCreated) && decide (poCreated ≤ date + 5)

/-- `_MAX_CANDIDATES`. -/
def maxCandidates : Nat := 12

/-- `_MAX_SET_SIZE`. -/
def maxSetSize : Nat := 4

/-- What `find_po_subset` answers: the pool is too large to search, or the one set that sums up, if there is
exactly one. -/
inductive SubsetSearch
  | tooLarge (size : Nat)
  | found (subset : Option (List PurchaseOrder))
  deriving DecidableEq

/-- The sum of the totals, in cents. -/
def combinedTotal (orders : List PurchaseOrder) : ℚ :=
  quantizeHalfEven (orders.map fun order => quantizeHalfEven order.total).sum

/-- The sets of two to four orders of the pool whose totals sum up to the target. -/
def subsetMatches (pool : List PurchaseOrder) (target tolPct : ℚ) : List (List PurchaseOrder) :=
  ((List.range' 2 (min maxSetSize pool.length - 1)).flatMap fun size => pool.sublistsLen size).filter fun subset =>
    withinInvoiceBand (combinedTotal subset) target tolPct

/-- `find_po_subset`. -/
def findPoSubset (pool : List PurchaseOrder) (target tolPct : ℚ) : SubsetSearch :=
  if target ≤ 0 then .found none
  else if maxCandidates < pool.length then .tooLarge pool.length
  else
    match subsetMatches pool target tolPct with
    | [subset] => .found (some subset)
    | _ => .found none

/-- The one set of two to four orders of a pool whose totals sum up to the target. -/
structure UniqueSubset (pool : List PurchaseOrder) (target tolPct : ℚ) (subset : List PurchaseOrder) : Prop where
  part : subset.Sublist pool
  several : 2 ≤ subset.length
  bounded : subset.length ≤ maxSetSize
  sums : withinInvoiceBand (combinedTotal subset) target tolPct = true
  only : ∀ other, other.Sublist pool → 2 ≤ other.length → other.length ≤ maxSetSize →
    withinInvoiceBand (combinedTotal other) target tolPct = true → other = subset

theorem mem_subsetMatches {pool subset : List PurchaseOrder} {target tolPct : ℚ} : subset ∈ subsetMatches pool target tolPct ↔
    subset.Sublist pool ∧ 2 ≤ subset.length ∧ subset.length ≤ maxSetSize ∧
      withinInvoiceBand (combinedTotal subset) target tolPct = true := by
  simp only [subsetMatches, List.mem_filter, List.mem_flatMap, List.mem_range'_1, List.mem_sublistsLen]
  constructor
  · rintro ⟨⟨size, range, part, rfl⟩, sums⟩
    exact ⟨part, range.1, by omega, sums⟩
  · rintro ⟨part, several, bounded, sums⟩
    have short := part.length_le
    exact ⟨⟨subset.length, ⟨several, by omega⟩, part, rfl⟩, sums⟩

/-- The search answers with a set only when there is no other. -/
theorem findPoSubset_found {pool subset : List PurchaseOrder} {target tolPct : ℚ}
    (found : findPoSubset pool target tolPct = .found (some subset)) : UniqueSubset pool target tolPct subset := by
  unfold findPoSubset at found
  split at found
  · cases found
  split at found
  · cases found
  split at found
  · next only =>
    cases found
    have member : subset ∈ subsetMatches pool target tolPct := by
      rw [only]
      exact List.mem_singleton_self _
    obtain ⟨part, several, bounded, sums⟩ := mem_subsetMatches.mp member
    refine ⟨part, several, bounded, sums, fun other inPool two four close => ?_⟩
    have also := mem_subsetMatches.mpr ⟨inPool, two, four, close⟩
    rw [only] at also
    exact List.mem_singleton.mp also
  · cases found

namespace OrderBook

variable {book : OrderBook} {key : MatchKey} {tolerance : ℚ} {requireInspection : Bool}

theorem orderById_some {id : OrderId} {order : PurchaseOrder} (found : book.orderById id = some order) :
    order ∈ book.orders ∧ order.id = id := getRow_some found

theorem orderById_of_mem {order : PurchaseOrder} (member : order ∈ book.orders) : book.orderById order.id = some order :=
  getRow_of_mem book.idsNodup member

/-- The receipts and inspections of an order never turn another status into `matched`. -/
theorem compareReceipts_matched {order : PurchaseOrder} {receipts : List GoodsReceipt} {result : MatchResult}
    (matched : (compareReceipts order receipts result).status = .matched) : result.status = .matched := by
  unfold compareReceipts at matched
  split at matched
  · exact matched
  · simp only at matched
    split at matched
    · exact matched
    split at matched
    · simp only at matched
      split at matched
      · cases matched
      · exact matched
    · exact matched

theorem compareInspection_matched {inspection : Option QualityInspection} {result : MatchResult}
    (matched : (compareInspection inspection requireInspection result).status = .matched) : result.status = .matched := by
  unfold compareInspection at matched
  split at matched
  · exact matched
  · simp only at matched
    split at matched
    · cases matched
    split at matched
    · cases matched
    · exact matched

/-- A match is the match of an order of that number, close to the amount. -/
theorem matchInvoiceToPo_matched (matched : (book.matchInvoiceToPo key tolerance requireInspection).status = .matched) :
    ∃ number order, key.poNumber = some number ∧ book.findOrder key number = some order ∧
      (compareAmounts key order tolerance).status = .matched := by
  unfold matchInvoiceToPo at matched
  split at matched
  · cases matched
  · next number named =>
    split at matched
    · cases matched
    · next order found =>
      obtain ⟨same, _⟩ := Option.filter_eq_some_iff.mp named
      exact ⟨number, order, same, found, compareReceipts_matched (compareInspection_matched matched)⟩

/-- A positive amount that matches is within the tolerance of the total. -/
theorem compareAmounts_matched {order : PurchaseOrder} (matched : (compareAmounts key order tolerance).status = .matched)
    (positive : 0 < key.amount) (below : tolerance < 100) : |key.amount - order.total| ≤ tolerance / 100 * order.total := by
  unfold compareAmounts at matched
  simp only at matched
  have hundred : |(100 : ℚ)| = 100 := abs_of_pos (by norm_num)
  by_cases total : 0 < order.total
  · rw [if_pos total, abs_mul, abs_div, abs_of_pos total, hundred] at matched
    have share : |key.amount - order.total| / order.total * 100 ≤ tolerance := by
      by_contra far
      rw [if_neg far] at matched
      cases matched
    have bound : |key.amount - order.total| / order.total ≤ tolerance / 100 := by linarith
    exact (div_le_iff₀ total).mp bound
  · rw [if_neg total, if_pos positive, hundred, if_neg (not_le.mpr below)] at matched
    cases matched

theorem newest_mem {ρ : Type} {createdAt : ρ → Time} {rows : List ρ} {row : ρ} (found : newest createdAt rows = some row) :
    row ∈ rows := by
  induction rows generalizing row with
  | nil => cases found
  | cons first rest ih =>
    unfold newest at found
    split at found
    · cases found
      exact List.mem_cons_self
    · next other later =>
      split at found
      · cases found
        exact List.mem_cons_of_mem _ (ih later)
      · cases found
        exact List.mem_cons_self

/-- An order that is found is in the entity and of the vendor of the invoice. -/
theorem findOrder_some {number : String} {order : PurchaseOrder} (found : book.findOrder key number = some order) :
    order ∈ book.orders ∧ order.poNumber = number ∧ inEntityScope key.entityId order.entityId = true ∧
      (key.vendorId = none ∨ order.vendorId = key.vendorId) := by
  obtain ⟨member, meets⟩ := List.mem_filter.mp (newest_mem found)
  simp only [Bool.and_eq_true, Bool.or_eq_true, beq_iff_eq, Option.isNone_iff_eq_none] at meets
  exact ⟨member, meets.1.1, meets.1.2, meets.2⟩

end OrderBook

end Payables
