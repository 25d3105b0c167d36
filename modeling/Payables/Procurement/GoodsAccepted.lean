import Payables.Agents.Orders

namespace Payables
open Lib

theorem newest_eq_none {ρ : Type} {createdAt : ρ → Time} {rows : List ρ} : newest createdAt rows = none ↔ rows = [] := by
  cases rows with
  | nil => exact ⟨fun _ => rfl, fun _ => rfl⟩
  | cons first rest =>
    have found : newest createdAt (first :: rest) ≠ none := by
      unfold newest
      split
      · exact Option.some_ne_none _
      · split <;> exact Option.some_ne_none _
    exact ⟨fun none => absurd none found, fun empty => absurd empty (List.cons_ne_nil first rest)⟩

namespace OrderBook

variable (book : OrderBook) (key : MatchKey) (order : PurchaseOrder)

/-- The variance of an invoice in percent of the order. -/
def variancePct : ℚ :=
  if 0 < order.total then (key.amount - order.total) / order.total * 100 else if 0 < key.amount then 100 else 0

/-- The last inspection of a receipt. -/
def receiptInspection (receipt : GoodsReceipt) : Option QualityInspection :=
  newest QualityInspection.createdAt (book.inspections.filter fun inspection => inspection.grId == some receipt.id)

/-- The last inspection of an order that names no receipt. -/
def orderInspection : Option QualityInspection :=
  newest QualityInspection.createdAt
    (book.inspections.filter fun inspection => inspection.poId == some order.id && inspection.grId.isNone)

/-- Goods that were refused, all of them or a part. -/
def IsRefusal (inspection : QualityInspection) : Prop := inspection.result = "fail" ∨ inspection.result = "partial"

/-- The quantities are compared: the order has lines, and some live receipt has. -/
def Counted : Prop := order.quantities ≠ [] ∧ ∃ receipt ∈ book.liveReceipts key order, receipt.quantities ≠ []

def received : ℚ := ((book.liveReceipts key order).map fun receipt => quantitySum receipt.quantities).sum

/-- The quantities that are compared add up to the order. -/
def QuantitiesArrived : Prop := book.Counted key order → quantitySum order.quantities ≤ book.received key order

/-- No receipt that is counted was refused at last, nor was the order while no receipt has an inspection of its own. -/
def NothingRefused : Prop :=
  (book.Counted key order → ∀ receipt ∈ book.liveReceipts key order, ∀ inspection ∈ book.receiptInspection receipt,
      ¬IsRefusal inspection) ∧
    ((∀ receipt ∈ book.liveReceipts key order, book.receiptInspection receipt = none) →
      ∀ inspection ∈ book.orderInspection order, ¬IsRefusal inspection)

/-- What the newest receipt was at last, or the order while the newest receipt has no inspection, was not refused. -/
def NewestAccepted : Prop :=
  (∀ receipt ∈ newest GoodsReceipt.createdAt (book.liveReceipts key order), ∀ inspection ∈ book.receiptInspection receipt,
      ¬IsRefusal inspection) ∧
    ((∀ receipt ∈ newest GoodsReceipt.createdAt (book.liveReceipts key order), book.receiptInspection receipt = none) →
      ∀ inspection ∈ book.orderInspection order, ¬IsRefusal inspection)

section Legs

variable {book key order} {receipts : List GoodsReceipt} {result : MatchResult}

theorem compareAmounts_status (tolerance : ℚ) : (compareAmounts key order tolerance).status =
    if |variancePct key order| ≤ tolerance then .matched else .mismatch := rfl

/-- The receipt leg names the newest receipt. -/
theorem compareReceipts_grId (none : result.grId = none) : (compareReceipts order receipts result).grId =
    (newest GoodsReceipt.createdAt receipts).map (·.id) := by
  simp only [compareReceipts]
  cases newest GoodsReceipt.createdAt receipts with
  | none => exact none
  | some receipt =>
    simp only [Option.map_some]
    split_ifs <;> rfl

/-- The receipt leg takes a match away exactly when less has come than was ordered. -/
theorem compareReceipts_matched_iff : (compareReceipts order receipts result).status = .matched ↔
    result.status = .matched ∧ (order.quantities ≠ [] → (∃ receipt ∈ receipts, receipt.quantities ≠ []) →
      0 < quantitySum order.quantities →
        quantitySum order.quantities ≤ (receipts.map fun receipt => quantitySum receipt.quantities).sum) := by
  unfold compareReceipts
  cases found : newest GoodsReceipt.createdAt receipts with
  | none =>
    rw [(newest_eq_none).mp found]
    simp
  | some receipt =>
    by_cases bare : order.quantities = [] ∨ ∀ other ∈ receipts, other.quantities = []
    · simp only [if_pos bare]
      refine (and_iff_left ?_).symm
      intro lines carried
      obtain ⟨other, member, carries⟩ := carried
      exact (bare.elim lines fun empty => carries (empty other member)).elim
    · have counted : order.quantities ≠ [] ∧ ∃ other ∈ receipts, other.quantities ≠ [] := by
        simpa only [not_or, not_forall, exists_prop] using bare
      simp only [if_neg bare]
      by_cases short : 0 < quantitySum order.quantities ∧
          (receipts.map fun other => quantitySum other.quantities).sum < quantitySum order.quantities
      · simp only [if_pos short]
        constructor
        · intro matched
          split_ifs at matched with before
          exact absurd matched before
        · rintro ⟨-, arrived⟩
          exact absurd (arrived counted.1 counted.2 short.1) (not_le.mpr short.2)
      · simp only [if_neg short]
        refine (and_iff_left ?_).symm
        intro _ _ positive
        exact not_lt.mp fun less => short ⟨positive, less⟩

theorem compareInspection_matched_iff {inspection : Option QualityInspection} {required : Bool} :
    (compareInspection inspection required result).status = .matched ↔
      result.status = .matched ∧ ∀ read ∈ inspection, ¬IsRefusal read := by
  cases inspection with
  | none => simp [compareInspection]
  | some read =>
    simp only [compareInspection, IsRefusal, Option.mem_some_iff, forall_eq']
    by_cases fail : read.result = "fail"
    · simp [fail]
    · by_cases part : read.result = "partial"
      · simp only [part, if_neg (show ¬"partial" = "fail" by decide), true_and, or_true, not_true_eq_false, and_false,
          iff_false]
        split_ifs with before
        · exact not_false
        · exact before
      · simp [fail, part]

end Legs

section Verdict

variable {book key} {tolerance : ℚ} {required : Bool}

/-- The inspection that counts is that of the newest receipt, else that of the order. -/
theorem findInspection_eq (order : PurchaseOrder) :
    book.findInspection order ((newest GoodsReceipt.createdAt (book.liveReceipts key order)).map (·.id)) =
      ((newest GoodsReceipt.createdAt (book.liveReceipts key order)).bind book.receiptInspection).orElse
        fun _ => book.orderInspection order := by
  rw [findInspection]
  cases newest GoodsReceipt.createdAt (book.liveReceipts key order) <;> rfl

theorem newestAccepted_iff (order : PurchaseOrder) : book.NewestAccepted key order ↔
    ∀ read ∈ book.findInspection order ((newest GoodsReceipt.createdAt (book.liveReceipts key order)).map (·.id)),
      ¬IsRefusal read := by
  rw [findInspection_eq, NewestAccepted]
  cases newest GoodsReceipt.createdAt (book.liveReceipts key order) with
  | none => simp
  | some receipt =>
    cases found : book.receiptInspection receipt with
    | none => simp [found]
    | some read => simp [found]

/-- The verdict is `matched` exactly if all three legs are passed. -/
theorem matched_iff : (book.matchInvoiceToPo key tolerance required).status = .matched ↔
    ∃ number order, key.poNumber.filter (· != "") = some number ∧ book.findOrder key number = some order ∧
      |variancePct key order| ≤ tolerance ∧
      (0 < quantitySum order.quantities → book.QuantitiesArrived key order) ∧ book.NewestAccepted key order := by
  unfold matchInvoiceToPo
  cases named : key.poNumber.filter (· != "") with
  | none => simp [MatchResult.empty]
  | some number =>
    simp only
    cases found : book.findOrder key number with
    | none => simp [MatchResult.empty, found]
    | some order =>
      simp only
      rw [compareInspection_matched_iff, compareReceipts_matched_iff, compareAmounts_status, compareReceipts_grId rfl,
        ← newestAccepted_iff, and_assoc]
      have amount : (if |variancePct key order| ≤ tolerance then MatchStatus.matched else .mismatch) = .matched ↔
          |variancePct key order| ≤ tolerance := by
        split_ifs with within
        · exact iff_of_true rfl within
        · exact iff_of_false not_false within
      rw [amount]
      constructor
      · rintro ⟨within, arrived, accepted⟩
        exact ⟨number, order, rfl, found, within, fun positive counted => arrived counted.1 counted.2 positive, accepted⟩
      · rintro ⟨number', order', same, found', within, arrived, accepted⟩
        cases same
        rw [found, Option.some.injEq] at found'
        subst found'
        exact ⟨within, fun lines carried positive => arrived positive ⟨lines, carried⟩, accepted⟩

end Verdict

end OrderBook

/-- A match is granted only within the tolerance, only if what was ordered has arrived, and only if neither the newest
receipt nor, while that has no inspection, the order was refused at last. -/
theorem matched_only_if_accepted (book : OrderBook) (key : MatchKey) (tolerance : ℚ) (required : Bool)
    (matched : (book.matchInvoiceToPo key tolerance required).status = .matched) :
    ∃ number order, key.poNumber = some number ∧ book.findOrder key number = some order ∧
      |OrderBook.variancePct key order| ≤ tolerance ∧
      (0 < OrderBook.quantitySum order.quantities → book.QuantitiesArrived key order) ∧ book.NewestAccepted key order := by
  obtain ⟨number, order, named, found, within, arrived, accepted⟩ := (OrderBook.matched_iff).mp matched
  exact ⟨number, order, (Option.filter_eq_some_iff.mp named).1, found, within, arrived, accepted⟩

/-- An order of ten pieces that came in two shipments; the first was refused, the second not inspected. -/
def twoShipments : OrderBook where
  orders := [⟨1, "PO-7", none, none, 100, "open", 0, [some 10]⟩]
  receipts := [⟨1, some 1, none, "received", 1, [some 6]⟩, ⟨2, some 1, none, "received", 2, [some 4]⟩]
  inspections := [⟨1, some 1, some 1, "fail", none, 3⟩]
  idsNodup := by decide

/-- Nothing was ordered on balance, and one piece went back. -/
def returnedShipment : OrderBook where
  orders := [⟨1, "PO-7", none, none, 100, "open", 0, [some 0]⟩]
  receipts := [⟨1, some 1, none, "received", 1, [some (-1)]⟩]
  inspections := []
  idsNodup := by decide

/-- The key of an invoice over the whole order. -/
def wholeOrder : MatchKey := ⟨some "PO-7", none, none, 100⟩

theorem variancePct_wholeOrder {order : PurchaseOrder} (total : order.total = 100) :
    |OrderBook.variancePct wholeOrder order| ≤ 5 := by
  rw [OrderBook.variancePct, total, if_pos (by norm_num), wholeOrder]
  norm_num

theorem twoShipments_matched : (twoShipments.matchInvoiceToPo wholeOrder 5 false).status = .matched := by
  refine (OrderBook.matched_iff).mpr ⟨"PO-7", ⟨1, "PO-7", none, none, 100, "open", 0, [some 10]⟩, by decide, by decide,
    variancePct_wholeOrder rfl, ?_, ?_⟩
  · intro _ _
    have live : twoShipments.liveReceipts wholeOrder ⟨1, "PO-7", none, none, 100, "open", 0, [some 10]⟩ =
        twoShipments.receipts := by decide
    rw [OrderBook.received, live]
    norm_num [twoShipments, OrderBook.quantitySum]
  · have last : newest GoodsReceipt.createdAt (twoShipments.liveReceipts wholeOrder
        ⟨1, "PO-7", none, none, 100, "open", 0, [some 10]⟩) = some ⟨2, some 1, none, "received", 2, [some 4]⟩ := by decide
    have unseen : twoShipments.receiptInspection ⟨2, some 1, none, "received", 2, [some 4]⟩ = none ∧
        twoShipments.orderInspection ⟨1, "PO-7", none, none, 100, "open", 0, [some 10]⟩ = none := by decide
    rw [OrderBook.NewestAccepted, last, unseen.2]
    simp [unseen.1]

/-- `matched_only_if_accepted` where the newest shipment completes the order. -/
theorem twoShipments_accepted : ∃ number order, wholeOrder.poNumber = some number ∧
    twoShipments.findOrder wholeOrder number = some order ∧ |OrderBook.variancePct wholeOrder order| ≤ 5 ∧
      (0 < OrderBook.quantitySum order.quantities → twoShipments.QuantitiesArrived wholeOrder order) ∧
      twoShipments.NewestAccepted wholeOrder order :=
  matched_only_if_accepted twoShipments wholeOrder 5 false twoShipments_matched

theorem returnedShipment_matched : (returnedShipment.matchInvoiceToPo wholeOrder 5 false).status = .matched := by
  refine (OrderBook.matched_iff).mpr ⟨"PO-7", ⟨1, "PO-7", none, none, 100, "open", 0, [some 0]⟩, by decide, by decide,
    variancePct_wholeOrder rfl, ?_, ?_⟩
  · intro positive
    norm_num [OrderBook.quantitySum] at positive
  · have last : newest GoodsReceipt.createdAt (returnedShipment.liveReceipts wholeOrder
        ⟨1, "PO-7", none, none, 100, "open", 0, [some 0]⟩) = some ⟨1, some 1, none, "received", 1, [some (-1)]⟩ := by decide
    have unseen : returnedShipment.receiptInspection ⟨1, some 1, none, "received", 1, [some (-1)]⟩ = none ∧
        returnedShipment.orderInspection ⟨1, "PO-7", none, none, 100, "open", 0, [some 0]⟩ = none := by decide
    rw [OrderBook.NewestAccepted, last, unseen.2]
    simp [unseen.1]

/-- The refused first shipment counts, and so does one that was sent back where nothing was ordered on balance. -/
theorem refused_shipment_matched :
    (¬∀ (book : OrderBook) (key : MatchKey) (tolerance : ℚ) (required : Bool),
      (book.matchInvoiceToPo key tolerance required).status = .matched → ∃ number order, key.poNumber = some number ∧
        book.findOrder key number = some order ∧ |OrderBook.variancePct key order| ≤ tolerance ∧
        book.QuantitiesArrived key order ∧ book.NothingRefused key order) ∧
      (¬∀ (book : OrderBook) (key : MatchKey) (tolerance : ℚ) (required : Bool),
        (book.matchInvoiceToPo key tolerance required).status = .matched → ∃ number order, key.poNumber = some number ∧
          book.findOrder key number = some order ∧ book.NothingRefused key order) ∧
      ¬∀ (book : OrderBook) (key : MatchKey) (tolerance : ℚ) (required : Bool),
        (book.matchInvoiceToPo key tolerance required).status = .matched → ∃ number order, key.poNumber = some number ∧
          book.findOrder key number = some order ∧ book.QuantitiesArrived key order := by
  have refused (number : String) (order : PurchaseOrder) (named : wholeOrder.poNumber = some number)
      (found : twoShipments.findOrder wholeOrder number = some order) : ¬twoShipments.NothingRefused wholeOrder order := by
    rintro ⟨counted, -⟩
    obtain rfl := Option.some.inj (named : some "PO-7" = some number)
    have order : some ⟨1, "PO-7", none, none, 100, "open", 0, [some 10]⟩ = some order := by
      rw [← found]
      decide
    obtain rfl := Option.some.inj order
    have first := counted ⟨by simp, ⟨1, some 1, none, "received", 1, [some 6]⟩, by decide, by simp⟩
      ⟨1, some 1, none, "received", 1, [some 6]⟩ (by decide) ⟨1, some 1, some 1, "fail", none, 3⟩ (by decide)
    exact first (.inl rfl)
  refine ⟨?_, ?_, ?_⟩
  · intro granted
    obtain ⟨number, order, named, found, -, -, nothing⟩ := granted twoShipments wholeOrder 5 false twoShipments_matched
    exact refused number order named found nothing
  · intro granted
    obtain ⟨number, order, named, found, nothing⟩ := granted twoShipments wholeOrder 5 false twoShipments_matched
    exact refused number order named found nothing
  · intro granted
    obtain ⟨number, order, named, found, arrived⟩ := granted returnedShipment wholeOrder 5 false returnedShipment_matched
    obtain rfl := Option.some.inj (named : some "PO-7" = some number)
    have order : some ⟨1, "PO-7", none, none, 100, "open", 0, [some 0]⟩ = some order := by
      rw [← found]
      decide
    obtain rfl := Option.some.inj order
    have live : returnedShipment.liveReceipts wholeOrder ⟨1, "PO-7", none, none, 100, "open", 0, [some 0]⟩ =
        returnedShipment.receipts := by decide
    have covered := arrived ⟨by simp, ⟨1, some 1, none, "received", 1, [some (-1)]⟩, by decide, by simp⟩
    rw [OrderBook.received, live] at covered
    norm_num [returnedShipment, OrderBook.quantitySum] at covered

end Payables
