import Payables.Lib.Raising
import Payables.Procurement.Requisitions

namespace Payables.Procurement
open Lib

/-- A requisition buys at most once, only what was approved, and stays as its conversion left it. -/
structure BuysOnce (tables : RequisitionTables) : Prop where
  once : tables.orders.length ≤ 1
  kept : ∀ order ∈ tables.orders, ∃ row, tables.requisition = some row ∧ row.status = .converted ∧
    row.convertedPoId = some order.id ∧ tables.converted = some row
  asApproved : ∀ order ∈ tables.orders, ∃ approval row, tables.approvals.getLast? = some approval ∧
    tables.requisition = some row ∧ approval.approver ≠ row.requesterUserId ∧ order.vendorId = approval.vendorId ∧
    order.total = approval.total ∧ order.lineItems = approval.lineItems
  summed : ∀ order ∈ tables.orders, order.total = (order.lineItems.map fun line => line.total.getD 0).sum

/-- The lines of a row that a request did not read with it. -/
def RequisitionCall.unread (call : RequisitionCall) (row : PurchaseRequisition) : List RequisitionLineItem :=
  row.lineItems.filter fun line => line ∉ call.loaded.lineItems

/-- An edit that is stored on `row` in place of the draft it has read. It writes nothing into a converted requisition
and leaves vendor and lines of an approved one as they are; and where it replaces lines, those it has not read carry no
money, or as much as the total it has not read either. -/
def EditInTime (call : RequisitionCall) (body : RequisitionUpdate) (edited row : PurchaseRequisition) : Prop :=
  (row.status = .converted → edited = call.loaded) ∧
  (row.status = .approved → (edited.vendorId = call.loaded.vendorId ∨ edited.vendorId = row.vendorId) ∧
    (body.lineItems.isSome →
      (call.unread row ++ edited.lineItems).map RequisitionLineItem.ordered =
        row.lineItems.map RequisitionLineItem.ordered)) ∧
  (body.lineItems.isSome →
    if edited.total = call.loaded.total then row.total = edited.total + recomputeTotal (call.unread row)
    else recomputeTotal (call.unread row) = 0)
  deriving Decidable

/-- A request that meets the row as its checks relied on, as far as conversions, approvals and totals go. -/
def InTime (tables : RequisitionTables) (call : RequisitionCall) (row : PurchaseRequisition) : Prop :=
  match call.request with
  | .update body _ =>
    let edited := body.edit tables.ids call.loaded
    storable edited.lineItems → EditInTime call body edited row
  | .delete _ => row.status = .converted → ∃ line ∈ row.lineItems, line ∉ call.loaded.lineItems
  | _ => row.status ≠ .converted

instance (tables : RequisitionTables) (call : RequisitionCall) (row : PurchaseRequisition) :
    Decidable (InTime tables call row) := by
  unfold InTime
  split <;> infer_instance

/-- The commits of a run that are in time. -/
def CommitsInTime (tables : RequisitionTables) (call : RequisitionCall) (_ : Time) : Prop :=
  ∀ row ∈ tables.requisition, InTime tables call row
  deriving Decidable

section Rows

theorem id_of_mem_buildLineItems {firstId : Nat} {rows : List RequisitionLineItemCreate} {line : RequisitionLineItem}
    (built : line ∈ buildLineItems firstId rows) : firstId ≤ line.id ∧ line.id < firstId + rows.length := by
  obtain ⟨index, within, rfl⟩ := List.mem_mapIdx.mp built
  exact ⟨Nat.le_add_right _ _, Nat.add_lt_add_left within firstId⟩

theorem recomputeTotal_append (first second : List RequisitionLineItem) :
    recomputeTotal (first ++ second) = recomputeTotal first + recomputeTotal second := by
  rw [recomputeTotal, List.map_append, List.sum_append]
  rfl

theorem sum_ordered (lineItems : List RequisitionLineItem) :
    ((lineItems.map RequisitionLineItem.ordered).map fun line => line.total.getD 0).sum = recomputeTotal lineItems := by
  rw [List.map_map]
  rfl

/-- The lines after a flush that touches none. -/
theorem flush_lineItems_same {loaded edited : PurchaseRequisition} (same : edited.lineItems = loaded.lineItems)
    (row : PurchaseRequisition) : (PurchaseRequisition.flush loaded edited row).lineItems = row.lineItems := by
  have kept : (row.lineItems.filter fun line => line ∉ loaded.lineItems ∨ line ∈ edited.lineItems) = row.lineItems := by
    refine List.filter_eq_self.mpr fun line _ => ?_
    rw [same]
    by_cases read : line ∈ loaded.lineItems <;> simp [read]
  have added : (edited.lineItems.filter fun line => line ∉ loaded.lineItems) = [] := by
    refine List.filter_eq_nil_iff.mpr fun line mem => ?_
    rw [same] at mem
    simp [mem]
  show (row.lineItems.filter _) ++ (edited.lineItems.filter _) = row.lineItems
  rw [kept, added, List.append_nil]

/-- The lines after a flush that replaces all that were read by new ones. -/
theorem flush_lineItems_replaced {loaded edited row : PurchaseRequisition} {firstId : Nat}
    (new : ∀ line ∈ edited.lineItems, firstId ≤ line.id) (read : ∀ line ∈ loaded.lineItems, line.id < firstId)
    (stored : ∀ line ∈ row.lineItems, line.id < firstId) :
    (PurchaseRequisition.flush loaded edited row).lineItems =
      (row.lineItems.filter fun line => line ∉ loaded.lineItems) ++ edited.lineItems := by
  have kept : (row.lineItems.filter fun line => line ∉ loaded.lineItems ∨ line ∈ edited.lineItems) =
      row.lineItems.filter fun line => line ∉ loaded.lineItems := by
    refine List.filter_congr fun line mem => ?_
    have other : line ∉ edited.lineItems := by
      intro inEdited
      have above := new line inEdited
      have below := stored line mem
      omega
    simp [other]
  have added : (edited.lineItems.filter fun line => line ∉ loaded.lineItems) = edited.lineItems := by
    refine List.filter_eq_self.mpr fun line mem => ?_
    have other : line ∉ loaded.lineItems := by
      intro inLoaded
      have above := new line mem
      have below := read line inLoaded
      omega
    simp [other]
  show (row.lineItems.filter _) ++ (edited.lineItems.filter _) = _
  rw [kept, added]

/-- A session that changed nothing flushes nothing. -/
theorem flush_unchanged (loaded row : PurchaseRequisition) : PurchaseRequisition.flush loaded loaded row = row := by
  have same : loaded.lineItems = loaded.lineItems := rfl
  have lines := flush_lineItems_same same row
  cases row
  simp only [PurchaseRequisition.flush, writeBack_self] at lines ⊢
  rw [lines]

end Rows

section Edits

variable {request : RequisitionRequest} {userId : UserId} {loaded row : PurchaseRequisition}

theorem edit_requesterUserId (request : RequisitionRequest) (userId : UserId) (now : Time) (firstId : Nat)
    (loaded : PurchaseRequisition) :
    (request.edit userId now firstId loaded).requesterUserId = loaded.requesterUserId := by
  cases request <;> rfl

theorem edit_convertedPoId (request : RequisitionRequest) (userId : UserId) (now : Time) (firstId : Nat)
    (loaded : PurchaseRequisition) : (request.edit userId now firstId loaded).convertedPoId = loaded.convertedPoId := by
  cases request <;> rfl

theorem target_of_guardTransition {current target : RequisitionStatus} (passed : guardTransition current target = .ok ()) :
    target ≠ current := by
  rintro rfl
  revert passed
  cases target <;> decide

theorem approved_of_guardTransition {current : RequisitionStatus} {u : Unit}
    (passed : guardTransition current .converted = .ok u) : current = .approved := by
  revert passed
  cases current <;> cases u <;> decide

/-- A transition in its session: it moves the status and leaves what is ordered alone. -/
structure Moves (request : RequisitionRequest) (loaded edited : PurchaseRequisition) : Prop where
  vendorId : edited.vendorId = loaded.vendorId
  total : edited.total = loaded.total
  lineItems : edited.lineItems = loaded.lineItems
  status : edited.status ≠ loaded.status
  unconverted : edited.status ≠ .converted
  approves : edited.status = .approved → request = .approve

/-- A request that is neither an edit nor a delete. -/
def RequisitionRequest.IsTransition : RequisitionRequest → Prop
  | .update _ _ => False
  | .delete _ => False
  | _ => True

theorem moves_of_isTransition (transition : request.IsTransition) (checked : request.check userId loaded = .ok ())
    (now : Time) (firstId : Nat) : Moves request loaded (request.edit userId now firstId loaded) := by
  cases request with
  | update body links => exact transition.elim
  | delete linkedIntake => exact transition.elim
  | submit =>
    exact ⟨rfl, rfl, rfl, target_of_guardTransition checked, by simp [RequisitionRequest.edit], by simp [RequisitionRequest.edit]⟩
  | approve =>
    obtain ⟨_, passed, _⟩ := bind_eq_ok.mp checked
    exact ⟨rfl, rfl, rfl, target_of_guardTransition passed, by simp [RequisitionRequest.edit], fun _ => rfl⟩
  | reject reason =>
    exact ⟨rfl, rfl, rfl, target_of_guardTransition checked, by simp [RequisitionRequest.edit], by simp [RequisitionRequest.edit]⟩
  | cancel =>
    exact ⟨rfl, rfl, rfl, target_of_guardTransition checked, by simp [RequisitionRequest.edit], by simp [RequisitionRequest.edit]⟩
  | reopen =>
    exact ⟨rfl, rfl, rfl, target_of_guardTransition checked, by simp [RequisitionRequest.edit], by simp [RequisitionRequest.edit]⟩

/-- The approver is not the requester. -/
theorem segregated_of_check (checked : RequisitionRequest.approve.check userId loaded = .ok ()) :
    userId ≠ loaded.requesterUserId := by
  obtain ⟨_, _, segregated⟩ := bind_eq_ok.mp checked
  rintro rfl
  simp [checkSegregation, violatesSegregation] at segregated

end Edits

/-- What holds of the tables between the requests of a run in time. -/
structure RequisitionInv (tables : RequisitionTables) : Prop where
  unborn : tables.ids = 0 → tables.requisition = none
  summed : ∀ row, tables.requisition = some row → row.total = recomputeTotal row.lineItems
  fresh : ∀ row, tables.requisition = some row → ∀ line ∈ row.lineItems, line.id < tables.ids
  asApproved : ∀ row, tables.requisition = some row → row.status = .approved ∨ row.status = .converted →
    ∃ approval, tables.approvals.getLast? = some approval ∧ approval.approver ≠ row.requesterUserId ∧
      approval.vendorId = row.vendorId ∧ approval.total = row.total ∧
      approval.lineItems = row.lineItems.map RequisitionLineItem.ordered
  unsold : (∀ row, tables.requisition = some row → row.status ≠ .converted) → tables.orders = []
  unlinked : ∀ row, tables.requisition = some row → row.status ≠ .converted → row.convertedPoId = none
  sold : ∀ row, tables.requisition = some row → row.status = .converted → tables.converted = some row ∧
    ∃ order, tables.orders = [order] ∧ row.convertedPoId = some order.id ∧ order.vendorId = row.vendorId ∧
      order.total = row.total ∧ order.lineItems = row.lineItems.map RequisitionLineItem.ordered

/-- What holds of a request in flight. -/
structure RequisitionHeld (tables : RequisitionTables) (call : RequisitionCall) : Prop where
  born : 0 < tables.ids
  checked : call.request.check call.userId call.loaded = .ok ()
  fresh : ∀ line ∈ call.loaded.lineItems, line.id < tables.ids
  requester : ∀ row, tables.requisition = some row → call.loaded.requesterUserId = row.requesterUserId

theorem RequisitionInv.buysOnce {tables : RequisitionTables} (inv : RequisitionInv tables) : BuysOnce tables := by
  by_cases sold : ∃ row, tables.requisition = some row ∧ row.status = .converted
  · obtain ⟨row, present, converted⟩ := sold
    obtain ⟨kept, order, orders, linked, vendor, total, lines⟩ := inv.sold row present converted
    obtain ⟨approval, last, other, asVendor, asTotal, asLines⟩ := inv.asApproved row present (.inr converted)
    have only : ∀ {found}, found ∈ tables.orders → found = order := by
      intro found mem
      rw [orders] at mem
      exact List.mem_singleton.mp mem
    refine ⟨by rw [orders]; rfl, fun found mem => ?_, fun found mem => ?_, fun found mem => ?_⟩
    · rw [only mem]
      exact ⟨row, present, converted, linked, kept⟩
    · rw [only mem]
      exact ⟨approval, row, last, present, other, vendor.trans asVendor.symm, total.trans asTotal.symm,
        lines.trans asLines.symm⟩
    · rw [only mem, total, lines, sum_ordered]
      exact inv.summed row present
  · have none : tables.orders = [] := inv.unsold fun row present converted => sold ⟨row, present, converted⟩
    constructor <;> simp [none]

section Steps

variable {tables : RequisitionTables} {call : RequisitionCall} {row : PurchaseRequisition}

/-- A stored row that is not converted. -/
theorem RequisitionInv.stored (inv : RequisitionInv tables) (present : tables.requisition = some row)
    (unconverted : row.status ≠ .converted) {written : PurchaseRequisition} {ids : Nat} {approvals : List Approval}
    (later : tables.ids ≤ ids) (summed : written.total = recomputeTotal written.lineItems)
    (fresh : ∀ line ∈ written.lineItems, line.id < ids) (still : written.status ≠ .converted)
    (linked : written.convertedPoId = row.convertedPoId)
    (asApproved : written.status = .approved → ∃ approval, approvals.getLast? = some approval ∧
      approval.approver ≠ written.requesterUserId ∧ approval.vendorId = written.vendorId ∧
      approval.total = written.total ∧ approval.lineItems = written.lineItems.map RequisitionLineItem.ordered) :
    RequisitionInv { tables with requisition := some written, ids := ids, approvals := approvals } := by
  have orders : tables.orders = [] := by
    refine inv.unsold fun other found => ?_
    rw [present] at found
    exact Option.some.inj found ▸ unconverted
  have born : tables.ids ≠ 0 := by
    intro none
    rw [inv.unborn none] at present
    cases present
  constructor
  case unborn =>
    intro none
    exact absurd (Nat.le_zero.mp (none ▸ later)) born
  case summed =>
    rintro _ ⟨rfl⟩
    exact summed
  case fresh =>
    rintro _ ⟨rfl⟩
    exact fresh
  case asApproved =>
    rintro _ ⟨rfl⟩ (approved | converted)
    · exact asApproved approved
    · exact absurd converted still
  case unsold => exact fun _ => orders
  case unlinked =>
    rintro _ ⟨rfl⟩ _
    rw [linked]
    exact inv.unlinked row present unconverted
  case sold =>
    rintro _ ⟨rfl⟩ converted
    exact absurd converted still

/-- A flush that changes nothing. -/
theorem RequisitionInv.rewritten (inv : RequisitionInv tables) (present : tables.requisition = some row) {ids : Nat}
    (later : tables.ids ≤ ids) :
    RequisitionInv { tables with requisition := some row, ids := ids, approvals := tables.approvals } := by
  rw [← present]
  exact
    { unborn := fun none => inv.unborn (Nat.le_zero.mp (none ▸ later))
      summed := inv.summed
      fresh := fun row present line mem => Nat.lt_of_lt_of_le (inv.fresh row present line mem) later
      asApproved := inv.asApproved
      unsold := inv.unsold
      unlinked := inv.unlinked
      sold := inv.sold }

/-- A transition that is committed on a requisition not converted by then. -/
theorem RequisitionInv.transition (inv : RequisitionInv tables) (present : tables.requisition = some row)
    (held : RequisitionHeld tables call) (unconverted : row.status ≠ .converted) {edited : PurchaseRequisition}
    (moves : Moves call.request call.loaded edited) (requester : edited.requesterUserId = call.loaded.requesterUserId)
    (linked : edited.convertedPoId = call.loaded.convertedPoId) :
    RequisitionInv { tables with
      requisition := some (PurchaseRequisition.flush call.loaded edited row)
      ids := tables.ids + edited.lineItems.length
      approvals := tables.approvalsAfter call (PurchaseRequisition.flush call.loaded edited row) } := by
  have vendorId : (PurchaseRequisition.flush call.loaded edited row).vendorId = row.vendorId := by
    simp only [PurchaseRequisition.flush, moves.vendorId, writeBack_self]
  have total : (PurchaseRequisition.flush call.loaded edited row).total = row.total := by
    simp only [PurchaseRequisition.flush, moves.total, writeBack_self]
  have lineItems : (PurchaseRequisition.flush call.loaded edited row).lineItems = row.lineItems :=
    flush_lineItems_same moves.lineItems row
  have status : (PurchaseRequisition.flush call.loaded edited row).status = edited.status :=
    writeBack_of_ne moves.status row.status
  have sameRequester : (PurchaseRequisition.flush call.loaded edited row).requesterUserId = row.requesterUserId := by
    simp only [PurchaseRequisition.flush, requester, writeBack_self]
  refine inv.stored present unconverted (Nat.le_add_right _ _) ?_ ?_ ?_ ?_ ?_
  · rw [total, lineItems]
    exact inv.summed row present
  · rw [lineItems]
    exact fun line mem => Nat.lt_of_lt_of_le (inv.fresh row present line mem) (Nat.le_add_right _ _)
  · rw [status]
    exact moves.unconverted
  · simp only [PurchaseRequisition.flush, linked, writeBack_self]
  · rw [status]
    intro approved
    have approve := moves.approves approved
    have checked := held.checked
    rw [approve] at checked
    have other := segregated_of_check checked
    refine ⟨⟨call.userId, _, _, _⟩, ?_, ?_, rfl, rfl, rfl⟩
    · rw [RequisitionTables.approvalsAfter, approve]
      exact List.getLast?_concat
    · rw [sameRequester, ← held.requester row present]
      exact other

/-- The total and the lines that an edit in time leaves. -/
theorem edit_summed {body : RequisitionUpdate} (inv : RequisitionInv tables) (present : tables.requisition = some row)
    (held : RequisitionHeld tables call)
    (inTime : EditInTime call body (body.edit tables.ids call.loaded) row) :
    let edited := body.edit tables.ids call.loaded
    let written := PurchaseRequisition.flush call.loaded edited row
    written.total = recomputeTotal written.lineItems ∧
      (∀ line ∈ written.lineItems, line.id < tables.ids + edited.lineItems.length) ∧
      (row.status = .approved → written.total = row.total ∧
        written.lineItems.map RequisitionLineItem.ordered = row.lineItems.map RequisitionLineItem.ordered) := by
  intro edited written
  have summed := inv.summed row present
  have fresh := inv.fresh row present
  cases replaces : body.lineItems with
  | none =>
    have sameLines : edited.lineItems = call.loaded.lineItems := by
      simp only [edited, RequisitionUpdate.edit, RequisitionUpdate.lines, replaces]
    have sameTotal : edited.total = call.loaded.total := by
      simp [edited, RequisitionUpdate.edit, replaces]
    have lines : written.lineItems = row.lineItems := flush_lineItems_same sameLines row
    have total : written.total = row.total := by
      simp only [written, PurchaseRequisition.flush, sameTotal, writeBack_self]
    rw [lines, total]
    exact ⟨summed, fun line mem => Nat.lt_of_lt_of_le (fresh line mem) (Nat.le_add_right _ _), fun _ => ⟨rfl, rfl⟩⟩
  | some rows =>
    have given : body.lineItems.isSome = true := by rw [replaces]; rfl
    have newLines : edited.lineItems = buildLineItems tables.ids rows := by
      simp only [edited, RequisitionUpdate.edit, RequisitionUpdate.lines, replaces]
    have newTotal : edited.total = recomputeTotal edited.lineItems := by
      simp only [edited, RequisitionUpdate.edit, given, if_true]
    have count : (buildLineItems tables.ids rows).length = rows.length := by
      rw [buildLineItems, List.length_mapIdx]
    have bounds : ∀ line ∈ edited.lineItems,
        tables.ids ≤ line.id ∧ line.id < tables.ids + edited.lineItems.length := by
      rw [newLines, count]
      exact fun line built => id_of_mem_buildLineItems built
    have lines : written.lineItems = call.unread row ++ edited.lineItems :=
      flush_lineItems_replaced (fun line mem => (bounds line mem).1) held.fresh fresh
    have money : written.total = recomputeTotal written.lineItems := by
      have leftover := inTime.2.2 given
      rw [lines, recomputeTotal_append, ← newTotal]
      by_cases same : edited.total = call.loaded.total
      · rw [if_pos same] at leftover
        have kept : written.total = row.total := by
          simp only [written, PurchaseRequisition.flush, same, writeBack_self]
        rw [kept, leftover, add_comm]
      · rw [if_neg same] at leftover
        have set : written.total = edited.total := writeBack_of_ne same row.total
        rw [set, leftover, zero_add]
    refine ⟨money, fun line mem => ?_, fun approved => ?_⟩
    · rw [lines] at mem
      rcases List.mem_append.mp mem with old | new
      · have below := fresh line (List.mem_of_mem_filter old)
        omega
      · exact (bounds line new).2
    · have ordered : written.lineItems.map RequisitionLineItem.ordered = row.lineItems.map RequisitionLineItem.ordered := by
        rw [lines]
        exact (inTime.2.1 approved).2 given
      refine ⟨?_, ordered⟩
      rw [money, summed, ← sum_ordered, ordered, sum_ordered]

/-- An edit that is committed in time. -/
theorem RequisitionInv.edited {body : RequisitionUpdate} {links : Option Raised} (inv : RequisitionInv tables)
    (present : tables.requisition = some row) (held : RequisitionHeld tables call)
    (request : call.request = .update body links)
    (inTime : EditInTime call body (body.edit tables.ids call.loaded) row) :
    RequisitionInv { tables with
      requisition := some (PurchaseRequisition.flush call.loaded (body.edit tables.ids call.loaded) row)
      ids := tables.ids + (body.edit tables.ids call.loaded).lineItems.length
      approvals := tables.approvalsAfter call
        (PurchaseRequisition.flush call.loaded (body.edit tables.ids call.loaded) row) } := by
  have approvals (written : PurchaseRequisition) : tables.approvalsAfter call written = tables.approvals := by
    rw [RequisitionTables.approvalsAfter, request]
  rw [approvals]
  by_cases converted : row.status = .converted
  · rw [inTime.1 converted, flush_unchanged]
    exact inv.rewritten present (Nat.le_add_right _ _)
  · obtain ⟨money, fresh, content⟩ := edit_summed inv present held inTime
    have status : (PurchaseRequisition.flush call.loaded (body.edit tables.ids call.loaded) row).status = row.status := by
      simp only [PurchaseRequisition.flush, RequisitionUpdate.edit, writeBack_self]
    refine inv.stored present converted (Nat.le_add_right _ _) money fresh ?_ ?_ ?_
    · rw [status]
      exact converted
    · simp only [PurchaseRequisition.flush, RequisitionUpdate.edit, writeBack_self]
    · rw [status]
      intro approved
      obtain ⟨approval, last, other, vendor, total, lines⟩ := inv.asApproved row present (.inl approved)
      obtain ⟨sameTotal, sameLines⟩ := content approved
      refine ⟨approval, last, ?_, ?_, total.trans sameTotal.symm, lines.trans sameLines.symm⟩
      · simpa only [PurchaseRequisition.flush, RequisitionUpdate.edit, writeBack_self] using other
      · rw [vendor]
        show row.vendorId = writeBack call.loaded.vendorId (body.edit tables.ids call.loaded).vendorId row.vendorId
        rcases (inTime.2.1 approved).1 with unread | same
        · rw [unread, writeBack_self]
        · by_cases unread : (body.edit tables.ids call.loaded).vendorId = call.loaded.vendorId
          · rw [unread, writeBack_self]
          · rw [writeBack_of_ne unread, same]

theorem RequisitionInv.flush (inv : RequisitionInv tables) (held : RequisitionHeld tables call)
    (kept : ∀ linked, call.request ≠ .delete linked) (inTime : ∀ row ∈ tables.requisition, InTime tables call row)
    (now : Time) : RequisitionInv (tables.flush call now) := by
  rw [RequisitionTables.flush]
  split
  · exact inv
  next row present =>
    split
    next storable =>
      have timely := inTime row present
      by_cases transition : call.request.IsTransition
      · have unconverted : row.status ≠ .converted := by
          revert timely transition
          rw [InTime]
          cases call.request <;> intro timely transition <;> first | exact timely | exact transition.elim
        exact inv.transition present held unconverted (moves_of_isTransition transition held.checked now tables.ids)
          (edit_requesterUserId ..) (edit_convertedPoId ..)
      · cases request : call.request with
        | update body links =>
          rw [request] at storable
          simp only [InTime, request] at timely
          exact inv.edited present held request (timely storable)
        | delete linked => exact absurd request (kept linked)
        | _ =>
          rw [request] at transition
          exact absurd trivial transition
    next => exact inv

theorem RequisitionInv.delete (inv : RequisitionInv tables) {linked : Bool} (request : call.request = .delete linked)
    (inTime : ∀ row ∈ tables.requisition, InTime tables call row) : RequisitionInv (tables.delete call) := by
  rw [RequisitionTables.delete]
  split
  · exact inv
  next row present =>
    split
    next read =>
      have unconverted : row.status ≠ .converted := by
        intro converted
        have timely := inTime row present
        simp only [InTime, request] at timely
        obtain ⟨line, mem, unread⟩ := timely converted
        exact unread (read line mem)
      have orders : tables.orders = [] := by
        refine inv.unsold fun other found => ?_
        rw [present] at found
        exact Option.some.inj found ▸ unconverted
      constructor
      case unsold => exact fun _ => orders
      all_goals simp
    next => exact inv

theorem RequisitionInv.commit (inv : RequisitionInv tables) (held : RequisitionHeld tables call)
    (inTime : ∀ row ∈ tables.requisition, InTime tables call row) (now : Time) :
    RequisitionInv (tables.commit call now) := by
  cases request : call.request with
  | delete linked =>
    simp only [RequisitionTables.commit, request]
    exact inv.delete request inTime
  | _ =>
    simp only [RequisitionTables.commit, request]
    refine inv.flush held (fun linked => ?_) inTime now
    rw [request]
    simp

/-- A commit leaves the other requests what holds of them. -/
theorem RequisitionHeld.commit {other : RequisitionCall} (kept : RequisitionHeld tables other) (call : RequisitionCall)
    (now : Time) : RequisitionHeld (tables.commit call now) other := by
  have afterDelete : RequisitionHeld (tables.delete call) other := by
    rw [RequisitionTables.delete]
    split
    · exact kept
    · split
      · exact ⟨kept.born, kept.checked, kept.fresh, by simp⟩
      · exact kept
  have afterFlush : RequisitionHeld (tables.flush call now) other := by
    rw [RequisitionTables.flush]
    split
    · exact kept
    next row present =>
      split
      · refine ⟨Nat.lt_of_lt_of_le kept.born (Nat.le_add_right _ _), kept.checked,
          fun line mem => Nat.lt_of_lt_of_le (kept.fresh line mem) (Nat.le_add_right _ _), ?_⟩
        rintro _ ⟨rfl⟩
        simp only [PurchaseRequisition.flush, edit_requesterUserId, writeBack_self]
        exact kept.requester row present
      · exact kept
  rw [RequisitionTables.commit]
  split
  · exact afterDelete
  · exact afterFlush

/-- A create makes a draft out of nothing. -/
theorem RequisitionInv.create (inv : RequisitionInv tables) (userId : UserId) (body : RequisitionCreate)
    (links : Option Raised) : RequisitionInv (tables.create userId body links) := by
  simp only [RequisitionTables.create]
  split
  next creates =>
    have orders : tables.orders = [] := by
      refine inv.unsold fun row found => ?_
      rw [inv.unborn creates.1] at found
      cases found
    constructor
    case unborn =>
      intro none
      exact absurd none (Nat.add_one_ne_zero _ ∘ (Nat.add_comm _ _).trans)
    case summed =>
      rintro _ ⟨rfl⟩
      rfl
    case fresh =>
      rintro _ ⟨rfl⟩ line mem
      have bounds := (id_of_mem_buildLineItems mem).2
      rw [creates.1, Nat.zero_add] at bounds
      exact bounds
    case asApproved =>
      rintro _ ⟨rfl⟩ (approved | converted)
      · cases approved
      · cases converted
    case unsold => exact fun _ => orders
    case unlinked =>
      rintro _ ⟨rfl⟩ _
      rfl
    case sold =>
      rintro _ ⟨rfl⟩ converted
      cases converted
  next => exact inv

/-- A conversion orders what was approved. -/
theorem RequisitionInv.convertToPo (inv : RequisitionInv tables) {later : RequisitionTables} {response : ConvertToPoResponse}
    (converts : tables.convertToPo = .ok (later, response)) :
    RequisitionInv later ∧ ∀ call, RequisitionHeld tables call → RequisitionHeld later call := by
  rw [RequisitionTables.convertToPo] at converts
  split at converts
  · cases converts
  next row present =>
    split at converts
    · obtain ⟨rfl, _⟩ := Prod.mk.inj (Except.ok.inj converts)
      exact ⟨inv, fun _ held => held⟩
    · obtain ⟨_, passed, done⟩ := bind_eq_ok.mp converts
      obtain ⟨rfl, _⟩ := Prod.mk.inj (Except.ok.inj done)
      have approved := approved_of_guardTransition passed
      have unconverted : row.status ≠ .converted := by
        rw [approved]
        decide
      have orders : tables.orders = [] := by
        refine inv.unsold fun other found => ?_
        rw [present] at found
        exact Option.some.inj found ▸ unconverted
      constructor
      · constructor
        case unborn => exact fun none => absurd none (Nat.succ_ne_zero _)
        case summed =>
          rintro _ ⟨rfl⟩
          exact inv.summed row present
        case fresh =>
          rintro _ ⟨rfl⟩ line mem
          exact Nat.lt_succ_of_lt (inv.fresh row present line mem)
        case asApproved =>
          rintro _ ⟨rfl⟩ _
          exact inv.asApproved row present (.inl approved)
        case unsold => exact fun other => absurd rfl (other _ rfl)
        case unlinked =>
          rintro _ ⟨rfl⟩ other
          exact absurd rfl other
        case sold =>
          rintro _ ⟨rfl⟩ _
          refine ⟨rfl, convertRequisitionToPo row tables.ids s!"PO-{row.requisitionNumber}", ?_, rfl, rfl, rfl, rfl⟩
          show tables.orders ++ [_] = _
          rw [orders]
          rfl
      · intro call held
        refine ⟨Nat.succ_pos _, held.checked, fun line mem => Nat.lt_succ_of_lt (held.fresh line mem), ?_⟩
        rintro _ ⟨rfl⟩
        exact held.requester row present

end Steps

theorem arrive_respects {tables : RequisitionTables} (inv : RequisitionInv tables) (arrival : RequisitionArrival) :
    Service.Respects RequisitionInv RequisitionHeld Service.Free tables none (tables.arrive arrival) := by
  cases arrival with
  | create userId body links =>
    refine .ended (inv.create userId body links) fun call held => ?_
    have later : tables.create userId body links = tables := by
      simp only [RequisitionTables.create]
      exact if_neg fun creates => absurd creates.1 (Nat.pos_iff_ne_zero.mp held.born)
    rw [later]
    exact held
  | convertToPo =>
    rw [RequisitionTables.arrive]
    split
    next later response converts =>
      obtain ⟨invLater, held⟩ := inv.convertToPo converts
      exact .ended invLater held
    next => exact .refused inv
  | request userId request =>
    rw [RequisitionTables.arrive]
    split
    · exact .refused inv
    next row present =>
      split
      next checked =>
        refine .read inv ⟨?_, checked, inv.fresh row present, fun other found => ?_⟩
        · by_contra none
          rw [inv.unborn (Nat.eq_zero_of_not_pos none)] at present
          cases present
        · rw [present] at found
          rw [Option.some.inj found]
      next => exact .refused inv

/-- In a run whose commits are in time a requisition buys at most once, and only what was approved. -/
theorem bought_once {state : Served RequisitionTables RequisitionCall}
    (reach : requisitionService.machine.Reach (Service.Guarded Machine.Anything CommitsInTime) state) :
    BuysOnce state.tables := by
  have start : ∀ tables, requisitionService.init tables → RequisitionInv tables := by
    rintro _ rfl
    constructor <;> simp [RequisitionTables.empty]
  have sustains : Service.Sustains requisitionService Machine.Anything CommitsInTime RequisitionInv RequisitionHeld
      Service.Free :=
    { symm := fun _ _ free => free
      start := start
      arrive := fun tables arrival inv _ => arrive_respects inv arrival
      advance := fun tables call now inv held inTime =>
        .ended (inv.commit held inTime now) fun other kept => kept.commit call now
      abort := fun tables call inv _ => .refused inv }
  exact (sustains.reach reach).tables.buysOnce

def twoChairs : RequisitionCreate :=
  { requisitionNumber := "REQ-1"
    vendorId := some 7
    lineItems := [{ description := some "Chair", quantity := some 2, unitPrice := some 45 }] }

def submitted : List (Part RequisitionArrival Time) :=
  [.arrive 0 (.create "dana" twoChairs none), .arrive 0 (.request "dana" .submit), .advance 0 1]

/-- An edit that was read before the submit is stored while the requisition waits for its approval. -/
def boughtThree : List (Part RequisitionArrival Time) :=
  [.arrive 0 (.create "dana" twoChairs none),
    .arrive 1 (.request "dana" (.update { lineItems := some [{ quantity := some 3, unitPrice := some 45 }] } none)),
    .arrive 0 (.request "dana" .submit), .advance 0 1, .advance 1 2, .arrive 2 (.request "lee" .approve), .advance 2 3,
    .arrive 3 .convertToPo, .arrive 4 .convertToPo]

theorem bought_once_three :
    (requisitionService.machine.exec (Service.begun .empty) boughtThree).tables.orders.map (·.total) = [135] ∧
      BuysOnce (requisitionService.machine.exec (Service.begun .empty) boughtThree).tables := by
  have begins : requisitionService.machine.init (Service.begun .empty) := Service.init_begun rfl
  have inTime : requisitionService.machine.Permits (Service.Guarded (fun _ _ => True) CommitsInTime)
      (Service.begun .empty) boughtThree := by decide +kernel
  exact ⟨by decide +kernel, bought_once ((Machine.Reach.start begins).exec inTime)⟩

/-- A cancel passes its check, the requisition is converted, and the cancel is stored. -/
def cancelledLate : List (Part RequisitionArrival Time) :=
  submitted ++ [.arrive 0 (.request "lee" .approve), .advance 0 2, .arrive 1 (.request "dana" .cancel),
    .arrive 0 .convertToPo, .advance 1 3]

theorem bought_and_cancelled :
    ¬∀ state, requisitionService.machine.Reach Machine.Anything state → BuysOnce state.tables := by
  intro always
  have reach : requisitionService.machine.Reach Machine.Anything
      (requisitionService.machine.exec (Service.begun .empty) cancelledLate) :=
    Machine.reach_exec (Service.init_begun rfl) cancelledLate
  have left : ∃ order ∈ (requisitionService.machine.exec (Service.begun .empty) cancelledLate).tables.orders,
      ∀ row ∈ (requisitionService.machine.exec (Service.begun .empty) cancelledLate).tables.requisition,
        row.status ≠ .converted := by decide +kernel
  obtain ⟨order, mem, other⟩ := left
  obtain ⟨row, present, converted, _⟩ := (always _ reach).kept order mem
  exact other row present converted

end Payables.Procurement
