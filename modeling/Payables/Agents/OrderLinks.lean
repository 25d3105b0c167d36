import Payables.Agents.Verdicts
import Payables.Lib.Runs

namespace Payables
open Lib

/-- What a run reads of the vendors. -/
structure VendorReads where
  matchVendor : AgentInvoice → Option VendorId
  history : VendorId → List VendorCoding

def VendorReads.view (reads : VendorReads) (book : OrderBook) : AgentView := ⟨book, reads.matchVendor, reads.history⟩

/-- A run between its evaluation and the lock of its invoice. It holds the lock of its exception all along. -/
structure PendingRun where
  exception : QueueException
  caller : AgentCaller
  seen : AgentInvoice
  seenView : AgentView

/-- A run that has linked an invoice to one or more orders: its plan, and the invoice under the lock and as it is
committed. -/
structure OrderLink where
  run : AgentRun
  plan : ResolutionPlan
  locked : AgentInvoice
  approved : AgentInvoice

/-- The orders and invoices of a tenant with the agent runs at work on them. `links` is no table: it keeps what
the agents have linked. -/
structure AgentStore where
  book : OrderBook
  invoices : List AgentInvoice
  decisions : List AgentDecision
  pending : List PendingRun
  links : List OrderLink

/-- A part of a run, or a write of anyone else. -/
inductive AgentLabel
  | writeOrders (book : OrderBook)
  | writeInvoice (invoice : AgentInvoice)
  | startRun (invoiceId : InvoiceId) (exception : QueueException) (caller : AgentCaller) (reads : VendorReads)
  | finishRun (index : Nat) (reads : VendorReads) (now : Time)

def ResolutionPlan.links : ResolutionPlan → Bool
  | adjustAmount _ => false
  | linkOrder _ => true
  | linkOrders _ _ => true
  | codeGl _ _ _ _ => false

/-- What a committed run has linked, if it has. -/
def AgentRun.link? (run : AgentRun) (before after : RunStore) : Option OrderLink :=
  ((run.plan? before).filter fun plan => plan.links && after.exception.status == .resolved).map fun plan =>
    ⟨run, plan, before.invoice, after.invoice⟩

namespace AgentStore

variable (store : AgentStore)

def finished (settings : AgentTenant) (pending : PendingRun) (locked : AgentInvoice) (reads : VendorReads) (now : Time) : AgentStore :=
  let run : AgentRun := ⟨settings, pending.caller, now, pending.seen, pending.seenView, reads.view store.book⟩
  let before : RunStore := ⟨pending.exception, locked, store.decisions⟩
  match runAgent run before with
  | .error _ => store
  | .ok after => { store with
      invoices := putRow AgentInvoice.id after.invoice store.invoices
      decisions := after.decisions
      links := store.links ++ (run.link? before after).toList }

def step (settings : AgentTenant) : AgentLabel → AgentStore
  | .writeOrders book => { store with book := book }
  | .writeInvoice invoice => { store with invoices := invoice :: store.invoices.filter (·.id ≠ invoice.id) }
  | .startRun invoiceId exception caller reads =>
    match getRow AgentInvoice.id invoiceId store.invoices with
    | none => store
    | some seen => { store with pending := store.pending ++ [⟨exception, caller, seen, reads.view store.book⟩] }
  | .finishRun index reads now =>
    match store.pending[index]? with
    | none => store
    | some pending =>
      let ended : AgentStore := { store with pending := store.pending.eraseIdx index }
      match getRow AgentInvoice.id pending.seen.id store.invoices with
      | none => ended
      | some locked => ended.finished settings pending locked reads now

end AgentStore

/-- Any interleaving of agent runs on any invoices of a tenant, and of other writes to its orders and invoices. -/
def agentMachine (settings : AgentTenant) : Machine AgentStore AgentLabel where
  init store := store.pending = [] ∧ store.links = []
  step store label := store.step settings label

/-- The one order that a view has for an invoice, or the one set of several. -/
def AgentView.Chooses (view : AgentView) (settings : AgentTenant) (invoice : AgentInvoice) (orders : List PurchaseOrder) : Prop :=
  (∃ order, orders = [order] ∧ view.missingPoCandidates settings invoice = [order]) ∨
    UniqueSubset (view.splitCandidates settings invoice) invoice.quantizedAmount (invoice.matchRule settings).tolerancePct orders

namespace OrderLink

variable (link : OrderLink)

/-- The orders as they are under the lock. -/
def book : OrderBook := link.run.lockedView.book

/-- The orders that an invoice is linked to. -/
def orders : List PurchaseOrder :=
  match link.plan with
  | .linkOrder candidatePoId => (link.book.orderById candidatePoId).toList
  | .linkOrders subsetPoIds _ => link.book.ordersByIds subsetPoIds
  | .adjustAmount _ => []
  | .codeGl _ _ _ _ => []

/-- What the choice was made on is the same under the lock. -/
structure Unmoved : Prop where
  key : link.run.seen.matchKey = link.locked.matchKey
  date : link.run.seen.invoiceDate = link.locked.invoiceDate
  account : link.run.seen.row.fields.glAccount = link.locked.row.fields.glAccount
  openOrders : link.run.seenView.openOrders link.run.seen = link.run.lockedView.openOrders link.locked

/-- The amount is close to what it is approved on: the order that is matched after the link, or the sum of the
set. -/
def Covered : Prop :=
  match link.plan with
  | .linkOrders _ tolerancePct =>
    withinInvoiceBand (combinedTotal link.orders) link.approved.quantizedAmount tolerancePct = true
  | _ => ∃ number order, link.approved.poNumber = some number ∧ link.book.findOrder link.approved.matchKey number = some order ∧
    (0 < link.approved.row.fields.amount → |link.approved.row.fields.amount - order.total| ≤ 5 / 100 * order.total)

/-- What holds of every link of an agent. -/
structure Sound : Prop where
  review : link.locked.row.status = .readyForReview
  unmatched : (link.locked.liveMatch link.book).status = .noPo
  opened : ∀ order ∈ link.orders, order ∈ link.book.orders ∧ order.status = "open"
  chosen : ∃ chosen, link.run.seenView.Chooses link.run.settings link.run.seen chosen ∧
    (∀ order ∈ chosen, order ∈ link.run.seenView.openOrders link.run.seen) ∧ (chosen.map (·.id)).Perm (link.orders.map (·.id))
  covered : link.Covered
  unmoved : link.Unmoved → ∃ chosen, link.run.lockedView.Chooses link.run.settings link.locked chosen ∧ chosen.Perm link.orders ∧
    ∀ order ∈ link.orders, order ∈ link.run.lockedView.openOrders link.locked ∧
      order.vendorId = link.approved.row.fields.vendorId ∧ order.vendorId.isSome

end OrderLink

theorem firstResolving_mem {evaluations : List (Except Raised AgentEvaluation)} {plan : ResolutionPlan} {confidence : ℚ}
    (found : firstResolving evaluations = .ok (.autoResolve plan confidence)) : .ok (.autoResolve plan confidence) ∈ evaluations := by
  induction evaluations with
  | nil => cases found
  | cons evaluation rest ih =>
    unfold firstResolving at found
    split at found
    · cases found
    · exact List.mem_cons_of_mem _ (ih found)
    · rw [← found]
      exact List.mem_cons_self

namespace AgentView

variable {view : AgentView} {settings : AgentTenant} {caller : AgentCaller} {invoice : AgentInvoice} {plan : ResolutionPlan} {confidence : ℚ}

theorem amountMismatchEvaluate_plan (ok : view.amountMismatchEvaluate settings invoice = .ok (.autoResolve plan confidence)) :
    plan.links = false := by
  unfold amountMismatchEvaluate at ok
  simp only at ok
  split at ok
  · cases ok
  split at ok
  · cases ok
  split at ok
  · cases ok
  · cases ok
  split at ok
  · cases ok
  split at ok
  · cases ok
  · cases ok
    rfl

theorem glCodingEvaluate_plan (ok : view.glCodingEvaluate settings invoice = .ok (.autoResolve plan confidence)) :
    plan.links = false := by
  unfold glCodingEvaluate at ok
  simp only at ok
  split at ok
  · cases ok
  split at ok
  · cases ok
  split at ok
  · cases ok
  split at ok
  · cases ok
  · cases ok
    rfl

theorem missingPoEvaluate_plan (ok : view.missingPoEvaluate settings invoice = .autoResolve plan confidence) :
    ∃ order, view.missingPoCandidates settings invoice = [order] ∧ plan = .linkOrder order.id := by
  unfold missingPoEvaluate at ok
  split at ok
  · cases ok
  split at ok
  · cases ok
  split at ok
  · next order only =>
    cases ok
    exact ⟨order, only, rfl⟩
  · cases ok

theorem multiPoSplitEvaluate_plan (ok : view.multiPoSplitEvaluate settings invoice = .autoResolve plan confidence) :
    ∃ subset, UniqueSubset (view.splitCandidates settings invoice) invoice.quantizedAmount (invoice.matchRule settings).tolerancePct
      subset ∧ plan = .linkOrders (subset.map (·.id)) (invoice.matchRule settings).tolerancePct := by
  unfold multiPoSplitEvaluate at ok
  simp only at ok
  split at ok
  · cases ok
  split at ok
  · cases ok
  split at ok
  · cases ok
  split at ok
  · next subset found =>
    cases ok
    exact ⟨subset, findPoSubset_found found, rfl⟩
  · cases ok
  · cases ok

/-- A plan to link comes from one candidate, or from one set of candidates. -/
theorem evaluate_links {resolver : Resolver} (ok : resolver.evaluate view settings invoice = .ok (.autoResolve plan confidence))
    (links : plan.links = true) :
    (∃ order, view.missingPoCandidates settings invoice = [order] ∧ plan = .linkOrder order.id) ∨
      ∃ subset, UniqueSubset (view.splitCandidates settings invoice) invoice.quantizedAmount
        (invoice.matchRule settings).tolerancePct subset ∧
        plan = .linkOrders (subset.map (·.id)) (invoice.matchRule settings).tolerancePct := by
  have member := firstResolving_mem ok
  cases resolver with
  | poMismatch =>
    simp only [Resolver.delegates, List.mem_cons, List.not_mem_nil, or_false] at member
    rcases member with amount | missing | split
    · rw [amountMismatchEvaluate_plan amount.symm] at links
      cases links
    · exact .inl (missingPoEvaluate_plan (Except.ok.inj missing).symm)
    · exact .inr (multiPoSplitEvaluate_plan (Except.ok.inj split).symm)
  | missingData =>
    rw [glCodingEvaluate_plan (List.mem_singleton.mp member).symm] at links
    cases links
  | stub => cases member

theorem openOrders_mem {order : PurchaseOrder} (member : order ∈ view.openOrders invoice) :
    order ∈ view.book.orders ∧ order.status = "open" ∧ order.vendorId.isSome ∧ order.vendorId = view.candidateVendor invoice := by
  unfold openOrders at member
  split at member
  · cases member
  · next id vendor =>
    obtain ⟨inBook, meets⟩ := List.mem_filter.mp member
    simp only [Bool.and_eq_true, beq_iff_eq] at meets
    rw [meets.1, vendor]
    exact ⟨inBook, meets.2, rfl, rfl⟩

/-- The vendor of a candidate is the one an invoice ends up with. -/
theorem vendor_of_open {order : PurchaseOrder} (member : order ∈ view.openOrders invoice) :
    invoice.row.fields.vendorId.or order.vendorId = order.vendorId := by
  obtain ⟨_, _, _, same⟩ := openOrders_mem member
  unfold candidateVendor at same
  cases linked : invoice.row.fields.vendorId with
  | none => rw [Option.none_or]
  | some id =>
    rw [linked] at same
    rw [same, Option.some_or]

/-- What the missing-PO resolver hands over to the approval. -/
structure LinkedToOrder (view : AgentView) (candidatePoId : OrderId) (locked prepared : AgentInvoice) : Prop where
  review : locked.row.status = .readyForReview
  unmatched : (locked.liveMatch view.book).status = .noPo
  linked : ∃ order, view.book.orderById candidatePoId = some order ∧ order.status = "open" ∧
    prepared.row.fields.vendorId = locked.row.fields.vendorId.or order.vendorId
  matched : (prepared.liveMatch view.book).status = .matched

theorem refreshWarnings_fields : (view.refreshWarnings settings caller invoice).2.row.fields = invoice.row.fields := by
  unfold refreshWarnings
  cases caller.refreshes with
  | true => rfl
  | false => rfl

theorem missingPoPrepare_ok {candidatePoId : OrderId} {locked prepared : AgentInvoice} {corrections : List FieldEdit}
    (ready : view.missingPoPrepare settings caller candidatePoId locked = (.ok corrections, prepared)) :
    corrections = [] ∧ LinkedToOrder view candidatePoId locked prepared := by
  unfold missingPoPrepare at ready
  split at ready
  · exact absurd ready refused_ne_ok
  · next review =>
    split at ready
    · exact absurd ready refused_ne_ok
    · next unmatched =>
      split at ready
      · exact absurd ready refused_ne_ok
      · next order found =>
        obtain ⟨byId, status⟩ := Option.filter_eq_some_iff.mp found
        split at ready
        · exact absurd ready refused_ne_ok
        split at ready
        · cases ready
        · next refreshed result =>
          split at ready
          · exact absurd ready refused_ne_ok
          · next matched =>
            cases ready
            have fields := congrArg (fun outcome => outcome.2.row.fields.vendorId) result
            refine ⟨rfl, not_not.mp review, not_not.mp unmatched, ⟨order, byId, beq_iff_eq.mp status, ?_⟩, not_not.mp matched⟩
            exact fields.symm.trans (congrArg InvoiceFields.vendorId refreshWarnings_fields)

/-- What the split resolver hands over to the approval. -/
structure LinkedToOrders (view : AgentView) (subsetPoIds : List OrderId) (tolerancePct : ℚ) (locked prepared : AgentInvoice) :
    Prop where
  review : locked.row.status = .readyForReview
  unmatched : (locked.liveMatch view.book).status = .noPo
  all : (view.book.ordersByIds subsetPoIds).length = subsetPoIds.length
  opened : ∀ order ∈ view.book.ordersByIds subsetPoIds, order.status = "open"
  sums : withinInvoiceBand (combinedTotal (view.book.ordersByIds subsetPoIds)) prepared.quantizedAmount tolerancePct = true
  vendor : prepared.row.fields.vendorId =
    locked.row.fields.vendorId.or ((view.book.ordersByIds subsetPoIds).head?.bind (·.vendorId))

theorem multiPoSplitPrepare_ok {subsetPoIds : List OrderId} {tolerancePct : ℚ} {locked prepared : AgentInvoice}
    {corrections : List FieldEdit}
    (ready : view.multiPoSplitPrepare settings subsetPoIds tolerancePct locked = (.ok corrections, prepared)) :
    corrections = [] ∧ LinkedToOrders view subsetPoIds tolerancePct locked prepared := by
  unfold multiPoSplitPrepare at ready
  simp only at ready
  split at ready
  · exact absurd ready refused_ne_ok
  · next review =>
    split at ready
    · exact absurd ready refused_ne_ok
    · next unmatched =>
      split at ready
      · exact absurd ready refused_ne_ok
      split at ready
      · exact absurd ready refused_ne_ok
      · next all =>
        split at ready
        · exact absurd ready refused_ne_ok
        · next opened =>
          split at ready
          · exact absurd ready refused_ne_ok
          · next sums =>
            split at ready
            · exact absurd ready refused_ne_ok
            · cases ready
              have close : withinInvoiceBand (combinedTotal (view.book.ordersByIds subsetPoIds)) locked.quantizedAmount tolerancePct = true := by
                simpa only [Bool.not_eq_true', Bool.not_eq_false] using sums
              refine ⟨rfl, not_not.mp review, not_not.mp unmatched, not_not.mp all, fun order member => ?_, close, rfl⟩
              by_contra closed
              exact opened (List.any_eq_true.mpr ⟨order, member, bne_iff_ne.mpr closed⟩)

/-- An approval without corrections keeps all columns but those of the review. -/
theorem approveInvoice_plain {now : Time} {prepared after : AgentInvoice}
    (ok : view.approveInvoice settings caller now [] prepared = (.ok (), after)) :
    after.poNumber = prepared.poNumber ∧ after.entityId = prepared.entityId ∧ after.row.fields = prepared.row.fields := by
  have row : (prepared.row.approve settings.tenant (caller.request []) now).2 = after.row :=
    congrArg (fun outcome => outcome.2.row) ok
  have returned := approveInvoice_ok ok
  refine ⟨?_, ?_, ?_⟩
  · exact (congrArg (fun outcome => outcome.2.poNumber) ok).symm
  · exact (congrArg (fun outcome => outcome.2.entityId) ok).symm
  · have outcome := prepared.row.approve_outcome settings.tenant (caller.request []) now
    rw [returned] at outcome
    cases outcome with
    | partly _ fields => rw [fields, Invoice.correct_of_nil _ _ _ rfl]
    | approved _ _ fields => rw [fields, Invoice.correct_of_nil _ _ _ rfl]

end AgentView

namespace OrderBook

variable {book : OrderBook} {ids : List OrderId}

theorem ordersByIds_nodup : ((book.ordersByIds ids).map (·.id)).Nodup :=
  book.idsNodup.sublist (List.filter_sublist.map _)

theorem mem_ordersByIds {order : PurchaseOrder} : order ∈ book.ordersByIds ids ↔ order ∈ book.orders ∧ order.id ∈ ids := by
  simp only [ordersByIds, List.mem_filter, List.contains_iff_mem]

/-- As many rows as identifiers: each has its row. -/
theorem ids_perm (all : (book.ordersByIds ids).length = ids.length) : ids.Perm ((book.ordersByIds ids).map (·.id)) := by
  have inside : (book.ordersByIds ids).map (·.id) ⊆ ids := by
    intro id member
    obtain ⟨order, found, rfl⟩ := List.mem_map.mp member
    exact (mem_ordersByIds.mp found).2
  have short : ids.length ≤ ((book.ordersByIds ids).map (·.id)).length := by rw [List.length_map, all]
  exact ((List.subperm_of_subset ordersByIds_nodup inside).perm_of_length_le short).symm

/-- Rows of one table with the same identifiers are the same rows. -/
theorem perm_of_ids {orders others : List PurchaseOrder} (inBook : ∀ order ∈ orders, order ∈ book.orders)
    (othersInBook : ∀ order ∈ others, order ∈ book.orders) (keys : (others.map (·.id)).Nodup)
    (same : (orders.map (·.id)).Perm (others.map (·.id))) : orders.Perm others := by
  have member {first second : List PurchaseOrder} (firstIn : ∀ order ∈ first, order ∈ book.orders)
      (secondIn : ∀ order ∈ second, order ∈ book.orders) (ids : (first.map (·.id)).Perm (second.map (·.id)))
      {order : PurchaseOrder} (here : order ∈ first) : order ∈ second := by
    obtain ⟨other, there, key⟩ := List.mem_map.mp (ids.mem_iff.mp (List.mem_map_of_mem here))
    rw [← List.inj_on_of_nodup_map book.idsNodup (secondIn other there) (firstIn order here) key]
    exact there
  refine (List.perm_ext_iff_of_nodup (same.nodup_iff.mpr keys).of_map keys.of_map).mpr fun order => ⟨?_, ?_⟩
  · exact member inBook othersInBook same
  · exact member othersInBook inBook same.symm

end OrderBook

namespace OrderLink

variable {link : OrderLink}

theorem Unmoved.missingPoCandidates (unmoved : link.Unmoved) :
    link.run.seenView.missingPoCandidates link.run.settings link.run.seen =
      link.run.lockedView.missingPoCandidates link.run.settings link.locked := by
  have amount : link.run.seen.row.fields.amount = link.locked.row.fields.amount := congrArg MatchKey.amount unmoved.key
  have vendor : link.run.seen.row.fields.vendorId = link.locked.row.fields.vendorId := congrArg MatchKey.vendorId unmoved.key
  simp only [AgentView.missingPoCandidates, AgentInvoice.quantizedAmount, AgentInvoice.matchRule, unmoved.openOrders, unmoved.date,
    unmoved.account, amount, vendor]

theorem Unmoved.chooses (unmoved : link.Unmoved) {orders : List PurchaseOrder}
    (chooses : link.run.seenView.Chooses link.run.settings link.run.seen orders) :
    link.run.lockedView.Chooses link.run.settings link.locked orders := by
  have amount : link.run.seen.row.fields.amount = link.locked.row.fields.amount := congrArg MatchKey.amount unmoved.key
  have vendor : link.run.seen.row.fields.vendorId = link.locked.row.fields.vendorId := congrArg MatchKey.vendorId unmoved.key
  unfold AgentView.Chooses at chooses ⊢
  rw [← unmoved.missingPoCandidates]
  simpa only [AgentView.splitCandidates, AgentInvoice.quantizedAmount, AgentInvoice.matchRule, unmoved.openOrders, unmoved.date,
    unmoved.account, amount, vendor] using chooses

theorem open_of_chooses {view : AgentView} {settings : AgentTenant} {invoice : AgentInvoice} {orders : List PurchaseOrder}
    (chooses : view.Chooses settings invoice orders) {order : PurchaseOrder} (member : order ∈ orders) :
    order ∈ view.openOrders invoice := by
  rcases chooses with ⟨only, rfl, found⟩ | unique
  · rw [← found] at member
    exact (List.mem_filter.mp member).1
  · exact (List.mem_filter.mp (unique.part.subset member)).1

/-- A link to one order. -/
theorem sound_of_linkOrder {candidate : PurchaseOrder} {prepared : AgentInvoice} (plan : link.plan = .linkOrder candidate.id)
    (only : link.run.seenView.missingPoCandidates link.run.settings link.run.seen = [candidate])
    (handed : AgentView.LinkedToOrder link.run.lockedView candidate.id link.locked prepared)
    (number : link.approved.poNumber = prepared.poNumber) (entity : link.approved.entityId = prepared.entityId)
    (fields : link.approved.row.fields = prepared.row.fields) : link.Sound := by
  obtain ⟨order, byId, status, vendor⟩ := handed.linked
  have orders : link.orders = [order] := by
    simp only [OrderLink.orders, plan]
    rw [show link.book.orderById candidate.id = some order from byId, Option.toList_some]
  obtain ⟨inBook, key⟩ := OrderBook.orderById_some byId
  have chooses : link.run.seenView.Chooses link.run.settings link.run.seen [candidate] := .inl ⟨candidate, rfl, only⟩
  have matchKey : link.approved.matchKey = prepared.matchKey := by
    simp only [AgentInvoice.matchKey, number, entity, fields]
  refine ⟨handed.review, handed.unmatched, ?_, ⟨[candidate], chooses, fun _ => open_of_chooses chooses, ?_⟩, ?_, fun unmoved => ?_⟩
  · rw [orders]
    intro other member
    rw [List.mem_singleton.mp member]
    exact ⟨inBook, status⟩
  · rw [orders, List.map_singleton, List.map_singleton, key]
  · simp only [Covered, plan]
    obtain ⟨text, matched, named, found, close⟩ := OrderBook.matchInvoiceToPo_matched handed.matched
    refine ⟨text, matched, number.trans named, by rw [matchKey]; exact found, fun positive => ?_⟩
    have five : (5 : ℚ) < 100 := by norm_num
    have amount : link.approved.row.fields.amount = prepared.matchKey.amount := congrArg InvoiceFields.amount fields
    rw [amount] at positive ⊢
    exact OrderBook.compareAmounts_matched close positive five
  · have again := unmoved.chooses chooses
    have member := open_of_chooses again (List.mem_singleton_self candidate)
    have same : order = candidate := by
      have found := OrderBook.orderById_of_mem (AgentView.openOrders_mem member).1
      rw [byId] at found
      exact Option.some.inj found
    refine ⟨[candidate], again, by rw [orders, same], ?_⟩
    rw [orders, same]
    intro other here
    rw [List.mem_singleton.mp here]
    refine ⟨member, ?_, (AgentView.openOrders_mem member).2.2.1⟩
    rw [fields, vendor, same, AgentView.vendor_of_open member]

/-- A link to a set of orders. -/
theorem sound_of_linkOrders {subset : List PurchaseOrder} {tolerancePct : ℚ} {prepared : AgentInvoice}
    (plan : link.plan = .linkOrders (subset.map (·.id)) tolerancePct)
    (chooses : link.run.seenView.Chooses link.run.settings link.run.seen subset)
    (handed : AgentView.LinkedToOrders link.run.lockedView (subset.map (·.id)) tolerancePct link.locked prepared)
    (fields : link.approved.row.fields = prepared.row.fields) : link.Sound := by
  have orders : link.orders = link.book.ordersByIds (subset.map (·.id)) := by simp only [OrderLink.orders, plan]
  have ids : (subset.map (·.id)).Perm (link.orders.map (·.id)) := by
    rw [orders]
    exact OrderBook.ids_perm handed.all
  have inBook : ∀ order ∈ link.orders, order ∈ link.book.orders := by
    rw [orders]
    exact fun order member => (OrderBook.mem_ordersByIds.mp member).1
  refine ⟨handed.review, handed.unmatched, fun order member => ⟨inBook order member, ?_⟩,
    ⟨subset, chooses, fun _ => open_of_chooses chooses, ids⟩, ?_, fun unmoved => ?_⟩
  · rw [orders] at member
    exact handed.opened order member
  · simp only [Covered, plan, AgentInvoice.quantizedAmount, fields, orders]
    exact handed.sums
  · have again := unmoved.chooses chooses
    have keys : (link.orders.map (·.id)).Nodup := by
      rw [orders]
      exact OrderBook.ordersByIds_nodup
    have same := OrderBook.perm_of_ids (fun order member => (AgentView.openOrders_mem (open_of_chooses again member)).1) inBook keys ids
    have members : ∀ order ∈ link.orders, order ∈ link.run.lockedView.openOrders link.locked :=
      fun order member => open_of_chooses again (same.mem_iff.mpr member)
    refine ⟨subset, again, same, fun order member => ⟨members order member, ?_, (AgentView.openOrders_mem (members order member)).2.2.1⟩⟩
    -- the vendor of the first order is everyone's
    have head := List.head?_eq_some_head (List.ne_nil_of_mem member)
    have firstOpen := members _ (List.head_mem (List.ne_nil_of_mem member))
    have vendor : link.approved.row.fields.vendorId = link.locked.row.fields.vendorId.or
        (link.orders.head (List.ne_nil_of_mem member)).vendorId := by
      have handedOver : prepared.row.fields.vendorId =
          link.locked.row.fields.vendorId.or (link.orders.head?.bind (·.vendorId)) := by
        rw [orders]
        exact handed.vendor
      rw [fields, handedOver, head, Option.bind_some]
    rw [vendor, AgentView.vendor_of_open firstOpen, (AgentView.openOrders_mem firstOpen).2.2.2,
      (AgentView.openOrders_mem (members order member)).2.2.2]

end OrderLink

namespace AgentRun

variable {run : AgentRun} {before after : RunStore} {plan : ResolutionPlan}

theorem evaluated_of_plan (going : run.plan? before = some plan) : ∃ resolver confidence,
    Resolver.evaluate resolver run.seenView run.settings run.seen = .ok (.autoResolve plan confidence) := by
  unfold plan? at going
  split at going
  · cases going
  · obtain ⟨resolver, _, going⟩ := Option.bind_eq_some_iff.mp going
    obtain ⟨evaluation, evaluated, recommended⟩ := Option.bind_eq_some_iff.mp going
    cases result : resolver.evaluate run.seenView run.settings run.seen with
    | error raised =>
      rw [result] at evaluated
      cases evaluated
    | ok other =>
      rw [result] at evaluated
      cases evaluated
      cases evaluation with
      | escalate => cases recommended
      | autoResolve other confidence =>
        simp only [resolvable] at recommended
        split at recommended
        · cases recommended
          exact ⟨resolver, confidence, result⟩
        · cases recommended

/-- A run that resolves has prepared the invoice under the lock and had it approved. -/
theorem approved_of_resolved {confidence : ℚ} {agentType : String}
    (ok : run.carryOut before plan confidence agentType = .ok after) (resolved : after.exception.status = .resolved) :
    ∃ corrections prepared, run.lockedView.prepare run.settings run.caller plan before.invoice = (.ok corrections, prepared) ∧
      run.lockedView.approveInvoice run.settings run.caller run.now corrections prepared = (.ok (), after.invoice) := by
  unfold carryOut at ok
  split at ok
  · split at ok
    · rw [escalate_eq] at ok
      cases ok
      cases resolved
    · cases ok
  · next approved applied =>
    have same : after.invoice = approved := by
      unfold conclude at ok
      split at ok
      · cases ok
      · cases ok
        rfl
    unfold AgentView.apply at applied
    cases result : run.lockedView.prepare run.settings run.caller plan before.invoice with
    | mk answer prepared =>
      rw [result] at applied
      cases answer with
      | error error => cases applied
      | ok corrections =>
        refine ⟨corrections, prepared, rfl, ?_⟩
        rw [same]
        simp only at applied
        cases outcome : run.lockedView.approveInvoice run.settings run.caller run.now corrections prepared with
        | mk answer other =>
          rw [outcome] at applied
          cases answer with
          | error error => cases applied
          | ok =>
            cases applied
            rfl

/-- What a run links is chosen, checked under the lock and approved. -/
theorem link_sound {link : OrderLink} (ok : runAgent run before = .ok after) (linked : run.link? before after = some link) :
    link.Sound := by
  obtain ⟨plan, filtered, rfl⟩ := Option.map_eq_some_iff.mp linked
  obtain ⟨going, kind⟩ := Option.filter_eq_some_iff.mp filtered
  rw [Bool.and_eq_true, beq_iff_eq] at kind
  obtain ⟨_, confidence, agentType, same⟩ := runAgent_of_plan going
  rw [same] at ok
  obtain ⟨corrections, prepared, ready, approved⟩ := approved_of_resolved ok kind.2
  obtain ⟨resolver, _, evaluated⟩ := evaluated_of_plan going
  rcases AgentView.evaluate_links evaluated kind.1 with ⟨candidate, only, rfl⟩ | ⟨subset, unique, rfl⟩
  · obtain ⟨rfl, handed⟩ := AgentView.missingPoPrepare_ok ready
    obtain ⟨number, entity, fields⟩ := AgentView.approveInvoice_plain approved
    exact OrderLink.sound_of_linkOrder rfl only handed number entity fields
  · obtain ⟨rfl, handed⟩ := AgentView.multiPoSplitPrepare_ok ready
    obtain ⟨_, _, fields⟩ := AgentView.approveInvoice_plain approved
    exact OrderLink.sound_of_linkOrders rfl (.inr unique) handed fields

end AgentRun

section
variable {settings : AgentTenant} {store : AgentStore}

/-- A step adds no link but those of the run it finishes. -/
theorem step_links_sound (sound : ∀ link ∈ store.links, link.Sound) (label : AgentLabel) :
    ∀ link ∈ (store.step settings label).links, link.Sound := by
  cases label with
  | writeOrders book => exact sound
  | writeInvoice invoice => exact sound
  | startRun invoiceId exception caller reads =>
    unfold AgentStore.step
    simp only
    split
    · exact sound
    · exact sound
  | finishRun index reads now =>
    unfold AgentStore.step
    simp only
    split
    · exact sound
    · next pending _ =>
      split
      · exact sound
      · next locked _ =>
        unfold AgentStore.finished
        simp only
        split
        · exact sound
        · next after ok =>
          intro link member
          rcases List.mem_append.mp member with old | new
          · exact sound link old
          · exact AgentRun.link_sound ok (Option.mem_toList.mp new)

end

/-- Each linked order is open, and of the vendor and in the entity of its invoice. -/
def AgentStore.LinksInScope (store : AgentStore) : Prop :=
  ∀ link ∈ store.links, ∀ order ∈ link.orders,
    order.status = "open" ∧ order.vendorId = link.approved.row.fields.vendorId ∧ inEntityScope link.approved.entityId order.entityId = true
  deriving Decidable

/-- The linked orders are the only candidate, or the only set of candidates, under the lock. -/
def AgentStore.LinksUnique (store : AgentStore) : Prop :=
  ∀ link ∈ store.links, ∃ chosen, link.run.lockedView.Chooses link.run.settings link.locked chosen ∧ chosen.Perm link.orders

/-- The amounts of the invoices that are linked to this order alone. -/
def AgentStore.spentOn (store : AgentStore) (id : OrderId) : ℚ :=
  ((store.links.filter fun link => link.orders.map (·.id) == [id]).map fun link => link.approved.row.fields.amount).sum

/-- What is spent on an order stays within the tolerance of its total. -/
def AgentStore.SpendsOnce (store : AgentStore) : Prop :=
  ∀ link ∈ store.links, ∀ order ∈ link.orders,
    store.spentOn order.id ≤ order.total + (link.locked.matchRule link.run.settings).tolerancePct / 100 * order.total
  deriving Decidable

/-- An organisation whose agents act on their own, without a chain. -/
def linkingTenant : AgentTenant := { balancedTenant with tenant := plainTenant }

def unlinkedInvoice (id : InvoiceId) (entityId : Option EntityId) : AgentInvoice :=
  ⟨id, entityId, some "INV", some 0, none, none, (underReview none).invoice⟩

def openOrder (id : OrderId) (poNumber : String) (entityId : Option EntityId) (total : ℚ) : PurchaseOrder :=
  ⟨id, poNumber, some 7, entityId, total, "open", 0, []⟩

def oneOpenOrder : OrderBook := ⟨[openOrder 1 "PO-1" none 100], [], [], by decide⟩

def mismatchException : QueueException := ⟨.other "po_mismatch", .opened, none, 0, none, none, none⟩

def noReads : VendorReads := ⟨fun _ => none, fun _ => []⟩

def agentStoreOf (book : OrderBook) (invoices : List AgentInvoice) : AgentStore := ⟨book, invoices, [], [], []⟩

/-- A run on an invoice from its start to its end, with nothing in between. -/
def wholeRun (invoiceId : InvoiceId) : List AgentLabel :=
  [.startRun invoiceId mismatchException (agentCaller "manager") noReads, .finishRun 0 noReads 0]

/-- Two invoices for the same order. -/
def twoUnlinked : AgentStore := agentStoreOf oneOpenOrder [unlinkedInvoice 1 none, unlinkedInvoice 2 none]

/-- An invoice of one entity, and two orders of another that sum up to it. -/
def otherEntity : AgentStore :=
  agentStoreOf ⟨[openOrder 1 "PO-1" (some 2) 60, openOrder 2 "PO-2" (some 2) 40], [], [], by decide⟩ [unlinkedInvoice 1 (some 1)]

/-- A second order of the same total is entered while a run is on its way. -/
def overtakenLink : List AgentLabel :=
  [.startRun 1 mismatchException (agentCaller "manager") noReads,
    .writeOrders ⟨[openOrder 1 "PO-1" none 100, openOrder 2 "PO-2" none 100], [], [], by decide⟩, .finishRun 0 noReads 0]

theorem not_unique_of_two {link : OrderLink} (one : link.orders.length = 1)
    (two : (link.run.lockedView.missingPoCandidates link.run.settings link.locked).length = 2) :
    ¬∃ chosen, link.run.lockedView.Chooses link.run.settings link.locked chosen ∧ chosen.Perm link.orders := by
  rintro ⟨chosen, ⟨order, _, only⟩ | unique, same⟩
  · rw [only] at two
    cases two
  · have several := unique.several
    rw [same.length_eq, one] at several
    omega

end Payables
