import Mathlib.Data.List.Find
import Payables.Payments.Tables

namespace Payables
open Lib

/-- `CARD_CLAIM_ONLY_METHOD`, the one rail that converges on an existing card. -/
def cardClaimOnlyMethod : Option String := some "virtual_card"

/-- The rail of an item that names none. -/
def defaultRunMethod : String := "ach"

/-- `RunRefusal.only_method`. -/
def RunRefusal.onlyMethod : RunRefusal → Option String
  | liveVirtualCard => cardClaimOnlyMethod
  | _ => none

/-- The position of a type in `PAYMENT_BLOCKING_EXCEPTION_TYPES`, or its length. -/
def blockingRank (type : ExceptionType) : Nat := paymentBlockingExceptionTypes.idxOf type

namespace PayableTables

variable (tables : PayableTables)

section Select

def queueBlockingExists (invoice : InvoiceRow) : Sql.Truth :=
  Sql.existsRow tables.exceptions fun row => Sql.all
    [Sql.eq row.invoiceId (some invoice.id), Sql.isIn (some row.exceptionType) (paymentBlockingExceptionTypes.map some),
      Sql.not (Sql.isIn (some row.status) ([ExceptionStatus.resolved, .dismissed].map some))]

def livePaymentInvoiceIds : List (Option InvoiceId) :=
  (Sql.select tables.payments fun payment => Sql.not (Sql.isIn (some payment.status) (PaymentStatus.dead.map some))).map
    fun payment => some payment.invoiceId

def queueLiveCardExists (invoice : InvoiceRow) : Sql.Truth :=
  Sql.existsRow tables.cards fun card => Sql.all
    [Sql.eq (some card.invoiceId) (some invoice.id), Sql.not (Sql.eq (some card.status) (some CardStatus.cancelled))]

def queueFullyCredited (invoice : InvoiceRow) : Sql.Truth :=
  let applied := Sql.sum ((Sql.select tables.creditMemos fun memo => Sql.all
    [Sql.eq memo.invoiceId (some invoice.id), Sql.eq (some memo.status) (some CreditMemoStatus.applied)]).map
      fun memo => some memo.amount)
  Sql.le (some (invoice.amount - applied.getD 0)) (some 0)

def queueBaseWhere (invoice : InvoiceRow) : List Sql.Truth :=
  [Sql.isIn (some invoice.status) (InvoiceStatus.payableStatuses.map some),
    Sql.not (Sql.isIn (some invoice.id) tables.livePaymentInvoiceIds)]

def queueSelectableWhere (invoice : InvoiceRow) : List Sql.Truth :=
  tables.queueBaseWhere invoice ++
    [Sql.not (tables.queueBlockingExists invoice), Sql.not (tables.queueFullyCredited invoice),
      Sql.not (tables.queueLiveCardExists invoice)]

/-- `CARD_CLAIM_ONLY_METHOD` is set, so the card clause does not join. -/
def queueBlockedOnEveryRail (invoice : InvoiceRow) : Sql.Truth :=
  Sql.or (tables.queueBlockingExists invoice) (tables.queueFullyCredited invoice)

/-- The rows of the queue. -/
def queueRows : List InvoiceRow := Sql.select tables.invoices fun invoice => Sql.all (tables.queueBaseWhere invoice)

/-- The rows that "select all matching" resolves. -/
def selectableRows : List InvoiceRow :=
  Sql.select tables.invoices fun invoice => Sql.all (tables.queueSelectableWhere invoice)

end Select

section Refusals

/-- One row of `blocking_exception_types`, in the dictionary built so far. -/
def holdType (out : InvoiceId → Option ExceptionType) (row : ExceptionRow) : InvoiceId → Option ExceptionType :=
  match row.invoiceId with
  | none => out
  | some id =>
    match out id with
    | none => Function.update out id (some row.exceptionType)
    | some held =>
      if blockingRank row.exceptionType < blockingRank held then Function.update out id (some row.exceptionType) else out

def blockingExceptionTypes (ids : List InvoiceId) : InvoiceId → Option ExceptionType :=
  (Sql.select tables.exceptions fun row => Sql.all
    [Sql.isIn row.invoiceId (ids.map some), Sql.isIn (some row.exceptionType) (paymentBlockingExceptionTypes.map some),
      Sql.not (Sql.isIn (some row.status) ([ExceptionStatus.resolved, .dismissed].map some))]).foldl holdType fun _ => none

def liveCardInvoiceIds (ids : List InvoiceId) : List InvoiceId :=
  (Sql.select tables.cards fun card => Sql.all
    [Sql.isIn (some card.invoiceId) (ids.map some), Sql.not (Sql.eq (some card.status) (some CardStatus.cancelled))]).map
      (·.invoiceId)

def cardClaimedInvoiceIds (items : List (InvoiceId × Option String)) : List InvoiceId :=
  tables.liveCardInvoiceIds ((items.filter fun item => !convergesOnCard item.2).map (·.1))

/-- The mapping of `applied_credit_totals`, without the group of the memos that have no invoice. -/
def appliedCreditTotals (ids : List InvoiceId) : List (InvoiceId × ℚ) :=
  (Sql.groupBy (·.invoiceId) (Sql.select tables.creditMemos fun memo => Sql.all
    [Sql.isIn memo.invoiceId (ids.map some), Sql.eq (some memo.status) (some CreditMemoStatus.applied)])).filterMap
      fun group => group.1.map fun id => (id, (Sql.sum (group.2.map fun memo => some memo.amount)).getD 0)

def netPayableAmounts (rows : List InvoiceRow) (invoice : InvoiceRow) : ℚ :=
  invoice.amount - ((tables.appliedCreditTotals (rows.map (·.id))).lookup invoice.id).getD 0

def livePaymentInvoices (ids : List InvoiceId) : List InvoiceId :=
  tables.invoices.flatMap fun invoice =>
    (Sql.select tables.payments fun payment => Sql.all
      [Sql.eq (some payment.invoiceId) (some invoice.id), Sql.isIn (some invoice.id) (ids.map some),
        Sql.not (Sql.isIn (some payment.status) (PaymentStatus.dead.map some))]).map fun _ => invoice.id

/-- `run_refusal_reasons`. A method that is missing is `none`. -/
def runRefusalReasons (rows : List InvoiceRow) (methods : InvoiceId → Option String) : List (InvoiceId × RunRefusal) :=
  let exceptionTypes := tables.blockingExceptionTypes (rows.map (·.id))
  let cardRefused := tables.cardClaimedInvoiceIds (rows.map fun invoice => (invoice.id, methods invoice.id))
  let livePayments := tables.livePaymentInvoices (rows.map (·.id))
  rows.filterMap fun invoice =>
    match exceptionTypes invoice.id with
    | some type => some (invoice.id, .blockedBy type)
    | none =>
      if invoice.id ∈ cardRefused then some (invoice.id, .liveVirtualCard)
      else if tables.netPayableAmounts rows invoice ≤ 0 then some (invoice.id, .fullyCredited)
      else if invoice.id ∈ livePayments then some (invoice.id, .livePayment)
      else none

end Refusals

end PayableTables

/-- An open exception that blocks the payment of an invoice. -/
def ExceptionRow.Blocks (row : ExceptionRow) (id : InvoiceId) : Prop :=
  row.invoiceId = some id ∧ row.exceptionType ∈ paymentBlockingExceptionTypes ∧
    row.status ≠ .resolved ∧ row.status ≠ .dismissed

instance (row : ExceptionRow) (id : InvoiceId) : Decidable (row.Blocks id) :=
  inferInstanceAs (Decidable (_ ∧ _))

theorem runRefusal_eq_none {store : PaymentStore} {invoice : PayableInvoice} {method : Option String} :
    runRefusal store invoice method = none ↔
      blockingExceptionType store.exceptions invoice.id = none ∧ ¬cardClaims invoice method ∧
      ¬invoice.netPayableAmount ≤ 0 ∧ ¬store.hasLivePayment invoice.id := by
  unfold runRefusal
  cases blockingExceptionType store.exceptions invoice.id with
  | some type => simp
  | none =>
    by_cases claimed : cardClaims invoice method
    · simp [claimed]
    · by_cases credited : invoice.netPayableAmount ≤ 0
      · simp [claimed, credited]
      · by_cases live : store.hasLivePayment invoice.id
        · simp [claimed, credited, live]
        · simp [claimed, credited, live]

/-- The run builder takes an invoice alone exactly when it is payable and no reason refuses it. -/
theorem createPaymentRun_single {store : PaymentStore} {invoice : PayableInvoice}
    (found : store.invoice? invoice.id = some invoice) (user : UserId) (method : String) (requiresCfo : Bool) :
    (∃ after, createPaymentRun store user [(invoice.id, method)] requiresCfo = .ok after) ↔
      invoice.status ∈ InvoiceStatus.payableStatuses ∧ runRefusal store invoice (some method) = none := by
  unfold createPaymentRun
  simp only [List.filterMap_cons, List.filterMap_nil, found, Option.map_some]
  by_cases payable : invoice.status ∈ InvoiceStatus.payableStatuses
  · cases refusal : runRefusal store invoice (some method) with
    | some reason => simp [payable]
    | none =>
      have free := (runRefusal_eq_none.mp refusal).2.2.2
      have booked : (bookRunPayments store.nextId [(invoice.id, method)]
          { store with
            runs := store.runs ++ [store.newRun user [invoice.id] invoice.netPayableAmount requiresCfo]
            nextId := store.nextId + 1 }).isSome := by
        have found' := found
        unfold PaymentStore.invoice? at found'
        unfold PaymentStore.hasLivePayment at free
        simp [bookRunPayments, PaymentStore.invoice?, found', PaymentStore.insertPayment, PaymentStore.hasLivePayment, free]
      obtain ⟨after, accepted⟩ := Option.isSome_iff_exists.mp booked
      have accepted' : bookRunPayments (store.newRun user [invoice.id] invoice.netPayableAmount requiresCfo).id
          [(invoice.id, method)] _ = some after := accepted
      simp [payable, accepted']
  · simp [payable]

/-- Of two candidates only the first in the list counts. -/
theorem find?_absorb {α : Type*} [DecidableEq α] {a b : α} (more : α → Bool) {values : List α}
    (first : values.idxOf a ≤ values.idxOf b) :
    values.find? (fun value => value == a || (value == b || more value)) =
      values.find? (fun value => value == a || more value) := by
  induction values with
  | nil => rfl
  | cons value rest ih =>
    simp only [List.idxOf_cons] at first
    rw [List.find?_cons, List.find?_cons]
    by_cases isA : value = a
    · simp only [isA, beq_self_eq_true, Bool.true_or]
    · have isNotA : (value == a) = false := by simpa using isA
      simp only [isNotA, cond_false] at first ⊢
      by_cases isB : value = b
      · have isB' : (value == b) = true := by simpa using isB
        simp only [isB', cond_true] at first
        omega
      · have isNotB : (value == b) = false := by simpa using isB
        simp only [isNotB, cond_false, Bool.false_or] at first ⊢
        rw [ih (by omega)]

namespace PayableTables

section Agreement

variable {tables : PayableTables}

/-- The types of the exceptions of one invoice. -/
def typesOf (id : InvoiceId) (rows : List ExceptionRow) : List ExceptionType :=
  (rows.filter fun row => row.invoiceId = some id).map (·.exceptionType)

theorem holdType_other {out : InvoiceId → Option ExceptionType} {row : ExceptionRow} {id : InvoiceId}
    (other : row.invoiceId ≠ some id) : holdType out row id = out id := by
  unfold holdType
  cases owner : row.invoiceId with
  | none => rfl
  | some ownerId =>
    have apart : id ≠ ownerId := fun same => other (owner.trans (congrArg some same.symm))
    cases held : out ownerId with
    | none => simp [held, Function.update_of_ne apart]
    | some type =>
      simp only [held]
      by_cases better : blockingRank row.exceptionType < blockingRank type
      · rw [if_pos better, Function.update_of_ne apart]
      · rw [if_neg better]

/-- The dictionary of `blocking_exception_types` holds the highest-ranked of the types it has met. -/
theorem foldl_holdType (id : InvoiceId) (rows : List ExceptionRow) (out : InvoiceId → Option ExceptionType)
    (known : ∀ held ∈ out id, held ∈ paymentBlockingExceptionTypes)
    (blocking : ∀ row ∈ rows, row.exceptionType ∈ paymentBlockingExceptionTypes) :
    rows.foldl holdType out id =
      paymentBlockingExceptionTypes.find? fun type => ((out id).toList ++ typesOf id rows).contains type := by
  induction rows generalizing out with
  | nil =>
    cases holds : out id with
    | none => exact holds
    | some held =>
      have listed := known held holds
      simp only [paymentBlockingExceptionTypes, List.mem_cons, List.not_mem_nil, or_false] at listed
      rcases listed with rfl | rfl | rfl | rfl <;> exact holds
  | cons row rest ih =>
    obtain ⟨listed, others⟩ := List.forall_mem_cons.mp blocking
    rw [List.foldl_cons]
    by_cases mine : row.invoiceId = some id
    · have types : typesOf id (row :: rest) = row.exceptionType :: typesOf id rest := by simp [typesOf, mine]
      rw [types]
      cases holds : out id with
      | none =>
        have next : holdType out row id = some row.exceptionType := by simp [holdType, mine, holds]
        rw [ih (holdType out row) (by simp [next, listed]) others, next]
        rfl
      | some held =>
        by_cases better : blockingRank row.exceptionType < blockingRank held
        · have next : holdType out row id = some row.exceptionType := by simp [holdType, mine, holds, better]
          rw [ih (holdType out row) (by simp [next, listed]) others, next]
          have absorbed := find?_absorb (typesOf id rest).contains better.le
          simp only [Option.toList_some, List.cons_append, List.nil_append, List.contains_cons]
          rw [← absorbed]
          exact List.find?_congr fun type _ => by cases type == row.exceptionType <;> cases type == held <;> rfl
        · have next : holdType out row id = some held := by simp [holdType, mine, holds, better]
          rw [ih (holdType out row) (by simpa [next] using known held holds) others, next]
          simp only [Option.toList_some, List.cons_append, List.nil_append, List.contains_cons]
          exact (find?_absorb (typesOf id rest).contains (not_lt.mp better)).symm
    · have types : typesOf id (row :: rest) = typesOf id rest := by simp [typesOf, mine]
      have next : holdType out row id = out id := holdType_other mine
      rw [ih (holdType out row) (by rw [next]; exact known) others, next, types]

theorem mem_blocking {row : ExceptionRow} {owner : Sql.Truth} :
    Sql.holds (Sql.all [owner, Sql.isIn (some row.exceptionType) (paymentBlockingExceptionTypes.map some),
      Sql.not (Sql.isIn (some row.status) ([ExceptionStatus.resolved, .dismissed].map some))]) ↔
    Sql.holds owner ∧ row.exceptionType ∈ paymentBlockingExceptionTypes ∧ row.status ≠ .resolved ∧ row.status ≠ .dismissed := by
  rw [Sql.holds_all, List.all_cons, List.all_cons, List.all_cons, List.all_nil, Sql.holds_notIn, Sql.isIn_some, Sql.holds_some]
  simp

theorem any_blocking (id : InvoiceId) (type : ExceptionType) :
    (tables.store.exceptions.any fun exception => exception.isBlocking id && exception.exceptionType == type) ↔
      ∃ row ∈ tables.exceptions, row.Blocks id ∧ row.exceptionType = type := by
  simp only [store, List.any_eq_true, List.mem_filterMap, exceptionOf, Option.map_eq_some_iff]
  constructor
  · rintro ⟨exception, ⟨row, member, owner, owned, rfl⟩, blocking⟩
    simp only [InvoiceException.isBlocking, Bool.and_eq_true, beq_iff_eq, bne_iff_ne, List.contains_iff_mem] at blocking
    obtain ⟨⟨⟨⟨rfl, listed⟩, unresolved⟩, undismissed⟩, same⟩ := blocking
    exact ⟨row, member, ⟨owned, listed, unresolved, undismissed⟩, same⟩
  · rintro ⟨row, member, ⟨owned, listed, unresolved, undismissed⟩, rfl⟩
    exact ⟨_, ⟨row, member, id, owned, rfl⟩, by simp [InvoiceException.isBlocking, listed, unresolved, undismissed]⟩

theorem blockingExceptionTypes_eq {ids : List InvoiceId} {id : InvoiceId} (listed : id ∈ ids) :
    tables.blockingExceptionTypes ids id = blockingExceptionType tables.store.exceptions id := by
  unfold blockingExceptionTypes blockingExceptionType
  rw [foldl_holdType id _ _ (by simp)]
  · refine List.find?_congr fun type known => ?_
    rw [Bool.eq_iff_iff, any_blocking]
    simp only [typesOf, Option.toList_none, List.nil_append, List.contains_iff_mem, List.mem_map, List.mem_filter,
      Sql.mem_select, mem_blocking, decide_eq_true_eq, Sql.holds_isIn, ExceptionRow.Blocks]
    constructor
    · rintro ⟨row, ⟨⟨member, -, blocking⟩, owned⟩, rfl⟩
      exact ⟨row, member, ⟨owned, blocking⟩, rfl⟩
    · rintro ⟨row, member, ⟨owned, blocking⟩, rfl⟩
      exact ⟨row, ⟨⟨member, by simp [owned, listed], blocking⟩, owned⟩, rfl⟩
  · intro row member
    exact (mem_blocking.mp (Sql.mem_select.mp member).2).2.1

theorem blockingExceptionType_isSome (id : InvoiceId) :
    (blockingExceptionType tables.store.exceptions id).isSome ↔ ∃ row ∈ tables.exceptions, row.Blocks id := by
  unfold blockingExceptionType
  rw [List.find?_isSome]
  constructor
  · rintro ⟨type, -, found⟩
    obtain ⟨row, member, blocks, -⟩ := (any_blocking id type).mp found
    exact ⟨row, member, blocks⟩
  · rintro ⟨row, member, blocks⟩
    exact ⟨row.exceptionType, blocks.2.1, (any_blocking id _).mpr ⟨row, member, blocks, rfl⟩⟩

theorem queueBlockingExists_eq (invoice : InvoiceRow) :
    tables.queueBlockingExists invoice = some (blockingExceptionType tables.store.exceptions invoice.id).isSome := by
  unfold queueBlockingExists
  rw [Sql.existsRow_eq]
  congr 1
  rw [Bool.eq_iff_iff, blockingExceptionType_isSome, List.any_eq_true]
  simp only [mem_blocking, Sql.holds_eq, decide_eq_true_eq, ExceptionRow.Blocks]

theorem queueLiveCardExists_eq (invoice : InvoiceRow) :
    tables.queueLiveCardExists invoice = some (tables.hasLiveCard invoice.id) := by
  unfold queueLiveCardExists hasLiveCard
  rw [Sql.existsRow_eq]
  congr 2
  funext card
  simp [Sql.holds_all, Sql.eq, Sql.not]

theorem queueFullyCredited_eq (invoice : InvoiceRow) :
    tables.queueFullyCredited invoice = some (decide ((tables.payable invoice).netPayableAmount ≤ 0)) := by
  have applied : (Sql.select tables.creditMemos fun memo => Sql.all
      [Sql.eq memo.invoiceId (some invoice.id), Sql.eq (some memo.status) (some CreditMemoStatus.applied)]) =
        tables.appliedMemos invoice.id := by
    unfold Sql.select appliedMemos
    refine List.filter_congr fun memo _ => ?_
    simp [Sql.holds_all, Sql.holds_eq]
  have total := Sql.coalesce_sum ((tables.appliedMemos invoice.id).map (·.amount))
  rw [List.map_map] at total
  simp only [queueFullyCredited, applied]
  exact congrArg (fun credit => Sql.le (some (invoice.amount - credit)) (some 0)) total

/-- A payment outside the statuses that free its invoice. -/
theorem holds_live (status : PaymentStatus) :
    Sql.holds (Sql.not (Sql.isIn (some status) (PaymentStatus.dead.map some))) = status.isLive := Sql.holds_notIn _ _

theorem livePaymentInvoiceIds_eq :
    tables.livePaymentInvoiceIds = ((tables.payments.filter (·.status.isLive)).map (·.invoiceId)).map some := by
  simp only [livePaymentInvoiceIds, Sql.select, holds_live, List.map_map]
  rfl

theorem hasLivePayment_iff (id : InvoiceId) :
    tables.store.hasLivePayment id ↔ ∃ payment ∈ tables.payments, payment.invoiceId = id ∧ payment.status.isLive := by
  simp [PaymentStore.hasLivePayment, store]

theorem holds_queueBaseWhere (invoice : InvoiceRow) :
    Sql.holds (Sql.all (tables.queueBaseWhere invoice)) ↔
      invoice.status ∈ InvoiceStatus.payableStatuses ∧ ¬tables.store.hasLivePayment invoice.id := by
  rw [queueBaseWhere, Sql.holds_all, livePaymentInvoiceIds_eq, List.all_cons, List.all_cons, List.all_nil, Sql.holds_notIn,
    Sql.isIn_some, Sql.holds_some, Bool.and_eq_true, Bool.and_true, List.contains_iff_mem, Bool.not_eq_true',
    ← Bool.not_eq_true, List.contains_iff_mem, hasLivePayment_iff]
  simp only [List.mem_map, List.mem_filter]
  grind

/-- A row is selectable when it is payable and no reason of a run on a rail that does not converge on a
card refuses it. -/
theorem holds_queueSelectableWhere (invoice : InvoiceRow) {method : Option String} (apart : ¬convergesOnCard method) :
    Sql.holds (Sql.all (tables.queueSelectableWhere invoice)) ↔
      invoice.status ∈ InvoiceStatus.payableStatuses ∧ runRefusal tables.store (tables.payable invoice) method = none := by
  have base : Sql.holds (Sql.all (tables.queueBaseWhere invoice)) ↔ _ := holds_queueBaseWhere invoice
  rw [Sql.holds_all] at base
  rw [queueSelectableWhere, Sql.holds_all, List.all_append, Bool.and_eq_true, base, queueBlockingExists_eq,
    queueFullyCredited_eq, queueLiveCardExists_eq, runRefusal_eq_none]
  have claimed : cardClaims (tables.payable invoice) method = tables.hasLiveCard invoice.id := by
    simp [cardClaims, apart, payable]
  simp only [List.all_cons, List.all_nil, Sql.holds_not_some, claimed, Bool.and_true, Bool.and_eq_true,
    Bool.not_eq_true', Option.isSome_eq_false_iff, Option.isNone_iff_eq_none, decide_eq_false_iff_not, Bool.not_eq_true, payable_id]
  constructor
  · rintro ⟨⟨status, unpaid⟩, unblocked, owed, cardless⟩
    exact ⟨status, unblocked, cardless, owed, unpaid⟩
  · rintro ⟨status, unblocked, cardless, owed, unpaid⟩
    exact ⟨⟨status, unpaid⟩, unblocked, owed, cardless⟩

theorem mem_cardClaimedInvoiceIds {rows : List InvoiceRow} {invoice : InvoiceRow} (member : invoice ∈ rows)
    (methods : InvoiceId → Option String) :
    invoice.id ∈ tables.cardClaimedInvoiceIds (rows.map fun invoice => (invoice.id, methods invoice.id)) ↔
      cardClaims (tables.payable invoice) (methods invoice.id) := by
  have candidate : invoice.id ∈ ((rows.map fun invoice => (invoice.id, methods invoice.id)).filter
      fun item => !convergesOnCard item.2).map (·.1) ↔ ¬convergesOnCard (methods invoice.id) := by
    simp only [List.mem_map, List.mem_filter, Bool.not_eq_true']
    constructor
    · rintro ⟨_, ⟨⟨other, -, rfl⟩, apart⟩, same⟩
      simp only at same
      rw [← same]
      simpa using apart
    · intro apart
      exact ⟨_, ⟨⟨invoice, member, rfl⟩, by simpa using apart⟩, rfl⟩
  have alive (card : VirtualCard) : Sql.holds (Sql.not (Sql.eq (some card.status) (some CardStatus.cancelled))) =
      decide (card.status ≠ .cancelled) := by simp [Sql.eq, Sql.not]
  simp only [cardClaimedInvoiceIds, liveCardInvoiceIds, cardClaims, payable, hasLiveCard, Bool.and_eq_true, Bool.not_eq_true',
    ← Bool.not_eq_true, ← candidate, List.any_eq_true, List.mem_map (f := VirtualCard.invoiceId), Sql.mem_select,
    Sql.holds_all, List.all_cons, List.all_nil, Sql.holds_isIn, alive, Bool.and_true, decide_eq_true_eq]
  constructor
  · rintro ⟨card, ⟨inCards, among, spendable⟩, owned⟩
    rw [← owned]
    exact ⟨by simpa using among, card, inCards, rfl, spendable⟩
  · rintro ⟨among, card, inCards, owned, spendable⟩
    exact ⟨card, ⟨inCards, by rw [owned]; simpa using among, spendable⟩, owned⟩

theorem lookup_appliedCreditTotals {ids : List InvoiceId} {id : InvoiceId} (listed : id ∈ ids) :
    ((tables.appliedCreditTotals ids).lookup id).getD 0 = tables.appliedCreditTotal id := by
  have applied : ((Sql.select tables.creditMemos fun memo => Sql.all
      [Sql.isIn memo.invoiceId (ids.map some), Sql.eq (some memo.status) (some CreditMemoStatus.applied)]).filter
        fun memo => memo.invoiceId = some id) = tables.appliedMemos id := by
    simp only [Sql.select, appliedMemos, List.filter_filter, Sql.holds_all, Sql.holds_isIn, Sql.holds_eq, List.all_cons,
      List.all_nil]
    refine List.filter_congr fun memo _ => ?_
    by_cases mine : memo.invoiceId = some id
    · simp [mine, listed]
    · simp [mine]
  have total := Sql.coalesce_sum ((tables.appliedMemos id).map (·.amount))
  rw [List.map_map] at total
  unfold appliedCreditTotals
  rw [Sql.lookup_groupBy CreditMemo.invoiceId fun memos : List CreditMemo =>
    (Sql.sum (memos.map fun memo => some memo.amount)).getD 0]
  split
  next => rw [applied]; exact total
  next none' =>
    have empty : tables.appliedMemos id = [] := by
      rw [← applied, List.filter_eq_nil_iff]
      exact fun memo member mine => none' (List.mem_map.mpr ⟨memo, member, of_decide_eq_true mine⟩)
    rw [appliedCreditTotal, empty]
    rfl

theorem mem_livePaymentInvoices {ids : List InvoiceId} {invoice : InvoiceRow} (member : invoice ∈ tables.invoices)
    (listed : invoice.id ∈ ids) : invoice.id ∈ tables.livePaymentInvoices ids ↔ tables.store.hasLivePayment invoice.id := by
  rw [hasLivePayment_iff]
  simp only [livePaymentInvoices, List.mem_flatMap, List.mem_map, Sql.mem_select, Sql.holds_all, List.all_cons, List.all_nil,
    holds_live, Sql.holds_isIn, Sql.holds_eq, Bool.and_eq_true, Bool.and_true, decide_eq_true_eq, Option.some.injEq]
  constructor
  · rintro ⟨other, -, payment, ⟨inPayments, owned, -, live⟩, same⟩
    exact ⟨payment, inPayments, owned.trans same, live⟩
  · rintro ⟨payment, inPayments, owned, live⟩
    exact ⟨invoice, member, payment, ⟨inPayments, owned, by simp [listed], live⟩, rfl⟩

/-- The batch gives each row the refusal it would get on its own. -/
theorem runRefusalReasons_eq {rows : List InvoiceRow} (loaded : rows ⊆ tables.invoices) (methods : InvoiceId → Option String) :
    tables.runRefusalReasons rows methods = rows.filterMap fun invoice =>
      (runRefusal tables.store (tables.payable invoice) (methods invoice.id)).map fun refusal => (invoice.id, refusal) := by
  unfold runRefusalReasons
  refine List.filterMap_congr fun invoice member => ?_
  have listed : invoice.id ∈ rows.map (·.id) := List.mem_map_of_mem member
  have net : tables.netPayableAmounts rows invoice = (tables.payable invoice).netPayableAmount :=
    congrArg (invoice.amount - ·) (lookup_appliedCreditTotals listed)
  simp only [blockingExceptionTypes_eq listed, mem_cardClaimedInvoiceIds member methods, net,
    mem_livePaymentInvoices (loaded member) listed, runRefusal, payable_id]
  cases blockingExceptionType tables.store.exceptions invoice.id with
  | some type => rfl
  | none =>
    by_cases claimed : cardClaims (tables.payable invoice) (methods invoice.id)
    · simp [claimed]
    · by_cases credited : (tables.payable invoice).netPayableAmount ≤ 0
      · simp [claimed, credited]
      · by_cases live : tables.store.hasLivePayment invoice.id
        · simp [claimed, credited, live]
        · simp [claimed, credited, live]

theorem runRefusalReasons_single {invoice : InvoiceRow} (member : invoice ∈ tables.invoices) (method : Option String) :
    tables.runRefusalReasons [invoice] (fun _ => method) = [] ↔
      runRefusal tables.store (tables.payable invoice) method = none := by
  rw [runRefusalReasons_eq (List.cons_subset.mpr ⟨member, List.nil_subset _⟩), List.filterMap_cons, List.filterMap_nil]
  cases runRefusal tables.store (tables.payable invoice) method <;> simp

theorem store_invoice? (keys : (tables.invoices.map (·.id)).Nodup) {invoice : InvoiceRow} (member : invoice ∈ tables.invoices) :
    tables.store.invoice? invoice.id = some (tables.payable invoice) := by
  unfold PaymentStore.invoice? store
  simp only
  cases found : getRow PayableInvoice.id invoice.id (tables.invoices.map tables.payable) with
  | none =>
    have absent := List.find?_eq_none.mp found (tables.payable invoice) (List.mem_map_of_mem member)
    simp at absent
  | some row =>
    obtain ⟨inRows, same⟩ := getRow_some found
    obtain ⟨other, otherMember, rfl⟩ := List.mem_map.mp inRows
    rw [List.inj_on_of_nodup_map keys otherMember member same]

end Agreement

/-- One approved invoice of 100, with a credit of 40 applied to it. -/
def creditedTables : PayableTables :=
  ⟨[⟨1, "INV-1", .approved, some 7, "USD", 100⟩], [], [], [⟨none, .fraudFlag, .opened⟩], [],
    [⟨5, 7, some 1, 40, "USD", .applied⟩, ⟨6, 7, none, 60, "USD", .opened⟩], 10⟩

end PayableTables

end Payables
