import Mathlib.Tactic.Linarith
import Payables.Lib.Raising
import Payables.Payments.CreditMemos

namespace Payables
open Lib

def MemoRequest.memo : MemoRequest → CreditMemo
  | apply memo _ => memo
  | void memo => memo

/-- What a memo takes off the payable of an invoice. -/
def CreditMemo.creditTo (invoiceId : InvoiceId) (memo : CreditMemo) : ℚ :=
  if memo.invoiceId = some invoiceId ∧ memo.status = .applied then memo.amount else 0

/-- Applied memos stay with the one invoice they were applied to, and no payable is negative. -/
structure CreditConserved (store : CreditStore) : Prop where
  stays : ∀ application ∈ store.applications, ∃ memo ∈ store.tables.creditMemos,
    memo.id = application.1 ∧ memo.status = .applied ∧ memo.invoiceId = some application.2
  logged : ∀ memo ∈ store.tables.creditMemos, ∀ invoiceId, memo.status = .applied → memo.invoiceId = some invoiceId →
    (memo.id, invoiceId) ∈ store.applications
  once : ∀ memo first second, (memo, first) ∈ store.applications → (memo, second) ∈ store.applications → first = second
  payable : ∀ invoice ∈ store.tables.invoices, 0 ≤ store.tables.netPayableAmount invoice

/-- What the requests leave alone in any order. -/
structure CreditKeys (store : CreditStore) : Prop where
  memos : (store.tables.creditMemos.map (·.id)).Nodup
  fresh : ∀ memo ∈ store.tables.creditMemos, memo.id < store.nextMemo
  invoices : (store.tables.invoices.map (·.id)).Nodup
  positive : ∀ memo ∈ store.tables.creditMemos, 0 ≤ memo.amount
  linked : ∀ memo ∈ store.tables.creditMemos, ∀ id ∈ memo.invoiceId, id ∈ store.tables.invoices.map (·.id)
  read : ∀ request ∈ store.requests, ∃ row ∈ store.tables.creditMemos,
    row.id = request.memo.id ∧ row.amount = request.memo.amount

/-- A request finishes undisturbed when nobody applied its memo elsewhere after it was read, and an amount
edit leaves room for the credit that is applied. -/
def Undisturbed (store : CreditStore) : CreditLabel → Prop
  | .finish index => ∀ request ∈ store.requests[index]?, ∀ row ∈ store.tables.creditMemos,
      row.id = request.memo.id → row.status = .applied →
        match request with
        | .apply _ invoiceId => row.invoiceId = some invoiceId
        | .void memo => memo.status = .void
  | .updateAmount id amount => ∀ invoice ∈ store.tables.invoice? id,
      invoice.status ∉ InvoiceStatus.financiallyLockedStatuses → store.tables.appliedCreditTotal id ≤ amount
  | _ => True

theorem appliedCreditTotal_eq (tables : PayableTables) (id : InvoiceId) :
    tables.appliedCreditTotal id = (tables.creditMemos.map (·.creditTo id)).sum := by
  unfold PayableTables.appliedCreditTotal PayableTables.appliedMemos
  induction tables.creditMemos with
  | nil => rfl
  | cons memo rest ih =>
    rw [List.map_cons, List.sum_cons, ← ih, CreditMemo.creditTo, List.filter_cons]
    by_cases counts : memo.invoiceId = some id ∧ memo.status = .applied
    · rw [if_pos (by simpa using counts), if_pos counts, List.map_cons, List.sum_cons]
    · rw [if_neg (by simpa using counts), if_neg counts, zero_add]

theorem CreditMemo.creditTo_nonneg {memo : CreditMemo} (positive : 0 ≤ memo.amount) (id : InvoiceId) : 0 ≤ memo.creditTo id := by
  unfold CreditMemo.creditTo
  split <;> simp [positive]

theorem creditMemo?_some {tables : PayableTables} {id : CreditMemoId} {memo : CreditMemo}
    (found : tables.creditMemo? id = some memo) : memo ∈ tables.creditMemos ∧ memo.id = id := getRow_some found

theorem appliedCreditTotal_put {tables : PayableTables} (keys : (tables.creditMemos.map (·.id)).Nodup)
    {old : CreditMemo} (member : old ∈ tables.creditMemos) (new : CreditMemo) (same : old.id = new.id) (id : InvoiceId) :
    (tables.putCreditMemo new).appliedCreditTotal id = tables.appliedCreditTotal id - old.creditTo id + new.creditTo id := by
  rw [appliedCreditTotal_eq, appliedCreditTotal_eq]
  exact sum_putRow (·.creditTo id) keys member same

theorem otherCreditTotal_eq {tables : PayableTables} (keys : (tables.creditMemos.map (·.id)).Nodup) {old : CreditMemo}
    (member : old ∈ tables.creditMemos) (id : InvoiceId) :
    tables.otherCreditTotal id old.id = tables.appliedCreditTotal id - old.creditTo id := by
  have others := appliedCreditTotal_eq { tables with creditMemos := tables.creditMemos.filter fun other => other.id ≠ old.id } id
  rw [appliedCreditTotal_eq, ← sum_others (·.creditTo id) keys member]
  exact others

section Writes

variable {store : CreditStore} {old : CreditMemo}

theorem putCreditMemo_keys (new : CreditMemo) (keys : CreditKeys store) (member : old ∈ store.tables.creditMemos) (same : new.id = old.id)
    (amount : new.amount = old.amount) (linked : ∀ id ∈ new.invoiceId, id ∈ store.tables.invoices.map (·.id))
    (applications : List (CreditMemoId × InvoiceId)) :
    CreditKeys { store with tables := store.tables.putCreditMemo new, applications := applications } where
  memos := by
    have unchanged : (putRow CreditMemo.id new store.tables.creditMemos).map CreditMemo.id =
      store.tables.creditMemos.map CreditMemo.id := map_ident_putRow
    exact unchanged ▸ keys.memos
  fresh := by
    intro memo inTable
    rcases mem_putRow inTable with rfl | ⟨inOld, -⟩
    · exact same ▸ keys.fresh old member
    · exact keys.fresh memo inOld
  invoices := keys.invoices
  positive := by
    intro memo inTable
    rcases mem_putRow inTable with rfl | ⟨inOld, -⟩
    · exact amount ▸ keys.positive old member
    · exact keys.positive memo inOld
  linked := by
    intro memo inTable
    rcases mem_putRow inTable with rfl | ⟨inOld, -⟩
    · exact linked
    · exact keys.linked memo inOld
  read := by
    intro request inFlight
    obtain ⟨row, inTable, sameId, sameAmount⟩ := keys.read request inFlight
    by_cases mine : row.id = new.id
    · have isOld : row = old := List.inj_on_of_nodup_map keys.memos inTable member (mine.trans same)
      subst isOld
      exact ⟨new, mem_putRow_self inTable mine, same.trans sameId, amount.trans sameAmount⟩
    · exact ⟨row, mem_putRow_of_ne inTable mine, sameId, sameAmount⟩

/-- A memo that is applied stays what it is, so every application that was committed stands. -/
theorem putCreditMemo_stays (new : CreditMemo) (keys : CreditKeys store) (conserved : CreditConserved store)
    (member : old ∈ store.tables.creditMemos) (same : new.id = old.id)
    (kept : old.status = .applied → new.status = .applied ∧ new.invoiceId = old.invoiceId) :
    ∀ application ∈ store.applications, ∃ memo ∈ (store.tables.putCreditMemo new).creditMemos,
      memo.id = application.1 ∧ memo.status = .applied ∧ memo.invoiceId = some application.2 := by
  intro application logged
  obtain ⟨memo, inTable, sameId, applied, linked⟩ := conserved.stays application logged
  by_cases mine : memo.id = new.id
  · have isOld : memo = old := List.inj_on_of_nodup_map keys.memos inTable member (mine.trans same)
    subst isOld
    exact ⟨new, mem_putRow_self inTable mine, same.trans sameId, (kept applied).1, (kept applied).2.trans linked⟩
  · exact ⟨memo, mem_putRow_of_ne inTable mine, sameId, applied, linked⟩

/-- A memo that is not applied goes void, and takes nothing off any payable. -/
theorem putCreditMemo_void (keys : CreditKeys store) (conserved : CreditConserved store)
    (member : old ∈ store.tables.creditMemos) (unapplied : old.status ≠ .applied) :
    CreditConserved { store with tables := store.tables.putCreditMemo old.voided } where
  stays := putCreditMemo_stays old.voided keys conserved member rfl fun applied => absurd applied unapplied
  logged := by
    intro memo inTable id applied linked
    rcases mem_putRow inTable with rfl | ⟨inOld, -⟩
    · cases applied
    · exact conserved.logged memo inOld id applied linked
  once := conserved.once
  payable := by
    intro invoice inTable
    have before := conserved.payable invoice inTable
    have total := appliedCreditTotal_put keys.memos member old.voided rfl invoice.id
    have nothing : old.creditTo invoice.id = 0 := if_neg fun counts => unapplied counts.2
    have nothing' : old.voided.creditTo invoice.id = 0 := if_neg fun counts => by cases counts.2
    rw [nothing, nothing', sub_zero, add_zero] at total
    unfold PayableTables.netPayableAmount at before ⊢
    rw [total]
    exact before

/-- A memo that nobody applied elsewhere is applied to an invoice with room for it. -/
theorem putCreditMemo_apply (keys : CreditKeys store) (conserved : CreditConserved store)
    (member : old ∈ store.tables.creditMemos) {id : InvoiceId} (undisturbed : old.status = .applied → old.invoiceId = some id)
    (room : ∀ invoice ∈ store.tables.invoices, invoice.id = id →
      store.tables.otherCreditTotal id old.id + old.amount ≤ invoice.amount) :
    CreditConserved { store with
      tables := store.tables.putCreditMemo (old.appliedTo id)
      applications := (old.id, id) :: store.applications } where
  stays := by
    have earlier := putCreditMemo_stays (old.appliedTo id) keys conserved member rfl
      fun applied => ⟨rfl, (undisturbed applied).symm⟩
    exact List.forall_mem_cons.mpr ⟨⟨_, mem_putRow_self member rfl, rfl, rfl, rfl⟩, earlier⟩
  logged := by
    intro memo inTable other applied linked
    rcases mem_putRow inTable with rfl | ⟨inOld, -⟩
    · exact List.mem_cons.mpr (.inl (by rw [← Option.some.inj linked]; rfl))
    · exact List.mem_cons_of_mem _ (conserved.logged memo inOld other applied linked)
  once := by
    have logs (other : InvoiceId) (logged : (old.id, other) ∈ store.applications) : other = id := by
      obtain ⟨memo, inTable, sameId, applied, linked⟩ := conserved.stays _ logged
      have isOld : memo = old := List.inj_on_of_nodup_map keys.memos inTable member sameId
      subst isOld
      exact Option.some.inj (linked.symm.trans (undisturbed applied))
    intro memo first second inFirst inSecond
    rcases List.mem_cons.mp inFirst with isFirst | inFirst <;> rcases List.mem_cons.mp inSecond with isSecond | inSecond
    · cases isFirst
      cases isSecond
      rfl
    · cases isFirst
      exact (logs second inSecond).symm
    · cases isSecond
      exact logs first inFirst
    · exact conserved.once memo first second inFirst inSecond
  payable := by
    intro invoice inTable
    have total := appliedCreditTotal_put keys.memos member (old.appliedTo id) rfl invoice.id
    unfold PayableTables.netPayableAmount
    rw [total]
    by_cases target : invoice.id = id
    · have enough := room invoice inTable target
      have counts : (old.appliedTo id).creditTo invoice.id = old.amount :=
        if_pos ⟨congrArg some target.symm, rfl⟩
      rw [otherCreditTotal_eq keys.memos member, ← target] at enough
      rw [counts]
      linarith
    · have before := conserved.payable invoice inTable
      have nothing : (old.appliedTo id).creditTo invoice.id = 0 :=
        if_neg fun counts => target (Option.some.inj counts.1).symm
      have taken := CreditMemo.creditTo_nonneg (keys.positive old member) invoice.id
      unfold PayableTables.netPayableAmount at before
      rw [nothing]
      linarith

theorem appendCreditMemo_keys (keys : CreditKeys store) {memo : CreditMemo} (fresh : memo.id = store.nextMemo)
    (positive : 0 ≤ memo.amount) (linked : ∀ id ∈ memo.invoiceId, id ∈ store.tables.invoices.map (·.id))
    (applications : List (CreditMemoId × InvoiceId)) :
    CreditKeys { store with
      tables := { store.tables with creditMemos := store.tables.creditMemos ++ [memo] }
      nextMemo := store.nextMemo + 1
      applications := applications } where
  memos := by
    rw [List.map_append, List.map_singleton]
    refine List.nodup_append.mpr ⟨keys.memos, List.nodup_singleton _, fun id listed other isNew => ?_⟩
    obtain ⟨row, inTable, rfl⟩ := List.mem_map.mp listed
    have older := keys.fresh row inTable
    rw [List.mem_singleton] at isNew
    rw [isNew, fresh]
    exact older.ne
  fresh := by
    intro row inTable
    rcases List.mem_append.mp inTable with inOld | isNew
    · exact (keys.fresh row inOld).trans (Nat.lt_succ_self _)
    · rw [List.mem_singleton] at isNew
      rw [isNew, fresh]
      exact Nat.lt_succ_self _
  invoices := keys.invoices
  positive := by
    intro row inTable
    rcases List.mem_append.mp inTable with inOld | isNew
    · exact keys.positive row inOld
    · exact List.mem_singleton.mp isNew ▸ positive
  linked := by
    intro row inTable
    rcases List.mem_append.mp inTable with inOld | isNew
    · exact keys.linked row inOld
    · exact List.mem_singleton.mp isNew ▸ linked
  read := by
    intro request inFlight
    obtain ⟨row, inTable, same⟩ := keys.read request inFlight
    exact ⟨row, List.mem_append_left _ inTable, same⟩

theorem appliedCreditTotal_append (tables : PayableTables) (memo : CreditMemo) (id : InvoiceId) :
    ({ tables with creditMemos := tables.creditMemos ++ [memo] } : PayableTables).appliedCreditTotal id =
      tables.appliedCreditTotal id + memo.creditTo id := by
  rw [appliedCreditTotal_eq, appliedCreditTotal_eq, List.map_append, List.sum_append, List.map_singleton, List.sum_singleton]

/-- A memo nobody has applied yet. -/
theorem appendCreditMemo_open (conserved : CreditConserved store) {memo : CreditMemo} (unapplied : memo.status ≠ .applied) :
    CreditConserved { store with
      tables := { store.tables with creditMemos := store.tables.creditMemos ++ [memo] }
      nextMemo := store.nextMemo + 1 } where
  stays := by
    intro application logged
    obtain ⟨row, inTable, same⟩ := conserved.stays application logged
    exact ⟨row, List.mem_append_left _ inTable, same⟩
  logged := by
    intro row inTable id applied linked
    rcases List.mem_append.mp inTable with inOld | isNew
    · exact conserved.logged row inOld id applied linked
    · rw [List.mem_singleton.mp isNew] at applied
      exact absurd applied unapplied
  once := conserved.once
  payable := by
    intro invoice inTable
    have before := conserved.payable invoice inTable
    have nothing : memo.creditTo invoice.id = 0 := if_neg fun counts => unapplied counts.2
    unfold PayableTables.netPayableAmount at before ⊢
    rw [appliedCreditTotal_append, nothing, add_zero]
    exact before

/-- A memo that is created on an invoice with room for it. -/
theorem appendCreditMemo_applied (keys : CreditKeys store) (conserved : CreditConserved store) {memo : CreditMemo}
    {id : InvoiceId} (fresh : memo.id = store.nextMemo) (applied : memo.status = .applied) (linked : memo.invoiceId = some id)
    (room : ∀ invoice ∈ store.tables.invoices, invoice.id = id →
      store.tables.appliedCreditTotal id + memo.amount ≤ invoice.amount) :
    CreditConserved { store with
      tables := { store.tables with creditMemos := store.tables.creditMemos ++ [memo] }
      nextMemo := store.nextMemo + 1
      applications := (store.nextMemo, id) :: store.applications } where
  stays := by
    refine List.forall_mem_cons.mpr ⟨⟨memo, List.mem_append_right _ List.mem_cons_self, fresh, applied, linked⟩, ?_⟩
    intro application logged
    obtain ⟨row, inTable, same⟩ := conserved.stays application logged
    exact ⟨row, List.mem_append_left _ inTable, same⟩
  logged := by
    intro row inTable other rowApplied rowLinked
    rcases List.mem_append.mp inTable with inOld | isNew
    · exact List.mem_cons_of_mem _ (conserved.logged row inOld other rowApplied rowLinked)
    · rw [List.mem_singleton.mp isNew] at rowLinked ⊢
      rw [fresh, ← Option.some.inj (linked.symm.trans rowLinked)]
      exact List.mem_cons_self
  once := by
    have older (other : InvoiceId) : (store.nextMemo, other) ∉ store.applications := by
      intro logged
      obtain ⟨row, inTable, same, -⟩ := conserved.stays _ logged
      exact (keys.fresh row inTable).ne same
    intro row first second inFirst inSecond
    rcases List.mem_cons.mp inFirst with isFirst | inFirst <;> rcases List.mem_cons.mp inSecond with isSecond | inSecond
    · cases isFirst
      cases isSecond
      rfl
    · cases isFirst
      exact absurd inSecond (older second)
    · cases isSecond
      exact absurd inFirst (older first)
    · exact conserved.once row first second inFirst inSecond
  payable := by
    intro invoice inTable
    have before := conserved.payable invoice inTable
    unfold PayableTables.netPayableAmount at before ⊢
    rw [appliedCreditTotal_append]
    by_cases target : invoice.id = id
    · have enough := room invoice inTable target
      have counts : memo.creditTo invoice.id = memo.amount := if_pos ⟨linked.trans (congrArg some target.symm), applied⟩
      rw [counts, target]
      linarith
    · have nothing : memo.creditTo invoice.id = 0 :=
        if_neg fun counts => target (Option.some.inj (linked.symm.trans counts.1)).symm
      rw [nothing, add_zero]
      exact before

/-- Invoices that keep their identifiers and room for the credit on them. -/
theorem withInvoices (keys : CreditKeys store) (conserved : CreditConserved store) {invoices : List InvoiceRow}
    (distinct : (invoices.map (·.id)).Nodup) (kept : store.tables.invoices.map (·.id) ⊆ invoices.map (·.id))
    (room : ∀ invoice ∈ invoices, store.tables.appliedCreditTotal invoice.id ≤ invoice.amount) :
    CreditKeys { store with tables := { store.tables with invoices := invoices } } ∧
      CreditConserved { store with tables := { store.tables with invoices := invoices } } :=
  ⟨{ keys with invoices := distinct, linked := fun memo inTable id linked => kept (keys.linked memo inTable id linked) },
    { conserved with payable := fun invoice inTable => sub_nonneg.mpr (room invoice inTable) }⟩

end Writes

section Requests

variable {tables after : PayableTables}

theorem invoice?_some {id : InvoiceId} {invoice : InvoiceRow} (found : tables.invoice? id = some invoice) :
    invoice ∈ tables.invoices ∧ invoice.id = id := getRow_some found

theorem assertCreditable_ok {invoice : InvoiceRow} {applied amount : ℚ} (ok : assertCreditable invoice applied amount = .ok ()) :
    applied + amount ≤ invoice.amount := by
  unfold assertCreditable at ok
  split at ok
  next => cases ok
  next room => linarith

/-- What a memo that was created says. -/
theorem createCreditMemo_cases {id : CreditMemoId} {vendorId : VendorId} {amount : ℚ} {currency : Option String}
    {invoiceId : Option InvoiceId} {orgCurrency : String}
    (ok : tables.createCreditMemo id vendorId amount currency invoiceId orgCurrency = .ok after) :
    ∃ code status, after = { tables with
        creditMemos := tables.creditMemos ++ [⟨id, vendorId, invoiceId, amount, code, status⟩] } ∧ 0 < amount ∧
      ((invoiceId = none ∧ status = .opened) ∨ ∃ target invoice, invoiceId = some target ∧ status = .applied ∧
        tables.invoice? target = some invoice ∧ tables.appliedCreditTotal target + amount ≤ invoice.amount) := by
  unfold PayableTables.createCreditMemo at ok
  split at ok
  next => cases ok
  next positive =>
    cases invoiceId with
    | none =>
      cases ok
      exact ⟨_, .opened, rfl, not_le.mp positive, .inl ⟨rfl, rfl⟩⟩
    | some target =>
      simp only at ok
      cases found : tables.invoice? target with
      | none => rw [found] at ok; cases ok
      | some invoice =>
        simp only [found, bind_eq_ok] at ok
        obtain ⟨_, -, _, -, _, fits, written⟩ := ok
        cases written
        exact ⟨_, .applied, rfl, not_le.mp positive, .inr ⟨target, invoice, rfl, rfl, found, assertCreditable_ok fits⟩⟩

theorem applyCreditMemo_cases {memo : CreditMemo} {target : InvoiceId} (ok : tables.applyCreditMemo memo target = .ok after) :
    ∃ invoice, tables.invoice? target = some invoice ∧
      tables.otherCreditTotal target memo.id + memo.amount ≤ invoice.amount ∧
      (tables.creditMemo? memo.id = none ∧ after = tables ∨
        ∃ current, tables.creditMemo? memo.id = some current ∧ after = tables.putCreditMemo (current.appliedTo target)) := by
  unfold PayableTables.applyCreditMemo at ok
  cases found : tables.invoice? target with
  | none => rw [found] at ok; cases ok
  | some invoice =>
    simp only [found, bind_eq_ok] at ok
    obtain ⟨_, -, _, -, _, fits, written⟩ := ok
    refine ⟨invoice, rfl, assertCreditable_ok fits, ?_⟩
    cases stored : tables.creditMemo? memo.id with
    | none => rw [stored] at written; cases written; exact .inl ⟨rfl, rfl⟩
    | some current => rw [stored] at written; cases written; exact .inr ⟨current, rfl, rfl⟩

theorem updateInvoiceAmount_cases {id : InvoiceId} {amount : ℚ} (ok : tables.updateInvoiceAmount id amount = .ok after) :
    ∃ invoice, tables.invoice? id = some invoice ∧ invoice.status ∉ InvoiceStatus.financiallyLockedStatuses ∧
      after = tables.putInvoice { invoice with amount := amount } := by
  unfold PayableTables.updateInvoiceAmount at ok
  split at ok
  next => cases ok
  next =>
    cases found : tables.invoice? id with
    | none => rw [found] at ok; cases ok
    | some invoice =>
      rw [found] at ok
      simp only at ok
      split_ifs at ok with immutable locked
      cases ok
      exact ⟨invoice, rfl, locked, rfl⟩

theorem transitionInvoice_cases {id : InvoiceId} {target : InvoiceStatus} (ok : tables.transitionInvoice id target = .ok after) :
    ∃ invoice, tables.invoice? id = some invoice ∧ after = tables.putInvoice { invoice with status := target } := by
  unfold PayableTables.transitionInvoice at ok
  cases found : tables.invoice? id with
  | none => rw [found] at ok; cases ok
  | some invoice =>
    simp only [found, bind_eq_ok] at ok
    obtain ⟨-, -, written⟩ := ok
    cases written
    exact ⟨invoice, rfl, rfl⟩

theorem createRun_cases {user : UserId} {items : List (InvoiceId × String)} {requiresCfo : Bool}
    (ok : tables.createRun user items requiresCfo = .ok after) :
    ∃ booked : PaymentStore, after = { tables with
      payments := booked.payments, runs := booked.runs, nextId := booked.nextId } := by
  unfold PayableTables.createRun at ok
  obtain ⟨booked, -, written⟩ := bind_eq_ok.mp ok
  cases written
  exact ⟨booked, rfl⟩

theorem readForApply_ok {id : CreditMemoId} {memo : CreditMemo} (ok : tables.readForApply id = .ok memo) :
    memo ∈ tables.creditMemos := by
  unfold PayableTables.readForApply at ok
  cases found : tables.creditMemo? id with
  | none => rw [found] at ok; cases ok
  | some row =>
    rw [found] at ok
    simp only at ok
    split at ok
    next => cases ok
    next => cases ok; exact (creditMemo?_some found).1

theorem readForVoid_ok {id : CreditMemoId} {memo : CreditMemo} (ok : tables.readForVoid id = .ok memo) :
    memo ∈ tables.creditMemos := by
  unfold PayableTables.readForVoid at ok
  cases found : tables.creditMemo? id with
  | none => rw [found] at ok; cases ok
  | some row =>
    rw [found] at ok
    simp only at ok
    split at ok
    next => cases ok
    next => cases ok; exact (creditMemo?_some found).1

end Requests

section Steps

variable {store : CreditStore}

/-- Rows under the same identifier are the same row. -/
theorem invoice_eq (keys : CreditKeys store) {id : InvoiceId} {invoice other : InvoiceRow}
    (found : store.tables.invoice? id = some invoice) (member : other ∈ store.tables.invoices) (same : other.id = id) :
    other = invoice :=
  List.inj_on_of_nodup_map keys.invoices member (invoice?_some found).1 (same.trans (invoice?_some found).2.symm)

theorem CreditKeys.requests (keys : CreditKeys store) {requests : List MemoRequest}
    (read : ∀ request ∈ requests, ∃ row ∈ store.tables.creditMemos, row.id = request.memo.id ∧ row.amount = request.memo.amount) :
    CreditKeys { store with requests := requests } := { keys with read := read }

theorem createMemo_conserved (keys : CreditKeys store) (conserved : CreditConserved store) (vendorId : VendorId) (amount : ℚ)
    (currency : Option String) (invoiceId : Option InvoiceId) (orgCurrency : String) :
    CreditKeys (runCreditLabel store (.createMemo vendorId amount currency invoiceId orgCurrency)) ∧
      CreditConserved (runCreditLabel store (.createMemo vendorId amount currency invoiceId orgCurrency)) := by
  cases result : store.tables.createCreditMemo store.nextMemo vendorId amount currency invoiceId orgCurrency with
  | error raised =>
    simp only [runCreditLabel, CreditStore.settle, result]
    exact ⟨{ keys with fresh := fun memo inTable => (keys.fresh memo inTable).trans (Nat.lt_succ_self _) },
      { conserved with }⟩
  | ok after =>
    simp only [runCreditLabel, CreditStore.settle, result]
    obtain ⟨code, status, rfl, positive, ⟨rfl, rfl⟩ | ⟨target, invoice, rfl, rfl, found, room⟩⟩ := createCreditMemo_cases result
    · exact ⟨appendCreditMemo_keys keys rfl positive.le (fun id linked => by cases linked) _,
        appendCreditMemo_open conserved CreditMemoStatus.noConfusion⟩
    · have inTable := (invoice?_some found)
      refine ⟨appendCreditMemo_keys keys rfl positive.le (fun id linked => ?_) _,
        appendCreditMemo_applied keys conserved rfl rfl rfl fun other member same => ?_⟩
      · cases linked
        exact List.mem_map.mpr ⟨invoice, inTable⟩
      · rw [invoice_eq keys found member same]
        exact room

theorem CreditConserved.requests (conserved : CreditConserved store) (requests : List MemoRequest) :
    CreditConserved { store with requests := requests } := { conserved with }

theorem finish_requests (request : MemoRequest) : (store.finish request).requests = store.requests := by
  cases request with
  | void memo => rfl
  | apply memo target =>
    unfold CreditStore.finish CreditStore.settle
    simp only
    split <;> rfl

theorem finish_conserved (keys : CreditKeys store) (conserved : CreditConserved store) (index : Nat)
    (undisturbed : Undisturbed store (.finish index)) :
    CreditKeys (runCreditLabel store (.finish index)) ∧ CreditConserved (runCreditLabel store (.finish index)) := by
  cases current : store.requests[index]? with
  | none =>
    simp only [runCreditLabel, current]
    exact ⟨keys, conserved⟩
  | some request =>
    simp only [runCreditLabel, current]
    have inFlight : request ∈ store.requests := List.mem_of_getElem? current
    have calm := undisturbed request current
    suffices CreditKeys (store.finish request) ∧ CreditConserved (store.finish request) by
      obtain ⟨kept, settled⟩ := this
      refine ⟨kept.requests fun other later => kept.read other ?_, settled.requests _⟩
      rw [finish_requests]
      exact List.mem_of_mem_eraseIdx later
    cases request with
    | void memo =>
      simp only [CreditStore.finish, CreditStore.settle, PayableTables.voidCreditMemo, Option.toList_none, List.nil_append]
      cases stored : store.tables.creditMemo? memo.id with
      | none => exact ⟨keys, conserved⟩
      | some row =>
        simp only
        obtain ⟨inTable, same⟩ := creditMemo?_some stored
        by_cases settled : memo.status = .void
        · simp only [settled, if_true]
          exact ⟨keys, conserved⟩
        · simp only [if_neg settled]
          have unapplied : row.status ≠ .applied := fun applied => settled (calm row inTable same applied)
          exact ⟨putCreditMemo_keys row.voided keys inTable rfl rfl (keys.linked row inTable) _,
            putCreditMemo_void keys conserved inTable unapplied⟩
    | apply memo target =>
      simp only [CreditStore.finish, CreditStore.settle, Option.toList_some, List.cons_append, List.nil_append]
      cases result : store.tables.applyCreditMemo memo target with
      | error raised => exact ⟨keys, conserved⟩
      | ok after =>
        simp only
        obtain ⟨row, inTable, same, amount⟩ := keys.read _ inFlight
        obtain ⟨invoice, found, room, ⟨missing, -⟩ | ⟨stored, isStored, rfl⟩⟩ := applyCreditMemo_cases result
        · have absent := List.find?_eq_none.mp missing row inTable
          simp [same, MemoRequest.memo] at absent
        · obtain ⟨storedIn, storedSame⟩ := creditMemo?_some isStored
          have isRow : stored = row := List.inj_on_of_nodup_map keys.memos storedIn inTable (storedSame.trans same.symm)
          subst isRow
          have linked : ∀ id ∈ (stored.appliedTo target).invoiceId, id ∈ store.tables.invoices.map (·.id) := by
            intro id isTarget
            cases isTarget
            exact List.mem_map.mpr ⟨invoice, invoice?_some found⟩
          refine ⟨putCreditMemo_keys (stored.appliedTo target) keys storedIn rfl rfl linked _, ?_⟩
          have applied := putCreditMemo_apply keys conserved storedIn (calm stored storedIn same) fun other member isTarget => by
            rw [invoice_eq keys found member isTarget, same, amount]
            exact room
          rw [same] at applied
          exact applied

theorem putInvoice_conserved (keys : CreditKeys store) (conserved : CreditConserved store) {invoice written : InvoiceRow}
    (same : written.id = invoice.id) (room : store.tables.appliedCreditTotal invoice.id ≤ written.amount) :
    CreditKeys { store with tables := store.tables.putInvoice written } ∧
      CreditConserved { store with tables := store.tables.putInvoice written } := by
  have ids : (putRow InvoiceRow.id written store.tables.invoices).map InvoiceRow.id =
    store.tables.invoices.map InvoiceRow.id := map_ident_putRow
  refine withInvoices keys conserved (ids ▸ keys.invoices) (fun id listed => ids ▸ listed) fun other inTable => ?_
  rcases mem_putRow inTable with rfl | ⟨inOld, -⟩
  · rw [same]
    exact room
  · exact sub_nonneg.mp (conserved.payable other inOld)

/-- One step, of any of the requests. -/
theorem step_conserved (keys : CreditKeys store) (conserved : CreditConserved store) (label : CreditLabel)
    (undisturbed : Undisturbed store label) :
    CreditKeys (runCreditLabel store label) ∧ CreditConserved (runCreditLabel store label) := by
  cases label with
  | createInvoice invoice =>
    unfold runCreditLabel
    simp only
    split
    next => exact ⟨keys, conserved⟩
    next fresh =>
      push Not at fresh
      obtain ⟨unlisted, positive⟩ := fresh
      refine withInvoices keys conserved ?_ ?_ fun other inTable => ?_
      · rw [List.map_append, List.map_singleton]
        refine List.nodup_append.mpr ⟨keys.invoices, List.nodup_singleton _, fun id listed added isNew => ?_⟩
        rw [List.mem_singleton] at isNew
        exact fun clash => unlisted (isNew ▸ clash ▸ listed)
      · rw [List.map_append]
        exact List.subset_append_left _ _
      · rcases List.mem_append.mp inTable with inOld | isNew
        · exact sub_nonneg.mp (conserved.payable other inOld)
        · rw [List.mem_singleton.mp isNew]
          have nothing : store.tables.appliedCreditTotal invoice.id = 0 := by
            rw [appliedCreditTotal_eq]
            refine List.sum_eq_zero (List.forall_mem_map.mpr fun memo inMemos => if_neg fun counts => ?_)
            exact unlisted (keys.linked memo inMemos invoice.id counts.1)
          rw [nothing]
          exact positive
  | createMemo vendorId amount currency invoiceId orgCurrency => exact createMemo_conserved keys conserved _ _ _ _ _
  | readForApply memo invoiceId =>
    cases result : store.tables.readForApply memo with
    | error raised => simp only [runCreditLabel, result]; exact ⟨keys, conserved⟩
    | ok read =>
      simp only [runCreditLabel, result]
      exact ⟨keys.requests (List.forall_mem_append.mpr ⟨keys.read, by simpa [MemoRequest.memo] using ⟨read, readForApply_ok result, rfl, rfl⟩⟩),
        conserved.requests _⟩
  | readForVoid memo =>
    cases result : store.tables.readForVoid memo with
    | error raised => simp only [runCreditLabel, result]; exact ⟨keys, conserved⟩
    | ok read =>
      simp only [runCreditLabel, result]
      exact ⟨keys.requests (List.forall_mem_append.mpr ⟨keys.read, by simpa [MemoRequest.memo] using ⟨read, readForVoid_ok result, rfl, rfl⟩⟩),
        conserved.requests _⟩
  | finish index => exact finish_conserved keys conserved index undisturbed
  | updateAmount invoiceId amount =>
    cases result : store.tables.updateInvoiceAmount invoiceId amount with
    | error raised => simp only [runCreditLabel, CreditStore.settle, result]; exact ⟨keys, conserved⟩
    | ok after =>
      simp only [runCreditLabel, CreditStore.settle, result]
      obtain ⟨invoice, found, unlocked, rfl⟩ := updateInvoiceAmount_cases result
      have same := (invoice?_some found).2
      exact putInvoice_conserved keys conserved rfl (same ▸ undisturbed invoice found unlocked)
  | transition invoiceId target =>
    cases result : store.tables.transitionInvoice invoiceId target with
    | error raised => simp only [runCreditLabel, CreditStore.settle, result]; exact ⟨keys, conserved⟩
    | ok after =>
      simp only [runCreditLabel, CreditStore.settle, result]
      obtain ⟨invoice, found, rfl⟩ := transitionInvoice_cases result
      exact putInvoice_conserved keys conserved rfl (sub_nonneg.mp (conserved.payable invoice (invoice?_some found).1))
  | createRun user items requiresCfo =>
    cases result : store.tables.createRun user items requiresCfo with
    | error raised => simp only [runCreditLabel, CreditStore.settle, result]; exact ⟨keys, conserved⟩
    | ok after =>
      simp only [runCreditLabel, CreditStore.settle, result]
      obtain ⟨booked, rfl⟩ := createRun_cases result
      exact ⟨{ keys with }, { conserved with }⟩

end Steps

/-- In a run that nobody disturbs, applied credit stays where it is and no payable is negative. -/
theorem credit_conserved (store : CreditStore) (reach : creditMachine.Reach Undisturbed store) : CreditConserved store := by
  have start : ∀ store, creditMachine.init store → CreditKeys store ∧ CreditConserved store := by
    rintro store ⟨noMemos, noRequests, noApplications, keys, positive⟩
    have none' : ∀ memo, memo ∉ store.tables.creditMemos := by simp [noMemos]
    refine ⟨⟨by simp [noMemos], fun memo inTable => absurd inTable (none' memo), keys,
      fun memo inTable => absurd inTable (none' memo), fun memo inTable => absurd inTable (none' memo), by simp [noRequests]⟩,
      ⟨by simp [noApplications], fun memo inTable => absurd inTable (none' memo), by simp [noApplications],
        fun invoice inTable => ?_⟩⟩
    have nothing : store.tables.appliedCreditTotal invoice.id = 0 := by rw [appliedCreditTotal_eq, noMemos]; rfl
    rw [PayableTables.netPayableAmount, nothing, sub_zero]
    exact positive invoice inTable
  have step : ∀ store label, CreditKeys store ∧ CreditConserved store → Undisturbed store label →
      CreditKeys (runCreditLabel store label) ∧ CreditConserved (runCreditLabel store label) :=
    fun store label kept undisturbed => step_conserved kept.1 kept.2 label undisturbed
  exact (reach.invariant start step).2

/-- Two invoices of 100 of one vendor, and no memo yet. -/
def twoInvoices : CreditStore :=
  ⟨⟨[⟨1, "INV-1", .readyForReview, some 7, "USD", 100⟩, ⟨2, "INV-2", .readyForReview, some 7, "USD", 100⟩], [], [], [], [], [], 10⟩,
    5, [], []⟩

/-- A memo of 40 that is created, read and applied to the first invoice. -/
def applyOnce : List CreditLabel := [.createMemo 7 40 none none "USD", .readForApply 5 1, .finish 0]

theorem credit_conserved_once : CreditConserved (creditMachine.exec twoInvoices applyOnce) := by
  refine credit_conserved _ (Machine.Reach.exec (.start ?_) ?_)
  · exact ⟨rfl, rfl, rfl, by decide, by decide⟩
  · refine ⟨trivial, trivial, fun request found row inTable same applied => ?_, trivial⟩
    cases List.mem_singleton.mp inTable
    cases applied

/-- Two requests read the open memo, and each applies it to an invoice of its own. -/
theorem credit_not_conserved :
    ¬∀ store, creditMachine.Reach Machine.Anything store → CreditConserved store := by
  intro claim
  have conserved := claim _ (Machine.reach_exec (M := creditMachine) (s := twoInvoices)
    ⟨rfl, rfl, rfl, by decide, by decide⟩
    [.createMemo 7 40 none none "USD", .readForApply 5 1, .readForApply 5 2, .finish 0, .finish 0])
  exact absurd (conserved.once 5 2 1 (by decide +kernel) (by decide +kernel)) (by decide)

end Payables
