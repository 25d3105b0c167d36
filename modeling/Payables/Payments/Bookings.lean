import Mathlib.Logic.Relation
import Payables.Payments.Ledger

namespace Payables
open Lib

/-- What a section does to the tables besides rewriting a payment, piece by piece. -/
inductive Booking (config : PaymentConfig) (store : PaymentStore) : PaymentStore → Prop
  | outside (invoices : List PayableInvoice) (exceptions : List InvoiceException)
      (kept : ∀ exception ∈ store.exceptions, ∃ later ∈ exceptions, later.invoiceId = exception.invoiceId ∧
        later.exceptionType = exception.exceptionType ∧ exception.covers ⊆ later.covers) :
      Booking config store { store with invoices := invoices, exceptions := exceptions }
  | passes (passes : List DispatchPass)
      (kept : ∀ pass ∈ passes, ∃ old ∈ store.passes, old.run = pass.run ∧ old.actor = pass.actor ∧
        ∀ ids, pass.queue = some ids → ∀ id ∈ ids, (∃ queue, old.queue = some queue ∧ id ∈ queue) ∨
          ∃ payment ∈ store.runPayments pass.run, payment.id = id) :
      Booking config store { store with passes := passes }
  | enter {run : PaymentRun} {actor : UserId} (seen : List (PaymentId × PaymentStatus)) (member : run ∈ store.runs)
      (claimed : run.status = .executing)
      (checked : checkRunSegregation run.initiatedBy actor config "execute" = .ok ()) :
      Booking config store { store with passes := store.passes ++ [⟨run.id, actor, none, seen⟩] }
  | status {run next : PaymentRun} (member : run ∈ store.runs) (advances : run.Advances next) :
      Booking config store (store.putRun next)
  | standalone {invoice : InvoiceId} {amount : ℚ} {method reference : Option String} {after : PaymentStore}
      (inserted : store.insertPayment invoice none amount method reference none = some after) :
      Booking config store after
  | retry {run : RunId} {payment : Payment} {amount : ℚ} {method : Option String} {after : PaymentStore}
      (active : payment ∈ activeRunPayments (store.runPayments run)) (retryable : payment.status.isRetryable = true)
      (inserted : store.insertPayment payment.invoiceId (some run) amount method none (some payment.id) = some after) :
      Booking config store after
  | create {run : PaymentRun} {items : List (InvoiceId × String)} {after : PaymentStore} (fresh : run.id = store.nextId)
      (draft : run.status = .draft) (requested : run.invoices = items.map (·.1)) (some' : items ≠ [])
      (distinct : (items.map (·.1)).Nodup)
      (booked : bookRunPayments run.id items { store with runs := store.runs ++ [run], nextId := store.nextId + 1 } =
        some after) :
      Booking config store after
  | cancel {run : PaymentRun} (member : run ∈ store.runs) (draft : run.status = .draft) :
      Booking config store
        ({ store with payments := store.payments.filter (·.paymentRunId != some run.id) }.putRun
          { run with status := .cancelled })

theorem insertPayment_some {store after : PaymentStore} {invoice : InvoiceId} {run : Option RunId} {amount : ℚ}
    {method reference : Option String} {retryOf : Option PaymentId}
    (inserted : store.insertPayment invoice run amount method reference retryOf = some after) :
    (∀ other ∈ store.payments, other.invoiceId = invoice → other.status.isLive = false) ∧
      after = { store with
        payments := store.payments ++ [store.newPayment invoice run amount method reference retryOf]
        nextId := store.nextId + 2 } := by
  unfold PaymentStore.insertPayment at inserted
  split at inserted
  · cases inserted
  · next vacant =>
    refine ⟨fun other member sameInvoice => ?_, (Option.some.inj inserted).symm⟩
    cases live : other.status.isLive with
    | false => rfl
    | true =>
      refine absurd (List.any_eq_true.mpr ⟨other, member, ?_⟩) vacant
      simp only [sameInvoice, live, beq_self_eq_true, Bool.and_self]

theorem insertPayment_extends {store after : PaymentStore} {invoice : InvoiceId} {run : Option RunId} {amount : ℚ}
    {method reference : Option String} {retryOf : Option PaymentId}
    (inserted : store.insertPayment invoice run amount method reference retryOf = some after) :
    store.Extends [store.newPayment invoice run amount method reference retryOf] after := by
  obtain ⟨_, rfl⟩ := insertPayment_some inserted
  refine ⟨rfl, Nat.le_add_right _ 2, fun payment member => ?_⟩
  cases List.mem_singleton.mp member
  exact ⟨Nat.le_refl _, rfl⟩

theorem PaymentStore.Extends.trans {store middle after : PaymentStore} {added more : List Payment}
    (first : store.Extends added middle) (second : middle.Extends more after) : store.Extends (added ++ more) after := by
  have split := second.same
  refine ⟨?_, first.grows.trans second.grows, fun payment member => ?_⟩
  · rw [split, first.same]
    simp only [List.append_assoc]
  · rcases List.mem_append.mp member with early | late
    · exact first.fresh payment early
    · exact ⟨first.grows.trans (second.fresh payment late).1, (second.fresh payment late).2⟩

/-- A row that replaces none, for an invoice without a row in its run. -/
theorem Rows.insert_root {store after : PaymentStore} (rows : Rows store.payments store.nextId) {invoice : InvoiceId}
    {run : Option RunId} {amount : ℚ} {method reference : Option String}
    (unbooked : ∀ id, run = some id → ∀ payment ∈ store.runPayments id, payment.invoiceId ≠ invoice)
    (inserted : store.insertPayment invoice run amount method reference none = some after) :
    Rows after.payments after.nextId := by
  obtain ⟨vacant, rfl⟩ := insertPayment_some inserted
  refine rows.append rfl rfl vacant (fun earlier names => nomatch names) fun id mine => ?_
  refine (rows.lines id).append_root (fun other here => ?_) rfl (unbooked id mine)
  exact Nat.ne_of_lt (rows.issued other (List.mem_filter.mp here).1).1

/-- A row that replaces an active failed or cancelled one. -/
theorem Rows.insert_successor {store after : PaymentStore} (rows : Rows store.payments store.nextId) {run : RunId}
    {payment : Payment} {amount : ℚ} {method : Option String}
    (active : payment ∈ activeRunPayments (store.runPayments run)) (retryable : payment.status.isRetryable = true)
    (inserted : store.insertPayment payment.invoiceId (some run) amount method none (some payment.id) = some after) :
    Rows after.payments after.nextId := by
  obtain ⟨vacant, rfl⟩ := insertPayment_some inserted
  obtain ⟨member, mine⟩ := PaymentStore.mem_runPayments.mp (Lineage.active_sublist.subset active)
  refine rows.append rfl rfl vacant (fun earlier names => ?_) fun id same => ?_
  · cases Option.some.inj names
    exact ⟨payment, member, rfl, retryable⟩
  · cases Option.some.inj same
    refine (rows.lines run).append_successor (fun other here => ?_) active rfl rfl
    exact Nat.ne_of_lt (rows.issued other (List.mem_filter.mp here).1).1

/-- The rows of a new run: one for each requested invoice. -/
theorem bookRunPayments_extends {run : RunId} {items : List (InvoiceId × String)} {store after : PaymentStore}
    (booked : bookRunPayments run items store = some after) :
    ∃ added, store.Extends added after ∧ added.map Payment.invoiceId = items.map (·.1) ∧
      ∀ payment ∈ added, payment.paymentRunId = some run := by
  induction items generalizing store with
  | nil =>
    cases Option.some.inj booked
    exact ⟨[], ⟨by rw [List.append_nil], Nat.le_refl _, fun _ member => nomatch member⟩, rfl, fun _ member => nomatch member⟩
  | cons item items ih =>
    obtain ⟨invoiceId, method⟩ := item
    unfold bookRunPayments at booked
    split at booked
    · cases booked
    split at booked
    · cases booked
    next middle inserted =>
    obtain ⟨added, second, invoices, owned⟩ := ih booked
    refine ⟨_, (insertPayment_extends inserted).trans second, ?_, fun payment member => ?_⟩
    · rw [List.map_append, invoices]
      rfl
    · rcases List.mem_append.mp member with here | later
      · cases List.mem_singleton.mp here
        rfl
      · exact owned payment later

theorem Rows.bookRunPayments {run : RunId} {items : List (InvoiceId × String)} {store after : PaymentStore}
    (rows : Rows store.payments store.nextId) (booked : bookRunPayments run items store = some after)
    (distinct : (items.map (·.1)).Nodup)
    (unbooked : ∀ payment ∈ store.runPayments run, payment.invoiceId ∉ items.map (·.1)) :
    Rows after.payments after.nextId := by
  induction items generalizing store with
  | nil =>
    cases Option.some.inj booked
    exact rows
  | cons item items ih =>
    obtain ⟨invoiceId, method⟩ := item
    obtain ⟨new, distinctRest⟩ := List.nodup_cons.mp distinct
    unfold Payables.bookRunPayments at booked
    split at booked
    · cases booked
    split at booked
    · cases booked
    next middle inserted =>
    have grown := rows.insert_root (fun id mine payment here same => by
      cases Option.some.inj mine
      exact unbooked payment here (by rw [same]; exact List.mem_cons_self)) inserted
    refine ih grown booked distinctRest fun payment here => ?_
    obtain ⟨inTable, mine⟩ := PaymentStore.mem_runPayments.mp here
    rw [(insertPayment_extends inserted).same] at inTable
    rcases List.mem_append.mp inTable with old | fresh
    · exact fun listed => unbooked payment (PaymentStore.mem_runPayments.mpr ⟨old, mine⟩) (List.mem_cons_of_mem _ listed)
    · cases List.mem_singleton.mp fresh
      exact new

/-- What bookings keep of the rest of the tables. -/
structure PaymentStore.Kept (store after : PaymentStore) : Prop where
  grows : store.nextId ≤ after.nextId
  payments : ∀ payment ∈ after.payments, payment ∈ store.payments ∨ payment.status = .pending
  runs : ∀ run ∈ after.runs, (∃ old ∈ store.runs, old.id = run.id ∧ old.initiatedBy = run.initiatedBy) ∨
    store.nextId ≤ run.id
  exceptions : ∀ exception ∈ store.exceptions, ∃ later ∈ after.exceptions, later.invoiceId = exception.invoiceId ∧
    later.exceptionType = exception.exceptionType ∧ exception.covers ⊆ later.covers

theorem PaymentStore.Extends.kept {store after : PaymentStore} {added : List Payment}
    (extends' : store.Extends added after) : store.Kept after := by
  have grows := extends'.grows
  have fresh := extends'.fresh
  rw [extends'.same]
  refine ⟨grows, fun payment member => ?_, fun run member => .inl ⟨run, member, rfl, rfl⟩,
    fun exception member => ⟨exception, member, rfl, rfl, List.Subset.refl _⟩⟩
  exact (List.mem_append.mp member).imp_right fun new => (fresh payment new).2

theorem PaymentStore.Kept.trans {store middle after : PaymentStore} (first : store.Kept middle) (second : middle.Kept after) :
    store.Kept after where
  grows := first.grows.trans second.grows
  payments := by
    intro payment member
    rcases second.payments payment member with old | new
    · exact first.payments payment old
    · exact .inr new
  runs := by
    intro run member
    rcases second.runs run member with ⟨old, inMiddle, sameId, sameInitiator⟩ | issued
    · rw [← sameId, ← sameInitiator]
      exact first.runs old inMiddle
    · exact .inr (first.grows.trans issued)
  exceptions := by
    intro exception member
    obtain ⟨middle, inMiddle, sameInvoice, sameType, covers⟩ := first.exceptions exception member
    obtain ⟨later, inLater, sameInvoiceToo, sameTypeToo, coversToo⟩ := second.exceptions middle inMiddle
    exact ⟨later, inLater, sameInvoiceToo.trans sameInvoice, sameTypeToo.trans sameType, List.Subset.trans covers coversToo⟩

theorem Booking.kept {config : PaymentConfig} {store after : PaymentStore} (booking : Booking config store after) :
    store.Kept after := by
  have sameExceptions : ∀ exception ∈ store.exceptions, ∃ later ∈ store.exceptions, later.invoiceId = exception.invoiceId ∧
      later.exceptionType = exception.exceptionType ∧ exception.covers ⊆ later.covers :=
    fun exception member => ⟨exception, member, rfl, rfl, List.Subset.refl _⟩
  have sameRuns : ∀ run ∈ store.runs, (∃ old ∈ store.runs, old.id = run.id ∧ old.initiatedBy = run.initiatedBy) ∨
      store.nextId ≤ run.id := fun run member => .inl ⟨run, member, rfl, rfl⟩
  cases booking with
  | outside invoices exceptions kept => exact ⟨Nat.le_refl _, fun _ => .inl, sameRuns, kept⟩
  | passes => exact ⟨Nat.le_refl _, fun _ => .inl, sameRuns, sameExceptions⟩
  | enter => exact ⟨Nat.le_refl _, fun _ => .inl, sameRuns, sameExceptions⟩
  | @status run next member advances =>
    refine ⟨Nat.le_refl _, fun _ => .inl, fun other here => ?_, sameExceptions⟩
    rcases mem_putRow here with rfl | ⟨old, _⟩
    · exact .inl ⟨run, member, advances.id.symm, advances.initiatedBy.symm⟩
    · exact sameRuns other old
  | standalone inserted => exact (insertPayment_extends inserted).kept
  | retry _ _ inserted => exact (insertPayment_extends inserted).kept
  | create fresh _ _ _ _ booked =>
    obtain ⟨added, extends', _⟩ := bookRunPayments_extends booked
    obtain ⟨grows, payments, runs, exceptions⟩ := extends'.kept
    refine ⟨Nat.le_of_succ_le grows, payments, fun other here => ?_, exceptions⟩
    rcases runs other here with ⟨old, member, sameId, sameInitiator⟩ | issued
    · rcases List.mem_append.mp member with early | new
      · exact .inl ⟨old, early, sameId, sameInitiator⟩
      · rw [List.mem_singleton.mp new, fresh] at sameId
        exact .inr (Nat.le_of_eq sameId)
    · exact .inr (Nat.le_of_succ_le issued)
  | @cancel run member draft =>
    refine ⟨Nat.le_refl _, fun payment here => .inl (List.mem_filter.mp here).1, fun other here => ?_, sameExceptions⟩
    rcases mem_putRow here with rfl | ⟨old, _⟩
    · exact .inl ⟨run, member, rfl, rfl⟩
    · exact sameRuns other old

namespace Ledger

variable {config : PaymentConfig} {store after : PaymentStore}

theorem standalone (ledger : Ledger store) {invoice : InvoiceId} {amount : ℚ} {method reference : Option String}
    (inserted : store.insertPayment invoice none amount method reference none = some after) : Ledger after := by
  refine ledger.extend (insertPayment_extends inserted)
    (ledger.rows.insert_root (fun _ mine => by cases mine) inserted) fun payment member id mine => ?_
  cases List.mem_singleton.mp member
  cases mine

theorem retry (ledger : Ledger store) {run : RunId} {payment : Payment} {amount : ℚ} {method : Option String}
    (active : payment ∈ activeRunPayments (store.runPayments run)) (retryable : payment.status.isRetryable = true)
    (inserted : store.insertPayment payment.invoiceId (some run) amount method none (some payment.id) = some after) :
    Ledger after := by
  refine ledger.extend (insertPayment_extends inserted) (ledger.rows.insert_successor active retryable inserted) ?_
  intro row member id mine
  cases List.mem_singleton.mp member
  cases Option.some.inj mine
  have here := Lineage.active_sublist.subset active
  obtain ⟨inTable, same⟩ := PaymentStore.mem_runPayments.mp here
  obtain ⟨owner, inRuns, rfl, standing⟩ := ledger.owned payment inTable run same
  exact ⟨owner, inRuns, rfl, standing, ((ledger.covered owner inRuns standing).2 _).mpr ⟨payment, here, rfl⟩⟩

theorem create (ledger : Ledger store) {run : PaymentRun} {items : List (InvoiceId × String)} (fresh : run.id = store.nextId)
    (draft : run.status = .draft) (requested : run.invoices = items.map (·.1)) (some' : items ≠ [])
    (distinct : (items.map (·.1)).Nodup)
    (booked : bookRunPayments run.id items { store with runs := store.runs ++ [run], nextId := store.nextId + 1 } =
      some after) : Ledger after := by
  have older {other : PaymentRun} (member : other ∈ store.runs) : other.id ≠ run.id := by
    rw [fresh]
    exact Nat.ne_of_lt (ledger.runIssued other member)
  have unowned {payment : Payment} (member : payment ∈ store.payments) : payment.paymentRunId ≠ some run.id := by
    intro mine
    obtain ⟨owner, inRuns, same, _⟩ := ledger.owned payment member run.id mine
    exact older inRuns same
  have rows := (ledger.rows.mono (Nat.le_add_right _ 1)).bookRunPayments booked distinct
    (fun payment here => absurd (PaymentStore.mem_runPayments.mp here).2
      (unowned (PaymentStore.mem_runPayments.mp here).1))
  obtain ⟨added, extends', invoices, mine⟩ := bookRunPayments_extends booked
  have grows : store.nextId + 1 ≤ after.nextId := extends'.grows
  have addedFresh := extends'.fresh
  rw [extends'.same] at rows ⊢
  have undrafted : run.status ≠ .cancelled := by
    rw [draft]
    decide
  refine ⟨rows, ?_, ?_, ?_, ?_, ?_, ?_⟩
  · rw [List.map_append, List.nodup_append]
    refine ⟨ledger.runIds, List.nodup_singleton _, ?_⟩
    intro id member other single same
    obtain ⟨source, old, rfl⟩ := List.mem_map.mp member
    exact older old (same.trans (List.mem_singleton.mp single))
  · intro other here
    rcases List.mem_append.mp here with old | new
    · exact Nat.lt_of_lt_of_le (Nat.lt_succ_of_lt (ledger.runIssued other old)) grows
    · rw [List.mem_singleton.mp new, fresh]
      exact grows
  · intro payment here id same
    rcases List.mem_append.mp here with old | new
    · obtain ⟨owner, inRuns, facts⟩ := ledger.owned payment old id same
      exact ⟨owner, List.mem_append_left _ inRuns, facts⟩
    · exact ⟨run, List.mem_append_right _ (List.mem_singleton.mpr rfl), Option.some.inj ((mine payment new).symm.trans same),
        undrafted⟩
  · intro other here standing
    rcases List.mem_append.mp here with old | new
    · obtain ⟨nonempty, exactly⟩ := ledger.covered other old standing
      refine ⟨nonempty, fun invoice => (exactly invoice).trans ⟨?_, ?_⟩⟩
      · rintro ⟨payment, inRows, same⟩
        obtain ⟨inTable, owned⟩ := PaymentStore.mem_runPayments.mp inRows
        exact ⟨payment, PaymentStore.mem_runPayments.mpr ⟨List.mem_append_left _ inTable, owned⟩, same⟩
      · rintro ⟨payment, inRows, same⟩
        obtain ⟨inTable, owned⟩ := PaymentStore.mem_runPayments.mp inRows
        rcases List.mem_append.mp inTable with early | late
        · exact ⟨payment, PaymentStore.mem_runPayments.mpr ⟨early, owned⟩, same⟩
        · exact absurd (Option.some.inj (owned.symm.trans (mine payment late))) (older old)
    · cases List.mem_singleton.mp new
      rw [requested]
      refine ⟨fun none' => some' (List.map_eq_nil_iff.mp none'), fun invoice => ⟨fun listed => ?_, ?_⟩⟩
      · rw [← invoices] at listed
        obtain ⟨payment, inAdded, same⟩ := List.mem_map.mp listed
        exact ⟨payment, PaymentStore.mem_runPayments.mpr ⟨List.mem_append_right _ inAdded, mine payment inAdded⟩, same⟩
      · rintro ⟨payment, inRows, rfl⟩
        obtain ⟨inTable, owned⟩ := PaymentStore.mem_runPayments.mp inRows
        rcases List.mem_append.mp inTable with early | late
        · exact absurd owned (unowned early)
        · rw [← invoices]
          exact List.mem_map_of_mem late
  · intro pass inPasses
    obtain ⟨other, old, facts⟩ := ledger.claimed pass inPasses
    exact ⟨other, List.mem_append_left _ old, facts⟩
  · intro pass inPasses ids queue id waiting
    obtain ⟨issued, owned⟩ := ledger.queued pass inPasses ids queue id waiting
    refine ⟨Nat.lt_of_lt_of_le issued (Nat.le_of_succ_le grows), fun payment here same => ?_⟩
    rcases List.mem_append.mp here with old | new
    · exact owned payment old same
    · have above := (addedFresh payment new).1
      rw [same] at above
      exact absurd issued (Nat.not_lt.mpr (Nat.le_of_succ_le above))

theorem cancel (ledger : Ledger store) {run : PaymentRun} (member : run ∈ store.runs) (draft : run.status = .draft) :
    Ledger ({ store with payments := store.payments.filter (·.paymentRunId != some run.id) }.putRun
      { run with status := .cancelled }) where
  rows := ledger.rows.delete run.id
  runIds := by
    rw [PaymentStore.putRun, map_ident_putRow]
    exact ledger.runIds
  runIssued := by
    intro other here
    rcases mem_putRow here with rfl | ⟨old, _⟩
    · exact ledger.runIssued run member
    · exact ledger.runIssued other old
  owned := by
    intro payment here id mine
    obtain ⟨inTable, kept⟩ := List.mem_filter.mp here
    obtain ⟨owner, inRuns, rfl, standing⟩ := ledger.owned payment inTable id mine
    refine ⟨owner, mem_putRow_of_ne inRuns fun same => ?_, rfl, standing⟩
    rw [mine, same, bne_self_eq_false] at kept
    cases kept
  covered := by
    intro other here standing
    rcases mem_putRow here with rfl | ⟨old, differs⟩
    · exact absurd rfl standing
    · have same : ({ store with payments := store.payments.filter (·.paymentRunId != some run.id) }.putRun
          { run with status := .cancelled }).runPayments other.id = store.runPayments other.id := by
        simp only [PaymentStore.putRun, PaymentStore.runPayments, List.filter_filter]
        refine List.filter_congr fun payment _ => ?_
        by_cases mine : payment.paymentRunId = some other.id
        · have kept : some other.id ≠ some run.id := fun clash => differs (Option.some.inj clash)
          simp only [mine, beq_self_eq_true, Bool.true_and, bne_iff_ne]
          exact kept
        · simp only [beq_eq_false_iff_ne.mpr mine, Bool.false_and]
      rw [same]
      exact ledger.covered other old standing
  claimed := by
    intro pass inPasses
    obtain ⟨other, old, sameId, undrafted, standing⟩ := ledger.claimed pass inPasses
    refine ⟨other, mem_putRow_of_ne old fun same => ?_, sameId, undrafted, standing⟩
    rw [ledger.run_eq old member same] at undrafted
    exact undrafted draft
  queued := by
    intro pass inPasses ids queue id waiting
    obtain ⟨issued, mine⟩ := ledger.queued pass inPasses ids queue id waiting
    exact ⟨issued, fun payment here => mine payment (List.mem_filter.mp here).1⟩

/-- Every booking keeps the ledger. -/
theorem booking (ledger : Ledger store) (booking : Booking config store after) : Ledger after := by
  cases booking with
  | outside invoices exceptions kept =>
    exact ⟨ledger.rows, ledger.runIds, ledger.runIssued, ledger.owned, ledger.covered, ledger.claimed, ledger.queued⟩
  | passes passes kept =>
    refine ⟨ledger.rows, ledger.runIds, ledger.runIssued, ledger.owned, ledger.covered, fun pass inPasses => ?_, ?_⟩
    · obtain ⟨old, inOld, sameRun, _⟩ := kept pass inPasses
      rw [← sameRun]
      exact ledger.claimed old inOld
    · intro pass inPasses ids queue id waiting
      obtain ⟨old, inOld, sameRun, _, sources⟩ := kept pass inPasses
      rcases sources ids queue id waiting with ⟨before, oldQueue, listed⟩ | ⟨payment, here, rfl⟩
      · rw [← sameRun]
        exact ledger.queued old inOld before oldQueue id listed
      · obtain ⟨inTable, mine⟩ := PaymentStore.mem_runPayments.mp here
        refine ⟨(ledger.rows.issued payment inTable).1, fun other also sameId => ?_⟩
        rwa [ledger.rows.eq_of_id also inTable sameId]
  | @enter run actor seen member claimed checked =>
    refine ⟨ledger.rows, ledger.runIds, ledger.runIssued, ledger.owned, ledger.covered, fun pass inPasses => ?_, ?_⟩
    · rcases List.mem_append.mp inPasses with old | new
      · exact ledger.claimed pass old
      · cases List.mem_singleton.mp new
        refine ⟨run, member, rfl, ?_⟩
        rw [claimed]
        decide
    · intro pass inPasses ids queue
      rcases List.mem_append.mp inPasses with old | new
      · exact ledger.queued pass old ids queue
      · cases List.mem_singleton.mp new
        cases queue
  | status member advances => exact ledger.putRun member advances
  | standalone inserted => exact ledger.standalone inserted
  | retry active retryable inserted => exact ledger.retry active retryable inserted
  | create fresh draft requested some' distinct booked => exact ledger.create fresh draft requested some' distinct booked
  | cancel member draft => exact ledger.cancel member draft

end Ledger

end Payables
