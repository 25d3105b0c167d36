import Payables.Payments.System

namespace Payables
open Lib

/-- What holds of the payment rows of every reachable store. -/
structure Rows (payments : List Payment) (next : Nat) : Prop where
  distinct : (payments.map Payment.id).Nodup
  issued : ∀ payment ∈ payments, payment.id < next ∧ payment.correlationId = some (payment.id + 1)
  answers : ∀ payment ∈ payments, ∀ earlier, payment.retryOfPaymentId = some earlier → earlier < next
  oneLive : ∀ payment ∈ payments, ∀ other ∈ payments, payment.invoiceId = other.invoiceId →
    payment.status.isLive = true → other.status.isLive = true → payment = other
  lines : ∀ run : RunId, Payment.lineage.Linear (payments.filter (·.paymentRunId == some run))
  replaced : ∀ payment ∈ payments, ∀ other ∈ payments, other.retryOfPaymentId = some payment.id →
    payment.status.isRetryable = true

theorem PaymentStatus.not_live_of_isRetryable {status : PaymentStatus} (retryable : status.isRetryable = true) :
    status.isLive = false := by
  cases status <;> first | rfl | cases retryable

/-- What a rewritten table holds: every row is an old one with the same order in it, rewritten or not. -/
theorem mem_rewrite {payments : List Payment} {payment written : Payment} (member : payment ∈ payments)
    (same : payment.SameOrder written) {row : Payment} (here : row ∈ putRow Payment.id written payments) :
    ∃ source ∈ payments, source.SameOrder row ∧ (row = source ∧ row.id ≠ payment.id ∨ source = payment ∧ row = written) := by
  rcases mem_putRow here with rfl | ⟨old, different⟩
  · exact ⟨payment, member, same, .inr ⟨rfl, rfl⟩⟩
  · exact ⟨row, old, .refl row, .inl ⟨rfl, fun clash => different (clash.trans same.id.symm)⟩⟩

namespace Rows

variable {payments : List Payment} {next : Nat}

theorem nil : Rows [] next where
  distinct := List.nodup_nil
  issued := fun _ member => nomatch member
  answers := fun _ member => nomatch member
  oneLive := fun _ member => nomatch member
  lines := fun _ => Lineage.linear_nil
  replaced := fun _ member => nomatch member

theorem eq_of_id (rows : Rows payments next) {payment other : Payment} (member : payment ∈ payments)
    (also : other ∈ payments) (same : payment.id = other.id) : payment = other :=
  List.inj_on_of_nodup_map rows.distinct member also same

theorem mono (rows : Rows payments next) {later : Nat} (grows : next ≤ later) : Rows payments later where
  distinct := rows.distinct
  issued := fun payment member => ⟨Nat.lt_of_lt_of_le (rows.issued payment member).1 grows, (rows.issued payment member).2⟩
  answers := fun payment member earlier replaces => Nat.lt_of_lt_of_le (rows.answers payment member earlier replaces) grows
  oneLive := rows.oneLive
  lines := rows.lines
  replaced := rows.replaced

theorem filter_rewrite (rows : Rows payments next) {payment written : Payment} (member : payment ∈ payments)
    (same : payment.SameOrder written) (run : RunId) :
    (putRow Payment.id written payments).filter (·.paymentRunId == some run) =
      putRow Payment.id written (payments.filter (·.paymentRunId == some run)) := by
  refine filter_putRow fun other inRows sameId => ?_
  have one := rows.eq_of_id member inRows (same.id.symm.trans sameId.symm)
  rw [same.paymentRunId, one]

/-- Rewriting a live row in place, as the same order. -/
theorem rewrite (rows : Rows payments next) {payment written : Payment} (member : payment ∈ payments)
    (live : payment.status.isLive = true) (same : payment.SameOrder written) :
    Rows (putRow Payment.id written payments) next where
  distinct := by
    rw [map_ident_putRow]
    exact rows.distinct
  issued := by
    intro row here
    obtain ⟨source, old, kept, _⟩ := mem_rewrite member same here
    rw [kept.id, kept.correlationId]
    exact rows.issued source old
  answers := by
    intro row here earlier replaces
    obtain ⟨source, old, kept, _⟩ := mem_rewrite member same here
    exact rows.answers source old earlier (kept.retryOfPaymentId.symm.trans replaces)
  oneLive := by
    intro row here other there sameInvoice liveRow liveOther
    obtain ⟨source, old, kept, rowCase⟩ := mem_rewrite member same here
    obtain ⟨target, also, keptToo, otherCase⟩ := mem_rewrite member same there
    have invoices : source.invoiceId = target.invoiceId := by rw [← kept.invoiceId, ← keptToo.invoiceId, sameInvoice]
    have liveSource : source.status.isLive = true := by
      rcases rowCase with ⟨rfl, _⟩ | ⟨rfl, _⟩
      · exact liveRow
      · exact live
    have liveTarget : target.status.isLive = true := by
      rcases otherCase with ⟨rfl, _⟩ | ⟨rfl, _⟩
      · exact liveOther
      · exact live
    have one := rows.oneLive source old target also invoices liveSource liveTarget
    subst one
    rcases rowCase with ⟨rfl, differs⟩ | ⟨rfl, rfl⟩ <;> rcases otherCase with ⟨rfl, _⟩ | ⟨sameSource, rfl⟩
    · rfl
    · exact absurd (congrArg Payment.id sameSource) differs
    · next differs => exact absurd rfl differs
    · rfl
  lines := by
    intro run
    rw [rows.filter_rewrite member same]
    have source {row : Payment} (here : row ∈ payments.filter (·.paymentRunId == some run))
        (sameId : row.id = written.id) : row = payment :=
      rows.eq_of_id (List.mem_filter.mp here).1 member (sameId.trans same.id)
    refine (rows.lines run).map_update ?_ ?_ ?_
    · intro row here
      split
      · next sameId => exact sameId.symm
      · rfl
    · intro row here
      split
      · next sameId => exact same.retryOfPaymentId.trans (congrArg Payment.retryOfPaymentId (source here sameId).symm)
      · rfl
    · intro row here
      split
      · next sameId => exact same.invoiceId.trans (congrArg Payment.invoiceId (source here sameId).symm)
      · rfl
  replaced := by
    intro row here other there replaces
    obtain ⟨source, old, kept, rowCase⟩ := mem_rewrite member same here
    obtain ⟨target, also, keptToo, _⟩ := mem_rewrite member same there
    have retryable := rows.replaced source old target also (by rw [← keptToo.retryOfPaymentId, replaces, kept.id])
    rcases rowCase with ⟨rfl, _⟩ | ⟨rfl, _⟩
    · exact retryable
    · rw [PaymentStatus.not_live_of_isRetryable retryable] at live
      cases live

/-- A fresh row, while no live row pays its invoice. -/
theorem append (rows : Rows payments next) {payment : Payment} (fresh : payment.id = next)
    (keyed : payment.correlationId = some (payment.id + 1))
    (vacant : ∀ other ∈ payments, other.invoiceId = payment.invoiceId → other.status.isLive = false)
    (replaces : ∀ earlier, payment.retryOfPaymentId = some earlier →
      ∃ other ∈ payments, other.id = earlier ∧ other.status.isRetryable = true)
    (lines : ∀ run, payment.paymentRunId = some run →
      Payment.lineage.Linear (payments.filter (·.paymentRunId == some run) ++ [payment])) :
    Rows (payments ++ [payment]) (next + 2) where
  distinct := by
    rw [List.map_append, List.nodup_append]
    refine ⟨rows.distinct, List.nodup_singleton _, ?_⟩
    intro id member other single same
    obtain ⟨source, old, rfl⟩ := List.mem_map.mp member
    have below := (rows.issued source old).1
    rw [same, List.mem_singleton.mp single, fresh] at below
    exact Nat.lt_irrefl _ below
  issued := by
    intro row here
    rcases List.mem_append.mp here with old | new
    · exact ⟨Nat.lt_add_right 2 (rows.issued row old).1, (rows.issued row old).2⟩
    · cases List.mem_singleton.mp new
      refine ⟨?_, keyed⟩
      rw [fresh]
      exact Nat.lt_add_of_pos_right (by decide)
  answers := by
    intro row here earlier names
    rcases List.mem_append.mp here with old | new
    · exact Nat.lt_add_right 2 (rows.answers row old earlier names)
    · cases List.mem_singleton.mp new
      obtain ⟨other, old, rfl, _⟩ := replaces earlier names
      exact Nat.lt_add_right 2 (rows.issued other old).1
  oneLive := by
    intro row here other there sameInvoice liveRow liveOther
    rcases List.mem_append.mp here with old | new <;> rcases List.mem_append.mp there with also | newToo
    · exact rows.oneLive row old other also sameInvoice liveRow liveOther
    · cases List.mem_singleton.mp newToo
      rw [vacant row old sameInvoice] at liveRow
      cases liveRow
    · cases List.mem_singleton.mp new
      rw [vacant other also sameInvoice.symm] at liveOther
      cases liveOther
    · rw [List.mem_singleton.mp new, List.mem_singleton.mp newToo]
  lines := by
    intro run
    rw [List.filter_append]
    by_cases mine : payment.paymentRunId = some run
    · rw [List.filter_cons_of_pos (by simpa only [beq_iff_eq] using mine), List.filter_nil]
      exact lines run mine
    · rw [List.filter_cons_of_neg (by simpa only [beq_iff_eq] using mine), List.filter_nil, List.append_nil]
      exact rows.lines run
  replaced := by
    intro row here other there names
    rcases List.mem_append.mp there with also | newToo
    · have below := rows.answers other also _ names
      rcases List.mem_append.mp here with old | new
      · exact rows.replaced row old other also names
      · rw [List.mem_singleton.mp new, fresh] at below
        exact absurd below (Nat.lt_irrefl _)
    · cases List.mem_singleton.mp newToo
      obtain ⟨source, old, sameId, retryable⟩ := replaces _ names
      rcases List.mem_append.mp here with also | new
      · rwa [← rows.eq_of_id old also sameId]
      · have below := (rows.issued source old).1
        rw [sameId, List.mem_singleton.mp new, fresh] at below
        exact absurd below (Nat.lt_irrefl _)

/-- Deleting the rows of one run. -/
theorem delete (rows : Rows payments next) (run : RunId) : Rows (payments.filter (·.paymentRunId != some run)) next where
  distinct := rows.distinct.sublist (List.filter_sublist.map _)
  issued := fun payment member => rows.issued payment (List.mem_filter.mp member).1
  answers := fun payment member => rows.answers payment (List.mem_filter.mp member).1
  oneLive := fun payment member other also =>
    rows.oneLive payment (List.mem_filter.mp member).1 other (List.mem_filter.mp also).1
  lines := by
    intro other
    rw [List.filter_filter]
    by_cases same : other = run
    · subst same
      have gone : payments.filter (fun payment => payment.paymentRunId == some other && payment.paymentRunId != some other)
          = [] := by
        refine List.filter_eq_nil_iff.mpr fun payment _ => ?_
        simp only [bne, Bool.and_not_self, Bool.false_eq_true, not_false_eq_true]
      rw [gone]
      exact Lineage.linear_nil
    · have kept : payments.filter (fun payment => payment.paymentRunId == some other && payment.paymentRunId != some run)
          = payments.filter (·.paymentRunId == some other) := by
        refine List.filter_congr fun payment _ => ?_
        by_cases mine : payment.paymentRunId = some other
        · have differs : payment.paymentRunId ≠ some run := by
            rw [mine]
            exact fun clash => same (Option.some.inj clash)
          simp only [mine, beq_self_eq_true, Bool.true_and, bne_iff_ne, ne_eq]
          rwa [mine] at differs
        · simp only [beq_eq_false_iff_ne.mpr mine, Bool.false_and]
      rw [kept]
      exact rows.lines other
  replaced := fun payment member other also =>
    rows.replaced payment (List.mem_filter.mp member).1 other (List.mem_filter.mp also).1

end Rows

theorem rewrite_image {payments : List Payment} {payment written old : Payment} {next : Nat} (rows : Rows payments next)
    (member : payment ∈ payments) (same : payment.SameOrder written) (here : old ∈ payments) :
    ∃ row ∈ putRow Payment.id written payments, old.SameOrder row := by
  by_cases sameId : old.id = written.id
  · have one := rows.eq_of_id here member (sameId.trans same.id)
    exact ⟨written, mem_putRow_self here sameId, by rw [one]; exact same⟩
  · exact ⟨old, mem_putRow_of_ne here sameId, .refl old⟩

/-- What holds of every reachable store. -/
structure Ledger (store : PaymentStore) : Prop where
  rows : Rows store.payments store.nextId
  runIds : (store.runs.map PaymentRun.id).Nodup
  runIssued : ∀ run ∈ store.runs, run.id < store.nextId
  owned : ∀ payment ∈ store.payments, ∀ id, payment.paymentRunId = some id →
    ∃ run ∈ store.runs, run.id = id ∧ run.status ≠ .cancelled
  covered : ∀ run ∈ store.runs, run.status ≠ .cancelled → run.invoices ≠ [] ∧
    ∀ invoice, invoice ∈ run.invoices ↔ ∃ payment ∈ store.runPayments run.id, payment.invoiceId = invoice
  claimed : ∀ pass ∈ store.passes, ∃ run ∈ store.runs, run.id = pass.run ∧ run.status ≠ .draft ∧ run.status ≠ .cancelled
  queued : ∀ pass ∈ store.passes, ∀ ids, pass.queue = some ids → ∀ id ∈ ids,
    id < store.nextId ∧ ∀ payment ∈ store.payments, payment.id = id → payment.paymentRunId = some pass.run

/-- The steps of the life of a run: the request it came from stays, and it is neither drafted again
nor taken out of `cancelled`. -/
structure PaymentRun.Advances (run next : PaymentRun) : Prop where
  id : next.id = run.id
  initiatedBy : next.initiatedBy = run.initiatedBy
  invoices : next.invoices = run.invoices
  status : next.status = run.status ∨ run.status ≠ .cancelled ∧ next.status ≠ .draft ∧ next.status ≠ .cancelled

/-- Fresh pending rows, and nothing else. -/
structure PaymentStore.Extends (store : PaymentStore) (added : List Payment) (after : PaymentStore) : Prop where
  same : after = { store with payments := store.payments ++ added, nextId := after.nextId }
  grows : store.nextId ≤ after.nextId
  fresh : ∀ payment ∈ added, store.nextId ≤ payment.id ∧ payment.status = .pending

theorem PaymentStore.mem_runPayments {store : PaymentStore} {run : RunId} {payment : Payment} :
    payment ∈ store.runPayments run ↔ payment ∈ store.payments ∧ payment.paymentRunId = some run := by
  simp only [runPayments, List.mem_filter, beq_iff_eq]

namespace Ledger

variable {store after : PaymentStore}

theorem empty (noPayments : store.payments = []) (noRuns : store.runs = []) (noPasses : store.passes = []) :
    Ledger store where
  rows := by
    rw [noPayments]
    exact .nil
  runIds := by
    rw [noRuns]
    exact List.nodup_nil
  runIssued := by simp only [noRuns, List.not_mem_nil, false_implies, implies_true]
  owned := by simp only [noPayments, List.not_mem_nil, false_implies, implies_true]
  covered := by simp only [noRuns, List.not_mem_nil, false_implies, implies_true]
  claimed := by simp only [noPasses, List.not_mem_nil, false_implies, implies_true]
  queued := by simp only [noPasses, List.not_mem_nil, false_implies, implies_true]

theorem run_eq (ledger : Ledger store) {run other : PaymentRun} (member : run ∈ store.runs) (also : other ∈ store.runs)
    (same : run.id = other.id) : run = other :=
  List.inj_on_of_nodup_map ledger.runIds member also same

theorem linear (ledger : Ledger store) (run : RunId) : Payment.lineage.Linear (store.runPayments run) :=
  ledger.rows.lines run

/-- Rewriting a live row in place, as the same order. -/
theorem rewrite (ledger : Ledger store) {payment written : Payment} (member : payment ∈ store.payments)
    (live : payment.status.isLive = true) (same : payment.SameOrder written) : Ledger (store.putPayment written) where
  rows := ledger.rows.rewrite member live same
  runIds := ledger.runIds
  runIssued := ledger.runIssued
  owned := by
    intro row here id mine
    obtain ⟨source, old, kept, _⟩ := mem_rewrite member same here
    exact ledger.owned source old id (kept.paymentRunId.symm.trans mine)
  covered := by
    intro run inRuns standing
    obtain ⟨nonempty, exactly⟩ := ledger.covered run inRuns standing
    refine ⟨nonempty, fun invoice => (exactly invoice).trans ⟨?_, ?_⟩⟩
    · rintro ⟨row, here, rfl⟩
      obtain ⟨old, mine⟩ := PaymentStore.mem_runPayments.mp here
      obtain ⟨image, inTable, kept⟩ := rewrite_image ledger.rows member same old
      exact ⟨image, PaymentStore.mem_runPayments.mpr ⟨inTable, kept.paymentRunId.trans mine⟩, kept.invoiceId⟩
    · rintro ⟨row, here, rfl⟩
      obtain ⟨inTable, mine⟩ := PaymentStore.mem_runPayments.mp here
      obtain ⟨source, old, kept, _⟩ := mem_rewrite member same inTable
      exact ⟨source, PaymentStore.mem_runPayments.mpr ⟨old, kept.paymentRunId.symm.trans mine⟩, kept.invoiceId.symm⟩
  claimed := ledger.claimed
  queued := by
    intro pass inPasses ids queue id waiting
    obtain ⟨issued, mine⟩ := ledger.queued pass inPasses ids queue id waiting
    refine ⟨issued, fun row here sameId => ?_⟩
    obtain ⟨source, old, kept, _⟩ := mem_rewrite member same here
    exact kept.paymentRunId.trans (mine source old (kept.id.symm.trans sameId))

theorem putRun (ledger : Ledger store) {run next : PaymentRun} (member : run ∈ store.runs) (advances : run.Advances next) :
    Ledger (store.putRun next) where
  rows := ledger.rows
  runIds := by
    have same : (store.putRun next).runs.map PaymentRun.id = store.runs.map PaymentRun.id := map_ident_putRow
    rw [same]
    exact ledger.runIds
  runIssued := by
    intro other here
    rcases mem_putRow here with rfl | ⟨old, _⟩
    · rw [advances.id]
      exact ledger.runIssued run member
    · exact ledger.runIssued other old
  owned := by
    intro payment inTable id mine
    obtain ⟨other, old, sameId, standing⟩ := ledger.owned payment inTable id mine
    by_cases same : other.id = next.id
    · have one := ledger.run_eq old member (same.trans advances.id)
      refine ⟨next, mem_putRow_self old same, by rw [← same, sameId], ?_⟩
      rcases advances.status with unchanged | ⟨_, _, uncancelled⟩
      · rwa [unchanged, ← one]
      · exact uncancelled
    · exact ⟨other, mem_putRow_of_ne old same, sameId, standing⟩
  covered := by
    intro other here standing
    rcases mem_putRow here with rfl | ⟨old, _⟩
    · have before : run.status ≠ .cancelled := by
        rcases advances.status with unchanged | ⟨uncancelled, _⟩
        · rwa [← unchanged]
        · exact uncancelled
      rw [advances.invoices, advances.id]
      exact ledger.covered run member before
    · exact ledger.covered other old standing
  claimed := by
    intro pass inPasses
    obtain ⟨other, old, sameId, undrafted, standing⟩ := ledger.claimed pass inPasses
    by_cases same : other.id = next.id
    · have one := ledger.run_eq old member (same.trans advances.id)
      refine ⟨next, mem_putRow_self old same, by rw [← same, sameId], ?_⟩
      rcases advances.status with unchanged | ⟨_, facts⟩
      · rw [unchanged, ← one]
        exact ⟨undrafted, standing⟩
      · exact facts
    · exact ⟨other, mem_putRow_of_ne old same, sameId, undrafted, standing⟩
  queued := ledger.queued

/-- Fresh rows for invoices the runs already cover, or for no run. -/
theorem extend (ledger : Ledger store) {added : List Payment} (extends' : store.Extends added after)
    (rows : Rows after.payments after.nextId)
    (placed : ∀ payment ∈ added, ∀ id, payment.paymentRunId = some id →
      ∃ run ∈ store.runs, run.id = id ∧ run.status ≠ .cancelled ∧ payment.invoiceId ∈ run.invoices) : Ledger after := by
  have grows := extends'.grows
  have fresh := extends'.fresh
  rw [extends'.same] at rows ⊢
  refine ⟨rows, ledger.runIds, ?_, ?_, ?_, ledger.claimed, ?_⟩
  · exact fun run inRuns => Nat.lt_of_lt_of_le (ledger.runIssued run inRuns) grows
  · intro payment here id mine
    rcases List.mem_append.mp here with old | new
    · exact ledger.owned payment old id mine
    · obtain ⟨run, inRuns, sameId, standing, _⟩ := placed payment new id mine
      exact ⟨run, inRuns, sameId, standing⟩
  · intro run inRuns standing
    obtain ⟨nonempty, exactly⟩ := ledger.covered run inRuns standing
    refine ⟨nonempty, fun invoice => ⟨fun listed => ?_, ?_⟩⟩
    · obtain ⟨payment, here, sameInvoice⟩ := (exactly invoice).mp listed
      obtain ⟨old, mine⟩ := PaymentStore.mem_runPayments.mp here
      exact ⟨payment, PaymentStore.mem_runPayments.mpr ⟨List.mem_append_left _ old, mine⟩, sameInvoice⟩
    · rintro ⟨payment, here, rfl⟩
      obtain ⟨inTable, mine⟩ := PaymentStore.mem_runPayments.mp here
      rcases List.mem_append.mp inTable with old | new
      · exact (exactly _).mpr ⟨payment, PaymentStore.mem_runPayments.mpr ⟨old, mine⟩, rfl⟩
      · obtain ⟨other, also, sameId, _, listed⟩ := placed payment new run.id mine
        rwa [← ledger.run_eq also inRuns sameId]
  · intro pass inPasses ids queue id waiting
    obtain ⟨issued, mine⟩ := ledger.queued pass inPasses ids queue id waiting
    refine ⟨Nat.lt_of_lt_of_le issued grows, fun payment here sameId => ?_⟩
    rcases List.mem_append.mp here with old | new
    · exact mine payment old sameId
    · have above := (fresh payment new).1
      rw [sameId] at above
      exact absurd issued (Nat.not_lt.mpr above)

end Ledger

end Payables
