import Payables.Expenses.CardLinks
import Payables.Lib.Links

namespace Payables.CardExpenses
open Lib

namespace LinkTables

variable (tables : LinkTables)

/-- The expense that a transaction names. -/
def expenseNamed (txnId : Nat) : Option Nat := (tables.txn? txnId).bind (·.matchedExpenseId)

/-- The transaction that an expense names. -/
def txnNamed (expenseId : Nat) : Option Nat := (tables.expense? expenseId).bind (·.cardTransactionId)

end LinkTables

/-- Transactions and expenses are linked one to one, and an expense without a link has the payment method it came with. -/
structure LinkedOneToOne (tables : LinkTables) : Prop where
  matched : ∀ id txn, tables.txn? id = some txn → (txn.reconciliationStatus = .matched ↔ txn.matchedExpenseId.isSome)
  paired : ∀ txnId expenseId, tables.expenseNamed txnId = some expenseId ↔ tables.txnNamed expenseId = some txnId
  single : ∀ first second expenseId, tables.expenseNamed first = some expenseId →
    tables.expenseNamed second = some expenseId → first = second
  restored : ∀ id expense, tables.expense? id = some expense → expense.cardTransactionId = none →
    expense.paymentMethod = expense.firstMethod

/-- A match is committed on an expense that names no transaction by then. -/
def MatchesInTime (tables : LinkTables) (call : LinkCall) (_ : Unit) : Prop :=
  match call.work with
  | .link loaded => ∀ expense ∈ tables.expense? loaded.id, expense.cardTransactionId = none
  | _ => True

instance (tables : LinkTables) (call : LinkCall) (input : Unit) : Decidable (MatchesInTime tables call input) := by
  unfold MatchesInTime
  split <;> infer_instance

/-- What the columns of an expense say of each other. -/
def Expense.Sound (expense : Expense) : Prop :=
  match expense.cardTransactionId with
  | none => expense.paymentMethodBeforeMatch = none ∧ expense.paymentMethod = expense.firstMethod
  | some _ => expense.paymentMethodBeforeMatch = some expense.firstMethod

/-- What holds of the tables between the requests of a run in time. -/
structure LinkInv (tables : LinkTables) : Prop where
  ids : ∀ expense ∈ tables.expenses, expense.id < tables.nextExpense
  matched : ∀ id txn, tables.txn? id = some txn → (txn.reconciliationStatus = .matched ↔ txn.matchedExpenseId.isSome)
  paired : Mutual tables.expenseNamed tables.txnNamed
  sound : ∀ id expense, tables.expense? id = some expense → expense.Sound

/-- What a request relies on besides its lock. -/
def WorkHeld (tables : LinkTables) (txn : CorporateCardTransaction) : LinkWork → Prop
  | .link loaded => txn.matchedExpenseId = none ∧ loaded.cardTransactionId = none ∧ loaded.Sound ∧
      ∃ current, tables.expense? loaded.id = some current ∧ current.firstMethod = loaded.firstMethod
  | .unlink (some loaded) => txn.matchedExpenseId = some loaded.id ∧ tables.expense? loaded.id = some loaded
  | .unlink none => txn.matchedExpenseId = none ∧ txn.reconciliationStatus = .matched
  | .ignore => txn.matchedExpenseId = none
  | .create => txn.matchedExpenseId = none

/-- What holds of a request in flight. -/
structure LinkHeld (tables : LinkTables) (call : LinkCall) : Prop where
  locked : call.txn.id ∈ tables.locks
  txn : tables.txn? call.txn.id = some call.txn
  work : WorkHeld tables call.txn call.work

/-- Two requests in flight have different transactions locked. -/
def Apart (first second : LinkCall) : Prop := first.txn.id ≠ second.txn.id

theorem LinkInv.linkedOneToOne {tables : LinkTables} (inv : LinkInv tables) : LinkedOneToOne tables where
  matched := inv.matched
  paired := inv.paired
  single _ _ _ one two := inv.paired.single one two
  restored id expense present free := by
    have sound := inv.sound id expense present
    rw [Expense.Sound, free] at sound
    exact sound.2

section Columns

variable {loaded current : Expense} {txn : CorporateCardTransaction}

theorem Expense.Sound.of_free (sound : loaded.Sound) (free : loaded.cardTransactionId = none) :
    loaded.paymentMethodBeforeMatch = none ∧ loaded.paymentMethod = loaded.firstMethod := by
  rw [Expense.Sound, free] at sound
  exact sound

/-- The match of an expense that was read free keeps its first payment method. -/
theorem Expense.Sound.flush_linked (sound : loaded.Sound) (free : loaded.cardTransactionId = none)
    (same : current.firstMethod = loaded.firstMethod) : (Expense.flush loaded (loaded.linked txn) current).Sound := by
  obtain ⟨unsaved, first⟩ := sound.of_free free
  have saved : (Expense.flush loaded (loaded.linked txn) current).paymentMethodBeforeMatch = some loaded.paymentMethod :=
    writeBack_of_ne (by simp [Expense.linked, unsaved]) _
  have named : (Expense.flush loaded (loaded.linked txn) current).cardTransactionId = some txn.id :=
    writeBack_of_ne (by simp [Expense.linked, free]) _
  rw [Expense.Sound, named, saved, first]
  exact congrArg some same.symm

theorem cardTransactionId_flush_linked (free : loaded.cardTransactionId = none) :
    (Expense.flush loaded (loaded.linked txn) current).cardTransactionId = some txn.id :=
  writeBack_of_ne (by simp [Expense.linked, free]) _

/-- An expense that is still as it was read takes what was written. -/
theorem Expense.flush_unlinked (linked : loaded.paymentMethodBeforeMatch = some loaded.firstMethod) :
    Expense.flush loaded loaded.unlinked loaded =
      { loaded with cardTransactionId := none, paymentMethod := loaded.firstMethod, paymentMethodBeforeMatch := none } := by
  simp [Expense.flush, Expense.unlinked, linked]

end Columns

section Writes

variable {tables : LinkTables} {txnId other : Nat}

theorem txn?_setTxn_self {txn : CorporateCardTransaction} (present : tables.txn? txnId = some txn) (expenseId : Option Nat)
    (status : ReconciliationStatus) : (tables.setTxn txnId expenseId status).txn? txnId =
      some { txn with matchedExpenseId := expenseId, reconciliationStatus := status } := by
  have keeps : ∀ row : CorporateCardTransaction,
      ({ row with matchedExpenseId := expenseId, reconciliationStatus := status } : CorporateCardTransaction).id = row.id :=
    fun _ => rfl
  rw [LinkTables.txn?, LinkTables.setTxn, getRow_changeRow_self keeps]
  exact congrArg (Option.map _) present

theorem txn?_setTxn_of_ne (different : other ≠ txnId) (expenseId : Option Nat) (status : ReconciliationStatus) :
    (tables.setTxn txnId expenseId status).txn? other = tables.txn? other := by
  have keeps : ∀ row : CorporateCardTransaction,
      ({ row with matchedExpenseId := expenseId, reconciliationStatus := status } : CorporateCardTransaction).id = row.id :=
    fun _ => rfl
  exact getRow_changeRow_of_ne keeps different

theorem expenseNamed_setTxn {txn : CorporateCardTransaction} (present : tables.txn? txnId = some txn)
    (expenseId : Option Nat) (status : ReconciliationStatus) :
    (tables.setTxn txnId expenseId status).expenseNamed = Function.update tables.expenseNamed txnId expenseId := by
  funext id
  rw [LinkTables.expenseNamed]
  by_cases same : id = txnId
  · rw [same, txn?_setTxn_self present, Function.update_self]
    rfl
  · rw [txn?_setTxn_of_ne same, Function.update_of_ne same]
    rfl

theorem expense?_flushExpense_self {loaded edited current : Expense} (present : tables.expense? loaded.id = some current) :
    (tables.flushExpense loaded edited).expense? loaded.id = some (Expense.flush loaded edited current) := by
  have keeps : ∀ row : Expense, (Expense.flush loaded edited row).id = row.id := fun _ => rfl
  rw [LinkTables.expense?, LinkTables.flushExpense, getRow_changeRow_self keeps]
  exact congrArg (Option.map _) present

theorem expense?_flushExpense_of_ne {loaded edited : Expense} (different : other ≠ loaded.id) :
    (tables.flushExpense loaded edited).expense? other = tables.expense? other := by
  have keeps : ∀ row : Expense, (Expense.flush loaded edited row).id = row.id := fun _ => rfl
  exact getRow_changeRow_of_ne keeps different

theorem txnNamed_flushExpense {loaded edited current : Expense} (present : tables.expense? loaded.id = some current) :
    (tables.flushExpense loaded edited).txnNamed =
      Function.update tables.txnNamed loaded.id (Expense.flush loaded edited current).cardTransactionId := by
  funext id
  rw [LinkTables.txnNamed]
  by_cases same : id = loaded.id
  · rw [same, expense?_flushExpense_self present, Function.update_self]
    rfl
  · rw [expense?_flushExpense_of_ne same, Function.update_of_ne same]
    rfl

/-- An id that was not given out yet names no expense. -/
theorem expense?_of_fresh (below : ∀ expense ∈ tables.expenses, expense.id < tables.nextExpense) :
    tables.expense? tables.nextExpense = none := by
  cases found : tables.expense? tables.nextExpense with
  | none => rfl
  | some expense =>
    obtain ⟨mem, same⟩ := getRow_some found
    have smaller := below expense mem
    omega

theorem expense?_addExpense (below : ∀ expense ∈ tables.expenses, expense.id < tables.nextExpense) {added : Expense}
    (fresh : added.id = tables.nextExpense) :
    (tables.addExpense added).expense? = Function.update tables.expense? tables.nextExpense (some added) := by
  funext id
  by_cases same : id = tables.nextExpense
  · have before := expense?_of_fresh below
    rw [same, Function.update_self, LinkTables.expense?, getRow, LinkTables.addExpense, List.find?_append]
    rw [LinkTables.expense?, getRow] at before
    rw [before, Option.none_or]
    exact List.find?_cons_of_pos (by simp [fresh])
  · have apart : [added].find? (fun row => row.id = id) = none := by
      refine List.find?_eq_none.mpr fun row mem => ?_
      obtain rfl := List.mem_singleton.mp mem
      simpa [fresh] using Ne.symm same
    rw [Function.update_of_ne same, LinkTables.expense?, getRow, LinkTables.addExpense, List.find?_append, apart,
      Option.or_none]
    rfl

theorem txnNamed_addExpense (below : ∀ expense ∈ tables.expenses, expense.id < tables.nextExpense) {added : Expense}
    (fresh : added.id = tables.nextExpense) :
    (tables.addExpense added).txnNamed = Function.update tables.txnNamed tables.nextExpense added.cardTransactionId := by
  funext id
  rw [LinkTables.txnNamed, expense?_addExpense below fresh]
  by_cases same : id = tables.nextExpense
  · rw [same, Function.update_self, Function.update_self]
    rfl
  · rw [Function.update_of_ne same, Function.update_of_ne same]
    rfl

end Writes

section Steps

variable {tables : LinkTables} {call other : LinkCall}

theorem txn?_setTxn {txnId id : Nat} {expenseId : Option Nat} {status : ReconciliationStatus}
    {txn : CorporateCardTransaction} (found : (tables.setTxn txnId expenseId status).txn? id = some txn) :
    tables.txn? id = some txn ∨ txn.matchedExpenseId = expenseId ∧ txn.reconciliationStatus = status := by
  by_cases same : id = txnId
  · have keeps : ∀ row : CorporateCardTransaction,
        ({ row with matchedExpenseId := expenseId, reconciliationStatus := status } : CorporateCardTransaction).id = row.id :=
      fun _ => rfl
    rw [same, LinkTables.txn?, LinkTables.setTxn, getRow_changeRow_self keeps] at found
    obtain ⟨old, _, rfl⟩ := Option.map_eq_some_iff.mp found
    exact .inr ⟨rfl, rfl⟩
  · rw [txn?_setTxn_of_ne same] at found
    exact .inl found

variable (tables) in
/-- The write of a transaction and an expense at once keeps the invariant where it keeps the pairing. -/
theorem LinkInv.setTxn (matched : ∀ id txn, tables.txn? id = some txn →
      (txn.reconciliationStatus = .matched ↔ txn.matchedExpenseId.isSome))
    (ids : ∀ expense ∈ tables.expenses, expense.id < tables.nextExpense)
    (sound : ∀ id expense, tables.expense? id = some expense → expense.Sound)
    {txn : CorporateCardTransaction} {txnId : Nat} (present : tables.txn? txnId = some txn)
    {expenseId : Option Nat} {status : ReconciliationStatus} (agrees : status = .matched ↔ expenseId.isSome)
    (paired : Mutual (Function.update tables.expenseNamed txnId expenseId) tables.txnNamed) :
    LinkInv (tables.setTxn txnId expenseId status) where
  ids := ids
  matched id txn found := by
    rcases txn?_setTxn found with earlier | ⟨expense, state⟩
    · exact matched id txn earlier
    · rw [expense, state]
      exact agrees
  paired := by
    rw [expenseNamed_setTxn present]
    exact paired
  sound := sound

theorem LinkInv.unlock (inv : LinkInv tables) (txnId : Nat) : LinkInv (tables.unlock txnId) :=
  ⟨inv.ids, inv.matched, inv.paired, inv.sound⟩

theorem expenseNamed_of_txn? {txn : CorporateCardTransaction} {id : Nat} (present : tables.txn? id = some txn) :
    tables.expenseNamed id = txn.matchedExpenseId := by
  rw [LinkTables.expenseNamed, present]
  rfl

theorem txnNamed_of_expense? {expense : Expense} {id : Nat} (present : tables.expense? id = some expense) :
    tables.txnNamed id = expense.cardTransactionId := by
  rw [LinkTables.txnNamed, present]
  rfl

theorem ids_flushExpense (ids : ∀ expense ∈ tables.expenses, expense.id < tables.nextExpense) (loaded edited : Expense) :
    ∀ expense ∈ (tables.flushExpense loaded edited).expenses, expense.id < tables.nextExpense := by
  intro expense mem
  obtain ⟨old, oldMem, rfl⟩ := List.mem_map.mp mem
  have below := ids old oldMem
  split
  · exact below
  · exact below

theorem sound_flushExpense (sound : ∀ id expense, tables.expense? id = some expense → expense.Sound)
    {loaded edited current : Expense} (present : tables.expense? loaded.id = some current)
    (written : (Expense.flush loaded edited current).Sound) :
    ∀ id expense, (tables.flushExpense loaded edited).expense? id = some expense → expense.Sound := by
  intro id expense found
  by_cases same : id = loaded.id
  · rw [same, expense?_flushExpense_self present] at found
    rw [← Option.some.inj found]
    exact written
  · rw [expense?_flushExpense_of_ne same] at found
    exact sound id expense found

/-- A request leaves one whose transaction is another as it is, where it leaves the expense of that one as it is. -/
theorem LinkHeld.frame {after : LinkTables} (held : LinkHeld tables other)
    (locks : other.txn.id ∈ tables.locks → other.txn.id ∈ after.locks)
    (txn : after.txn? other.txn.id = tables.txn? other.txn.id) (work : WorkHeld after other.txn other.work) :
    LinkHeld after other :=
  ⟨locks held.locked, txn.trans held.txn, work⟩

theorem mem_unlock {txnId id : Nat} (different : id ≠ txnId) (mem : id ∈ tables.locks) :
    id ∈ (tables.unlock txnId).locks :=
  List.mem_filter.mpr ⟨mem, by simpa using different⟩

theorem LinkInv.link (inv : LinkInv tables) {txn : CorporateCardTransaction} {loaded : Expense}
    (present : tables.txn? txn.id = some txn) (held : WorkHeld tables txn (.link loaded))
    (inTime : ∀ expense ∈ tables.expense? loaded.id, expense.cardTransactionId = none) :
    LinkInv (tables.write txn (.link loaded)) := by
  obtain ⟨unmatched, free, sound, current, stored, same⟩ := held
  have idle : current.cardTransactionId = none := inTime current stored
  refine .setTxn (tables.flushExpense loaded (loaded.linked txn)) inv.matched (ids_flushExpense inv.ids _ _)
    (sound_flushExpense inv.sound stored (sound.flush_linked free same)) present (by simp) ?_
  rw [txnNamed_flushExpense stored, cardTransactionId_flush_linked free]
  refine inv.paired.link ?_ ?_
  · rw [expenseNamed_of_txn? present, unmatched]
  · rw [txnNamed_of_expense? stored, idle]

theorem LinkInv.unlink (inv : LinkInv tables) {txn : CorporateCardTransaction} {loaded : Expense}
    (present : tables.txn? txn.id = some txn) (held : WorkHeld tables txn (.unlink (some loaded))) :
    LinkInv (tables.write txn (.unlink (some loaded))) := by
  obtain ⟨matched, stored⟩ := held
  have linked : tables.expenseNamed txn.id = some loaded.id := (expenseNamed_of_txn? present).trans matched
  have back : loaded.cardTransactionId = some txn.id :=
    (txnNamed_of_expense? stored).symm.trans ((inv.paired txn.id loaded.id).mp linked)
  have sound := inv.sound loaded.id loaded stored
  rw [Expense.Sound, back] at sound
  have written := Expense.flush_unlinked sound
  refine .setTxn (tables.flushExpense loaded loaded.unlinked) inv.matched (ids_flushExpense inv.ids _ _)
    (sound_flushExpense inv.sound stored ?_) present (by simp) ?_
  · rw [written]
    exact ⟨rfl, rfl⟩
  · rw [txnNamed_flushExpense stored, written]
    exact inv.paired.unlink linked

theorem LinkInv.ignored (inv : LinkInv tables) {txn : CorporateCardTransaction}
    (present : tables.txn? txn.id = some txn) (unmatched : txn.matchedExpenseId = none) :
    LinkInv (tables.write txn .ignore) := by
  have named : tables.expenseNamed txn.id = none := (expenseNamed_of_txn? present).trans unmatched
  refine .setTxn tables inv.matched inv.ids inv.sound present (by simp [unmatched]) ?_
  rw [unmatched, ← named, Function.update_eq_self]
  exact inv.paired

theorem LinkInv.created (inv : LinkInv tables) {txn : CorporateCardTransaction}
    (present : tables.txn? txn.id = some txn) (unmatched : txn.matchedExpenseId = none) :
    LinkInv (tables.write txn .create) := by
  have fresh := expense?_of_fresh inv.ids
  refine .setTxn (tables.addExpense ((expenseOf txn tables.nextExpense).linked txn)) inv.matched ?_ ?_ present
    (by simp) ?_
  · intro expense mem
    show expense.id < tables.nextExpense + 1
    rcases List.mem_append.mp mem with old | new
    · have below := inv.ids expense old
      omega
    · rw [List.mem_singleton.mp new]
      exact Nat.lt_succ_self _
  · intro id expense found
    rw [expense?_addExpense inv.ids rfl] at found
    rcases update_eq_some.mp found with ⟨_, new⟩ | ⟨_, old⟩
    · rw [← Option.some.inj new]
      rfl
    · exact inv.sound id expense old
  · rw [txnNamed_addExpense inv.ids rfl]
    refine inv.paired.link ?_ ?_
    · rw [expenseNamed_of_txn? present, unmatched]
    · rw [LinkTables.txnNamed, fresh]
      rfl

theorem LinkInv.write (inv : LinkInv tables) (held : LinkHeld tables call) (inTime : MatchesInTime tables call ()) :
    LinkInv (tables.write call.txn call.work) := by
  obtain ⟨txn, work⟩ := call
  obtain ⟨_, present, holds⟩ := held
  cases work with
  | link loaded => exact inv.link present holds inTime
  | unlink expense =>
    cases expense with
    | some loaded => exact inv.unlink present holds
    | none =>
      have agrees := inv.matched txn.id txn present
      rw [holds.1] at agrees
      exact absurd (agrees.mp holds.2) (by simp)
  | ignore => exact inv.ignored present holds
  | create => exact inv.created present holds

theorem txn?_write_of_ne {txn : CorporateCardTransaction} {id : Nat} (different : id ≠ txn.id) (work : LinkWork) :
    (tables.write txn work).txn? id = tables.txn? id := by
  cases work with
  | link loaded => exact txn?_setTxn_of_ne different _ _
  | unlink expense =>
    cases expense with
    | some loaded => exact txn?_setTxn_of_ne different _ _
    | none => exact txn?_setTxn_of_ne different _ _
  | ignore => exact txn?_setTxn_of_ne different _ _
  | create => exact txn?_setTxn_of_ne different _ _

/-- The expense that a request writes. -/
def LinkWork.writes : LinkWork → Option Expense
  | .link loaded => some loaded
  | .unlink expense => expense
  | .ignore => none
  | .create => none

/-- What a request leaves of an expense: nothing changes but the columns of the link of the expense that it writes. -/
theorem expense?_write (ids : ∀ expense ∈ tables.expenses, expense.id < tables.nextExpense)
    (txn : CorporateCardTransaction) (work : LinkWork) {id : Nat} {expense : Expense}
    (stored : tables.expense? id = some expense) :
    ∃ after, (tables.write txn work).expense? id = some after ∧ after.firstMethod = expense.firstMethod ∧
      ((∀ loaded ∈ work.writes, loaded.id ≠ id) → after = expense) := by
  have flushed : ∀ loaded edited : Expense, ∃ after, (tables.flushExpense loaded edited).expense? id = some after ∧
      after.firstMethod = expense.firstMethod ∧ (loaded.id ≠ id → after = expense) := by
    intro loaded edited
    by_cases same : id = loaded.id
    · rw [same] at stored ⊢
      exact ⟨_, expense?_flushExpense_self stored, rfl, fun different => absurd rfl different⟩
    · exact ⟨expense, (expense?_flushExpense_of_ne same).trans stored, rfl, fun _ => rfl⟩
  cases work with
  | link loaded =>
    obtain ⟨after, found, first, frame⟩ := flushed loaded (loaded.linked txn)
    exact ⟨after, found, first, fun others => frame (others loaded rfl)⟩
  | unlink read =>
    cases read with
    | some loaded =>
      obtain ⟨after, found, first, frame⟩ := flushed loaded loaded.unlinked
      exact ⟨after, found, first, fun others => frame (others loaded rfl)⟩
    | none => exact ⟨expense, stored, rfl, fun _ => rfl⟩
  | ignore => exact ⟨expense, stored, rfl, fun _ => rfl⟩
  | create =>
    refine ⟨expense, ?_, rfl, fun _ => rfl⟩
    have fresh : ((expenseOf txn tables.nextExpense).linked txn).id = tables.nextExpense := rfl
    have added := expense?_addExpense ids fresh
    have apart : id ≠ tables.nextExpense := by
      rintro rfl
      rw [expense?_of_fresh ids] at stored
      cases stored
    exact (congrFun added id).trans ((Function.update_of_ne apart _ _).trans stored)

/-- An expense that another request means to unlink is not written in time by this one. -/
theorem writes_of_unlink (inv : LinkInv tables) (held : LinkHeld tables call) (inTime : MatchesInTime tables call ())
    (apart : Apart call other) (kept : LinkHeld tables other) {expense : Expense}
    (unlinks : other.work = .unlink (some expense)) : ∀ loaded ∈ call.work.writes, loaded.id ≠ expense.id := by
  intro loaded writes same
  have theirs := kept.work
  rw [unlinks] at theirs
  obtain ⟨named, stored⟩ := theirs
  have linked : tables.expenseNamed other.txn.id = some expense.id := (expenseNamed_of_txn? kept.txn).trans named
  have mine := held.work
  cases work : call.work with
  | link read =>
    rw [work] at writes
    obtain rfl := Option.some.inj writes
    rw [MatchesInTime, work] at inTime
    have free : expense.cardTransactionId = none := by
      refine inTime expense ?_
      rw [same]
      exact stored
    have back := (inv.paired _ _).mp linked
    rw [txnNamed_of_expense? stored, free] at back
    cases back
  | unlink read =>
    rw [work] at writes mine
    obtain rfl : read = some loaded := writes
    have own : tables.expenseNamed call.txn.id = some loaded.id := (expenseNamed_of_txn? held.txn).trans mine.1
    rw [same] at own
    exact apart (inv.paired.single own linked)
  | ignore =>
    rw [work] at writes
    cases writes
  | create =>
    rw [work] at writes
    cases writes

theorem WorkHeld.write (inv : LinkInv tables) (held : LinkHeld tables call) (inTime : MatchesInTime tables call ())
    (apart : Apart call other) (kept : LinkHeld tables other) :
    WorkHeld (tables.write call.txn call.work) other.txn other.work := by
  have theirs := kept.work
  cases work : other.work with
  | link loaded =>
    rw [work] at theirs
    obtain ⟨unmatched, free, sound, current, stored, same⟩ := theirs
    obtain ⟨after, found, first, _⟩ := expense?_write inv.ids call.txn call.work stored
    exact ⟨unmatched, free, sound, after, found, first.trans same⟩
  | unlink read =>
    rw [work] at theirs
    cases read with
    | some expense =>
      obtain ⟨after, found, _, frame⟩ := expense?_write inv.ids call.txn call.work theirs.2
      rw [frame (writes_of_unlink inv held inTime apart kept work)] at found
      exact ⟨theirs.1, found⟩
    | none => exact theirs
  | ignore =>
    rw [work] at theirs
    exact theirs
  | create =>
    rw [work] at theirs
    exact theirs

theorem locks_write (txn : CorporateCardTransaction) (work : LinkWork) : (tables.write txn work).locks = tables.locks := by
  cases work with
  | link loaded => rfl
  | unlink expense => cases expense <;> rfl
  | ignore => rfl
  | create => rfl

theorem commit_respects (inv : LinkInv tables) (held : LinkHeld tables call) (inTime : MatchesInTime tables call ()) :
    Service.Respects LinkInv LinkHeld Apart tables (some call) (tables.commit call, none) := by
  refine ⟨(inv.write held inTime).unlock _, fun other kept keptApart => ?_, by simp, by simp⟩
  have apart : Apart call other := keptApart call rfl
  have txn : ((tables.write call.txn call.work).unlock call.txn.id).txn? other.txn.id = tables.txn? other.txn.id :=
    txn?_write_of_ne (Ne.symm apart) call.work
  refine kept.frame (fun mem => mem_unlock (Ne.symm apart) ?_) txn (WorkHeld.write inv held inTime apart kept)
  rw [locks_write]
  exact mem

/-- A request that ends without a write. -/
theorem unlock_respects (inv : LinkInv tables) :
    Service.Respects LinkInv LinkHeld Apart tables (some call) (tables.unlock call.txn.id, none) := by
  refine ⟨inv.unlock _, fun other kept keptApart => ?_, by simp, by simp⟩
  have apart : Apart call other := keptApart call rfl
  exact kept.frame (mem_unlock (Ne.symm apart)) rfl kept.work

theorem workHeld_of_prepare (inv : LinkInv tables) {txn : CorporateCardTransaction} {request : LinkRequest} {work : LinkWork}
    (prepares : tables.prepare txn request = .ok work) : WorkHeld tables txn work := by
  cases request with
  | matchExpense expenseId =>
    rw [LinkTables.prepare] at prepares
    split at prepares
    next => cases prepares
    next expense stored =>
      split at prepares
      next => cases prepares
      next open_ =>
        split at prepares
        next => cases prepares
        next free =>
          split at prepares
          next => cases prepares
          next =>
            obtain rfl := Except.ok.inj prepares
            have id : expense.id = expenseId := (getRow_some stored).2
            rw [← id] at stored
            push Not at open_ free
            exact ⟨open_.1, free, inv.sound _ _ stored, expense, stored, rfl⟩
  | unmatch =>
    rw [LinkTables.prepare] at prepares
    split at prepares
    next => cases prepares
    next matched =>
      push Not at matched
      split at prepares
      next none =>
        obtain rfl := Except.ok.inj prepares
        exact ⟨none, matched⟩
      next expenseId named =>
        split at prepares
        next => cases prepares
        next expense stored =>
          obtain rfl := Except.ok.inj prepares
          have id : expense.id = expenseId := (getRow_some stored).2
          rw [← id] at stored named
          exact ⟨named, stored⟩
  | ignore =>
    rw [LinkTables.prepare] at prepares
    split at prepares
    next => cases prepares
    next open_ =>
      obtain rfl := Except.ok.inj prepares
      push Not at open_
      exact open_.2
  | createExpense =>
    rw [LinkTables.prepare] at prepares
    split at prepares
    next => cases prepares
    next open_ =>
      obtain rfl := Except.ok.inj prepares
      push Not at open_
      exact open_.1

theorem arrive_respects (inv : LinkInv tables) (arrival : LinkArrival) :
    Service.Respects LinkInv LinkHeld Apart tables none (tables.arrive arrival) := by
  rw [LinkTables.arrive]
  split
  next => exact .refused inv
  next unlocked =>
    split
    next => exact .refused inv
    next txn present =>
      have id : txn.id = arrival.txnId := (getRow_some present).2
      split
      next work prepares =>
        have relocked : ∀ held, LinkHeld tables held → LinkHeld { tables with locks := arrival.txnId :: tables.locks } held :=
          fun held kept => kept.frame (List.mem_cons_of_mem _) rfl kept.work
        refine ⟨⟨inv.ids, inv.matched, inv.paired, inv.sound⟩, fun held kept _ => relocked held kept, ?_, ?_⟩
        · rintro _ ⟨rfl⟩
          rw [← id] at present
          refine ⟨?_, present, workHeld_of_prepare inv prepares⟩
          rw [id]
          exact List.mem_cons_self
        · rintro _ ⟨rfl⟩ other kept _ same
          refine unlocked ?_
          rw [← id]
          have locked := kept.locked
          rw [← same] at locked
          exact locked
      next => exact .refused inv

end Steps

theorem link_sustains : Service.Sustains linkService (fun _ _ => True) MatchesInTime LinkInv LinkHeld Apart where
  symm _ _ apart := Ne.symm apart
  start tables unlinked := by
    have named : ∀ id, tables.expenseNamed id = none := by
      intro id
      cases found : tables.txn? id with
      | none => rw [LinkTables.expenseNamed, found]; rfl
      | some txn => exact (expenseNamed_of_txn? found).trans (unlinked.txns txn (getRow_some found).1).1
    have back : ∀ id, tables.txnNamed id = none := by
      intro id
      cases found : tables.expense? id with
      | none => rw [LinkTables.txnNamed, found]; rfl
      | some expense => exact (txnNamed_of_expense? found).trans (unlinked.expenses expense (getRow_some found).1).1
    refine ⟨fun expense mem => (unlinked.expenses expense mem).2.2.2, ?_, ?_, ?_⟩
    · intro id txn found
      obtain ⟨unmatched, status⟩ := unlinked.txns txn (getRow_some found).1
      rw [unmatched]
      exact ⟨fun matched => absurd matched status, by simp⟩
    · intro txnId expenseId
      rw [named, back]
      simp
    · intro id expense found
      obtain ⟨free, unsaved, first, _⟩ := unlinked.expenses expense (getRow_some found).1
      rw [Expense.Sound, free]
      exact ⟨unsaved, first.symm⟩
  arrive _ arrival inv _ := arrive_respects inv arrival
  advance _ _ _ inv held inTime := commit_respects inv held inTime
  abort _ _ inv _ := unlock_respects inv

/-- The parts of a run that are in time. -/
abbrev InTime : Served LinkTables LinkCall → Part LinkArrival Unit → Prop :=
  Service.Guarded (fun _ _ => True) MatchesInTime

abbrev LinkKeeps : Served LinkTables LinkCall → Prop := Service.Keeps LinkInv LinkHeld Apart

/-- A match that comes too late leaves the expense named by two transactions. -/
theorem late_of_linkedOneToOne {tables : LinkTables} {call : LinkCall} (inv : LinkInv tables) (held : LinkHeld tables call)
    (linked : LinkedOneToOne (tables.commit call)) : MatchesInTime tables call () := by
  obtain ⟨txn, work⟩ := call
  cases work with
  | link loaded =>
    intro expense stored
    obtain ⟨_, present, unmatched, _⟩ := held
    cases taken : expense.cardTransactionId with
    | none => rfl
    | some taker =>
      have back : tables.txnNamed loaded.id = some taker := (txnNamed_of_expense? stored).trans taken
      have names := (inv.paired taker loaded.id).mpr back
      have written : (tables.commit ⟨txn, .link loaded⟩).expenseNamed =
          Function.update tables.expenseNamed txn.id (some loaded.id) := by
        have kept : (tables.flushExpense loaded (loaded.linked txn)).txn? txn.id = some txn := present
        exact expenseNamed_setTxn kept (some loaded.id) .matched
      have different : taker ≠ txn.id := by
        rintro rfl
        rw [expenseNamed_of_txn? present, unmatched] at names
        cases names
      refine absurd (linked.single taker txn.id loaded.id ?_ ?_) different
      · rw [written, Function.update_of_ne different, names]
      · rw [written, Function.update_self]
  | unlink expense => trivial
  | ignore => trivial
  | create => trivial

theorem linked_step_iff {state : Served LinkTables LinkCall} (keeps : LinkKeeps state) (part : Part LinkArrival Unit) :
    LinkedOneToOne (linkService.machine.step state part).tables ↔ InTime state part := by
  have onward : InTime state part → LinkedOneToOne (linkService.machine.step state part).tables :=
    fun inTime => (link_sustains.step keeps inTime).tables.linkedOneToOne
  refine ⟨fun linked => ?_, onward⟩
  cases part with
  | arrive number arrival => trivial
  | advance number input =>
    intro call found
    have after : (linkService.machine.step state (.advance number input)).tables = state.tables.commit call := by
      show (linkService.step state (.advance number input)).tables = _
      rw [Service.step, Option.mem_def.mp found]
      rfl
    rw [after] at linked
    exact late_of_linkedOneToOne keeps.tables (keeps.held number call found) linked
  | die number => trivial

/-- The tables after some parts of a run. -/
abbrev after (first : Served LinkTables LinkCall) (parts : List (Part LinkArrival Unit)) : LinkTables :=
  (linkService.machine.exec first parts).tables

/-- Transactions and expenses are linked one to one throughout a run exactly when its matches are in time. -/
theorem linked_one_to_one_iff {first : Served LinkTables LinkCall} (begins : linkService.machine.init first)
    (parts : List (Part LinkArrival Unit)) :
    (∀ before later, parts = before ++ later → LinkedOneToOne (after first before)) ↔
      linkService.machine.Permits InTime first parts :=
  Machine.throughout_iff_permits (P := fun state : Served LinkTables LinkCall => LinkedOneToOne state.tables)
    (fun _ keeps => keeps.tables.linkedOneToOne) (fun _ _ keeps allowed => link_sustains.step keeps allowed)
    (fun _ part keeps => linked_step_iff keeps part) (link_sustains.init begins)

def lunchDay : CalendarDate := ⟨2027, 4, 17, by decide, by decide, by decide⟩

def lunchCharge (id : Nat) : CorporateCardTransaction :=
  ⟨id, none, lunchDay, some "Café", 40, "EUR", none, .unmatched⟩

def lunch (id : Nat) : Expense :=
  ⟨id, lunchDay, some "Café", 40, "eur", .outOfPocket, none, none, .outOfPocket⟩

/-- Two charges and an expense that may belong to either. -/
def twoCharges : LinkTables := ⟨[lunchCharge 0, lunchCharge 1], [lunch 0], [], 1⟩

theorem unlinked_twoCharges : Unlinked twoCharges where
  txns := by decide
  expenses := by decide
  locks := rfl

/-- The expense is matched to the first charge, unmatched again and matched to the second, and a new expense is made of
the first. -/
def rematched : List (Part LinkArrival Unit) :=
  [.arrive 0 ⟨0, .matchExpense 0⟩, .arrive 1 ⟨0, .unmatch⟩, .advance 0 (), .arrive 1 ⟨0, .unmatch⟩, .advance 1 (),
    .arrive 0 ⟨1, .matchExpense 0⟩, .arrive 1 ⟨0, .createExpense⟩, .advance 1 (), .advance 0 ()]

theorem linked_one_to_one_rematched :
    (after (Service.begun twoCharges) rematched).txns.map (·.matchedExpenseId) = [some 1, some 0] ∧
      ∀ before later, rematched = before ++ later → LinkedOneToOne (after (Service.begun twoCharges) before) := by
  have begins : linkService.machine.init (Service.begun twoCharges) := Service.init_begun unlinked_twoCharges
  have inTime : linkService.machine.Permits (Service.Guarded (fun _ _ => True) MatchesInTime) (Service.begun twoCharges)
      rematched := by decide
  exact ⟨by decide, (linked_one_to_one_iff begins rematched).mpr inTime⟩

/-- Both charges are matched to the expense at the same time. -/
def matchedTwice : List (Part LinkArrival Unit) :=
  [.arrive 0 ⟨0, .matchExpense 0⟩, .arrive 1 ⟨1, .matchExpense 0⟩, .advance 0 (), .advance 1 ()]

theorem expense_matched_twice : ¬∀ first parts, linkService.machine.init first →
    ∀ before later, parts = before ++ later → LinkedOneToOne (after first before) := by
  intro always
  have linked := always (Service.begun twoCharges) matchedTwice (Service.init_begun unlinked_twoCharges) matchedTwice []
    (List.append_nil _).symm
  have first : (after (Service.begun twoCharges) matchedTwice).expenseNamed 0 = some 0 := by decide
  have second : (after (Service.begun twoCharges) matchedTwice).expenseNamed 1 = some 0 := by decide
  exact absurd (linked.single 0 1 0 first second) (by decide)

end Payables.CardExpenses
