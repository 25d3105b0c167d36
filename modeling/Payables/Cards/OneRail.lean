import Payables.Cards.Model
import Payables.Payments.SoundAmounts

namespace Payables
open Lib Relation

/-- The requests of a payment run and the standalone booking; the dispatches have a label of their own. -/
def PaymentLabel.booksOrRuns : PaymentLabel → Bool
  | .createRun .. | .createPayment .. | .approveRun .. | .cancelRun .. | .executeRun .. | .resumeRun .. | .retryFailed .. => true
  | .readPending .. | .finishPass .. | .crash .. => true
  | _ => false

/-- A section of one of the two rails. -/
def CardLabel.onRails : CardLabel → Bool
  | .payments label => label.booksOrRuns
  | _ => true

/-- The processor has, or had, the money order of this payment. -/
def Payment.onAnotherRail (payment : Payment) : Prop :=
  payment.status ∈ [PaymentStatus.submitted, .processing, .completed] ∧ payment.method ≠ some "virtual_card"

instance (payment : Payment) : Decidable payment.onAnotherRail := inferInstanceAs (Decidable (_ ∧ _))

/-- One rail claims an invoice, for at most its net amount. -/
structure OneRail (store : CardStore) : Prop where
  rail : ∀ card ∈ store.cards, card.isLive = true → ∀ payment ∈ store.base.payments, payment.invoiceId = card.invoiceId →
    card.paymentId ≠ some payment.id → ¬payment.onAnotherRail
  net : ∀ mint ∈ store.mints, mint.amountLimit ≤ mint.net

instance (store : CardStore) : Decidable (OneRail store) :=
  decidable_of_iff
    ((∀ card ∈ store.cards, card.isLive = true → ∀ payment ∈ store.base.payments, payment.invoiceId = card.invoiceId →
        card.paymentId ≠ some payment.id → ¬payment.onAnotherRail) ∧ ∀ mint ∈ store.mints, mint.amountLimit ≤ mint.net)
    ⟨fun apart => ⟨apart.1, apart.2⟩, fun apart => ⟨apart.rail, apart.net⟩⟩

/-- The invoice that a request is about to mint a card for. -/
def GenerateRequest.nextToMint (request : GenerateRequest) : Option PayableInvoice :=
  request.carded.bind fun carded => request.invoices.head?.filter fun invoice => !carded.contains invoice.id

/-- The payment a pass sends next is on the card rail itself, if its method only reads so once trimmed and
in lower case, or no card of its invoice is live. -/
def SendsOwnRail (store : CardStore) (pass : Nat) : Prop :=
  ∀ payment ∈ store.base.nextPayment? pass, convergesOnCard payment.method = true →
    payment.method = some "virtual_card" ∨ findLiveCard store.cards payment.invoiceId = none
  deriving Decidable

/-- No credit stands against the invoice that a request mints for. -/
def MintsUncredited (store : CardStore) (index : Nat) : Prop :=
  ∀ request ∈ store.requests[index]?, ∀ invoice ∈ request.nextToMint, ∀ row ∈ store.base.invoices, row.id = invoice.id →
    row.appliedCredit = 0
  deriving Decidable

/-- No payment of an invoice that a request commits a card for is with a processor. -/
def CommitsUnpaid (store : CardStore) (index : Nat) : Prop :=
  ∀ request ∈ store.requests[index]?, ∀ card ∈ request.flushed, ∀ payment ∈ store.base.payments,
    payment.invoiceId = card.invoiceId → ¬payment.onAnotherRail
  deriving Decidable

/-- The steps on which one rail happens to respect what it does not check of the other. -/
def ChecksOtherRail (store : CardStore) : CardLabel → Prop
  | .dispatchNext pass _ _ => SendsOwnRail store pass
  | .issueNext index _ => MintsUncredited store index
  | .commitGenerate index => CommitsUnpaid store index
  | _ => True

instance (store : CardStore) : (label : CardLabel) → Decidable (ChecksOtherRail store label)
  | .dispatchNext pass _ _ => inferInstanceAs (Decidable (SendsOwnRail store pass))
  | .issueNext index _ => inferInstanceAs (Decidable (MintsUncredited store index))
  | .commitGenerate index => inferInstanceAs (Decidable (CommitsUnpaid store index))
  | .payments _ | .readInvoices _ | .readCarded _ | .flushCard _ | .crashGenerate _ | .applyCredit .. | .cancelCard _ =>
    inferInstanceAs (Decidable True)

theorem findLiveCard_eq_none {cards : List VirtualCardRow} {invoiceId : InvoiceId} (vacant : findLiveCard cards invoiceId = none)
    {card : VirtualCardRow} (member : card ∈ cards) (live : card.isLive = true) : card.invoiceId ≠ invoiceId := by
  intro same
  have absent := List.find?_eq_none.mp vacant card member
  exact absent (by rw [same, live, beq_self_eq_true, Bool.and_self])

section
variable {store : PaymentStore} {payment : Payment} {env : DispatchEnv} {invoice : PayableInvoice} {send : DispatchResult}

/-- A dispatch refuses at once, or the card gate is open and the amount is the net one. -/
theorem executeSinglePayment_gates (invoice : Option PayableInvoice) (exceptions : List InvoiceException) (payment : Payment)
    (env : DispatchEnv) :
    (∃ reason, executeSinglePayment invoice exceptions payment env = .quiet (payment.fail env.now reason)) ∨
      ∃ row, invoice = some row ∧ cardClaims row payment.method = false ∧ row.netPayableAmount = payment.amount ∧
        executeSinglePayment invoice exceptions payment env =
          if payment.method = some "virtual_card" then screen payment env (sendCard row payment env)
          else sendByRail row payment env := by
  cases invoice with
  | none => exact .inl ⟨_, rfl⟩
  | some row =>
    simp only [executeSinglePayment]
    split
    · exact .inl ⟨_, rfl⟩
    split
    · exact .inl ⟨_, rfl⟩
    split
    · exact .inl ⟨_, rfl⟩
    next unclaimed =>
    split
    · exact .inl ⟨_, rfl⟩
    next priced => exact .inr ⟨row, rfl, Bool.not_eq_true _ ▸ unclaimed, not_not.mp priced, rfl⟩

theorem screen_method (same : send.payment.method = payment.method) : (screen payment env send).payment.method = payment.method := by
  unfold screen
  split
  · rfl
  split
  · rfl
  · rfl
  · rfl
  · exact same

theorem sendCard_method : (sendCard invoice payment env).payment.method = payment.method := by
  unfold sendCard
  split <;> rfl

theorem screen_called {rail : Rail} (called : (screen payment env send).called = some rail) : send.called = some rail := by
  unfold screen at called
  split at called
  · cases called
  split at called
  · cases called
  · cases called
  · cases called
  · exact called

theorem sendToAdapter_called {rail : Rail} (called : (sendToAdapter invoice payment env).called = some rail) :
    rail = .createPayment := by
  unfold sendToAdapter at called
  split at called
  · exact (Option.some.inj called).symm
  simp only at called
  split at called <;> exact (Option.some.inj called).symm

theorem sendByRail_called {rail : Rail} (called : (sendByRail invoice payment env).called = some rail) :
    rail = .createPayment := by
  unfold sendByRail at called
  split at called
  · cases called
  · exact sendToAdapter_called (screen_called called)
  · cases called
  · cases called
  · exact sendToAdapter_called (screen_called called)
  · exact sendToAdapter_called (screen_called called)

/-- A row that a dispatch leaves with the processor was sent past the card gate. -/
theorem attempt_onAnotherRail (sent : (attempt store payment env).payment.onAnotherRail) :
    payment.method ≠ some "virtual_card" ∧
      ∃ invoice, store.invoice? payment.invoiceId = some invoice ∧ cardClaims invoice payment.method = false := by
  obtain ⟨engaged, other⟩ := sent
  have failed (row : Payment) (now : Time) (reason : String) :
      (row.fail now reason).status ∉ [PaymentStatus.submitted, .processing, .completed] := by
    simp [Payment.fail]
  simp only [attempt, attemptPayment] at engaged other
  split at engaged
  · next quiet =>
    rw [quiet] at other
    rcases executeSinglePayment_gates (store.invoice? payment.invoiceId) store.exceptions payment env with
      ⟨reason, refused⟩ | ⟨invoice, found, unclaimed, _, sends⟩
    · rw [refused] at engaged
      exact absurd engaged (failed payment _ _)
    · refine ⟨fun card => ?_, invoice, found, unclaimed⟩
      rw [sends, if_pos card] at other
      exact other ((screen_method sendCard_method).trans card)
  · exact absurd engaged (failed _ _ _)

/-- Who asks for a card pays the net amount of an invoice by card. -/
theorem attempt_issueCard (asks : (attempt store payment env).called = some .issueCard) :
    payment.method = some "virtual_card" ∧
      ∃ invoice, store.invoice? payment.invoiceId = some invoice ∧ invoice.netPayableAmount = payment.amount := by
  have executed : (executeSinglePayment (store.invoice? payment.invoiceId) store.exceptions payment env).called =
      some .issueCard := by
    simp only [attempt, attemptPayment] at asks
    split at asks <;> exact asks
  rcases executeSinglePayment_gates (store.invoice? payment.invoiceId) store.exceptions payment env with
    ⟨reason, refused⟩ | ⟨invoice, found, _, priced, sends⟩
  · rw [refused] at executed
    cases executed
  · rw [sends] at executed
    split at executed
    · next card => exact ⟨card, invoice, found, priced⟩
    · cases sendByRail_called executed

theorem waitingPayment_mem {index : Nat} (next : (store.nextPayment? index).filter (·.status == .pending) = some payment) :
    payment ∈ store.payments ∧ payment.status = .pending := by
  obtain ⟨next, pending⟩ := Option.filter_eq_some_iff.mp next
  obtain ⟨id, _, found⟩ := Option.bind_eq_some_iff.mp next
  exact ⟨(payment?_some found).1, beq_iff_eq.mp pending⟩

/-- The dispatch of a pending payment rewrites its row. -/
theorem dispatchNextPayment_waiting {index : Nat} (next : (store.nextPayment? index).filter (·.status == .pending) = some payment) :
    (dispatchNextPayment store index env).1.payments = (store.putPayment (attempt store payment env).payment).payments := by
  obtain ⟨next, pending⟩ := Option.filter_eq_some_iff.mp next
  obtain ⟨id, queued, found⟩ := Option.bind_eq_some_iff.mp next
  obtain ⟨queue, reads, head⟩ := Option.bind_eq_some_iff.mp queued
  obtain ⟨pass, current, queue'⟩ := Option.bind_eq_some_iff.mp reads
  obtain ⟨rest, rfl⟩ := List.head?_eq_some_iff.mp head
  have same := beq_iff_eq.mp pending
  simp only [dispatchNextPayment, current, queue', found, same, ne_eq, not_true_eq_false, if_false]
  exact commitDispatch_payments _

/-- Otherwise the pass moves on, and no row changes. -/
theorem dispatchNextPayment_idle {index : Nat} (idle : (store.nextPayment? index).filter (·.status == .pending) = none) :
    (dispatchNextPayment store index env).1.payments = store.payments := by
  unfold dispatchNextPayment
  split
  · rfl
  next pass current =>
  split
  · rfl
  · rfl
  next id rest queue =>
  split
  · rfl
  next payment found =>
  split
  · rfl
  · next waiting =>
    have next : store.nextPayment? index = some payment := by
      simp only [PaymentStore.nextPayment?, current, queue, found, Option.bind_some, List.head?_cons]
    refine absurd ?_ (Option.filter_eq_none_iff.mp idle payment next)
    exact not_not.mp waiting ▸ beq_self_eq_true _

/-- What the invoices are priced at. -/
def PaymentStore.priced (store : PaymentStore) : List (InvoiceId × ℚ) :=
  store.invoices.map fun invoice => (invoice.id, invoice.amount)

/-- A write that leaves the amount leaves every price. -/
theorem priced_putRow {invoices : List PayableInvoice} (keys : (invoices.map PayableInvoice.id).Nodup) (member : invoice ∈ invoices)
    (written : PayableInvoice) (sameId : written.id = invoice.id) (sameAmount : written.amount = invoice.amount) :
    (putRow PayableInvoice.id written invoices).map (fun row => (row.id, row.amount)) =
      invoices.map fun row => (row.id, row.amount) := by
  rw [putRow, List.map_map]
  refine List.map_congr_left fun other here => ?_
  simp only [Function.comp_apply]
  split
  · next same =>
    have one : other = invoice := List.inj_on_of_nodup_map keys here member (same.trans sameId)
    rw [one, sameId, sameAmount]
  · rfl

theorem dispatchNextPayment_priced (keys : (store.invoices.map PayableInvoice.id).Nodup) (index : Nat) :
    (dispatchNextPayment store index env).1.priced = store.priced := by
  unfold dispatchNextPayment
  split
  · rfl
  split
  · rfl
  · rfl
  split
  · rfl
  next payment _ =>
  split
  · rfl
  simp only [setPass, commitDispatch, PaymentStore.priced]
  split
  · next found => exact priced_putRow keys (getRow_some found).1 _ rfl rfl
  · rfl

end

section
variable {config : PaymentConfig} {store after : PaymentStore}

theorem createPaymentRun_invoices {user : UserId} {items : List (InvoiceId × String)} {requiresCfo : Bool}
    (accepted : createPaymentRun store user items requiresCfo = .ok after) : after.invoices = store.invoices := by
  simp only [createPaymentRun] at accepted
  repeat' split at accepted
  all_goals cases accepted
  next booked =>
  obtain ⟨added, grown, _⟩ := bookRunPayments_extends booked
  have same := congrArg PaymentStore.invoices grown.same
  exact same

theorem createPayment_invoices {invoice : InvoiceId} {method reference : Option String} {amount : Option ℚ}
    {requiresCfo hasCfo : Bool} (accepted : createPayment store invoice method reference amount requiresCfo hasCfo = .ok after) :
    after.invoices = store.invoices := by
  unfold createPayment at accepted
  repeat' split at accepted
  all_goals cases accepted
  · rfl
  · next inserted =>
    have same := congrArg PaymentStore.invoices (insertPayment_extends inserted).same
    exact same

theorem approvePaymentRun_invoices {user : UserId} {run : RunId} {now : Time}
    (accepted : approvePaymentRun config store user run now = .ok after) : after.invoices = store.invoices := by
  unfold approvePaymentRun at accepted
  repeat' split at accepted
  all_goals cases accepted
  rfl

theorem cancelPaymentRun_invoices {run : RunId} (accepted : cancelPaymentRun store run = .ok after) :
    after.invoices = store.invoices := by
  unfold cancelPaymentRun at accepted
  repeat' split at accepted
  all_goals cases accepted
  rfl

theorem executePaymentRun_invoices {user : UserId} {run : RunId} {provider : Option String}
    (accepted : executePaymentRun config store user run provider = .ok after) : after.invoices = store.invoices := by
  unfold executePaymentRun at accepted
  repeat' split at accepted
  all_goals cases accepted
  rfl

theorem resumePaymentRun_invoices {user : UserId} {run : RunId} {provider : Option String}
    (accepted : resumePaymentRun config store user run provider = .ok after) : after.invoices = store.invoices := by
  unfold resumePaymentRun at accepted
  repeat' split at accepted
  all_goals cases accepted
  rfl

theorem retries_invoices {before : PaymentStore} {run : RunId} (candidates : List Payment) (acc : PaymentStore × List String) :
    (candidates.foldl (retryPayment before run) acc).1.invoices = acc.1.invoices := by
  induction candidates generalizing acc with
  | nil => rfl
  | cons payment rest ih =>
    rw [List.foldl_cons, ih]
    rcases retryPayment_cases before run acc payment with unchanged | ⟨amount, inserted⟩
    · rw [unchanged]
    · rw [(insertPayment_extends inserted).same]

theorem retryFailedPayments_invoices {user : UserId} {run : RunId} {provider : Option String}
    (accepted : retryFailedPayments config store user run provider = .ok after) : after.invoices = store.invoices := by
  simp only [retryFailedPayments] at accepted
  repeat' split at accepted
  all_goals cases accepted
  exact retries_invoices _ (store, [])

theorem orUnchanged_invoices {result : Except Raised PaymentStore}
    (kept : ∀ after, result = .ok after → after.invoices = store.invoices) :
    (orUnchanged store result).1.invoices = store.invoices := by
  cases result with
  | ok after => exact kept after rfl
  | error => rfl

/-- Booking and running payments writes no invoice; only their dispatch does. -/
theorem runPaymentLabel_invoices {label : PaymentLabel} (books : label.booksOrRuns = true) :
    (runPaymentLabel config store label).1.invoices = store.invoices := by
  cases label with
  | createRun => exact orUnchanged_invoices fun _ accepted => createPaymentRun_invoices accepted
  | createPayment => exact orUnchanged_invoices fun _ accepted => createPayment_invoices accepted
  | approveRun => exact orUnchanged_invoices fun _ accepted => approvePaymentRun_invoices accepted
  | cancelRun => exact orUnchanged_invoices fun _ accepted => cancelPaymentRun_invoices accepted
  | executeRun => exact orUnchanged_invoices fun _ accepted => executePaymentRun_invoices accepted
  | resumeRun => exact orUnchanged_invoices fun _ accepted => resumePaymentRun_invoices accepted
  | retryFailed => exact orUnchanged_invoices fun _ accepted => retryFailedPayments_invoices accepted
  | readPending index =>
    simp only [runPaymentLabel, readPendingPayments]
    repeat' split
    all_goals rfl
  | finishPass index now =>
    simp only [runPaymentLabel, finishDispatchPass]
    repeat' split
    all_goals rfl
  | crash => rfl
  | _ => cases books

/-- Every row after a booking section is an old one or pending. -/
theorem runPaymentLabel_rows (ledger : Ledger store) {label : PaymentLabel} (books : label.booksOrRuns = true) :
    ∀ payment ∈ (runPaymentLabel config store label).1.payments, payment ∈ store.payments ∨ payment.status = .pending := by
  have changes : Changes config store label (runPaymentLabel config store label).1 := runPaymentLabel_changes ledger label
  obtain ⟨middle, settled, bookings⟩ := changes
  have kept := (bookings_kept bookings).payments
  cases settled with
  | untouched => exact kept
  | rewritten _ outcome => cases outcome <;> cases books

end

/-- What holds of both rails together in every state. -/
structure RailInv (store : CardStore) : Prop where
  ledger : Ledger store.base
  sound : store.base.Sound
  keys : (store.base.priced.map (·.1)).Nodup
  rail : ∀ card ∈ store.cards, card.isLive = true → ∀ payment ∈ store.base.payments, payment.invoiceId = card.invoiceId →
    ¬payment.onAnotherRail
  net : ∀ mint ∈ store.mints, mint.amountLimit ≤ mint.net
  snapshots : ∀ request ∈ store.requests, ∀ invoice ∈ request.invoices, (invoice.id, invoice.amount) ∈ store.base.priced

namespace RailInv

variable {config : PaymentConfig} {store : CardStore}

theorem oneRail (inv : RailInv store) : OneRail store where
  rail := fun card member live payment inTable same _ => inv.rail card member live payment inTable same
  net := inv.net

theorem payable_priced (store : CardStore) : store.payable.priced = store.base.priced := by
  simp only [PaymentStore.priced, CardStore.payable, List.map_map]
  rfl

theorem payable_ledger (inv : RailInv store) : Ledger store.payable where
  rows := inv.ledger.rows
  runIds := inv.ledger.runIds
  runIssued := inv.ledger.runIssued
  owned := inv.ledger.owned
  covered := inv.ledger.covered
  claimed := inv.ledger.claimed
  queued := inv.ledger.queued

theorem payable_sound (inv : RailInv store) : store.payable.Sound where
  amounts := inv.sound.amounts
  credits := by
    intro invoice member
    obtain ⟨row, inTable, rfl⟩ := List.mem_map.mp member
    exact inv.sound.credits row inTable

theorem payable_keys (inv : RailInv store) : (store.payable.invoices.map PayableInvoice.id).Nodup := by
  have keys := inv.keys
  rw [← payable_priced, PaymentStore.priced, List.map_map] at keys
  exact keys

/-- The payment endpoints see a live card exactly when there is one. -/
theorem payable_hasLiveCard {id : InvoiceId} {invoice : PayableInvoice} (found : store.payable.invoice? id = some invoice) :
    invoice.id = id ∧ invoice.hasLiveCard = (findLiveCard store.cards id).isSome := by
  obtain ⟨member, rfl⟩ := getRow_some found
  obtain ⟨row, _, rfl⟩ := List.mem_map.mp member
  exact ⟨rfl, rfl⟩

/-- Payment sections that leave the prices, and no order on another rail where a card is live. -/
theorem withPayments (inv : RailInv store) {after : PaymentStore} (ledger : Ledger after) (sound : after.Sound)
    (priced : after.priced = store.base.priced)
    (rail : ∀ payment ∈ after.payments, payment.onAnotherRail → payment ∈ store.base.payments ∨
      findLiveCard store.cards payment.invoiceId = none) : RailInv (store.withPayments after) where
  ledger := ledger
  sound := sound
  keys := by
    rw [CardStore.withPayments, priced]
    exact inv.keys
  rail := by
    intro card member live payment inTable same engaged
    rcases rail payment inTable engaged with old | vacant
    · exact inv.rail card member live payment old same engaged
    · exact findLiveCard_eq_none vacant member live same.symm
  net := inv.net
  snapshots := by
    rw [CardStore.withPayments, priced]
    exact inv.snapshots

theorem books (inv : RailInv store) {label : PaymentLabel} (books : label.booksOrRuns = true) :
    RailInv (store.withPayments (runPaymentLabel config store.payable label).1) := by
  have ledger := inv.payable_ledger
  have credited : label.Credited := by cases label <;> trivial
  refine inv.withPayments ?_ (inv.payable_sound.runPaymentLabel credited) ?_ fun payment member engaged => .inl ?_
  · have changes : Changes config store.payable label (runPaymentLabel config store.payable label).1 :=
      runPaymentLabel_changes ledger label
    exact changes.ledger ledger
  · rw [PaymentStore.priced, runPaymentLabel_invoices books]
    exact payable_priced store
  · refine (runPaymentLabel_rows ledger books payment member).resolve_right fun pending => ?_
    have moving := engaged.1
    rw [pending] at moving
    exact absurd moving (by decide)

/-- The tables after the dispatch of one payment, whatever the card leg is told. -/
theorem dispatched (inv : RailInv store) (pass : Nat) (env : DispatchEnv) :
    Ledger (dispatchNextPayment store.payable pass env).1 ∧ (dispatchNextPayment store.payable pass env).1.Sound ∧
      (dispatchNextPayment store.payable pass env).1.priced = store.base.priced ∧
      ∀ row ∈ (dispatchNextPayment store.payable pass env).1.payments, row ∈ store.base.payments ∨
        ∃ payment, (store.payable.nextPayment? pass).filter (·.status == .pending) = some payment ∧
          row = (attempt store.payable payment env).payment := by
  have changes : Changes ⟨none, 0⟩ store.payable (.dispatchNext pass env) (dispatchNextPayment store.payable pass env).1 :=
    dispatchNextPayment_changes pass env
  refine ⟨changes.ledger inv.payable_ledger, inv.payable_sound.dispatchNextPayment pass env, ?_, fun row member => ?_⟩
  · rw [dispatchNextPayment_priced inv.payable_keys]
    exact payable_priced store
  · cases waiting : (store.payable.nextPayment? pass).filter (·.status == .pending) with
    | none =>
      rw [dispatchNextPayment_idle waiting] at member
      exact .inl member
    | some payment =>
      rw [dispatchNextPayment_waiting waiting] at member
      exact (mem_putRow member).symm.imp (·.1) fun new => ⟨payment, rfl, new⟩

theorem sends (inv : RailInv store) {pass : Nat} {env : DispatchEnv}
    (rail : ∀ payment, (store.payable.nextPayment? pass).filter (·.status == .pending) = some payment →
      (attempt store.payable payment env).payment.onAnotherRail → findLiveCard store.cards payment.invoiceId = none) :
    RailInv (store.withPayments (dispatchNextPayment store.payable pass env).1) := by
  obtain ⟨ledger, sound, priced, rows⟩ := inv.dispatched pass env
  refine inv.withPayments ledger sound priced fun row member engaged => (rows row member).imp_right ?_
  rintro ⟨payment, waiting, rfl⟩
  have sameOrder : payment.SameOrder (attempt store.payable payment env).payment := attemptPayment_sameOrder _ _ _ _
  rw [sameOrder.invoiceId]
  exact rail payment waiting engaged

/-- Sent past the card gate, the invoice of a payment has no live card. -/
theorem vacant_of_sent {payment : Payment} {env : DispatchEnv}
    (checked : convergesOnCard payment.method = true →
      payment.method = some "virtual_card" ∨ findLiveCard store.cards payment.invoiceId = none)
    (sent : (attempt store.payable payment env).payment.onAnotherRail) : findLiveCard store.cards payment.invoiceId = none := by
  obtain ⟨other, invoice, found, unclaimed⟩ := attempt_onAnotherRail sent
  simp only [cardClaims, Bool.and_eq_false_iff, Bool.not_eq_false'] at unclaimed
  rcases unclaimed with converges | vacant
  · exact (checked converges).resolve_left other
  · rw [(payable_hasLiveCard found).2] at vacant
    exact Option.not_isSome_iff_eq_none.mp (by rw [vacant]; exact Bool.false_ne_true)

/-- A card put in the place of one for the same invoice, live only if that one was. -/
theorem putCard (inv : RailInv store) {card written : VirtualCardRow} (member : card ∈ store.cards)
    (invoice : written.invoiceId = card.invoiceId) (live : written.isLive = true → card.isLive = true) :
    RailInv { store with cards := putRow VirtualCardRow.id written store.cards } where
  ledger := inv.ledger
  sound := inv.sound
  keys := inv.keys
  rail := by
    intro row here alive payment inTable same
    rcases mem_putRow here with rfl | ⟨old, _⟩
    · exact inv.rail card member (live alive) payment inTable (same.trans invoice)
    · exact inv.rail row old alive payment inTable same
  net := inv.net
  snapshots := inv.snapshots

theorem findLiveCard_some {cards : List VirtualCardRow} {id : InvoiceId} {card : VirtualCardRow}
    (found : findLiveCard cards id = some card) : card ∈ cards ∧ card.invoiceId = id ∧ card.isLive = true := by
  have matched := List.find?_some found
  obtain ⟨same, live⟩ := Bool.and_eq_true_iff.mp matched
  exact ⟨List.mem_of_find?_eq_some found, beq_iff_eq.mp same, live⟩

theorem settleOn (inv : RailInv store) {payment : Payment} {invoice : PayableInvoice} (member : payment ∈ store.base.payments)
    (waiting : payment.status = .pending) (own : invoice.id = payment.invoiceId) (priced : invoice.netPayableAmount = payment.amount)
    (now : Time) (issue : Except String CardIssue) :
    RailInv (store.settleOn payment invoice (store.chooseCard payment invoice now issue)) := by
  unfold CardStore.chooseCard
  split
  · next card found =>
    obtain ⟨inCards, _, _⟩ := findLiveCard_some found
    cases cardSettlementBlock card payment.amount now with
    | none => exact inv.putCard inCards rfl id
    | some reason => exact inv
  split
  · exact inv
  · next made =>
    have positive := inv.sound.amounts payment member
    refine ⟨inv.ledger, inv.sound, inv.keys, fun card here live other inTable same engaged => ?_, fun mint here => ?_,
      inv.snapshots⟩
    · rcases List.mem_append.mp here with old | new
      · exact inv.rail card old live other inTable same engaged
      · rw [List.mem_singleton.mp new] at same
        have alive : other.status.isLive = true := by
          have moving := engaged.1
          simp only [List.mem_cons, List.not_mem_nil, or_false] at moving
          rcases moving with status | status | status <;> rw [status] <;> rfl
        have one := inv.ledger.rows.oneLive other inTable payment member (same.trans own) alive (by rw [waiting]; rfl)
        have moving := engaged.1
        rw [one, waiting] at moving
        exact absurd moving (by decide)
    · rcases List.mem_cons.mp here with rfl | old
      · simp only [newCard, Option.getD_some, if_neg (ne_of_gt positive), priced]
        exact le_refl _
      · exact inv.net mint old

theorem settleOn_base (store : CardStore) (payment : Payment) (invoice : PayableInvoice) (choice : CardChoice) :
    (store.settleOn payment invoice choice).base = store.base := by
  cases choice with
  | live card block => cases block <;> rfl
  | _ => rfl

/-- A dispatch on the card leg, with what it leaves in the card table. -/
theorem sendsByCard (inv : RailInv store) {pass : Nat} (env : DispatchEnv) {payment : Payment} {invoice : PayableInvoice}
    (waiting : (store.payable.nextPayment? pass).filter (·.status == .pending) = some payment)
    (byCard : payment.method = some "virtual_card") {choice : CardChoice} (settled : RailInv (store.settleOn payment invoice choice)) :
    RailInv ((store.settleOn payment invoice choice).withPayments (dispatchNextPayment store.payable pass env).1) := by
  obtain ⟨ledger, sound, priced, rows⟩ := inv.dispatched pass env
  rw [← settleOn_base store payment invoice choice] at priced rows
  refine settled.withPayments ledger sound priced fun row member engaged => (rows row member).imp_right ?_
  rintro ⟨other, also, rfl⟩
  cases Option.some.inj (waiting.symm.trans also)
  exact absurd byCard (attempt_onAnotherRail engaged).1

theorem dispatchNext (inv : RailInv store) {pass : Nat} {env : DispatchEnv} {issue : Except String CardIssue}
    (checked : ChecksOtherRail store (.dispatchNext pass env issue)) : RailInv (store.dispatchNext pass env issue) := by
  have vacant (payment : Payment) (waiting : (store.payable.nextPayment? pass).filter (·.status == .pending) = some payment)
      (sent : (attempt store.payable payment env).payment.onAnotherRail) :
      findLiveCard store.cards payment.invoiceId = none :=
    vacant_of_sent (checked payment (Option.filter_eq_some_iff.mp waiting).1) sent
  unfold CardStore.dispatchNext
  split
  · exact inv.sends vacant
  next payment waiting =>
  split
  · next invoice found asks =>
    obtain ⟨member, pending⟩ := waitingPayment_mem waiting
    obtain ⟨byCard, other, also, priced⟩ := attempt_issueCard (beq_iff_eq.mp asks)
    cases Option.some.inj (found.symm.trans also)
    have settled := inv.settleOn member pending (payable_hasLiveCard found).1 priced env.now issue
    have sent := inv.sendsByCard { env with card := .ok (store.chooseCard payment invoice env.now issue).leg } waiting byCard
      settled
    simp only
    split
    · split
      · exact inv
      · exact sent
    · exact sent
  · exact inv.sends vacant

theorem withRequests (inv : RailInv store) {requests : List GenerateRequest}
    (known : ∀ request ∈ requests, ∀ invoice ∈ request.invoices, (invoice.id, invoice.amount) ∈ store.base.priced) : RailInv { store with requests := requests } :=
  ⟨inv.ledger, inv.sound, inv.keys, inv.rail, inv.net, known⟩

/-- A request in the place of another that knew its invoices too. -/
theorem setRequest (inv : RailInv store) {index : Nat} {request : GenerateRequest} (next : GenerateRequest)
    (current : store.requests[index]? = some request) (kept : next.invoices ⊆ request.invoices) :
    RailInv (store.setRequest index next) :=
  inv.withRequests fun other member => by
    rcases List.mem_or_eq_of_mem_set member with old | rfl
    · exact inv.snapshots other old
    · exact fun invoice here => inv.snapshots request (List.mem_of_getElem? current) invoice (kept here)

theorem readInvoices (inv : RailInv store) (ids : List InvoiceId) : RailInv (store.readInvoices ids) :=
  inv.withRequests fun request member => by
    rcases List.mem_append.mp member with old | new
    · exact inv.snapshots request old
    · rw [List.mem_singleton.mp new]
      intro invoice here
      exact List.mem_map.mpr ⟨invoice, (List.mem_filter.mp here).1, rfl⟩

theorem readCarded (inv : RailInv store) (index : Nat) : RailInv (store.readCarded index) := by
  unfold CardStore.readCarded
  split
  · exact inv
  next request current =>
  split
  · exact inv
  · exact inv.setRequest _ current (List.Subset.refl _)

/-- The row of an invoice as a request read it. -/
theorem current (inv : RailInv store) {index : Nat} {request : GenerateRequest} (current : store.requests[index]? = some request)
    {invoice : PayableInvoice} (listed : invoice ∈ request.invoices) :
    ∃ row ∈ store.base.invoices, row.id = invoice.id ∧ row.amount = invoice.amount := by
  obtain ⟨row, member, same⟩ := List.mem_map.mp (inv.snapshots request (List.mem_of_getElem? current) invoice listed)
  exact ⟨row, member, Prod.mk.inj same⟩

theorem invoiceIds (inv : RailInv store) : (store.base.invoices.map PayableInvoice.id).Nodup := by
  have keys := inv.keys
  rw [PaymentStore.priced, List.map_map] at keys
  exact keys

theorem invoice? (inv : RailInv store) {id : InvoiceId} {row : PayableInvoice} (member : row ∈ store.base.invoices)
    (same : row.id = id) : store.base.invoice? id = some row := by
  rw [← same]
  exact getRow_of_mem inv.invoiceIds member

theorem issueNext (inv : RailInv store) {index : Nat} {issue : Except String CardIssue}
    (checked : ChecksOtherRail store (.issueNext index issue)) : RailInv (store.issueNext index issue) := by
  unfold CardStore.issueNext
  split
  · exact inv
  next request current =>
  split
  · next carded invoice rest reads _ invoices =>
    have kept : rest ⊆ request.invoices := by
      rw [invoices]
      exact List.subset_cons_self invoice rest
    split
    · next made uncarded =>
      have moved := inv.setRequest
        { request with invoices := rest, issued := some (newCard store.nextCard invoice none none made) } current kept
      refine ⟨moved.ledger, moved.sound, moved.keys, moved.rail, fun mint here => ?_, moved.snapshots⟩
      rcases List.mem_cons.mp here with rfl | old
      · have next : request.nextToMint = some invoice := by
          simp only [GenerateRequest.nextToMint, reads, invoices, Option.bind_some, List.head?_cons]
          exact Option.filter_eq_some_iff.mpr ⟨rfl, by rw [uncarded]; rfl⟩
        obtain ⟨row, inTable, same⟩ := inv.current current (by rw [invoices]; exact List.mem_cons_self)
        have free := checked request current invoice next row inTable same.1
        rw [inv.invoice? inTable same.1, newCard]
        simp only [Option.getD_none, Option.getD_some, PayableInvoice.netPayableAmount, free, same.2, if_true, sub_zero]
        exact le_refl _
      · exact inv.net mint old
    · exact inv.setRequest _ current kept
  · exact inv

theorem flushCard (inv : RailInv store) (index : Nat) : RailInv (store.flushCard index) := by
  unfold CardStore.flushCard
  split
  · exact inv
  next request current =>
  split
  · split
    · exact inv
    split
    · exact inv.setRequest _ current (List.Subset.refl _)
    · exact inv.setRequest _ current (List.Subset.refl _)
  · exact inv

theorem dropRequest (inv : RailInv store) (index : Nat) : RailInv (store.dropRequest index) :=
  inv.withRequests fun request member => inv.snapshots request ((List.eraseIdx_sublist store.requests index).subset member)

theorem commitGenerate (inv : RailInv store) {index : Nat} (checked : ChecksOtherRail store (.commitGenerate index)) :
    RailInv (store.commitGenerate index) := by
  unfold CardStore.commitGenerate
  split
  · exact inv
  next request current =>
  split
  · have dropped := inv.dropRequest index
    refine ⟨dropped.ledger, dropped.sound, dropped.keys, fun card here live payment inTable same => ?_, dropped.net,
      dropped.snapshots⟩
    rcases List.mem_append.mp here with old | new
    · exact inv.rail card old live payment inTable same
    · exact checked request current card new payment inTable same
  · exact inv

theorem applyCredit (inv : RailInv store) (id : InvoiceId) (amount : ℚ) : RailInv (store.applyCredit id amount) := by
  unfold CardStore.applyCredit
  split
  · exact inv
  next invoice found =>
  split
  · exact inv
  · next within =>
    have positive : 0 < amount := not_le.mp fun small => within (.inl small)
    have nonneg : 0 ≤ PayableInvoice.appliedCredit { invoice with appliedCredit := invoice.appliedCredit + amount } :=
      add_nonneg (inv.sound.invoice?_credit found) positive.le
    have credited := inv.sound.putInvoice nonneg
    have priced := priced_putRow inv.invoiceIds (getRow_some found).1
      { invoice with appliedCredit := invoice.appliedCredit + amount } rfl rfl
    refine inv.withPayments ⟨inv.ledger.rows, inv.ledger.runIds, inv.ledger.runIssued, inv.ledger.owned, inv.ledger.covered,
      inv.ledger.claimed, inv.ledger.queued⟩ credited priced fun payment member _ => .inl member

theorem cancelCard (inv : RailInv store) (id : CardId) : RailInv (store.cancelCard id) := by
  unfold CardStore.cancelCard
  split
  · exact inv
  next card found =>
  split
  · exact inv
  · exact inv.putCard (getRow_some found).1 rfl fun live => absurd live Bool.false_ne_true

/-- One section keeps both rails apart. -/
theorem step (inv : RailInv store) {label : CardLabel} (onRails : label.onRails = true) (checked : ChecksOtherRail store label) :
    RailInv (runCardLabel config store label) := by
  cases label with
  | payments label => exact inv.books onRails
  | dispatchNext => exact inv.dispatchNext checked
  | readInvoices ids => exact inv.readInvoices ids
  | readCarded index => exact inv.readCarded index
  | issueNext => exact inv.issueNext checked
  | flushCard index => exact inv.flushCard index
  | commitGenerate => exact inv.commitGenerate checked
  | crashGenerate index => exact inv.dropRequest index
  | applyCredit id amount => exact inv.applyCredit id amount
  | cancelCard id => exact inv.cancelCard id

end RailInv

/-- One rail claims an invoice, for at most its net amount, in every run whose steps respect what neither
`generate_cards` nor the dispatch checks. -/
theorem one_rail (config : PaymentConfig) (store : CardStore)
    (reach : (cardMachine config).Reach (fun store label => label.onRails = true ∧ ChecksOtherRail store label) store) :
    OneRail store := by
  have start : ∀ first, (cardMachine config).init first → RailInv first := by
    rintro first ⟨noPayments, noRuns, noPasses, noCards, noRequests, noMints, keys, credits⟩
    refine ⟨.empty noPayments noRuns noPasses, ⟨fun payment member => ?_, credits⟩, ?_, ?_, ?_, ?_⟩
    · rw [noPayments] at member
      cases member
    · rw [PaymentStore.priced, List.map_map]
      exact keys
    · rw [noCards]
      exact fun card member => nomatch member
    · rw [noMints]
      exact fun mint member => nomatch member
    · rw [noRequests]
      exact fun request member => nomatch member
  have step : ∀ before label, RailInv before → label.onRails = true ∧ ChecksOtherRail before label →
      RailInv ((cardMachine config).step before label) := fun _ _ inv permitted => inv.step permitted.1 permitted.2
  exact (reach.invariant start step).oneRail

/-- Two approved invoices of 100, and nothing booked or minted. -/
def CardStore.fresh : CardStore where
  base := .approved [1, 2]
  cards := []
  nextCard := 0
  requests := []
  mints := []

/-- A run of one payment, up to its dispatch. -/
def payByProcessor (invoice : InvoiceId) (method : String) : List CardLabel :=
  [.payments (.createRun "maker" [(invoice, method)] false), .payments (.executeRun "checker" 0 none), .payments (.readPending 0),
    .dispatchNext 0 (.hearing (.ok ⟨.submitted, some "po_1", none, none⟩)) (.error "")]

/-- One request of `/cards/generate`, undisturbed. -/
def generateCard (invoice : InvoiceId) : List CardLabel :=
  [.readInvoices [invoice], .readCarded 0, .issueNext 0 (.ok ⟨"lithic", some "4242", some 30⟩), .flushCard 0, .commitGenerate 0]

theorem one_rail_two_invoices : OneRail ((cardMachine ⟨none, 0⟩).exec .fresh (payByProcessor 1 "ach" ++ generateCard 2)) := by
  refine one_rail ⟨none, 0⟩ _ (Machine.Reach.exec (.start ?_) ?_)
  · exact ⟨rfl, rfl, rfl, rfl, rfl, rfl, by decide, by decide⟩
  · decide +kernel

/-- A card is minted for an invoice whose order the processor already has; a card is minted for the whole
amount of an invoice that a credit stands against; and a payment by `VIRTUAL_CARD` goes to the processor
although a card of its invoice is live. -/
theorem two_rails :
    (∀ label ∈ payByProcessor 1 "ach" ++ generateCard 1 ++ [.applyCredit 1 40] ++ payByProcessor 1 "VIRTUAL_CARD",
      label.onRails = true) ∧
    ¬OneRail ((cardMachine ⟨none, 0⟩).exec .fresh (payByProcessor 1 "ach" ++ generateCard 1)) ∧
    ¬OneRail ((cardMachine ⟨none, 0⟩).exec .fresh (.applyCredit 1 40 :: generateCard 1)) ∧
    ¬OneRail ((cardMachine ⟨none, 0⟩).exec .fresh (generateCard 1 ++ payByProcessor 1 "VIRTUAL_CARD")) := by
  exact ⟨by decide, by decide +kernel, by decide +kernel, by decide +kernel⟩

end Payables
