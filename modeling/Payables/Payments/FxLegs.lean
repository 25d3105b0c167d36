import Payables.Money
import Payables.Payments.FreshRows
import Payables.Payments.RailSteps
import Payables.Payments.SoundAmounts

namespace Payables
open Lib Relation

/-- The outflow leg is the price of what the payment orders. -/
def LegAgrees (payment : Payment) (columns : RailColumns) : Prop :=
  ∀ rate, payment.fxRate = some rate → columns.sourceAmount = some (quantizeMoney (payment.amount / rate))

/-- So it is with every payment under a locked rate. -/
def LegsAgree (store : RailStore) : Prop :=
  ∀ payment ∈ store.base.payments, LegAgrees payment (store.columns payment.id)

/-- The payment a section sends out, and what its international leg hears. -/
def RailStore.dispatching (store : RailStore) : RailLabel → Option (Payment × FxInputs)
  | .dispatchNext pass _ inputs => (store.waitingPayment pass).map fun payment => (payment, inputs)
  | .release _ id provider _ inputs => (store.heldPayment id provider).map fun payment => (payment, inputs)
  | _ => none

/-- The leg is taken, its corridor converts, the payee has what the corridor asks for and the quote is a
rate. -/
def locksQuote (invoice : PayableInvoice) (payment : Payment) (corridor : Option String) (inputs : FxInputs)
    (quote : FxQuote) : Prop :=
  let source := (normalizeCurrencyCode (resolveHomeCurrency inputs.homeCurrency)).getD "USD"
  let choice := pickCorridor source ((normalizeCurrencyCode invoice.currency).getD source)
    (inputs.payee.country.map pyUpper) payment.method
  takesInternationalLeg invoice payment corridor inputs = true ∧ inputs.provider = some (.ok quote) ∧ 0 < quote.rate ∧
    choice.requiresFx = true ∧ (choice.requiresIban = true → inputs.payee.ibanValid = true) ∧
    (choice.requiresSwift = true → inputs.payee.swiftValid = true)

/-- A dispatch that locks a quote finds the credit on the invoice below what the outflow has above the
last half cent. -/
def LocksNet (store : RailStore) (label : RailLabel) : Prop :=
  ∀ payment inputs invoice quote, store.dispatching label = some (payment, inputs) →
    reachesRail (store.base.invoice? payment.invoiceId) store.base.exceptions payment = some invoice →
    locksQuote invoice payment (store.columns payment.id).corridor inputs quote →
    invoice.appliedCredit / quote.rate ≤ aboveHalfCent (invoice.amount / quote.rate)

/-- The invoices of a run come with the credit that memos have put on them. -/
def RailLabel.Credited : RailLabel → Prop
  | .payments label => label.Credited
  | _ => True

theorem locksQuote.locked {invoice : PayableInvoice} {payment : Payment} {corridor : Option String} {inputs : FxInputs}
    {quote : FxQuote} (locks : locksQuote invoice payment corridor inputs quote) :
    ∃ choice currency, internationalLeg invoice payment corridor inputs =
      some (.ok ⟨choice, currency, quantizeMoney (invoice.amount / quote.rate), some quote.rate⟩) := by
  obtain ⟨taken, provider, positive, converts, iban, swift⟩ := locks
  simp only [internationalLeg, taken, if_true, provider, prepareInternationalPayment]
  rw [if_neg, if_neg, if_neg, if_neg (not_le.mpr positive)]
  · exact ⟨_, _, rfl⟩
  · rw [converts]
    exact Bool.false_ne_true
  · rintro ⟨required, invalid⟩
    rw [swift required] at invalid
    cases invalid
  · rintro ⟨required, invalid⟩
    rw [iban required] at invalid
    cases invalid

theorem locksQuote_of_locked {invoice : PayableInvoice} {payment : Payment} {corridor : Option String} {inputs : FxInputs}
    {prepared : PreparedPayment} {rate : ℚ} (leg : internationalLeg invoice payment corridor inputs = some (.ok prepared))
    (locked : prepared.fxRate = some rate) : ∃ quote, quote.rate = rate ∧ locksQuote invoice payment corridor inputs quote := by
  unfold internationalLeg at leg
  split at leg
  · next taken =>
    split at leg
    · cases Option.some.inj leg
    next getRate provider =>
    have ok := Option.some.inj leg
    unfold prepareInternationalPayment at ok
    simp only at ok
    split_ifs at ok with iban swift same
    · rw [← Except.ok.inj ok] at locked
      cases locked
    split at ok
    · cases ok
    next quote =>
    split_ifs at ok with refused
    rw [← Except.ok.inj ok] at locked
    refine ⟨quote, Option.some.inj locked, taken, provider, not_le.mp refused, ?_, ?_, ?_⟩
    · simpa using same
    · intro required
      by_contra invalid
      exact iban ⟨required, by simpa using invalid⟩
    · intro required
      by_contra invalid
      exact swift ⟨required, by simpa using invalid⟩
  · cases leg

/-- With the net amount on the payment, its price is that of the invoice as long as rounding does not see
the credit. -/
theorem quantizeMoney_net_iff {invoice : PayableInvoice} {payment : Payment} (net : invoice.netPayableAmount = payment.amount)
    (credit : 0 ≤ invoice.appliedCredit) (ordered : 0 < payment.amount) {rate : ℚ} (positive : 0 < rate) :
    quantizeMoney (invoice.amount / rate) = quantizeMoney (payment.amount / rate) ↔
      invoice.appliedCredit / rate ≤ aboveHalfCent (invoice.amount / rate) := by
  rw [← net] at ordered ⊢
  rw [PayableInvoice.netPayableAmount] at ordered ⊢
  have below : invoice.appliedCredit ≤ invoice.amount := by linarith
  rw [sub_div, eq_comm]
  exact quantizeMoney_sub_eq_iff (div_nonneg credit positive.le) (div_le_div_of_nonneg_right below positive.le)

/-- The row of a dispatch: its leg agrees exactly when a rate it locks does not see the credit. -/
theorem legAgrees_dispatched_iff {store : RailStore} (sound : store.base.Sound) {payment : Payment}
    (member : payment ∈ store.base.payments) (agrees : LegAgrees payment (store.columns payment.id)) (env : DispatchEnv)
    (inputs : FxInputs) :
    LegAgrees (attempt store.base payment { env with fx := fxLegOf (store.legOf payment inputs) }).payment
        (store.prepareLeg payment (store.legOf payment inputs) payment.id) ↔
      ∀ invoice quote, reachesRail (store.base.invoice? payment.invoiceId) store.base.exceptions payment = some invoice →
        locksQuote invoice payment (store.columns payment.id).corridor inputs quote →
        invoice.appliedCredit / quote.rate ≤ aboveHalfCent (invoice.amount / quote.rate) := by
  have priced := attemptPayment_fxRate (store.base.invoice? payment.invoiceId) store.base.exceptions payment
    { env with fx := fxLegOf (store.legOf payment inputs) }
  have order := attemptPayment_sameOrder (store.base.invoice? payment.invoiceId) store.base.exceptions payment
    { env with fx := fxLegOf (store.legOf payment inputs) }
  unfold LegAgrees
  rw [attempt, order.amount, priced]
  cases rated : payment.fxRate with
  | some rate =>
    have leg : store.legOf payment inputs = none := by
      simp only [RailStore.legOf, Option.bind_eq_none_iff]
      exact fun invoice _ => internationalLeg_locked (by rw [rated]; rfl)
    rw [leg]
    refine ⟨fun _ invoice quote _ locks => ?_, fun _ other same => agrees other (rated.trans same)⟩
    have taken := locks.1
    simp only [takesInternationalLeg, rated, Option.isNone_some, Bool.and_false, Bool.false_eq_true] at taken
  | none =>
    cases reaches : reachesRail (store.base.invoice? payment.invoiceId) store.base.exceptions payment with
    | none =>
      constructor
      · intro _ invoice quote impossible
        cases impossible
      · intro _ rate locked
        cases locked
    | some invoice =>
      obtain ⟨found, gates⟩ := Option.filter_eq_some_iff.mp reaches
      obtain ⟨_, _, _, net, _⟩ := of_decide_eq_true gates
      have credit := sound.invoice?_credit found
      have ordered := sound.amounts payment member
      have leg : store.legOf payment inputs =
          internationalLeg invoice payment (store.columns payment.id).corridor inputs := by
        rw [RailStore.legOf, reaches, Option.bind_some]
      simp only [Option.orElse_none, Option.bind_some, lockedRate_fxLegOf, leg]
      constructor
      · rintro agree row quote same locks
        cases Option.some.inj same
        obtain ⟨choice, currency, prepared⟩ := locks.locked
        rw [prepared] at agree
        have written := agree quote.rate rfl
        simp only [RailStore.prepareLeg, Function.update_self, RailColumns.prepare, Option.some.injEq] at written
        exact (quantizeMoney_net_iff net credit ordered locks.2.2.1).mp written
      · intro within rate locked
        obtain ⟨prepared, ready, rated'⟩ := Option.bind_eq_some_iff.mp locked
        obtain ⟨result, taken, ok⟩ := Option.bind_eq_some_iff.mp ready
        cases result with
        | error => cases ok
        | ok other =>
          cases Option.some.inj ok
          obtain ⟨quote, rfl, locks⟩ := locksQuote_of_locked taken rated'
          obtain ⟨_, amount⟩ := internationalLeg_rate taken rated'
          simp only [taken, RailStore.prepareLeg, Function.update_self, RailColumns.prepare, amount]
          rw [(quantizeMoney_net_iff net credit ordered locks.2.2.1).mpr (within invoice quote rfl locks)]

namespace RailStore

variable {config : ReconcilerConfig} {store : RailStore} {payment : Payment} {label : RailLabel}

theorem settle_sound (sound : store.base.Sound) {written : Payment} (member : payment ∈ store.base.payments)
    (same : payment.SameOrder written) (amount : Option Decimal) (currency : Option String) (fetched : SettlementReport) :
    (store.settle written amount currency fetched).base.Sound := by
  have moved := sound.putPayment member same
  unfold settle
  split
  · simp only
    split
    · exact sound
    · exact ⟨moved.amounts, moved.credits⟩
  · exact moved

theorem receiveEvent_sound (sound : store.base.Sound) (event : RailEvent) (fetched : SettlementReport) (now : Time) :
    (store.receiveEvent event fetched now).base.Sound := by
  unfold receiveEvent
  split
  · next payment only =>
    have listed : payment ∈ store.base.payments.filter (·.providerPaymentId == some event.providerPaymentId) := by
      rw [only]
      exact List.mem_singleton.mpr rfl
    split
    · refine settle_sound sound (List.mem_filter.mp listed).1 ?_ _ _ _
      exact ⟨rfl, rfl, rfl, rfl, rfl, rfl⟩
    · exact sound
  · exact sound

theorem reconcilePayment_sound (sound : store.base.Sound) (now : Time) (candidate : Candidate) (turn : ReconcileTurn) :
    (store.reconcilePayment config now candidate turn).base.Sound := by
  unfold reconcilePayment
  simp only
  split
  · exact sound
  split
  · split
    · exact sound
    · next payment locked =>
      have aged := sound.putPayment (lockInFlight_some locked).1
        (⟨rfl, rfl, rfl, rfl, rfl, rfl⟩ : payment.SameOrder (payment.ageOut turn.hours))
      exact ⟨aged.amounts, aged.credits⟩
  split
  · exact sound
  split
  · exact sound
  split
  · exact sound
  split
  · split
    · exact sound
    · next payment locked =>
      refine settle_sound sound (lockInFlight_some locked).1 ?_ _ _ _
      exact ⟨rfl, rfl, rfl, rfl, rfl, rfl⟩
  · exact sound

theorem nextTurn_sound (sound : store.base.Sound) (sweep : Nat) {turn : RailStore → Time → Candidate → RailStore}
    (keeps : ∀ (store : RailStore) now candidate, store.base.Sound → (turn store now candidate).base.Sound) :
    (store.nextTurn sweep turn).base.Sound := by
  unfold nextTurn
  split
  · exact sound
  split
  · exact sound
  · exact keeps _ _ _ sound

theorem dispatch_sound (sound : store.base.Sound) (payment : Option Payment) (env : DispatchEnv) (inputs : FxInputs)
    {send : DispatchEnv → PaymentLabel} (credited : ∀ env, (send env).Credited) :
    (store.dispatch config payment env inputs send).base.Sound := by
  unfold dispatch
  split
  · exact sound.runPaymentLabel (credited env)
  · exact sound.runPaymentLabel (credited _)

/-- The status of an invoice says nothing about its credit. -/
theorem setInvoiceStatus_sound (sound : store.base.Sound) {id : InvoiceId} {invoice : PayableInvoice}
    (found : store.base.invoice? id = some invoice) (status : InvoiceStatus) :
    (store.setInvoiceStatus invoice status).base.Sound := by
  have credited := sound.invoice?_credit found
  exact sound.putInvoice credited

theorem finishSync_sound (sound : store.base.Sound) (index : Nat) : (store.finishSync index).base.Sound := by
  unfold finishSync
  split
  · exact sound
  next leg _ =>
  simp only
  split
  · exact sound
  · next invoice discharged =>
    have without : (RailStore.base { store with legs := store.legs.eraseIdx index }).Sound := sound
    exact setInvoiceStatus_sound without (Option.filter_eq_some_iff.mp discharged).1 .paid

theorem receiveErpStatus_sound (sound : store.base.Sound) (id : InvoiceId) (status : String) :
    (store.receiveErpStatus id status).base.Sound := by
  unfold receiveErpStatus
  split
  · exact sound
  next invoice found =>
  split
  · exact sound
  · exact setInvoiceStatus_sound sound found _

/-- Every section of the rails keeps the amounts sound. -/
theorem runRailLabel_sound (sound : store.base.Sound) (credited : label.Credited) :
    (runRailLabel config store label).base.Sound := by
  cases label with
  | payments label =>
    simp only [runRailLabel]
    split
    · exact sound
    · exact sound.runPaymentLabel credited
  | dispatchNext pass env inputs => exact dispatch_sound sound _ env inputs fun _ => trivial
  | release user payment provider env inputs => exact dispatch_sound sound _ env inputs fun _ => trivial
  | webhook event fetched now => exact receiveEvent_sound sound event fetched now
  | reconcile sweep turn =>
    exact nextTurn_sound sound sweep fun store now candidate sound => reconcilePayment_sound sound now candidate turn
  | failTurn sweep => exact nextTurn_sound sound sweep fun store now candidate sound => sound
  | beginSweep | dropSweep | dropSync => exact sound
  | beginSync payment =>
    simp only [runRailLabel, beginSync]
    split
    · exact sound
    split
    · exact sound
    · exact sound
  | finishSync leg => exact finishSync_sound sound leg
  | erpWebhook invoice status => exact receiveErpStatus_sound sound invoice status

end RailStore

section
variable {config : ReconcilerConfig} {store after : RailStore} {payment written : Payment} {label : RailLabel}
  {columns : RailColumns}

theorem RowChange.legAgrees (sound : store.base.Sound) (member : payment ∈ store.base.payments)
    (agrees : LegAgrees payment (store.columns payment.id)) (locks : LocksNet store label)
    (change : RowChange store payment label written columns) : LegAgrees written columns := by
  cases change with
  | @dispatched pass env inputs waiting =>
    have sends : store.dispatching (.dispatchNext pass env inputs) = some (payment, inputs) :=
      Option.map_eq_some_iff.mpr ⟨payment, waiting, rfl⟩
    exact (legAgrees_dispatched_iff sound member agrees env inputs).mpr fun invoice quote =>
      locks payment inputs invoice quote sends
  | @released user provider env inputs held =>
    have sends : store.dispatching (.release user payment.id provider env inputs) = some (payment, inputs) :=
      Option.map_eq_some_iff.mpr ⟨payment, held, rfl⟩
    exact (legAgrees_dispatched_iff sound member agrees env inputs).mpr fun invoice quote =>
      locks payment inputs invoice quote sends
  | dismissed | voided | aged => exact agrees
  | event _ _ leg | polled _ _ leg =>
    obtain ⟨settlement, rfl⟩ := leg
    exact agrees

theorem Touched.legsAgree {middle : PaymentStore} {columns : PaymentId → RailColumns} {concluded : List PaymentId}
    (sound : store.base.Sound) (agree : LegsAgree store) (locks : LocksNet store label)
    (touched : Touched store label middle columns concluded) :
    ∀ payment ∈ middle.payments, LegAgrees payment (columns payment.id) := by
  cases touched with
  | nothing => exact agree
  | @row changed written columns member change =>
    intro payment here
    obtain ⟨source, old, kept, rowCase⟩ := mem_rewrite member change.sameOrder here
    rcases rowCase with ⟨rfl, different⟩ | ⟨rfl, rfl⟩
    · rw [Function.update_of_ne different]
      exact agree payment old
    · rw [kept.id, Function.update_self]
      exact change.legAgrees sound member (agree source member) locks

theorem RailChanges.legsAgree (sound : store.base.Sound) (agree : LegsAgree store) (locks : LocksNet store label)
    (changes : RailChanges config store label after) : LegsAgree after := by
  obtain ⟨middle, touched, bookings, _⟩ := changes
  intro payment here
  rcases (PaymentStore.Grows.of_bookings bookings).rows payment here with old | fresh
  · exact touched.legsAgree sound agree locks payment old
  · intro rate priced
    cases fresh.unpriced.symm.trans priced

/-- A section that sends a payment leaves its row in the table. -/
theorem dispatching_writes {inputs : FxInputs}
    (sends : store.dispatching label = some (payment, inputs)) : payment ∈ store.base.payments ∧ ∃ env : DispatchEnv,
      (attempt store.base payment { env with fx := fxLegOf (store.legOf payment inputs) }).payment ∈
        (runRailLabel config store label).base.payments ∧
      (runRailLabel config store label).columns payment.id =
        store.prepareLeg payment (store.legOf payment inputs) payment.id := by
  cases label with
  | dispatchNext pass env =>
    obtain ⟨_, waiting, same⟩ := Option.map_eq_some_iff.mp sends
    cases same
    obtain ⟨next, pending⟩ := RailStore.waitingPayment_some waiting
    obtain ⟨id, queued, found⟩ := Option.bind_eq_some_iff.mp next
    obtain ⟨queue, reads, head⟩ := Option.bind_eq_some_iff.mp queued
    obtain ⟨current, at', ids⟩ := Option.bind_eq_some_iff.mp reads
    obtain ⟨rest, rfl⟩ := List.head?_eq_some_iff.mp head
    have member := (payment?_some found).1
    refine ⟨member, env, ?_, ?_⟩
    · simp only [runRailLabel, RailStore.dispatch, waiting, runPaymentLabel, dispatchNextPayment, at', ids, found, pending,
        ne_eq, not_true_eq_false, if_false, setPass]
      rw [commitDispatch_payments]
      exact mem_putPayment_self member (attemptPayment_sameOrder _ _ _ _)
    · simp only [runRailLabel, RailStore.dispatch, waiting]
  | release user id provider env =>
    obtain ⟨_, held, same⟩ := Option.map_eq_some_iff.mp sends
    cases same
    obtain ⟨found, status, rfl⟩ := RailStore.heldPayment_some held
    have member := (payment?_some found).1
    refine ⟨member, env, ?_, ?_⟩
    · simp only [runRailLabel, RailStore.dispatch, held, runPaymentLabel, releaseComplianceHold, found, status, ne_eq,
        not_true_eq_false, if_false]
      rw [recomputeParentRunStatus_payments, commitDispatch_payments]
      exact mem_putPayment_self member (attemptPayment_sameOrder _ _ _ _)
    · simp only [runRailLabel, RailStore.dispatch, held]
  | _ => cases sends

/-- One section keeps the legs in agreement exactly when a rate it locks does not see a credit. -/
theorem legsAgree_step_iff (ledger : Ledger store.base) (sound : store.base.Sound) (agree : LegsAgree store) :
    LegsAgree (runRailLabel config store label) ↔ LocksNet store label := by
  constructor
  · intro after payment inputs invoice quote sends reaches locks
    obtain ⟨member, env, inTable, columns⟩ := dispatching_writes sends
    have leg := after _ inTable
    rw [attempt, (attemptPayment_sameOrder _ _ _ _).id, columns] at leg
    exact (legAgrees_dispatched_iff sound member (agree payment member) env inputs).mp leg invoice quote reaches locks
  · exact fun locks => RailChanges.legsAgree sound agree locks (RailStore.runRailLabel_changes ledger label)

/-- Over any run: the legs agree throughout exactly when no rate is locked over a credit that it sees. -/
theorem fx_legs_agree_iff {first : RailStore} (begins : (railMachine config).init first)
    (credited : ∀ invoice ∈ first.base.invoices, 0 ≤ invoice.appliedCredit) {labels : List RailLabel}
    (credits : ∀ label ∈ labels, label.Credited) :
    (∀ before after, labels = before ++ after → LegsAgree ((railMachine config).exec first before)) ↔
      (railMachine config).Permits LocksNet first labels := by
  have keeps : ∀ (store : RailStore) (label : RailLabel), Ledger store.base ∧ store.base.Sound → label.Credited →
      Ledger ((railMachine config).step store label).base ∧ ((railMachine config).step store label).base.Sound := by
    rintro store label ⟨ledger, sound⟩ honest
    have changes : RailChanges config store label _ := RailStore.runRailLabel_changes ledger label
    exact ⟨changes.ledger ledger, RailStore.runRailLabel_sound sound honest⟩
  have exactly : ∀ (store : RailStore) (label : RailLabel), Ledger store.base ∧ store.base.Sound → label.Credited →
      LegsAgree store → (LegsAgree ((railMachine config).step store label) ↔ LocksNet store label) :=
    fun store label kept _ agree => legsAgree_step_iff kept.1 kept.2 agree
  have ledger : Ledger first.base := .empty begins.1 begins.2.1 begins.2.2.1
  have noRows : ∀ payment, payment ∉ first.base.payments := by
    rw [begins.1]
    exact fun _ => List.not_mem_nil
  have sound : first.base.Sound := ⟨fun payment here => absurd here (noRows payment), credited⟩
  have agree : LegsAgree first := fun payment here => absurd here (noRows payment)
  exact Machine.holds_iff_permits keeps exactly ⟨ledger, sound⟩ agree credits

/-- Without credits there is nothing to see. -/
theorem LocksNet.of_uncredited (uncredited : ∀ invoice ∈ store.base.invoices, invoice.appliedCredit = 0) :
    LocksNet store label := by
  intro payment inputs invoice quote _ reaches _
  have found := (Option.filter_eq_some_iff.mp reaches).1
  rw [uncredited invoice (getRow_some found).1, zero_div]
  exact div_nonneg (Int.fract_nonneg _) (by norm_num)

end

/-- A German vendor is paid 1000 EUR, less a credit, from a home in dollars at 0.92. -/
def creditedRun (credit : ℚ) : List RailLabel :=
  [.payments (.putInvoice ⟨1, "INV", .approved, "EUR", 1000, credit, false⟩),
    .payments (.createRun "maker" [(1, "ach")] false), .payments (.executeRun "checker" 0 none), .payments (.readPending 0),
    .dispatchNext 0 (.hearing (.ok ⟨.submitted, some "order-1", none, none⟩))
      ⟨some "USD", ⟨true, some "DE", true, true⟩, some (.ok ⟨23 / 25, "0.92"⟩)⟩]

/-- The order is for 900 EUR, and the debit is the price of 1000. -/
theorem fx_legs_disagree : ¬LegsAgree ((railMachine ⟨⟨none, 100⟩, 1⟩).exec (.approved [1]) (creditedRun 100)) := by
  intro agree
  have ordered : ∃ payment ∈ ((railMachine ⟨⟨none, 100⟩, 1⟩).exec (.approved [1]) (creditedRun 100)).base.payments,
      payment.status = .submitted ∧ payment.amount = 900 ∧ payment.fxRate = some (23 / 25) ∧
      (((railMachine ⟨⟨none, 100⟩, 1⟩).exec (.approved [1]) (creditedRun 100)).columns payment.id).sourceAmount =
        some (108696 / 100) := by decide +kernel
  obtain ⟨payment, member, _, amount, locked, source⟩ := ordered
  have priced := agree payment member _ locked
  rw [source, amount] at priced
  exact absurd priced (by decide +kernel)

theorem fx_legs_agree_uncredited : LegsAgree ((railMachine ⟨⟨none, 100⟩, 1⟩).exec (.approved [1]) (creditedRun 0)) := by
  have first : (railMachine ⟨⟨none, 100⟩, 1⟩).init (.approved [1]) := ⟨rfl, rfl, rfl, rfl, rfl, rfl, rfl⟩
  have credits : ∀ label ∈ creditedRun 0, label.Credited := by
    intro label listed
    simp only [creditedRun, List.mem_cons, List.not_mem_nil, or_false] at listed
    rcases listed with rfl | rfl | rfl | rfl | rfl
    · exact le_refl 0
    all_goals trivial
  have permitted : (railMachine ⟨⟨none, 100⟩, 1⟩).Permits LocksNet (.approved [1]) (creditedRun 0) := by
    refine ⟨?_, ?_, ?_, ?_, ?_, trivial⟩
    all_goals exact .of_uncredited (by decide +kernel)
  exact (fx_legs_agree_iff first (by decide) credits).mpr permitted _ [] (List.append_nil _).symm

end Payables
