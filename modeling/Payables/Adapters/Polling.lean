import Payables.Adapters.Providers
import Payables.Payments.RailSteps

namespace Payables
open Lib

def statusMapOf : Provider → List (String × AdapterStatus)
  | .mock => []
  | .modernTreasury => ModernTreasury.statusMap
  | .dwolla => Dwolla.statusMap
  | .checkeeper => Checkeeper.statusMap
  | .column => Column.statusMap
  | .increase => Increase.statusMap
  | .stripeTreasury => StripeTreasury.statusMap

/-- The status that a body reports, as the adapter maps it. -/
def Response.reported (response : Response) (statusMap : List (String × AdapterStatus)) : Option AdapterStatus :=
  match response.json with
  | .ok (.object fields) =>
    match fields.lookup "status" with
    | some (.str status) => statusMap.lookup status
    | _ => none
  | _ => none

/-- The processor has answered with a terminal status in the body. -/
def ReportsTerminal (provider : Provider) (answers : RailAnswers) : Prop :=
  ∃ response status, answers.exchange = .ok response ∧ response.reported (statusMapOf provider) = some status ∧
    status ∈ [AdapterStatus.completed, .failed, .cancelled]

def isErrorResponse : Exchange → Bool
  | .ok response => decide (400 ≤ response.statusCode)
  | .error _ => false

/-- A credential that is missing or an error response, where the adapter takes that for a failure of the
payment. -/
def trouble : Provider → AdapterConfig → RailAnswers → Bool
  | .mock, _, _ => false
  | .modernTreasury, _, _ => false
  | .dwolla, config, answers =>
    (Dwolla.getToken config answers).toOption.any fun token => !token.truthy || isErrorResponse answers.exchange
  | _, config, answers => config.apiKey = "" || isErrorResponse answers.exchange

section
variable {statusMap : List (String × AdapterStatus)} {status : AdapterStatus} {exchange : Exchange}

theorem readStatus_reported {default : String} {response : Response} (unknown : (statusMap.lookup default).getD .submitted = .submitted)
    (read : readStatus statusMap default response = .ok status) (told : status ≠ .submitted) :
    response.reported statusMap = some status := by
  obtain ⟨data, parsed, rest⟩ := bind_eq_ok.mp read
  obtain ⟨value, got, mapped⟩ := bind_eq_ok.mp rest
  unfold Response.body at parsed
  unfold Response.reported
  split at parsed
  · next body json =>
    cases Except.ok.inj parsed
    rw [json]
    unfold pyGet at got
    split at got
    · next fields =>
      cases Except.ok.inj got
      simp only
      cases found : fields.lookup "status" with
      | none =>
        rw [found, Option.getD_none, lookupStatus, unknown] at mapped
        exact absurd (Except.ok.inj mapped).symm told
      | some value =>
        rw [found, Option.getD_some] at mapped
        cases value with
        | str text =>
          cases known : statusMap.lookup text with
          | none =>
            rw [lookupStatus, known] at mapped
            exact absurd (Except.ok.inj mapped).symm told
          | some status' =>
            rw [lookupStatus, known] at mapped
            rw [← Except.ok.inj mapped]
            exact known
        | list | object => cases mapped
        | _ => exact absurd (Except.ok.inj mapped).symm told
    · cases got
  · cases parsed

theorem pollStatus_error (error : isErrorResponse exchange = true) : pollStatus statusMap exchange = .ok .failed := by
  cases exchange with
  | error => cases error
  | ok response => exact if_pos (of_decide_eq_true error)

theorem pollStatus_reported (unknown : (statusMap.lookup "").getD .submitted = .submitted)
    (answered : isErrorResponse exchange = false) (polled : pollStatus statusMap exchange = .ok status)
    (told : status ≠ .submitted) : ∃ response, exchange = .ok response ∧ response.reported statusMap = some status := by
  cases exchange with
  | error => cases polled
  | ok response =>
    have accepted : ¬400 ≤ response.statusCode := of_decide_eq_false answered
    simp only [pollStatus, accepted, if_false] at polled
    exact ⟨response, rfl, readStatus_reported unknown polled told⟩

end

/-- What goes wrong on the way to the status is answered as a failure. -/
theorem trouble_failed {provider : Provider} {config : AdapterConfig} {answers : RailAnswers}
    (troubled : trouble provider config answers = true) : getPaymentStatusVia provider config answers = .ok .failed := by
  have keyed {statusMap : List (String × AdapterStatus)}
      (either : (decide (config.apiKey = "") || isErrorResponse answers.exchange) = true) :
      pollWithKey config statusMap answers.exchange = .ok .failed := by
    unfold pollWithKey
    split
    · rfl
    · next key =>
      rcases Bool.or_eq_true_iff.mp either with missing | error
      · exact absurd (of_decide_eq_true missing) key
      · exact pollStatus_error error
  cases provider with
  | mock | modernTreasury => cases troubled
  | dwolla =>
    simp only [getPaymentStatusVia, Dwolla.getPaymentStatus]
    simp only [trouble] at troubled
    cases got : Dwolla.getToken config answers with
    | error =>
      rw [got] at troubled
      cases troubled
    | ok token =>
      rw [got] at troubled
      simp only
      split
      · next usable =>
        simp only [Except.toOption, Option.any_some, usable, Bool.not_true, Bool.false_or] at troubled
        exact pollStatus_error troubled
      · rfl
  | checkeeper | column | increase | stripeTreasury => exact keyed troubled

/-- Any other `failed` or `cancelled` is what the body reports. -/
theorem poll_reported {provider : Provider} {config : AdapterConfig} {answers : RailAnswers} {status : AdapterStatus}
    (untroubled : trouble provider config answers = false)
    (polled : getPaymentStatusVia provider config answers = .ok status) (bad : status = .failed ∨ status = .cancelled) :
    ReportsTerminal provider answers := by
  have told : status ≠ .submitted := by
    rintro rfl
    rcases bad with impossible | impossible <;> cases impossible
  have terminal : status ∈ [AdapterStatus.completed, .failed, .cancelled] := by
    rcases bad with rfl | rfl <;> decide
  have keyed {statusMap : List (String × AdapterStatus)} (unknown : (statusMap.lookup "").getD .submitted = .submitted)
      (neither : (decide (config.apiKey = "") || isErrorResponse answers.exchange) = false)
      (polled : pollWithKey config statusMap answers.exchange = .ok status) :
      ∃ response, answers.exchange = .ok response ∧ response.reported statusMap = some status := by
    obtain ⟨key, answered⟩ := Bool.or_eq_false_iff.mp neither
    rw [pollWithKey, if_neg (of_decide_eq_false key)] at polled
    exact pollStatus_reported unknown answered polled told
  have heard : ∃ response, answers.exchange = .ok response ∧ response.reported (statusMapOf provider) = some status := by
    cases provider with
    | mock =>
      cases Except.ok.inj polled
      rcases bad with impossible | impossible <;> cases impossible
    | modernTreasury =>
      simp only [getPaymentStatusVia, ModernTreasury.getPaymentStatus] at polled
      split at polled
      · cases polled
      next response answered =>
      split at polled
      · exact absurd (Except.ok.inj polled).symm told
      · exact ⟨response, answered, readStatus_reported (by decide) polled told⟩
    | dwolla =>
      simp only [getPaymentStatusVia, Dwolla.getPaymentStatus] at polled
      simp only [trouble] at untroubled
      split at polled
      · cases polled
      next token got =>
      rw [got] at untroubled
      obtain ⟨usable, answered⟩ := Bool.or_eq_false_iff.mp untroubled
      have truthy : token.truthy = true := by simpa using usable
      rw [if_pos truthy] at polled
      exact pollStatus_reported (by decide) answered polled told
    | checkeeper | column | increase | stripeTreasury => exact keyed (by decide) untroubled polled
  obtain ⟨response, answered, reported⟩ := heard
  exact ⟨response, status, answered, reported, terminal⟩

/-- The hours that a candidate has been in flight. -/
def Candidate.age (candidate : Candidate) (now : Time) : Time := now - candidate.submittedAt.getD now

/-- The candidate a sweep comes to next, with the clock of the sweep. -/
def RailStore.turnAt (store : RailStore) (sweep : Nat) : Option (Time × Candidate) :=
  (store.sweeps[sweep]?).bind fun found => found.candidates.head?.map fun candidate => (found.now, candidate)

/-- An in-flight payment ends up failed or cancelled. -/
def GivesUpOn (store after : PaymentStore) (payment : Payment) : Prop :=
  store.payment? payment.id = some payment ∧ (payment.status = .submitted ∨ payment.status = .processing) ∧
    ∃ written, after.payment? payment.id = some written ∧ (written.status = .failed ∨ written.status = .cancelled)

/-- A `payment_reconciliation` exception blocks the invoice. -/
def ReconciliationBlocks (exceptions : List InvoiceException) (invoice : InvoiceId) : Prop :=
  ∃ exception ∈ exceptions, exception.exceptionType = .paymentReconciliation ∧ exception.isBlocking invoice = true

/-- A turn of a sweep that asks an adapter. -/
def ReconcileTurn.asking (provider : Provider) (adapter : AdapterConfig) (answers : RailAnswers) (hours : String) (flagged : Bool)
    (report : SettlementReport) : ReconcileTurn := ⟨hours, flagged, getPaymentStatusVia provider adapter answers, report⟩

/-- Giving up on a payment that has aged out takes an exception, and otherwise a report. -/
def GoodReason (config : ReconcilerConfig) (now : Time) (candidate : Candidate) (provider : Provider) (answers : RailAnswers)
    (after : RailStore) (payment : Payment) : Prop :=
  config.payments.reconcileMaxAge < candidate.age now ∧ ReconciliationBlocks after.base.exceptions payment.invoiceId ∨
    ¬config.payments.reconcileMaxAge < candidate.age now ∧ ReportsTerminal provider answers

/-- A payment that the turn of a sweep gives up on is its candidate, and there is a good reason. -/
def FailsSafe (config : ReconcilerConfig) (store : RailStore) (sweep : Nat) (provider : Provider) (answers : RailAnswers)
    (after : RailStore) : Prop :=
  ∀ payment, GivesUpOn store.base after.base payment → ∃ now candidate, store.turnAt sweep = some (now, candidate) ∧
    candidate.payment = payment.id ∧ GoodReason config now candidate provider answers after payment

/-- The turn meets no trouble that hides the body, and can flag what ages out. -/
def TurnsWell (config : ReconcilerConfig) (store : RailStore) (now : Time) (candidate : Candidate) (provider : Provider)
    (adapter : AdapterConfig) (answers : RailAnswers) (flagged : Bool) (payment : Payment) : Prop :=
  if config.payments.reconcileMaxAge < candidate.age now then
    flagged = true ∨ ReconciliationBlocks store.base.exceptions payment.invoiceId
  else candidate.providerPaymentId.getD "" ≠ "" → candidate.knownStatus ≠ .failed → trouble provider adapter answers = true →
    ReportsTerminal provider answers

/-- So does the turn that the sweep comes to, on a payment that is still in flight. -/
def PollsWell (config : ReconcilerConfig) (store : RailStore) (sweep : Nat) (provider : Provider) (adapter : AdapterConfig)
    (answers : RailAnswers) (flagged : Bool) : Prop :=
  ∀ now candidate payment, store.turnAt sweep = some (now, candidate) → store.lockInFlight candidate.payment = some payment →
    ¬candidate.age now < config.settleAfter → TurnsWell config store now candidate provider adapter answers flagged payment

namespace RailStore

variable {config : ReconcilerConfig} {store : RailStore} {payment row written : Payment}

theorem lockInFlight_found {id : PaymentId} (locked : store.lockInFlight id = some row) :
    store.base.payment? id = some row ∧ row.id = id ∧ (row.status = .submitted ∨ row.status = .processing) := by
  obtain ⟨member, same, moving⟩ := lockInFlight_some locked
  exact ⟨(Option.filter_eq_some_iff.mp locked).1, same, moving⟩

theorem not_givesUp_of_same {after : PaymentStore} (same : after.payments = store.base.payments) :
    ¬GivesUpOn store.base after payment := by
  rintro ⟨found, moving, written, later, bad⟩
  rw [PaymentStore.payment?, same] at later
  cases Option.some.inj (found.symm.trans later)
  rcases moving with here | here <;> rw [here] at bad <;> rcases bad with impossible | impossible <;> cases impossible

/-- Rewriting the locked row gives up on that payment, or on none. -/
theorem givesUp_iff_of_put {id : PaymentId} (locked : store.lockInFlight id = some row) (same : written.id = row.id)
    {after : PaymentStore} (put : after.payments = (store.base.putPayment written).payments) :
    GivesUpOn store.base after payment ↔ payment = row ∧ (written.status = .failed ∨ written.status = .cancelled) := by
  obtain ⟨found, atId, moving⟩ := lockInFlight_found locked
  have read (other : PaymentId) : after.payment? other =
      (store.base.payment? other).map fun old => if old.id = written.id then written else old := by
    rw [PaymentStore.payment?, put]
    exact getRow_putRow other
  constructor
  · rintro ⟨present, inFlight, later, after', bad⟩
    rw [read, present, Option.map_some] at after'
    by_cases here : payment.id = written.id
    · rw [if_pos here] at after'
      cases Option.some.inj after'
      rw [here.trans (same.trans atId), found] at present
      exact ⟨(Option.some.inj present).symm, bad⟩
    · rw [if_neg here] at after'
      cases Option.some.inj after'
      rcases inFlight with now | now <;> rw [now] at bad <;> rcases bad with impossible | impossible <;> cases impossible
  · rintro ⟨rfl, bad⟩
    rw [← atId] at found
    refine ⟨found, moving, written, ?_, bad⟩
    rw [read, found, Option.map_some, if_pos same.symm]

theorem settle_givesUp_iff {id : PaymentId} (locked : store.lockInFlight id = some row) (same : written.id = row.id)
    (amount : Option Decimal) (currency : Option String) (fetched : SettlementReport) :
    GivesUpOn store.base (store.settle written amount currency fetched).base payment ↔
      payment = row ∧ (written.status = .failed ∨ written.status = .cancelled) := by
  unfold settle
  split
  · next completed =>
    simp only
    split
    · refine iff_of_false (not_givesUp_of_same rfl) ?_
      rintro ⟨_, bad⟩
      rw [completed] at bad
      rcases bad with impossible | impossible <;> cases impossible
    · exact givesUp_iff_of_put locked same rfl
  · exact givesUp_iff_of_put locked same rfl

/-- What a turn gives up on is the row it locks: past the maximum age, or on a bad status from the poll. -/
theorem reconcilePayment_givesUp_iff (now : Time) (candidate : Candidate) (turn : ReconcileTurn) :
    GivesUpOn store.base (store.reconcilePayment config now candidate turn).base payment ↔
      store.lockInFlight candidate.payment = some payment ∧ ¬candidate.age now < config.settleAfter ∧
        (config.payments.reconcileMaxAge < candidate.age now ∨
          ¬config.payments.reconcileMaxAge < candidate.age now ∧ candidate.providerPaymentId.getD "" ≠ "" ∧
            ∃ upstream, turn.upstream = .ok upstream ∧ upstream.toPaymentStatus ≠ candidate.knownStatus ∧
              (upstream = .failed ∨ upstream = .cancelled)) := by
  have quiet {claim : Prop} (never : ¬claim) : GivesUpOn store.base store.base payment ↔ claim :=
    iff_of_false (not_givesUp_of_same rfl) never
  have unlocked {claim : Prop} (free : store.lockInFlight candidate.payment = none) :
      GivesUpOn store.base store.base payment ↔ store.lockInFlight candidate.payment = some payment ∧ claim := by
    refine quiet ?_
    rintro ⟨locked, _⟩
    cases free.symm.trans locked
  unfold reconcilePayment
  simp only
  split
  · next young => exact quiet fun gives => gives.2.1 young
  next old =>
  split
  · next aged =>
    split
    · next free => exact unlocked free
    · next row locked =>
      have sameId : (row.ageOut turn.hours).id = row.id := rfl
      refine (givesUp_iff_of_put locked sameId rfl).trans ⟨?_, ?_⟩
      · rintro ⟨rfl, _⟩
        exact ⟨locked, old, .inl aged⟩
      · rintro ⟨same, _⟩
        exact ⟨(Option.some.inj (locked.symm.trans same)).symm, .inl rfl⟩
  next inTime =>
  split
  · next unsent =>
    refine quiet ?_
    rintro ⟨_, _, aged | ⟨_, handle, _⟩⟩
    · exact inTime aged
    · exact handle unsent
  next handle =>
  split
  · next raised =>
    refine quiet ?_
    rintro ⟨_, _, aged | ⟨_, _, _, heard, _⟩⟩
    · exact inTime aged
    · cases raised.symm.trans heard
  next upstream heard =>
  have only (answer : AdapterStatus) (also : turn.upstream = .ok answer) : upstream = answer :=
    Except.ok.inj (heard.symm.trans also)
  split
  · next known =>
    refine quiet ?_
    rintro ⟨_, _, aged | ⟨_, _, answer, also, news, _⟩⟩
    · exact inTime aged
    · rw [only answer also] at known
      exact news known
  next news =>
  split
  · split
    · next free => exact unlocked free
    · next row locked =>
      have bad : (row.conclude upstream now).status = .failed ∨ (row.conclude upstream now).status = .cancelled ↔
          upstream = .failed ∨ upstream = .cancelled := by
        cases upstream <;> simp [Payment.conclude, AdapterStatus.toPaymentStatus]
      have sameId : (row.conclude upstream now).id = row.id := rfl
      refine (settle_givesUp_iff locked sameId _ _ _).trans ?_
      rw [bad]
      constructor
      · rintro ⟨rfl, ended⟩
        exact ⟨locked, old, .inr ⟨inTime, handle, upstream, heard, news, ended⟩⟩
      · rintro ⟨same, _, aged | ⟨_, _, answer, also, _, ended⟩⟩
        · exact absurd aged inTime
        · rw [only answer also]
          exact ⟨(Option.some.inj (locked.symm.trans same)).symm, ended⟩
  · next moving =>
    refine quiet ?_
    rintro ⟨_, _, aged | ⟨_, _, answer, also, _, ended⟩⟩
    · exact inTime aged
    · rw [only answer also] at moving
      rcases ended with rfl | rfl <;> exact moving (by decide)

theorem reconcile_turnAt {sweep : Nat} {now : Time} {candidate : Candidate} (current : store.turnAt sweep = some (now, candidate))
    (turn : ReconcileTurn) : ∃ sweeps, runRailLabel config store (.reconcile sweep turn) =
      { store with sweeps := sweeps }.reconcilePayment config now candidate turn := by
  obtain ⟨found, inSweeps, head⟩ := Option.bind_eq_some_iff.mp current
  obtain ⟨first, next, same⟩ := Option.map_eq_some_iff.mp head
  cases same
  obtain ⟨rest, candidates⟩ := List.head?_eq_some_iff.mp next
  refine ⟨store.sweeps.set sweep ⟨found.now, rest⟩, ?_⟩
  simp only [runRailLabel, nextTurn, inSweeps, candidates]

theorem reconcile_idle {sweep : Nat} (none' : store.turnAt sweep = none) (turn : ReconcileTurn) :
    runRailLabel config store (.reconcile sweep turn) = store := by
  simp only [runRailLabel, nextTurn]
  split
  · rfl
  next found inSweeps =>
  split
  · rfl
  next candidate rest candidates =>
  rw [turnAt, inSweeps, Option.bind_some, candidates] at none'
  cases none'

theorem reconcilePayment_aged {now : Time} {candidate : Candidate} (locked : store.lockInFlight candidate.payment = some row)
    (old : ¬candidate.age now < config.settleAfter) (aged : config.payments.reconcileMaxAge < candidate.age now)
    (turn : ReconcileTurn) : (store.reconcilePayment config now candidate turn).base.exceptions =
      if turn.flagged then flagAgedOutPayment store.base.exceptions row else store.base.exceptions := by
  unfold Candidate.age at old aged
  simp only [reconcilePayment, if_neg old, if_pos aged, locked]
  rfl

end RailStore

/-- The flag of an aged-out payment blocks its invoice, new or not. -/
theorem flagAgedOutPayment_blocks (exceptions : List InvoiceException) (payment : Payment) :
    ReconciliationBlocks (flagAgedOutPayment exceptions payment) payment.invoiceId := by
  simp only [flagAgedOutPayment]
  split
  · next held =>
    obtain ⟨exception, member, holds⟩ := List.any_eq_true.mp held
    refine ⟨_, List.mem_map_of_mem member, ?_⟩
    rw [if_pos holds]
    simp only [Bool.and_eq_true, Bool.or_eq_true, beq_iff_eq] at holds
    obtain ⟨⟨invoice, type⟩, status⟩ := holds
    refine ⟨type, ?_⟩
    rcases status with status | status <;>
      simp [InvoiceException.isBlocking, paymentBlockingExceptionTypes, invoice, type, status]
  · refine ⟨_, List.mem_append_right _ (List.mem_singleton.mpr rfl), rfl, ?_⟩
    simp [InvoiceException.isBlocking, paymentBlockingExceptionTypes]

/-- One turn: what it gives up on, it gives up on for a good reason exactly when it polls well. -/
theorem reconcilePayment_failsSafe_iff (config : ReconcilerConfig) (store : RailStore) (now : Time) (candidate : Candidate)
    (provider : Provider) (adapter : AdapterConfig) (answers : RailAnswers) (hours : String) (flagged : Bool)
    (report : SettlementReport) :
    let after := store.reconcilePayment config now candidate (.asking provider adapter answers hours flagged report)
    (∀ payment, GivesUpOn store.base after.base payment → GoodReason config now candidate provider answers after payment) ↔
      ∀ payment, store.lockInFlight candidate.payment = some payment → ¬candidate.age now < config.settleAfter →
        TurnsWell config store now candidate provider adapter answers flagged payment := by
  intro after
  have gives (payment : Payment) : GivesUpOn store.base after.base payment ↔ _ :=
    RailStore.reconcilePayment_givesUp_iff now candidate (.asking provider adapter answers hours flagged report)
  constructor
  · intro safe payment locked old
    unfold TurnsWell
    split
    · next aged =>
      obtain ⟨_, blocks⟩ | ⟨inTime, _⟩ := safe payment ((gives payment).mpr ⟨locked, old, .inl aged⟩)
      · rw [RailStore.reconcilePayment_aged locked old aged] at blocks
        cases flagged with
        | true => exact .inl rfl
        | false => exact .inr blocks
      · exact absurd aged inTime
    · next inTime =>
      intro handle known troubled
      have answer : (ReconcileTurn.asking provider adapter answers hours flagged report).upstream = .ok .failed :=
        trouble_failed troubled
      have news : AdapterStatus.failed.toPaymentStatus ≠ candidate.knownStatus := known.symm
      obtain ⟨aged, _⟩ | ⟨_, reported⟩ := safe payment
        ((gives payment).mpr ⟨locked, old, .inr ⟨inTime, handle, _, answer, news, .inl rfl⟩⟩)
      · exact absurd aged inTime
      · exact reported
  · intro well payment gave
    obtain ⟨locked, old, why⟩ := (gives payment).mp gave
    have condition := well payment locked old
    unfold TurnsWell at condition
    by_cases aged : config.payments.reconcileMaxAge < candidate.age now
    · refine .inl ⟨aged, ?_⟩
      rw [if_pos aged] at condition
      rw [RailStore.reconcilePayment_aged locked old aged]
      cases flagged with
      | true => exact flagAgedOutPayment_blocks store.base.exceptions payment
      | false => exact condition.resolve_left Bool.false_ne_true
    · refine .inr ⟨aged, ?_⟩
      rw [if_neg aged] at condition
      rcases why with past | ⟨_, handle, upstream, answer, news, bad⟩
      · exact absurd past aged
      · cases troubled : trouble provider adapter answers with
        | true =>
          cases Except.ok.inj ((trouble_failed troubled).symm.trans answer)
          exact condition handle (Ne.symm news) troubled
        | false => exact poll_reported troubled answer bad

/-- Whatever the processor answers, a turn gives up on a payment for a good reason exactly when the poll
meets no trouble of its own and the flag of an aged-out payment lands. -/
theorem polling_fails_safe_iff (config : ReconcilerConfig) (store : RailStore) (sweep : Nat) (provider : Provider)
    (adapter : AdapterConfig) (answers : RailAnswers) (hours : String) (flagged : Bool) (report : SettlementReport) :
    FailsSafe config store sweep provider answers
        (runRailLabel config store (.reconcile sweep (.asking provider adapter answers hours flagged report))) ↔
      PollsWell config store sweep provider adapter answers flagged := by
  cases current : store.turnAt sweep with
  | none =>
    rw [RailStore.reconcile_idle current]
    constructor
    · intro _ now candidate payment at'
      cases current.symm.trans at'
    · exact fun _ payment gives => absurd gives (RailStore.not_givesUp_of_same rfl)
  | some turn =>
    obtain ⟨now, candidate⟩ := turn
    obtain ⟨sweeps, after⟩ : ∃ sweeps, runRailLabel config store _ = _ :=
      RailStore.reconcile_turnAt current (.asking provider adapter answers hours flagged report)
    have each := reconcilePayment_failsSafe_iff config { store with sweeps := sweeps } now candidate provider adapter answers
      hours flagged report
    rw [after]
    constructor
    · intro safe now' candidate' payment at' locked old
      cases current.symm.trans at'
      refine each.mp (fun other gives => ?_) payment locked old
      obtain ⟨_, _, at'', _, good⟩ := safe other gives
      cases current.symm.trans at''
      exact good
    · intro well payment gives
      have good := each.mpr (fun other => well now candidate other current) payment gives
      refine ⟨now, candidate, current, ?_, good⟩
      have here : GivesUpOn (RailStore.base { store with sweeps := sweeps }) _ payment := gives
      obtain ⟨locked, _⟩ := (RailStore.reconcilePayment_givesUp_iff now candidate _).mp here
      exact (RailStore.lockInFlight_found locked).2.1.symm

/-- An order is in flight when the sweep comes, well before its maximum age. -/
def sweptStore : RailStore := (railMachine ⟨⟨none, 100⟩, 1⟩).exec (.approved [1]) (orderedRun ++ [.beginSweep 50])

/-- The processor is up for its token only. -/
def outage : RailAnswers := ⟨some "token", .error .requestError, none, .ok true, .ok (.replying 503 .null)⟩

/-- Nobody is asked. -/
def unasked : RailAnswers := ⟨none, .error .requestError, none, .ok true, .error .connectTimeout⟩

/-- Trouble on the way to the status of the order, with nothing reported, is taken for its failure. -/
theorem sweptStore_failsOpen {provider : Provider} {adapter : AdapterConfig} {answers : RailAnswers}
    (troubled : trouble provider adapter answers = true) (silent : ¬ReportsTerminal provider answers) :
    ¬FailsSafe ⟨⟨none, 100⟩, 1⟩ sweptStore 0 provider answers
      (runRailLabel ⟨⟨none, 100⟩, 1⟩ sweptStore (.reconcile 0 (.asking provider adapter answers "50.0" true none))) := by
  have current : sweptStore.turnAt 0 = some (50, ⟨1, .submitted, some 0, some "order-1"⟩) := by decide +kernel
  have standing : (sweptStore.lockInFlight 1).isSome = true := by decide +kernel
  obtain ⟨payment, locked⟩ := Option.isSome_iff_exists.mp standing
  have answer : (ReconcileTurn.asking provider adapter answers "50.0" true none).upstream = .ok .failed := trouble_failed troubled
  obtain ⟨sweeps, after⟩ : ∃ sweeps, runRailLabel ⟨⟨none, 100⟩, 1⟩ sweptStore _ = _ :=
    RailStore.reconcile_turnAt current (.asking provider adapter answers "50.0" true none)
  rw [after]
  intro safe
  have here : RailStore.lockInFlight { sweptStore with sweeps := sweeps } 1 = some payment := locked
  have gives : GivesUpOn (RailStore.base { sweptStore with sweeps := sweeps })
      (RailStore.reconcilePayment ⟨⟨none, 100⟩, 1⟩ _ 50 ⟨1, .submitted, some 0, some "order-1"⟩ _).base payment :=
    (RailStore.reconcilePayment_givesUp_iff 50 _ _).mpr
      ⟨here, by decide, .inr ⟨by decide, by decide, .failed, answer, by decide, .inl rfl⟩⟩
  obtain ⟨_, _, at', _, ⟨aged, _⟩ | ⟨_, reported⟩⟩ := safe payment gives
  · cases current.symm.trans at'
    exact absurd aged (by decide)
  · exact silent reported

/-- An outage of the processor, and a key that is gone, each end the order as failed. -/
theorem polling_fails_open :
    ¬FailsSafe ⟨⟨none, 100⟩, 1⟩ sweptStore 0 .dwolla outage (runRailLabel ⟨⟨none, 100⟩, 1⟩ sweptStore
      (.reconcile 0 (.asking .dwolla ⟨"", "id", "secret"⟩ outage "50.0" true none))) ∧
    ¬FailsSafe ⟨⟨none, 100⟩, 1⟩ sweptStore 0 .checkeeper unasked (runRailLabel ⟨⟨none, 100⟩, 1⟩ sweptStore
      (.reconcile 0 (.asking .checkeeper ⟨"", "", ""⟩ unasked "50.0" true none))) := by
  refine ⟨sweptStore_failsOpen (by decide) ?_, sweptStore_failsOpen (by decide) ?_⟩
  · rintro ⟨response, status, answered, reported, _⟩
    cases answered
    cases reported
  · rintro ⟨response, status, answered, _⟩
    cases answered

end Payables
