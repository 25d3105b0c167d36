import Payables.Cards.Lifecycle

namespace Payables
open Lib

namespace CardEvent

variable (terms : CardTerms) (event : CardEvent)

def authorizes : Bool := (classifyCardEvent event.eventType).1

def settles : Bool := (classifyCardEvent event.eventType).2

/-- The amount of a settlement, if it carries one. -/
def settledAmount : Option Decimal := normalizeChargeAmount terms event.amount none

/-- An authorization whose amount the column takes. -/
def charges : Bool := event.authorizes && (chargeOf terms event).isOk

end CardEvent

/-- The authorizations of a card report one amount, its settlements too, and no event reads as both. -/
structure EventsAgree (terms : CardTerms) (events : List CardEvent) : Prop where
  apart : ∀ event ∈ events, event.authorizes = true → event.settles = false
  charges : ∀ event ∈ events, ∀ other ∈ events, event.authorizes = true → other.authorizes = true →
    chargeOf terms event = chargeOf terms other
  settlements : ∀ event ∈ events, ∀ other ∈ events, event.settles = true → other.settles = true →
    event.settledAmount terms = other.settledAmount terms

/-- A settlement is not consumed ahead of the charge it settles, and a cancel is not written over a charge
that came after its read. -/
def InOrder (terms : CardTerms) (events : List CardEvent) (state : CardCase) : CardStep → Prop
  | .deliver event => event.settles = true → event.id ∉ state.claimed → (∃ other ∈ events, other.charges terms = true) →
      state.card.status ∉ VirtualCardStatus.chargeable
  | .readForCancel => True
  | .writeCancelled => state.cancel = .reading → state.card.status ∉ VirtualCardStatus.spent

instance (terms : CardTerms) (events : List CardEvent) (state : CardCase) :
    (step : CardStep) → Decidable (InOrder terms events state step)
  | .deliver event => inferInstanceAs (Decidable (event.settles = true → event.id ∉ state.claimed →
      (∃ other ∈ events, other.charges terms = true) → state.card.status ∉ VirtualCardStatus.chargeable))
  | .readForCancel => inferInstanceAs (Decidable True)
  | .writeCancelled => inferInstanceAs (Decidable (state.cancel = .reading → state.card.status ∉ VirtualCardStatus.spent))

/-- Every event of the card is delivered, at least once, and no other. -/
def Delivers (events : List CardEvent) (steps : List CardStep) : Prop :=
  ∀ event, .deliver event ∈ steps ↔ event ∈ events

/-- What is to hold of a card in every state: a charge that was recorded is not hidden under
`cancelled`, one rebate, and that on what was settled if a settlement says so. -/
structure ChargeAccounted (terms : CardTerms) (events : List CardEvent) (card : CardState) : Prop where
  uncancelled : card.amountCharged ≠ none → card.status ≠ .cancelled
  oneRebate : card.rebates.length ≤ 1
  onSettled : ∀ rebate ∈ card.rebates, ∀ event ∈ events, event.settles = true → ∀ amount, event.settledAmount terms = some amount →
    rebate.base = amount ∧ rebate.baseSource = .settled

/-- The four stages of a card whose events are processed in order. -/
inductive Standing (terms : CardTerms) (events : List CardEvent) (first : VirtualCardStatus) : CardCase → Prop
  | waiting {claimed : List String} {cancel : CancelRequest} (unconfirmed : cancel ≠ .confirmed)
      (uncharged : ∀ event ∈ events, event.id ∈ claimed → event.charges terms = false)
      (unsettled : ∀ event ∈ events, event.id ∈ claimed → event.settles = true → ∀ other ∈ events, other.charges terms = false) :
      Standing terms events first ⟨⟨first, none, []⟩, claimed, cancel⟩
  | charged {amount : Decimal} {claimed : List String} {cancel : CancelRequest} {source : CardEvent} (member : source ∈ events)
      (authorizes : source.authorizes = true) (charge : chargeOf terms source = .ok amount) (unconfirmed : cancel ≠ .confirmed)
      (unsettled : ∀ event ∈ events, event.id ∈ claimed → event.settles = false) :
      Standing terms events first ⟨⟨.charged, some amount, []⟩, claimed, cancel⟩
  | completed {amount : Decimal} {claimed : List String} {cancel : CancelRequest} {source settlement : CardEvent}
      {kept : Option Decimal} {rebate : CardRebate} (member : source ∈ events) (authorizes : source.authorizes = true)
      (charge : chargeOf terms source = .ok amount) (unconfirmed : cancel ≠ .confirmed) (also : settlement ∈ events)
      (settles : settlement.settles = true)
      (settled : settlementOf terms (settlement.settledAmount terms) (some amount) = .ok (kept, rebate)) :
      Standing terms events first ⟨⟨.completed, kept, [rebate]⟩, claimed, cancel⟩
  | cancelled {claimed : List String} : Standing terms events first ⟨⟨.cancelled, none, []⟩, claimed, .confirmed⟩

namespace VirtualCardStatus

theorem charged_unchargeable : charged ∉ chargeable := by decide

theorem completed_unchargeable : completed ∉ chargeable := by decide

theorem cancelled_unchargeable : cancelled ∉ chargeable := by decide

end VirtualCardStatus

open VirtualCardStatus (charged_unchargeable completed_unchargeable cancelled_unchargeable)

section
variable {terms : CardTerms} {events : List CardEvent} {first : VirtualCardStatus} {state : CardCase}

theorem settlementOf_base {settled authorized kept : Option Decimal} {rebate : CardRebate}
    (ok : settlementOf terms settled authorized = .ok (kept, rebate)) :
    rebate.base = (resolveRebateBase settled authorized).1 ∧ rebate.baseSource = (resolveRebateBase settled authorized).2 := by
  unfold settlementOf at ok
  cases rate : resolveRebateRate terms.rebateRate with
  | error => rw [rate] at ok; cases ok
  | ok rate' =>
    cases amount : rebateAmount (resolveRebateBase settled authorized).1 rate' with
    | error => simp only [rate, amount, bind, Except.bind] at ok; cases ok
    | ok amount' =>
      cases settled with
      | none =>
        simp only [rate, amount, bind, Except.bind, pure, Except.pure, Except.ok.injEq, Prod.mk.injEq] at ok
        rw [← ok.2]
        exact ⟨rfl, rfl⟩
      | some settled =>
        cases stored : storeCharge settled with
        | error => simp only [rate, amount, stored, Except.map, bind, Except.bind] at ok; cases ok
        | ok stored' =>
          simp only [rate, amount, stored, Except.map, bind, Except.bind, pure, Except.pure, Except.ok.injEq,
            Prod.mk.injEq] at ok
          rw [← ok.2]
          exact ⟨rfl, rfl⟩

theorem Standing.accounted (standing : Standing terms events first state) (agree : EventsAgree terms events) :
    ChargeAccounted terms events state.card := by
  cases standing with
  | waiting => exact ⟨fun charged => absurd rfl charged, Nat.zero_le 1, fun rebate member => nomatch member⟩
  | charged => exact ⟨fun _ => VirtualCardStatus.noConfusion, Nat.zero_le 1, fun rebate member => nomatch member⟩
  | cancelled => exact ⟨fun charged => absurd rfl charged, Nat.zero_le 1, fun rebate member => nomatch member⟩
  | @completed _ _ _ _ settlement _ rebate _ _ _ _ also settles settled =>
    refine ⟨fun _ => VirtualCardStatus.noConfusion, Nat.le_refl 1, fun other member event inEvents event_settles amount carries => ?_⟩
    have same := agree.settlements event inEvents settlement also event_settles settles
    rw [List.mem_singleton.mp member]
    have base := settlementOf_base settled
    rw [← same, carries] at base
    exact base

/-- What a processed event leaves behind. -/
structure Handled (terms : CardTerms) (events : List CardEvent) (event : CardEvent) (card : CardState) : Prop where
  charge : event.charges terms = true → card.status ∉ VirtualCardStatus.chargeable
  settlement : event.settles = true → (∃ other ∈ events, other.charges terms = true) →
    card.status ∉ VirtualCardStatus.chargeable ∧
      (card.status = .charged → ∀ answer, settlementOf terms (event.settledAmount terms) card.amountCharged ≠ .ok answer)

theorem charges_of {event : CardEvent} {amount : Decimal} (authorizes : event.authorizes = true)
    (charge : chargeOf terms event = .ok amount) : event.charges terms = true := by
  rw [CardEvent.charges, authorizes, charge]
  rfl

/-- An event in the stage before any charge. -/
theorem apply_waiting {event : CardEvent} (chargeable : first ∈ VirtualCardStatus.chargeable) :
    applyCardEvent terms ⟨first, none, []⟩ event =
      if event.authorizes = true then (chargeOf terms event).map fun amount => ⟨.charged, some amount, []⟩
      else .ok ⟨first, none, []⟩ := by
  have uncharged : first ≠ .charged := by
    rintro rfl
    exact absurd chargeable (by decide)
  simp only [applyCardEvent, CardEvent.authorizes, chargeable, uncharged, and_true, and_false, if_false]
  by_cases authorizes : (classifyCardEvent event.eventType).1 = true
  · simp only [authorizes, if_true]
    cases chargeOf terms event <;> rfl
  · simp only [authorizes]
    rfl

/-- An event on a card that is charged. -/
theorem apply_charged {event : CardEvent} (amount : Decimal) :
    applyCardEvent terms ⟨.charged, some amount, []⟩ event =
      if event.settles = true then
        (settlementOf terms (event.settledAmount terms) (some amount)).map fun answer => ⟨.completed, answer.1, [answer.2]⟩
      else .ok ⟨.charged, some amount, []⟩ := by
  simp only [applyCardEvent, CardEvent.settles, CardEvent.settledAmount, charged_unchargeable, and_false, if_false, and_true, if_true]
  by_cases settles : (classifyCardEvent event.eventType).2 = true
  · simp only [settles, if_true]
    cases settlementOf terms (normalizeChargeAmount terms event.amount none) (some amount) <;> rfl
  · simp only [settles]
    rfl

/-- Nothing changes a card that is completed or cancelled. -/
theorem apply_closed {event : CardEvent} {card : CardState} (closed : card.status ∈ [VirtualCardStatus.completed, .cancelled]) :
    applyCardEvent terms card event = .ok card := by
  have unchargeable : card.status ∉ VirtualCardStatus.chargeable := by
    rcases List.mem_pair.mp closed with status | status <;> rw [status] <;> decide
  have uncharged : card.status ≠ .charged := by
    rcases List.mem_pair.mp closed with status | status <;> rw [status] <;> decide
  simp only [applyCardEvent, unchargeable, uncharged, and_false, if_false]
  rfl

/-- The claims after a delivery, on the events that were not settled before. -/
theorem forall_claimed {P : CardEvent → Prop} (distinct : (events.map CardEvent.id).Nodup) {event : CardEvent}
    (member : event ∈ events) {claimed : List String} (holds : P event) (before : ∀ other ∈ events, other.id ∈ claimed → P other) :
    ∀ other ∈ events, other.id ∈ event.id :: claimed → P other := by
  intro other also listed
  rcases List.mem_cons.mp listed with same | old
  · rw [List.inj_on_of_nodup_map distinct also member same]
    exact holds
  · exact before other also old

/-- One delivery keeps the card in one of its stages. -/
theorem Standing.deliver (standing : Standing terms events first state) (chargeable : first ∈ VirtualCardStatus.chargeable)
    (distinct : (events.map CardEvent.id).Nodup) (agree : EventsAgree terms events) {event : CardEvent} (member : event ∈ events)
    (inOrder : InOrder terms events state (.deliver event)) : Standing terms events first (deliverCardEvent terms state event) := by
  unfold deliverCardEvent
  split
  · exact standing
  next fresh =>
  cases standing with
  | @waiting claimed cancel unconfirmed uncharged unsettled =>
    rw [apply_waiting chargeable]
    by_cases authorizes : event.authorizes = true
    · rw [if_pos authorizes]
      cases charge : chargeOf terms event with
      | error => exact .waiting unconfirmed uncharged unsettled
      | ok amount =>
        have charges := charges_of authorizes charge
        refine .charged member authorizes charge unconfirmed (forall_claimed distinct member (agree.apart event member authorizes) ?_)
        intro other also listed
        by_contra settles
        have free := unsettled other also listed (Bool.not_eq_false _ ▸ settles) event member
        exact Bool.false_ne_true (free.symm.trans charges)
    · rw [if_neg authorizes]
      refine .waiting unconfirmed (forall_claimed distinct member ?_ uncharged) (forall_claimed distinct member ?_ unsettled)
      · have none' : event.authorizes = false := Bool.not_eq_true _ ▸ authorizes
        rw [CardEvent.charges, none', Bool.false_and]
      · intro settles other also
        by_contra charging
        exact inOrder settles fresh ⟨other, also, Bool.not_eq_false _ ▸ charging⟩ chargeable
  | @charged amount claimed cancel source also authorizes charge unconfirmed unsettled =>
    rw [apply_charged]
    by_cases settles : event.settles = true
    · rw [if_pos settles]
      cases settled : settlementOf terms (event.settledAmount terms) (some amount) with
      | error => exact .charged also authorizes charge unconfirmed unsettled
      | ok answer => exact .completed also authorizes charge unconfirmed member settles settled
    · rw [if_neg settles]
      exact .charged also authorizes charge unconfirmed
        (forall_claimed distinct member (Bool.not_eq_true _ ▸ settles) unsettled)
  | completed also authorizes charge unconfirmed settlement settles settled =>
    rw [apply_closed (List.mem_cons_self)]
    exact .completed also authorizes charge unconfirmed settlement settles settled
  | cancelled =>
    rw [apply_closed (List.mem_cons_of_mem _ List.mem_cons_self)]
    exact .cancelled

/-- The events that are delivered are events of the card. -/
def CardStep.of (events : List CardEvent) : CardStep → Prop
  | .deliver event => event ∈ events
  | _ => True

theorem Standing.step (standing : Standing terms events first state) (chargeable : first ∈ VirtualCardStatus.chargeable)
    (distinct : (events.map CardEvent.id).Nodup) (agree : EventsAgree terms events) {step : CardStep} (own : step.of events)
    (inOrder : InOrder terms events state step) : Standing terms events first (runCardStep terms state step) := by
  cases step with
  | deliver event => exact standing.deliver chargeable distinct agree own inOrder
  | readForCancel =>
    simp only [runCardStep, readForCancel]
    split
    · exact standing
    have unconfirmed : (if state.card.status ∈ VirtualCardStatus.uncancellable then CancelRequest.refused else .reading) ≠
        .confirmed := by
      split <;> exact CancelRequest.noConfusion
    next idle =>
    cases standing with
    | waiting _ uncharged unsettled => exact .waiting unconfirmed uncharged unsettled
    | charged also authorizes charge _ unsettled => exact .charged also authorizes charge unconfirmed unsettled
    | completed also authorizes charge _ settlement settles settled =>
      exact .completed also authorizes charge unconfirmed settlement settles settled
    | cancelled => exact absurd CancelRequest.noConfusion idle
  | writeCancelled =>
    simp only [runCardStep, writeCancelled]
    split
    · exact standing
    next reading =>
    cases standing with
    | waiting => exact .cancelled
    | charged => exact absurd List.mem_cons_self (inOrder (not_not.mp reading))
    | completed => exact absurd (List.mem_cons_of_mem _ List.mem_cons_self) (inOrder (not_not.mp reading))
    | cancelled => exact .cancelled

/-- A card that cannot be charged any more never can, and a charge stays as it is until it is settled. -/
theorem step_unchargeable (spent : state.card.status ∉ VirtualCardStatus.chargeable) (step : CardStep) :
    (runCardStep terms state step).card.status ∉ VirtualCardStatus.chargeable ∧
      ((runCardStep terms state step).card.status = .charged → (runCardStep terms state step).card = state.card) := by
  cases step with
  | deliver event =>
    simp only [runCardStep, deliverCardEvent]
    split
    · exact ⟨spent, fun _ => rfl⟩
    split
    · next card applied =>
      simp only [applyCardEvent, spent, and_false, if_false] at applied
      split at applied
      · cases settled : settlementOf terms (normalizeChargeAmount terms event.amount none) state.card.amountCharged with
        | error => rw [settled] at applied; cases applied
        | ok answer =>
          rw [settled] at applied
          cases applied
          exact ⟨completed_unchargeable, VirtualCardStatus.noConfusion⟩
      · cases applied
        exact ⟨spent, fun _ => rfl⟩
    · exact ⟨spent, fun _ => rfl⟩
  | readForCancel =>
    simp only [runCardStep, readForCancel]
    split <;> exact ⟨spent, fun _ => rfl⟩
  | writeCancelled =>
    simp only [runCardStep, writeCancelled]
    split
    · exact ⟨spent, fun _ => rfl⟩
    · exact ⟨cancelled_unchargeable, VirtualCardStatus.noConfusion⟩

theorem Handled.step {event : CardEvent} (handled : Handled terms events event state.card) (step : CardStep) :
    Handled terms events event (runCardStep terms state step).card where
  charge := fun charges => (step_unchargeable (handled.charge charges) step).1
  settlement := by
    intro settles charging
    obtain ⟨spent, fails⟩ := handled.settlement settles charging
    have onward : (runCardStep terms state step).card.status ∉ VirtualCardStatus.chargeable ∧ _ := step_unchargeable spent step
    obtain ⟨stays, same⟩ := onward
    refine ⟨stays, fun charged => ?_⟩
    have unchanged := same charged
    rw [unchanged] at charged ⊢
    exact fails charged

/-- A delivery in order is handled, whether or not the event was claimed before. -/
theorem Standing.handles (standing : Standing terms events first state) (chargeable : first ∈ VirtualCardStatus.chargeable)
    (agree : EventsAgree terms events) {event : CardEvent} (member : event ∈ events)
    (inOrder : InOrder terms events state (.deliver event)) :
    Handled terms events event (deliverCardEvent terms state event).card := by
  have closed {card : CardState} (done : card.status ∈ [VirtualCardStatus.completed, .cancelled]) :
      Handled terms events event card := by
    have unchargeable : card.status ∉ VirtualCardStatus.chargeable := by
      rcases List.mem_pair.mp done with status | status <;> rw [status] <;> decide
    refine ⟨fun _ => unchargeable, fun _ _ => ⟨unchargeable, fun charged => ?_⟩⟩
    rw [charged] at done
    exact absurd done (by decide)
  unfold deliverCardEvent
  split
  · next claimed =>
    cases standing with
    | waiting _ uncharged unsettled =>
      refine ⟨fun charges => absurd charges ?_, fun settles charging => ?_⟩
      · rw [uncharged event member claimed]
        exact Bool.false_ne_true
      · obtain ⟨other, also, charges⟩ := charging
        exact absurd ((unsettled event member claimed settles other also).symm.trans charges) Bool.false_ne_true
    | charged _ _ _ _ unsettled =>
      refine ⟨fun _ => charged_unchargeable, fun settles _ => ?_⟩
      exact absurd ((unsettled event member claimed).symm.trans settles) Bool.false_ne_true
    | completed => exact closed List.mem_cons_self
    | cancelled => exact closed (List.mem_cons_of_mem _ List.mem_cons_self)
  next fresh =>
  cases standing with
  | waiting =>
    rw [apply_waiting chargeable]
    by_cases authorizes : event.authorizes = true
    · have single := agree.apart event member authorizes
      rw [if_pos authorizes]
      cases charge : chargeOf terms event with
      | error raised =>
        have refused : event.charges terms = false := by
          rw [CardEvent.charges, charge]
          exact Bool.and_false _
        exact ⟨fun charges => absurd (refused.symm.trans charges) Bool.false_ne_true, fun settles _ =>
          absurd (single.symm.trans settles) Bool.false_ne_true⟩
      | ok amount =>
        exact ⟨fun _ => charged_unchargeable, fun settles _ => absurd (single.symm.trans settles) Bool.false_ne_true⟩
    · rw [if_neg authorizes]
      refine ⟨fun charges => absurd (Bool.and_eq_true_iff.mp charges).1 authorizes, fun settles charging => ?_⟩
      exact absurd chargeable (inOrder settles fresh charging)
  | @charged amount =>
    rw [apply_charged]
    by_cases settles : event.settles = true
    · rw [if_pos settles]
      cases settled : settlementOf terms (event.settledAmount terms) (some amount) with
      | error raised =>
        refine ⟨fun _ => charged_unchargeable, fun _ _ => ⟨charged_unchargeable, fun _ answer ok => ?_⟩⟩
        cases settled.symm.trans ok
      | ok answer => exact closed List.mem_cons_self
    · rw [if_neg settles]
      exact ⟨fun _ => charged_unchargeable, fun settles' => absurd settles' settles⟩
  | completed =>
    rw [apply_closed List.mem_cons_self]
    exact closed List.mem_cons_self
  | cancelled =>
    rw [apply_closed (List.mem_cons_of_mem _ List.mem_cons_self)]
    exact closed (List.mem_cons_of_mem _ List.mem_cons_self)

/-- A run in order ends in one of the stages, with everything that was delivered handled. -/
theorem Standing.run (standing : Standing terms events first state) (chargeable : first ∈ VirtualCardStatus.chargeable)
    (distinct : (events.map CardEvent.id).Nodup) (agree : EventsAgree terms events) {steps : List CardStep}
    (own : ∀ event, .deliver event ∈ steps → event ∈ events)
    (inOrder : (cardLifecycle terms).Permits (InOrder terms events) state steps) :
    Standing terms events first ((cardLifecycle terms).exec state steps) ∧
      ∀ event, .deliver event ∈ steps ∨ Handled terms events event state.card →
        Handled terms events event ((cardLifecycle terms).exec state steps).card := by
  induction steps generalizing state with
  | nil => exact ⟨standing, fun event delivered => delivered.resolve_left List.not_mem_nil⟩
  | cons step rest ih =>
    have mine : step.of events := by
      cases step with
      | deliver event => exact own event List.mem_cons_self
      | readForCancel | writeCancelled => trivial
    obtain ⟨stands, handled⟩ := ih (standing.step chargeable distinct agree mine inOrder.1)
      (fun event later => own event (List.mem_cons_of_mem step later)) inOrder.2
    refine ⟨stands, fun event delivered => handled event ?_⟩
    rcases delivered with here | already
    · rcases List.mem_cons.mp here with rfl | later
      · exact .inr (standing.handles chargeable agree mine inOrder.1)
      · exact .inl later
    · exact .inr (already.step step)

/-- Two cards that handled the same events stand alike, unless only one of them was cancelled. -/
theorem Standing.determined {other : CardCase} (standing : Standing terms events first state)
    (stands : Standing terms events first other) (chargeable : first ∈ VirtualCardStatus.chargeable)
    (agree : EventsAgree terms events) (handled : ∀ event ∈ events, Handled terms events event state.card)
    (also : ∀ event ∈ events, Handled terms events event other.card) (outcome : state.cancel = other.cancel) :
    state.card = other.card := by
  cases standing with
  | waiting unconfirmed =>
    cases stands with
    | waiting => rfl
    | charged member authorizes charge =>
      exact absurd chargeable ((handled _ member).charge (charges_of authorizes charge))
    | completed member authorizes charge =>
      exact absurd chargeable ((handled _ member).charge (charges_of authorizes charge))
    | cancelled => exact absurd outcome unconfirmed
  | charged member authorizes charge unconfirmed =>
    cases stands with
    | waiting => exact absurd chargeable ((also _ member).charge (charges_of authorizes charge))
    | charged here authorizes' charge' =>
      have same := agree.charges _ member _ here authorizes authorizes'
      rw [charge, charge'] at same
      cases same
      rfl
    | completed here authorizes' charge' _ settlement settles settled =>
      have same := agree.charges _ member _ here authorizes authorizes'
      rw [charge, charge'] at same
      cases same
      exact absurd settled (((handled _ settlement).settlement settles ⟨_, member, charges_of authorizes charge⟩).2 rfl _)
    | cancelled => exact absurd outcome unconfirmed
  | completed member authorizes charge unconfirmed settlement settles settled =>
    cases stands with
    | waiting => exact absurd chargeable ((also _ member).charge (charges_of authorizes charge))
    | charged here authorizes' charge' =>
      have same := agree.charges _ member _ here authorizes authorizes'
      rw [charge, charge'] at same
      cases same
      exact absurd settled (((also _ settlement).settlement settles ⟨_, member, charges_of authorizes charge⟩).2 rfl _)
    | completed here authorizes' charge' _ settlement' settles' settled' =>
      have same := agree.charges _ member _ here authorizes authorizes'
      rw [charge, charge'] at same
      cases same
      have amount := agree.settlements _ settlement _ settlement' settles settles'
      rw [amount, settled'] at settled
      cases settled
      rfl
    | cancelled => exact absurd outcome unconfirmed
  | cancelled =>
    cases stands with
    | cancelled => rfl
    | waiting unconfirmed | charged _ _ _ unconfirmed | completed _ _ _ unconfirmed => exact absurd outcome.symm unconfirmed

end

/-- The life of a card does not depend on the order of its deliveries, as long as no settlement runs ahead of
its charge and no charge comes between the two halves of a cancel. -/
theorem delivery_order (terms : CardTerms) (events : List CardEvent) (distinct : (events.map CardEvent.id).Nodup)
    (agree : EventsAgree terms events) (start : CardCase) (fresh : (cardLifecycle terms).init start)
    (steps others : List CardStep) (delivered : Delivers events steps) (also : Delivers events others)
    (inOrder : (cardLifecycle terms).Permits (InOrder terms events) start steps)
    (inOrder' : (cardLifecycle terms).Permits (InOrder terms events) start others) :
    (∀ before after, steps = before ++ after → ChargeAccounted terms events ((cardLifecycle terms).exec start before).card) ∧
      (((cardLifecycle terms).exec start steps).cancel = ((cardLifecycle terms).exec start others).cancel →
        ((cardLifecycle terms).exec start steps).card = ((cardLifecycle terms).exec start others).card) := by
  obtain ⟨⟨first, amount, rebates⟩, claimed, cancel⟩ := start
  obtain ⟨⟨chargeable, rfl, rfl⟩, rfl, rfl⟩ := fresh
  have standing : Standing terms events first ⟨⟨first, none, []⟩, [], .idle⟩ :=
    .waiting CancelRequest.noConfusion (fun _ _ listed => absurd listed List.not_mem_nil) fun _ _ listed =>
      absurd listed List.not_mem_nil
  have own (event : CardEvent) (listed : .deliver event ∈ steps) : event ∈ events := (delivered event).mp listed
  have own' (event : CardEvent) (listed : .deliver event ∈ others) : event ∈ events := (also event).mp listed
  constructor
  · rintro before after rfl
    have ran := standing.run chargeable distinct agree (fun event listed => own event (List.mem_append_left after listed))
      inOrder.append.1
    exact ran.1.accounted agree
  · obtain ⟨stands, handled⟩ := standing.run chargeable distinct agree own inOrder
    obtain ⟨stands', handled'⟩ := standing.run chargeable distinct agree own' inOrder'
    exact stands.determined stands' chargeable agree (fun event member => handled event (.inl ((delivered event).mpr member)))
      fun event member => handled' event (.inl ((also event).mpr member))

/-- An authorization of 150.00 at a provider that counts in cents. -/
def authorizedEvent : CardEvent := ⟨"evt_1", "authorization.approved", .number (.finite 15000)⟩

/-- A settlement of 140.00. -/
def settledEvent : CardEvent := ⟨"evt_2", "transaction.settled", .number (.finite 14000)⟩

def lithicCard : CardTerms := ⟨"lithic", 150, "USD", .unset⟩

/-- A card as it is issued. -/
def issuedCard : CardCase := ⟨⟨.created, none, []⟩, [], .idle⟩

theorem delivery_order_redelivered :
    ((cardLifecycle lithicCard).exec issuedCard [.deliver authorizedEvent, .deliver settledEvent]).card =
      ((cardLifecycle lithicCard).exec issuedCard
        [.deliver authorizedEvent, .deliver authorizedEvent, .deliver settledEvent, .deliver authorizedEvent]).card := by
  have agree : EventsAgree lithicCard [authorizedEvent, settledEvent] := by
    refine ⟨by decide, ?_, ?_⟩
    · decide +kernel
    · decide +kernel
  refine (delivery_order lithicCard [authorizedEvent, settledEvent] (by decide) agree issuedCard
    ⟨⟨List.mem_cons_self, rfl, rfl⟩, rfl, rfl⟩ _ _
    (fun event => ?_) (fun event => ?_) ?_ ?_).2 ?_
  · simp only [List.mem_cons, CardStep.deliver.injEq, List.not_mem_nil, or_false]
  · simp only [List.mem_cons, CardStep.deliver.injEq, List.not_mem_nil, or_false]
    tauto
  · decide +kernel
  · decide +kernel
  · decide +kernel

/-- A settlement that comes first is consumed and lost; and a cancel that read the card before its charge
closes it over the charge. -/
theorem delivery_out_of_order :
    ((cardLifecycle lithicCard).exec issuedCard [.deliver authorizedEvent, .deliver settledEvent]).card.status = .completed ∧
      ((cardLifecycle lithicCard).exec issuedCard [.deliver settledEvent, .deliver authorizedEvent, .deliver settledEvent]).card.status = .charged ∧
      ((cardLifecycle lithicCard).exec issuedCard [.readForCancel, .deliver authorizedEvent, .writeCancelled]).card =
        ⟨.cancelled, some (.finite 150), []⟩ := by
  decide +kernel

end Payables
