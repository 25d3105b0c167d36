import Mathlib.Data.List.Infix
import Payables.Cards.Model
import Payables.Payments.MinorUnits

namespace Payables
open Lib

/-- What the `amount` of a card webhook reads as. -/
inductive EventAmount
  | falsy
  | unreadable
  | number (value : Decimal)
  deriving DecidableEq

/-- A card webhook, once its signature is verified and its card is found. -/
structure CardEvent where
  id : String
  eventType : String
  amount : EventAmount
  deriving DecidableEq

/-- The words that make an event neither a charge nor a settlement. -/
def declineWords : List String :=
  ["decline", "declined", "reversal", "reversed", "void", "return", "refund", "cancel", "expire"]

def mentions (text : List Char) (word : String) : Bool := decide (word.toList <:+: text)

/-- `_classify_card_event`: an authorization, a settlement. -/
def classifyCardEvent (eventType : String) : Bool × Bool :=
  let et := eventType.toList.map Char.toLower
  if declineWords.any (mentions et) then (false, false)
  else (mentions et "authorization" || mentions et "auth", mentions et "transaction" || mentions et "settlement")

/-- What an event does not write: columns of the card, and the rate in the settings. -/
structure CardTerms where
  cardProvider : String
  amountLimit : ℚ
  currency : String
  rebateRate : RawMoney

/-- `_normalize_charge_amount`. -/
def normalizeChargeAmount (terms : CardTerms) (amount : EventAmount) (fallback : Option Decimal) : Option Decimal :=
  match amount with
  | .falsy => fallback
  | .unreadable => fallback
  | .number value =>
    if terms.cardProvider ≠ "lithic" then some value
    else (minorUnitsToDecimal value terms.currency).orElse fun _ => fallback

/-- `_resolve_rebate_rate`. A rate that is no number raises in its comparison. -/
def resolveRebateRate : RawMoney → Except Raised ℚ
  | .unset => .ok (1 / 100)
  | .unparseable => .ok (1 / 100)
  | .number (.finite rate) => .ok (if rate < 0 ∨ 1 / 10 < rate then 1 / 100 else rate)
  | .number (.infinite _) => .ok (1 / 100)
  | .number .nan => .error (.uncaught "InvalidOperation")

inductive RebateBaseSource
  | settled
  | authorized
  | unknown
  deriving DecidableEq

/-- `resolve_rebate_base`. -/
def resolveRebateBase (settledAmount authorizedAmount : Option Decimal) : Decimal × RebateBaseSource :=
  match settledAmount, authorizedAmount with
  | some amount, _ => (amount, .settled)
  | none, some amount => if amount = .finite 0 then (.finite 0, .unknown) else (amount, .authorized)
  | none, none => (.finite 0, .unknown)

/-- `(base * rate).quantize(Decimal("0.01"), rounding=ROUND_HALF_UP)`. -/
def rebateAmount (base : Decimal) (rate : ℚ) : Except Raised Decimal :=
  match base with
  | .finite value => (quantizeCents (value * rate)).map .finite
  | .infinite _ => .error (.uncaught "InvalidOperation")
  | .nan => .ok .nan

/-- What the `NUMERIC(15, 2)` column of a charge makes of a figure. -/
def storeCharge : Decimal → Except Raised Decimal
  | .finite value => if |quantizeMoney value| < 10 ^ 13 then .ok (.finite (quantizeMoney value)) else .error (.uncaught "DataError")
  | .infinite _ => .error (.uncaught "DataError")
  | .nan => .ok .nan

/-- A rebate, with the base it was computed on, which only the audit row keeps. -/
structure CardRebate where
  amount : Decimal
  rate : ℚ
  base : Decimal
  baseSource : RebateBaseSource
  deriving DecidableEq

/-- What the events and a cancel write. -/
structure CardState where
  status : VirtualCardStatus
  amountCharged : Option Decimal
  rebates : List CardRebate
  deriving DecidableEq

/-- The statuses in which a card can be charged. -/
def VirtualCardStatus.chargeable : List VirtualCardStatus := [created, sent, active]

/-- What an authorization charges. -/
def chargeOf (terms : CardTerms) (event : CardEvent) : Except Raised Decimal :=
  storeCharge ((normalizeChargeAmount terms event.amount (some (.finite terms.amountLimit))).getD (.finite terms.amountLimit))

/-- The settlement branch: the amount the card keeps, and the rebate. -/
def settlementOf (terms : CardTerms) (settledAmount authorizedAmount : Option Decimal) :
    Except Raised (Option Decimal × CardRebate) := do
  let rate ← resolveRebateRate terms.rebateRate
  let base := resolveRebateBase settledAmount authorizedAmount
  let amount ← rebateAmount base.1 rate
  let charged ← match settledAmount with
    | none => .ok authorizedAmount
    | some settled => (storeCharge settled).map some
  return (charged, ⟨amount, rate, base.1, base.2⟩)

/-- The state change of `card_webhook`. `uq_card_rebates_virtual_card` keeps one rebate a card. -/
def applyCardEvent (terms : CardTerms) (card : CardState) (event : CardEvent) : Except Raised CardState :=
  let (isAuth, isSettled) := classifyCardEvent event.eventType
  if isAuth ∧ card.status ∈ VirtualCardStatus.chargeable then do
    let amount ← chargeOf terms event
    return { card with status := .charged, amountCharged := some amount }
  else if isSettled ∧ card.status = .charged then do
    let (charged, rebate) ← settlementOf terms (normalizeChargeAmount terms event.amount none) card.amountCharged
    return {
      status := .completed
      amountCharged := charged
      rebates := if card.rebates = [] then [rebate] else card.rebates }
  else return card

/-- How far the request of `cancel_card` is. -/
inductive CancelRequest
  | idle
  | reading
  | refused
  | confirmed
  deriving DecidableEq

/-- A card, the event ids that are claimed, and the one cancel request. -/
structure CardCase where
  card : CardState
  claimed : List String
  cancel : CancelRequest
  deriving DecidableEq

/-- One delivery, or one half of the cancel request. -/
inductive CardStep
  | deliver (event : CardEvent)
  | readForCancel
  | writeCancelled
  deriving DecidableEq

/-- `card_webhook`, under the lock of its card: an exception rolls back and releases the claim. -/
def deliverCardEvent (terms : CardTerms) (state : CardCase) (event : CardEvent) : CardCase :=
  if event.id ∈ state.claimed then state
  else
    match applyCardEvent terms state.card event with
    | .ok card => { state with card := card, claimed := event.id :: state.claimed }
    | .error _ => state

/-- The read of `cancel_card`, which takes no lock. -/
def readForCancel (state : CardCase) : CardCase :=
  if state.cancel ≠ .idle then state
  else { state with cancel := if state.card.status ∈ VirtualCardStatus.uncancellable then .refused else .reading }

/-- Its write, once the provider has confirmed. -/
def writeCancelled (state : CardCase) : CardCase :=
  if state.cancel ≠ .reading then state
  else { state with card := { state.card with status := .cancelled }, cancel := .confirmed }

def runCardStep (terms : CardTerms) (state : CardCase) : CardStep → CardCase
  | .deliver event => deliverCardEvent terms state event
  | .readForCancel => Payables.readForCancel state
  | .writeCancelled => Payables.writeCancelled state

/-- A card that can be charged and was not. -/
structure CardState.Fresh (card : CardState) : Prop where
  chargeable : card.status ∈ VirtualCardStatus.chargeable
  uncharged : card.amountCharged = none
  unrebated : card.rebates = []

/-- The life of one card from a fresh one. -/
def cardLifecycle (terms : CardTerms) : Machine CardCase CardStep where
  init state := state.card.Fresh ∧ state.claimed = [] ∧ state.cancel = .idle
  step := runCardStep terms

end Payables
