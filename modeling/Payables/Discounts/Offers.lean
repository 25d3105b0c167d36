import Mathlib.Data.List.Sort
import Payables.Agents.Orders
import Payables.Approval.Gates
import Payables.Lib.Column
import Payables.Lib.Raising
import Payables.Lib.Sessions
import Payables.Payments.Model

namespace Payables.Discounts
open Lib

/-- A `date`, as its proleptic ordinal. -/
abbrev Day := Int

/-- The UTC date of a timestamp. -/
def dayOf (time : Time) : Day := 719163 + time / 86400000000

/-- `date + timedelta(days)`, which stops at the last date. -/
def addDays (day : Day) (days : Nat) : Except Raised Day :=
  if day + days ≤ 3652059 then .ok (day + days) else .error (.uncaught "OverflowError")

structure DiscountTier where
  days : Nat
  percent : ℚ
  deriving DecidableEq

inductive OfferStatus
  | offered
  | accepted
  | captured
  | declined
  | expired
  deriving DecidableEq

def OfferStatus.text : OfferStatus → String
  | offered => "offered"
  | accepted => "accepted"
  | captured => "captured"
  | declined => "declined"
  | expired => "expired"

inductive OfferScope
  | invoice
  | vendor
  deriving DecidableEq

structure DiscountOffer where
  scope : OfferScope
  invoiceId : Option InvoiceId
  status : OfferStatus
  tiers : List DiscountTier
  baseAmount : ℚ
  currency : String
  validFrom : Option Day
  validUntil : Option Day
  createdAt : Time
  acceptedTier : Option DiscountTier
  acceptedAt : Option Time
  acceptedBy : Option UserId
  capturedAmount : Option ℚ
  capturedAt : Option Time
  deriving DecidableEq

section Tiers

/-- `normalize_tier`, of a tier whose days are a natural number. Its error is a `ValueError`. -/
def normalizeTier (tier : DiscountTier) : Except String DiscountTier :=
  if 0 < tier.percent ∧ tier.percent < 100 then .ok { tier with percent := quantizeMoney tier.percent }
  else .error s!"tier percent must be in (0, 100), got {formatMoney tier.percent}"

/-- `parse_tiers`. -/
def parseTiers (tiers : List DiscountTier) : Except String (List DiscountTier) :=
  if tiers = [] then .error "at least one tier is required"
  else do
    let normalized ← tiers.mapM normalizeTier
    match normalized.find? fun tier => 1 < normalized.countP fun other => other.days = tier.days with
    | some tier => .error s!"duplicate tier days: {tier.days}"
    | none => .ok (normalized.insertionSort fun one other => one.days ≤ other.days)

def selectTier (tiers : List DiscountTier) (tierDays : Nat) : Option DiscountTier :=
  tiers.find? fun tier => tier.days = tierDays

/-- `offer_reference_date`. -/
def DiscountOffer.referenceDate (offer : DiscountOffer) : Day := offer.validFrom.getD (dayOf offer.createdAt)

/-- `_tier_achievable`. -/
def tierAchievable (tier : DiscountTier) (asOf : Day) (validUntil : Option Day) (ref : Day) : Except Raised Bool :=
  if validUntil.any (· < asOf) then .ok false
  else do
    let deadline ← addDays ref tier.days
    .ok (asOf ≤ deadline)

/-- The loop of `best_tier_for_date`, with the best tier so far. -/
def bestTier (asOf : Day) (validUntil : Option Day) (ref : Day) :
    Option DiscountTier → List DiscountTier → Except Raised (Option DiscountTier)
  | best, [] => .ok best
  | best, tier :: rest => do
    let achievable ← tierAchievable tier asOf validUntil ref
    if achievable ∧ best.all (·.percent < tier.percent) then bestTier asOf validUntil ref (some tier) rest
    else bestTier asOf validUntil ref best rest

def bestTierForDate (tiers : List DiscountTier) (asOf : Day) (validUntil : Option Day) (ref : Day) :
    Except Raised (Option DiscountTier) :=
  if validUntil.any (· < asOf) then .ok none else bestTier asOf validUntil ref none tiers

def selectTierForDate (tiers : List DiscountTier) (tierDays : Nat) (asOf : Day) (validUntil : Option Day) (ref : Day) :
    Except Raised (Option DiscountTier) :=
  match selectTier tiers tierDays with
  | none => .ok none
  | some tier => do
    let achievable ← tierAchievable tier asOf validUntil ref
    .ok (if achievable then some tier else none)

end Tiers

section Transitions

def hasLapsed (offer : DiscountOffer) (asOf : Day) : Bool := offer.status = .offered && offer.validUntil.any (· < asOf)

def discountSavings (baseAmount : ℚ) (tier : DiscountTier) : ℚ := quantizeMoney (baseAmount * tier.percent / 100)

/-- The transitions change the offer of a session. Their error is a `ValueError`. -/
def acceptOffer (offer : DiscountOffer) (tier : DiscountTier) (actorId : Option UserId) (now : Time) :
    Except String DiscountOffer :=
  if offer.status ≠ .offered then
    .error s!"cannot accept an offer in status \x27{offer.status.text}\x27 (must be \x27offered\x27)"
  else do
    let acceptedTier ← normalizeTier tier
    .ok { offer with acceptedTier := some acceptedTier, acceptedAt := some now, acceptedBy := actorId, status := .accepted }

def declineOffer (offer : DiscountOffer) (asOf : Day) : Except String DiscountOffer :=
  if hasLapsed offer asOf then .error "cannot decline an offer whose validity window has closed (expired)"
  else if offer.status ≠ .offered then
    .error s!"cannot decline an offer in status \x27{offer.status.text}\x27 (must be \x27offered\x27)"
  else .ok { offer with status := .declined }

def markCaptured (offer : DiscountOffer) (capturedAmount : ℚ) (now : Time) : Except String DiscountOffer :=
  if offer.status ≠ .accepted then
    .error s!"cannot capture an offer in status \x27{offer.status.text}\x27 (must be \x27accepted\x27)"
  else .ok { offer with capturedAmount := some (quantizeMoney capturedAmount), capturedAt := some now, status := .captured }

/-- `expire_if_past`, with whether it changed the status. -/
def expireIfPast (offer : DiscountOffer) (asOf : Day) : DiscountOffer × Bool :=
  if hasLapsed offer asOf then ({ offer with status := .expired }, true) else (offer, false)

end Transitions

/-- The AP side or the supplier's portal. -/
inductive OfferSide
  | payer (userId : UserId)
  | vendor
  deriving DecidableEq

def OfferSide.actorId : OfferSide → Option UserId
  | payer userId => some userId
  | vendor => none

inductive OfferAction
  | created
  | accepted
  | acceptedByVendor
  | declined
  | declinedByVendor
  | expired
  | captured
  deriving DecidableEq

def OfferAction.text : OfferAction → String
  | created => "discount_offer.created"
  | accepted => "discount_offer.accepted"
  | acceptedByVendor => "discount_offer.accepted_by_vendor"
  | declined => "discount_offer.declined"
  | declinedByVendor => "discount_offer.declined_by_vendor"
  | expired => "discount_offer.expired"
  | captured => "discount_offer.captured"

/-- A row of the audit trail, with the part of its details that the actions share. -/
structure OfferAudit where
  action : OfferAction
  actorId : Option UserId
  tier : Option DiscountTier
  capturedAmount : Option ℚ
  deriving DecidableEq

def OfferSide.acceptance (side : OfferSide) (tier : Option DiscountTier) : OfferAudit :=
  match side with
  | payer userId => ⟨.accepted, some userId, tier, none⟩
  | vendor => ⟨.acceptedByVendor, none, tier, none⟩

def OfferSide.refusal : OfferSide → OfferAudit
  | payer userId => ⟨.declined, some userId, none, none⟩
  | vendor => ⟨.declinedByVendor, none, none, none⟩

/-- A session that has changed the offer it loaded, with the audit row it has added. -/
structure OfferCall where
  loaded : DiscountOffer
  edited : DiscountOffer
  entry : OfferAudit

/-- The UPDATE of an offer over what it is by now. -/
def DiscountOffer.flush (loaded edited current : DiscountOffer) : DiscountOffer :=
  { current with
    status := writeBack loaded.status edited.status current.status
    acceptedTier := writeBack loaded.acceptedTier edited.acceptedTier current.acceptedTier
    acceptedAt := writeBack loaded.acceptedAt edited.acceptedAt current.acceptedAt
    acceptedBy := writeBack loaded.acceptedBy edited.acceptedBy current.acceptedBy
    capturedAmount := writeBack loaded.capturedAmount edited.capturedAmount current.capturedAmount
    capturedAt := writeBack loaded.capturedAt edited.capturedAt current.capturedAt }

structure OfferCreate where
  scope : OfferScope
  invoiceId : Option InvoiceId
  tiers : List DiscountTier
  baseAmount : ℚ
  currency : String
  validFrom : Option Day
  validUntil : Option Day

/-- A payment of an invoice that has completed. -/
structure SettledPayment where
  invoiceId : InvoiceId
  amount : ℚ
  invoiceCurrency : String

/-- The clock is read twice: `today` for the window, then `now` for the stamp. -/
inductive OfferArrival
  | create (body : OfferCreate) (now : Time)
  | accept (side : OfferSide) (tierDays : Option Nat) (today : Day) (now : Time)
  | decline (side : OfferSide) (today : Day)
  | expire (today : Day)
  | capture (actorId : Option UserId) (payment : SettledPayment) (now : Time)

/-- An offer and its audit trail. -/
structure OfferTables where
  offer : Option DiscountOffer
  audit : List OfferAudit

/-- The part of `accept_offer` that picks the tier. -/
def pickTier (offer : DiscountOffer) (tierDays : Option Nat) (today : Day) : Except Raised DiscountTier :=
  match tierDays with
  | some days => do
    match ← selectTierForDate offer.tiers days today offer.validUntil offer.referenceDate with
    | some tier => .ok tier
    | none => .error (.http 422 "No tier matches the requested days, or its window has closed")
  | none => do
    match ← bestTierForDate offer.tiers today offer.validUntil offer.referenceDate with
    | some tier => .ok tier
    | none => .error (.http 409 "Offer has no capturable tier today")

/-- A `ValueError` of a transition, as the endpoints answer it. -/
def conflicting {α : Type} : Except String α → Except Raised α
  | .ok value => .ok value
  | .error detail => .error (.http 409 detail)

/-- `accept_offer` up to its flush. -/
def acceptCall (offer : DiscountOffer) (side : OfferSide) (tierDays : Option Nat) (today : Day) (now : Time) :
    Except Raised OfferCall := do
  let tier ← pickTier offer tierDays today
  let edited ← conflicting (acceptOffer offer tier side.actorId now)
  .ok ⟨offer, edited, side.acceptance edited.acceptedTier⟩

/-- `decline_offer` up to its flush. -/
def declineCall (offer : DiscountOffer) (side : OfferSide) (today : Day) : Except Raised OfferCall := do
  let edited ← conflicting (declineOffer offer today)
  .ok ⟨offer, edited, side.refusal⟩

/-- `capture_offers_for_settled_payment` on one offer, up to the flush of its caller. -/
def captureCall (offer : DiscountOffer) (actorId : Option UserId) (payment : SettledPayment) (now : Time) : Option OfferCall :=
  if offer.invoiceId = some payment.invoiceId ∧ offer.scope = .invoice ∧ offer.status = .accepted then
    match offer.acceptedTier with
    | none => none
    | some tier =>
      if pyUpper offer.currency ≠ pyUpper payment.invoiceCurrency then none
      else
        let savings := discountSavings offer.baseAmount tier
        if quantizeHalfEven payment.amount ≠ quantizeHalfEven (offer.baseAmount - savings) then none
        else
          match markCaptured offer savings now with
          | .ok edited => some ⟨offer, edited, ⟨.captured, actorId, none, edited.capturedAmount⟩⟩
          | .error _ => none
  else none

namespace OfferTables

def empty : OfferTables := ⟨none, []⟩

variable (tables : OfferTables)

/-- `create_offer`. A second create makes another offer. -/
def create (body : OfferCreate) (now : Time) : OfferTables :=
  match tables.offer, parseTiers body.tiers with
  | none, .ok tiers =>
    { offer := some
        { scope := body.scope
          invoiceId := body.invoiceId
          status := .offered
          tiers := tiers
          baseAmount := body.baseAmount
          currency := pyUpper body.currency
          validFrom := body.validFrom
          validUntil := body.validUntil
          createdAt := now
          acceptedTier := none
          acceptedAt := none
          acceptedBy := none
          capturedAmount := none
          capturedAt := none }
      audit := tables.audit ++ [⟨.created, none, none, none⟩] }
  | _, _ => tables

/-- The expiry leg of the sweep, which claims the row by its status and holds it locked. -/
def expire (today : Day) : OfferTables :=
  match tables.offer with
  | some offer =>
    match expireIfPast offer today with
    | (edited, true) => ⟨some edited, tables.audit ++ [⟨.expired, none, none, none⟩]⟩
    | (_, false) => tables
  | none => tables

/-- A request on the offer that goes on to write, where it is not refused. -/
def load (call : DiscountOffer → Option OfferCall) : OfferTables × Option OfferCall := (tables, tables.offer.bind call)

def arrive : OfferArrival → OfferTables × Option OfferCall
  | .create body now => (tables.create body now, none)
  | .accept side tierDays today now => tables.load fun offer => (acceptCall offer side tierDays today now).toOption
  | .decline side today => tables.load fun offer => (declineCall offer side today).toOption
  | .expire today => (tables.expire today, none)
  | .capture actorId payment now => tables.load fun offer => captureCall offer actorId payment now

/-- The flush and the commit of a session. -/
def commit (call : OfferCall) : OfferTables :=
  match tables.offer with
  | some offer => ⟨some (DiscountOffer.flush call.loaded call.edited offer), tables.audit ++ [call.entry]⟩
  | none => tables

end OfferTables

/-- The requests on one offer. -/
def offerService : Service OfferTables OfferCall OfferArrival Unit where
  init tables := tables = .empty
  arrive tables arrival := tables.arrive arrival
  advance tables call _ := (tables.commit call, none)

end Payables.Discounts
