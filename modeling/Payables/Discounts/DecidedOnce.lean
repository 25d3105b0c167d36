import Payables.Discounts.Offers
import Payables.Money

namespace Payables.Discounts
open Lib

/-- The steps an offer may take. -/
def Moves (before later : OfferStatus) : Prop :=
  later = before ∨ (before, later) ∈
    [(OfferStatus.offered, OfferStatus.accepted), (.accepted, .captured), (.offered, .declined), (.offered, .expired)]
  deriving Decidable

theorem moves_accepted : Moves .offered .accepted := by decide

theorem moves_declined : Moves .offered .declined := by decide

theorem moves_expired : Moves .offered .expired := by decide

theorem moves_captured : Moves .accepted .captured := by decide

/-- An audit row of an acceptance, a refusal or an expiry. -/
def OfferAudit.decides (entry : OfferAudit) : Bool := entry.action ≠ .created && entry.action ≠ .captured

/-- How often the trail has the offer decided. -/
def OfferTables.decisions (tables : OfferTables) : Nat := tables.audit.countP OfferAudit.decides

/-- The offer and the window of the tier are open on a day. -/
def TierOpen (offer : DiscountOffer) (tier : DiscountTier) (day : Day) : Prop :=
  (∀ last ∈ offer.validUntil, day ≤ last) ∧ day ≤ offer.referenceDate + tier.days
  deriving Decidable

/-- The offer carries a tier whose acceptance is on the trail and was in time. -/
def Accepted (tables : OfferTables) (offer : DiscountOffer) : Prop :=
  ∃ tier time entry, offer.acceptedTier = some tier ∧ offer.acceptedAt = some time ∧ entry ∈ tables.audit ∧
    (entry.action = .accepted ∨ entry.action = .acceptedByVendor) ∧ entry.tier = some tier ∧
    TierOpen offer tier (dayOf time)

/-- The amount captured is the one of the tier it carries. -/
def CapturedAtTier (offer : DiscountOffer) : Prop :=
  ∃ tier, offer.acceptedTier = some tier ∧
    offer.capturedAmount = some (quantizeMoney (offer.baseAmount * tier.percent / 100))

/-- The tables after some parts of a run. -/
abbrev after (first : Served OfferTables OfferCall) (parts : List (Part OfferArrival Unit)) : OfferTables :=
  (offerService.machine.exec first parts).tables

/-- What a run does with an offer that is decided once. -/
structure DecidedOnce (first : Served OfferTables OfferCall) (parts : List (Part OfferArrival Unit)) : Prop where
  moves : ∀ before part later, parts = before ++ part :: later → ∀ offer, (after first before).offer = some offer →
    ∃ next, (after first (before ++ [part])).offer = some next ∧ Moves offer.status next.status
  captured : ∀ before later, parts = before ++ later → ∀ offer, (after first before).offer = some offer →
    offer.status = .captured → Accepted (after first before) offer ∧ CapturedAtTier offer
  audited : ∀ before later, parts = before ++ later → (after first before).decisions ≤ 1

/-- An acceptance reads the clock for its stamp on the day it has read for the window, or on one on which the window of
its tier is open still. -/
def StampedInTime (tables : OfferTables) : OfferArrival → Prop
  | .accept _ tierDays today now =>
    dayOf now = today ∨ ∀ offer ∈ tables.offer, ∀ tier ∈ (pickTier offer tierDays today).toOption,
      TierOpen offer tier (dayOf now)
  | _ => True

instance (tables : OfferTables) (arrival : OfferArrival) : Decidable (StampedInTime tables arrival) := by
  unfold StampedInTime
  split <;> infer_instance

/-- An acceptance or a refusal is committed on an offer that is still open. -/
def CommitsInTime (tables : OfferTables) (call : OfferCall) (_ : Unit) : Prop :=
  ∀ offer ∈ tables.offer, call.entry.decides → offer.status = .offered
  deriving Decidable

/-- What holds of an offer at each status. -/
def StatusInv (tables : OfferTables) (offer : DiscountOffer) : OfferStatus → Prop
  | .offered =>
    tables.decisions = 0 ∧ offer.acceptedTier = none ∧ offer.acceptedAt = none ∧ offer.capturedAmount = none
  | .accepted => tables.decisions = 1 ∧ Accepted tables offer ∧ offer.capturedAmount = none
  | .captured => tables.decisions = 1 ∧ Accepted tables offer ∧ CapturedAtTier offer
  | .declined => tables.decisions = 1
  | .expired => tables.decisions = 1

/-- What holds of the tables between the requests of a run in time. -/
structure OfferInv (tables : OfferTables) : Prop where
  unborn : tables.offer = none → tables.decisions = 0
  born : ∀ offer, tables.offer = some offer → StatusInv tables offer offer.status

/-- The sessions of the requests on an offer that is stored as `offer`. -/
inductive OfferCall.Sound (offer : DiscountOffer) : OfferCall → Prop
  | accept {loaded : DiscountOffer} (side : OfferSide) (tier : DiscountTier) (time : Time) :
      loaded.status = .offered → loaded.acceptedTier = none → loaded.acceptedAt = none →
      TierOpen offer tier (dayOf time) →
      Sound offer
        { loaded := loaded
          edited :=
            { loaded with
              acceptedTier := some tier, acceptedAt := some time, acceptedBy := side.actorId, status := .accepted }
          entry := side.acceptance (some tier) }
  | decline {loaded : DiscountOffer} (side : OfferSide) :
      loaded.status = .offered →
      Sound offer { loaded := loaded, edited := { loaded with status := .declined }, entry := side.refusal }
  | capture {loaded : DiscountOffer} (actorId : Option UserId) (tier : DiscountTier) (time : Time) :
      loaded.status = .accepted → loaded.acceptedTier = some tier → loaded.capturedAmount = none →
      offer.acceptedTier = some tier → offer.baseAmount = loaded.baseAmount →
      offer.status = .accepted ∨ offer.status = .captured →
      Sound offer
        { loaded := loaded
          edited :=
            { loaded with
              capturedAmount := some (quantizeMoney (discountSavings loaded.baseAmount tier))
              capturedAt := some time
              status := .captured }
          entry := ⟨.captured, actorId, none, some (quantizeMoney (discountSavings loaded.baseAmount tier))⟩ }

/-- What holds of a session in flight. -/
def OfferHeld (tables : OfferTables) (call : OfferCall) : Prop := ∃ offer, tables.offer = some offer ∧ call.Sound offer

section Windows

variable {tiers : List DiscountTier} {tier : DiscountTier} {asOf ref : Day} {validUntil : Option Day}

theorem addDays_eq_ok {day later : Day} {days : Nat} (adds : addDays day days = .ok later) : later = day + days := by
  rw [addDays] at adds
  split at adds
  · exact (Except.ok.inj adds).symm
  · cases adds

theorem open_of_tierAchievable (achievable : tierAchievable tier asOf validUntil ref = .ok true) :
    (∀ last ∈ validUntil, asOf ≤ last) ∧ asOf ≤ ref + tier.days := by
  rw [tierAchievable] at achievable
  split at achievable
  · cases achievable
  next running =>
    obtain ⟨deadline, adds, within⟩ := bind_eq_ok.mp achievable
    have before : asOf ≤ deadline := by simpa using Except.ok.inj within
    rw [addDays_eq_ok adds] at before
    refine ⟨fun last until_ => ?_, before⟩
    rw [Option.mem_def.mp until_] at running
    simpa using running

/-- What the loop picks is what it started from, or a tier in its window. -/
theorem achievable_of_bestTier {best : Option DiscountTier}
    (picks : bestTier asOf validUntil ref best tiers = .ok (some tier)) :
    best = some tier ∨ tierAchievable tier asOf validUntil ref = .ok true := by
  induction tiers generalizing best with
  | nil => exact .inl (Except.ok.inj picks)
  | cons first rest ih =>
    obtain ⟨achievable, window, next⟩ := bind_eq_ok.mp picks
    split at next
    next better =>
      rcases ih next with same | found
      · rw [← Option.some.inj same, window, better.1]
        exact .inr rfl
      · exact .inr found
    next => exact ih next

/-- The tier that an acceptance picks is open on the day it picks it. -/
theorem open_of_pickTier {offer : DiscountOffer} {tierDays : Option Nat} {today : Day}
    (picks : pickTier offer tierDays today = .ok tier) : TierOpen offer tier today := by
  refine open_of_tierAchievable ?_
  cases tierDays with
  | some days =>
    obtain ⟨found, selects, rest⟩ := bind_eq_ok.mp picks
    cases found with
    | none => cases rest
    | some chosen =>
      obtain rfl := Except.ok.inj rest
      rw [selectTierForDate] at selects
      split at selects
      · cases selects
      next named _ =>
        obtain ⟨achievable, window, chosen⟩ := bind_eq_ok.mp selects
        have answer := Except.ok.inj chosen
        split at answer
        next holds =>
          rw [← Option.some.inj answer, window, holds]
        next => cases answer
  | none =>
    obtain ⟨found, selects, rest⟩ := bind_eq_ok.mp picks
    cases found with
    | none => cases rest
    | some chosen =>
      obtain rfl := Except.ok.inj rest
      rw [bestTierForDate] at selects
      split at selects
      · cases selects
      · rcases achievable_of_bestTier selects with none | window
        · cases none
        · exact window

theorem days_of_normalizeTier {normalized : DiscountTier} (normalizes : normalizeTier tier = .ok normalized) :
    normalized.days = tier.days := by
  rw [normalizeTier] at normalizes
  split at normalizes
  · rw [← Except.ok.inj normalizes]
  · cases normalizes

end Windows

section Sessions

variable {offer : DiscountOffer} {call : OfferCall}

theorem conflicting_eq_ok {result : Except String α} {value : α} : conflicting result = .ok value ↔ result = .ok value := by
  cases result with
  | ok found => exact ⟨fun same => congrArg _ (Except.ok.inj same), fun same => congrArg _ (Except.ok.inj same)⟩
  | error detail => simp [conflicting]

theorem sound_of_acceptCall {side : OfferSide} {tierDays : Option Nat} {today : Day} {now : Time}
    (fresh : offer.status = .offered → offer.acceptedTier = none ∧ offer.acceptedAt = none)
    (stamped : dayOf now = today ∨ ∀ tier ∈ (pickTier offer tierDays today).toOption, TierOpen offer tier (dayOf now))
    (accepts : acceptCall offer side tierDays today now = .ok call) : call.Sound offer := by
  obtain ⟨picked, picks, rest⟩ := bind_eq_ok.mp accepts
  obtain ⟨edited, edits, done⟩ := bind_eq_ok.mp rest
  have window : TierOpen offer picked (dayOf now) := by
    rcases stamped with same | later
    · rw [same]
      exact open_of_pickTier picks
    · exact later picked (by rw [picks]; rfl)
  rw [conflicting_eq_ok, acceptOffer] at edits
  split at edits
  · cases edits
  next offered =>
    obtain ⟨tier, normalizes, same⟩ := bind_eq_ok.mp edits
    obtain rfl := Except.ok.inj same
    obtain rfl := Except.ok.inj done
    have status := not_not.mp offered
    have keeps : TierOpen offer tier (dayOf now) := by
      rw [TierOpen, days_of_normalizeTier normalizes]
      exact window
    exact .accept side tier now status (fresh status).1 (fresh status).2 keeps

theorem sound_of_declineCall {side : OfferSide} {today : Day} (declines : declineCall offer side today = .ok call) :
    call.Sound offer := by
  obtain ⟨edited, edits, done⟩ := bind_eq_ok.mp declines
  rw [conflicting_eq_ok, declineOffer] at edits
  split at edits
  · cases edits
  · split at edits
    · cases edits
    next offered =>
      obtain rfl := Except.ok.inj edits
      obtain rfl := Except.ok.inj done
      exact .decline side (not_not.mp offered)

theorem sound_of_captureCall {actorId : Option UserId} {payment : SettledPayment} {now : Time}
    (fresh : offer.status = .accepted → offer.capturedAmount = none)
    (captures : captureCall offer actorId payment now = some call) : call.Sound offer := by
  rw [captureCall] at captures
  split at captures
  next accepted =>
    split at captures
    · cases captures
    next tier carried =>
      split at captures
      · cases captures
      · simp only at captures
        split at captures
        · cases captures
        · rw [markCaptured, if_neg (not_not.mpr accepted.2.2)] at captures
          obtain rfl := Option.some.inj captures
          exact .capture actorId tier now accepted.2.2 carried (fresh accepted.2.2) carried rfl (.inl accepted.2.2)
  next => cases captures

theorem decides_acceptance (side : OfferSide) (tier : Option DiscountTier) : (side.acceptance tier).decides = true := by
  cases side <;> rfl

theorem decides_refusal (side : OfferSide) : side.refusal.decides = true := by
  cases side <;> rfl

/-- What an acceptance leaves of an open offer. -/
theorem flush_accept {loaded : DiscountOffer} (tier : DiscountTier) (time : Time) (actorId : Option UserId)
    (offered : loaded.status = .offered) (noTier : loaded.acceptedTier = none) (noStamp : loaded.acceptedAt = none) :
    DiscountOffer.flush loaded
        { loaded with acceptedTier := some tier, acceptedAt := some time, acceptedBy := actorId, status := .accepted } offer =
      { offer with
        acceptedTier := some tier
        acceptedAt := some time
        acceptedBy := writeBack loaded.acceptedBy actorId offer.acceptedBy
        status := .accepted } := by
  simp only [DiscountOffer.flush, offered, noTier, noStamp, writeBack, reduceCtorEq, if_false, if_true]

theorem flush_decline {loaded : DiscountOffer} (offered : loaded.status = .offered) :
    DiscountOffer.flush loaded { loaded with status := .declined } offer = { offer with status := .declined } := by
  simp only [DiscountOffer.flush, offered, writeBack, reduceCtorEq, if_false, if_true]

theorem flush_capture {loaded : DiscountOffer} (amount : ℚ) (time : Time) (accepted : loaded.status = .accepted)
    (noAmount : loaded.capturedAmount = none) :
    DiscountOffer.flush loaded
        { loaded with capturedAmount := some amount, capturedAt := some time, status := .captured } offer =
      { offer with
        capturedAmount := some amount
        capturedAt := writeBack loaded.capturedAt (some time) offer.capturedAt
        status := .captured } := by
  simp only [DiscountOffer.flush, accepted, noAmount, writeBack, reduceCtorEq, if_false, if_true]

end Sessions

section Steps

variable {tables : OfferTables} {call : OfferCall} {offer : DiscountOffer}

theorem commit_of_offer (present : tables.offer = some offer) :
    tables.commit call = ⟨some (DiscountOffer.flush call.loaded call.edited offer), tables.audit ++ [call.entry]⟩ := by
  rw [OfferTables.commit, present]

theorem decisions_append (audit : List OfferAudit) (offer : Option DiscountOffer) (entry : OfferAudit) :
    OfferTables.decisions ⟨offer, audit ++ [entry]⟩ =
      OfferTables.decisions ⟨offer, audit⟩ + if entry.decides then 1 else 0 := by
  rw [OfferTables.decisions, List.countP_append, List.countP_singleton]
  rfl

/-- A longer trail keeps the acceptance of an offer. -/
theorem Accepted.append {later : DiscountOffer} {other : Option DiscountOffer} (accepted : Accepted tables offer)
    (tier : later.acceptedTier = offer.acceptedTier) (time : later.acceptedAt = offer.acceptedAt)
    (window : later.validUntil = offer.validUntil ∧ later.referenceDate = offer.referenceDate) (entry : OfferAudit) :
    Accepted ⟨other, tables.audit ++ [entry]⟩ later := by
  obtain ⟨carried, stamp, found, hasTier, hasStamp, mem, action, listed, inWindow⟩ := accepted
  refine ⟨carried, stamp, found, tier.trans hasTier, time.trans hasStamp, List.mem_append_left _ mem, action, listed, ?_⟩
  rw [TierOpen, window.1, window.2]
  exact inWindow

theorem OfferInv.of_offer {audit : List OfferAudit} {next : DiscountOffer} {status : OfferStatus} (same : next.status = status)
    (holds : StatusInv ⟨some next, audit⟩ next status) : OfferInv ⟨some next, audit⟩ := by
  refine ⟨by simp, ?_⟩
  rintro _ ⟨rfl⟩
  rw [same]
  exact holds

theorem OfferInv.decisions_le (inv : OfferInv tables) : tables.decisions ≤ 1 := by
  cases present : tables.offer with
  | none => rw [inv.unborn present]; omega
  | some offer =>
    have holds := inv.born offer present
    cases status : offer.status <;> rw [status] at holds <;> simp only [StatusInv] at holds <;> omega

/-- A commit in time keeps the invariant and moves the offer one step at most. -/
theorem OfferInv.commit (inv : OfferInv tables) (present : tables.offer = some offer) (sound : call.Sound offer)
    (inTime : CommitsInTime tables call ()) :
    OfferInv (tables.commit call) ∧ ∃ next, (tables.commit call).offer = some next ∧ Moves offer.status next.status := by
  have holds := inv.born offer present
  have listed : tables.decisions = OfferTables.decisions ⟨tables.offer, tables.audit⟩ := rfl
  rw [commit_of_offer present]
  cases sound with
  | accept side tier time offered noTier noStamp window =>
    have status : offer.status = .offered := inTime offer present (decides_acceptance side _)
    rw [status] at holds ⊢
    obtain ⟨count, _, _, noAmount⟩ := holds
    rw [flush_accept tier time side.actorId offered noTier noStamp]
    refine ⟨.of_offer rfl ⟨?_, ?_, noAmount⟩, _, rfl, moves_accepted⟩
    · rw [decisions_append, if_pos (decides_acceptance side _)]
      exact congrArg (· + 1) count
    · refine ⟨tier, time, side.acceptance (some tier), rfl, rfl, List.mem_append_right _ (List.mem_singleton_self _), ?_, ?_,
        window⟩
      · cases side
        · exact .inl rfl
        · exact .inr rfl
      · cases side <;> rfl
  | decline side offered =>
    have status : offer.status = .offered := inTime offer present (decides_refusal side)
    rw [status] at holds ⊢
    rw [flush_decline offered]
    refine ⟨.of_offer rfl ?_, _, rfl, moves_declined⟩
    show OfferTables.decisions ⟨_, tables.audit ++ [side.refusal]⟩ = 1
    rw [decisions_append, if_pos (decides_refusal side)]
    exact congrArg (· + 1) holds.1
  | capture actorId tier time accepted carried noAmount same base status =>
    have before : tables.decisions = 1 ∧ Accepted tables offer := by
      rcases status with here | here
      · rw [here] at holds
        exact ⟨holds.1, holds.2.1⟩
      · rw [here] at holds
        exact ⟨holds.1, holds.2.1⟩
    rw [flush_capture _ time accepted noAmount]
    refine ⟨.of_offer rfl ⟨?_, before.2.append rfl rfl ⟨rfl, rfl⟩ _, tier, same, ?_⟩, _, rfl, ?_⟩
    · rw [decisions_append, if_neg (by simp [OfferAudit.decides])]
      exact before.1
    · show some _ = some (quantizeMoney (offer.baseAmount * tier.percent / 100))
      rw [base, discountSavings, (quantizeMoney_onCents _).quantizeMoney_eq]
    · rcases status with here | here
      · rw [here]
        exact moves_captured
      · rw [here]
        exact .inl rfl

/-- A commit in time leaves the other sessions what holds of them. -/
theorem OfferCall.Sound.commit {other : OfferCall} (kept : other.Sound offer) (sound : call.Sound offer)
    (inTime : CommitsInTime tables call ()) (present : tables.offer = some offer) :
    other.Sound (DiscountOffer.flush call.loaded call.edited offer) := by
  cases kept with
  | accept side tier time offered noTier noStamp window => exact .accept side tier time offered noTier noStamp window
  | decline side offered => exact .decline side offered
  | capture actorId tier time accepted carried noAmount same base status =>
    cases sound with
    | accept otherSide otherTier otherTime offered noTier noStamp window =>
      have opened : offer.status = .offered := inTime offer present (decides_acceptance otherSide _)
      rcases status with here | here <;> rw [opened] at here <;> cases here
    | decline otherSide offered =>
      have opened : offer.status = .offered := inTime offer present (decides_refusal otherSide)
      rcases status with here | here <;> rw [opened] at here <;> cases here
    | capture otherActor otherTier otherTime otherAccepted otherCarried otherAmount otherSame otherBase otherStatus =>
      rw [flush_capture _ otherTime otherAccepted otherAmount]
      exact .capture actorId tier time accepted carried noAmount same base (.inr rfl)

/-- What a part of a request does with the offer: it leaves it where it is or moves it one step. -/
def KeepsMoving (before later : OfferTables) : Prop :=
  ∀ offer, before.offer = some offer → ∃ next, later.offer = some next ∧ Moves offer.status next.status

theorem KeepsMoving.refl (tables : OfferTables) : KeepsMoving tables tables :=
  fun offer present => ⟨offer, present, .inl rfl⟩

theorem OfferInv.create (inv : OfferInv tables) (body : OfferCreate) (now : Time) :
    OfferInv (tables.create body now) ∧ (∀ call, OfferHeld tables call → OfferHeld (tables.create body now) call) ∧
      KeepsMoving tables (tables.create body now) := by
  rw [OfferTables.create]
  split
  next unborn _ =>
    refine ⟨.of_offer rfl ⟨?_, rfl, rfl, rfl⟩, fun call held => ?_, fun offer present => ?_⟩
    · rw [decisions_append, if_neg (by decide)]
      exact inv.unborn unborn
    · obtain ⟨offer, present, _⟩ := held
      rw [unborn] at present
      cases present
    · rw [unborn] at present
      cases present
  next => exact ⟨inv, fun _ held => held, .refl tables⟩

theorem OfferInv.expire (inv : OfferInv tables) (today : Day) :
    OfferInv (tables.expire today) ∧ (∀ call, OfferHeld tables call → OfferHeld (tables.expire today) call) ∧
      KeepsMoving tables (tables.expire today) := by
  rw [OfferTables.expire]
  split
  next offer present =>
    split
    next edited expires =>
      rw [expireIfPast] at expires
      split at expires
      next lapsed =>
        obtain ⟨rfl, _⟩ := Prod.mk.inj expires
        have status : offer.status = .offered := by
          rw [hasLapsed, Bool.and_eq_true, decide_eq_true_eq] at lapsed
          exact lapsed.1
        have holds := inv.born offer present
        rw [status] at holds
        refine ⟨.of_offer rfl ?_, fun call held => ?_, fun other found => ?_⟩
        · show OfferTables.decisions ⟨_, tables.audit ++ [_]⟩ = 1
          rw [decisions_append, if_pos (by decide)]
          exact congrArg (· + 1) holds.1
        · obtain ⟨other, found, sound⟩ := held
          rw [present] at found
          obtain rfl := Option.some.inj found
          refine ⟨_, rfl, ?_⟩
          cases sound with
          | accept side tier time offered noTier noStamp window => exact .accept side tier time offered noTier noStamp window
          | decline side offered => exact .decline side offered
          | capture actorId tier time accepted carried noAmount same base now =>
            rcases now with here | here <;> rw [status] at here <;> cases here
        · rw [present] at found
          obtain rfl := Option.some.inj found
          refine ⟨_, rfl, ?_⟩
          rw [status]
          exact moves_expired
      next => cases expires
    next => exact ⟨inv, fun _ held => held, .refl tables⟩
  next => exact ⟨inv, fun _ held => held, .refl tables⟩

/-- A request that has only read. -/
theorem OfferInv.load (inv : OfferInv tables) {call : DiscountOffer → Option OfferCall}
    (sound : ∀ offer found, tables.offer = some offer → call offer = some found → found.Sound offer) :
    Service.Respects OfferInv OfferHeld Service.Free tables none (tables.load call) := by
  refine ⟨inv, fun _ held _ => held, fun found loads => ?_, fun _ _ _ _ _ => trivial⟩
  obtain ⟨offer, present, calls⟩ := Option.bind_eq_some_iff.mp loads
  exact ⟨offer, present, sound offer found present calls⟩

theorem toOption_eq_some {α : Type} {result : Except Raised α} {value : α} (some : result.toOption = .some value) :
    result = .ok value := by
  cases result with
  | ok found => exact congrArg _ (Option.some.inj some)
  | error raised => cases some

theorem arrive_respects (inv : OfferInv tables) (arrival : OfferArrival) (inTime : StampedInTime tables arrival) :
    Service.Respects OfferInv OfferHeld Service.Free tables none (tables.arrive arrival) ∧ KeepsMoving tables (tables.arrive arrival).1 := by
  cases arrival with
  | create body now =>
    obtain ⟨keeps, others, moves⟩ := inv.create body now
    exact ⟨.ended keeps others, moves⟩
  | accept side tierDays today now =>
    refine ⟨inv.load fun offer call present accepts => ?_, .refl tables⟩
    have holds := inv.born offer present
    have fresh : offer.status = .offered → offer.acceptedTier = none ∧ offer.acceptedAt = none := by
      intro offered
      rw [offered] at holds
      exact ⟨holds.2.1, holds.2.2.1⟩
    exact sound_of_acceptCall fresh (inTime.imp_right fun later => later offer present) (toOption_eq_some accepts)
  | decline side today =>
    exact ⟨inv.load fun offer call _ declines => sound_of_declineCall (toOption_eq_some declines), .refl tables⟩
  | expire today =>
    obtain ⟨keeps, others, moves⟩ := inv.expire today
    exact ⟨.ended keeps others, moves⟩
  | capture actorId payment now =>
    refine ⟨inv.load fun offer call present captures => ?_, .refl tables⟩
    have holds := inv.born offer present
    have fresh : offer.status = .accepted → offer.capturedAmount = none := by
      intro accepted
      rw [accepted] at holds
      exact holds.2.2
    exact sound_of_captureCall fresh captures

theorem commit_respects (inv : OfferInv tables) (held : OfferHeld tables call) (inTime : CommitsInTime tables call ()) :
    Service.Respects OfferInv OfferHeld Service.Free tables (some call) (tables.commit call, none) ∧ KeepsMoving tables (tables.commit call) := by
  obtain ⟨offer, present, sound⟩ := held
  obtain ⟨keeps, next, stored, moves⟩ := inv.commit present sound inTime
  refine ⟨.ended keeps fun other kept => ?_, fun before found => ?_⟩
  · obtain ⟨same, found, otherSound⟩ := kept
    rw [present] at found
    obtain rfl := Option.some.inj found
    refine ⟨_, ?_, otherSound.commit sound inTime present⟩
    rw [commit_of_offer present]
  · rw [present] at found
    obtain rfl := Option.some.inj found
    exact ⟨next, stored, moves⟩

end Steps

/-- The parts of a run that are in time. -/
abbrev InTime : Served OfferTables OfferCall → Part OfferArrival Unit → Prop :=
  Service.Guarded StampedInTime CommitsInTime

theorem offer_sustains : Service.Sustains offerService StampedInTime CommitsInTime OfferInv OfferHeld Service.Free where
  symm _ _ free := free
  start := by
    rintro _ rfl
    exact ⟨fun _ => rfl, by simp [OfferTables.empty]⟩
  arrive _ arrival inv stamped := (arrive_respects inv arrival stamped).1
  advance _ _ _ inv held inTime := (commit_respects inv held inTime).1
  abort _ _ inv _ := .refused inv

abbrev OfferKeeps : Served OfferTables OfferCall → Prop := Service.Keeps OfferInv OfferHeld Service.Free

theorem step_moves {state : Served OfferTables OfferCall} (keeps : OfferKeeps state)
    {part : Part OfferArrival Unit} (allowed : InTime state part) :
    KeepsMoving state.tables (offerService.machine.step state part).tables := by
  cases part with
  | arrive number arrival =>
    show KeepsMoving state.tables (offerService.step state (.arrive number arrival)).tables
    rw [Service.step]
    split
    · exact .refl _
    · exact (arrive_respects keeps.tables arrival allowed).2
  | advance number input =>
    show KeepsMoving state.tables (offerService.step state (.advance number input)).tables
    rw [Service.step]
    split
    next call found => exact (commit_respects keeps.tables (keeps.held number call found) (allowed call found)).2
    next => exact .refl _
  | die number =>
    show KeepsMoving state.tables (offerService.step state (.die number)).tables
    rw [Service.step]
    split <;> exact .refl _

/-- In a run whose parts are in time an offer is decided once. -/
theorem decided_once {first : Served OfferTables OfferCall} (begins : offerService.machine.init first)
    {parts : List (Part OfferArrival Unit)} (inTime : offerService.machine.Permits InTime first parts) :
    DecidedOnce first parts := by
  have keeps : ∀ before later, parts = before ++ later → OfferKeeps (offerService.machine.exec first before) := by
    rintro before later rfl
    have reach : offerService.machine.Reach InTime (offerService.machine.exec first before) :=
      (Machine.Reach.start begins).exec inTime.append.1
    exact offer_sustains.reach reach
  constructor
  case moves =>
    intro before part later split offer present
    have permitted := Machine.permits_iff.mp inTime before part later split
    have moves := step_moves (keeps before (part :: later) split) permitted offer present
    rw [← Machine.exec_concat] at moves
    exact moves
  case captured =>
    intro before later split offer present captured
    have holds := (keeps before later split).tables.born offer present
    rw [captured] at holds
    exact holds.2
  case audited => exact fun before later split => (keeps before later split).tables.decisions_le

def earlyPayment : OfferCreate := ⟨.invoice, some 4, [⟨10, 2⟩, ⟨5, 3⟩], 1000, "USD", some 739000, some 739030⟩

/-- Noon of a day. -/
def noon (day : Day) : Time := (day - 719163) * 86400000000 + 43200000000

/-- The supplier's decline is refused after an acceptance, and the payment of the discounted amount captures the offer. -/
def capturedInTime : List (Part OfferArrival Unit) :=
  [.arrive 0 (.create earlyPayment (noon 739000)), .arrive 0 (.accept (.payer "lee") none 739004 (noon 739004)), .advance 0 (),
    .arrive 1 (.decline .vendor 739004), .arrive 2 (.capture none ⟨4, 970, "usd"⟩ (noon 739005)), .advance 2 ()]

theorem decided_once_captured :
    (after (Service.begun .empty) capturedInTime).offer.map (fun offer => (offer.status, offer.capturedAmount)) =
        some (.captured, some 30) ∧
      DecidedOnce (Service.begun .empty) capturedInTime := by
  have begins : offerService.machine.init (Service.begun .empty) := Service.init_begun rfl
  have inTime : offerService.machine.Permits (Service.Guarded StampedInTime CommitsInTime) (Service.begun .empty)
      capturedInTime := by decide +kernel
  exact ⟨by decide +kernel, decided_once begins inTime⟩

/-- The supplier declines an offer while an acceptance is under way. -/
def acceptedAfterDecline : List (Part OfferArrival Unit) :=
  [.arrive 0 (.create earlyPayment (noon 739000)), .arrive 0 (.accept (.payer "lee") none 739004 (noon 739004)),
    .arrive 1 (.decline .vendor 739004), .advance 1 (), .advance 0 ()]

theorem decided_twice : ¬∀ first parts, offerService.machine.init first → DecidedOnce first parts := by
  intro always
  have once := always (Service.begun .empty) acceptedAfterDecline (Service.init_begun rfl)
  have count := once.audited acceptedAfterDecline [] (List.append_nil _).symm
  have two : (after (Service.begun .empty) acceptedAfterDecline).decisions = 2 := by decide +kernel
  omega

end Payables.Discounts
