import Mathlib
import Payables.Discounts.Settlements
import Payables.Money

namespace Payables.Discounts
open Lib

/-- The rounded saving of the tier an offer was accepted at. -/
def DiscountOffer.saving (offer : DiscountOffer) : ℚ := (offer.acceptedTier.map (discountSavings offer.baseAmount)).getD 0

/-- What is left to pay of an accepted offer, to the cent. -/
def DiscountOffer.payoff (offer : DiscountOffer) : Option ℚ :=
  offer.acceptedTier.map fun tier => quantizeHalfEven (offer.baseAmount - discountSavings offer.baseAmount tier)

/-- The offer is for the invoice alone, accepted, and in its currency. -/
structure Awaits (invoice : SettledInvoice) (offer : DiscountOffer) : Prop where
  invoiceId : offer.invoiceId = some invoice.id
  scope : offer.scope = .invoice
  status : offer.status = .accepted
  currency : pyUpper offer.currency = pyUpper invoice.currency

/-- A payment of the amount is the payoff of the offer. -/
def PaysOff (invoice : SettledInvoice) (amount : ℚ) (offer : DiscountOffer) : Prop :=
  Awaits invoice offer ∧ offer.payoff = some (quantizeHalfEven amount)

/-- What is captured over some offers. -/
def capturedAmount (offers : List DiscountOffer) : ℚ :=
  (offers.map fun offer => if offer.status = .captured then offer.capturedAmount.getD 0 else 0).sum

def capturedCount (offers : List DiscountOffer) : Nat := offers.countP (·.status = .captured)

open Classical in
/-- The most that a payment of the amount saves on one of the offers. -/
noncomputable def worth (invoice : SettledInvoice) (offers : List DiscountOffer) (amount : ℚ) : ℚ :=
  ((offers.filter (PaysOff invoice amount)).map DiscountOffer.saving).foldr max 0

/-- The payments that have settled. -/
def settledPayments (settlements : List Settlement) : Finset PaymentId := (settlements.map Settlement.paymentId).toFinset

/-- The offers after some settlements. -/
abbrev settled (invoice : SettledInvoice) (offers : List DiscountOffer) (settlements : List Settlement) : List DiscountOffer :=
  (settlementMachine invoice).exec offers settlements

/-- One settled payment realises at most one discount. -/
structure RealisesAtMostOne (invoice : SettledInvoice) (offers : List DiscountOffer) (settlements : List Settlement) :
    Prop where
  matched : ∀ before settlement later, settlements = before ++ settlement :: later →
    ∀ captured ∈ captureOffers invoice settlement (settled invoice offers before),
      ∃ offer ∈ settled invoice offers before, PaysOff invoice (invoice.amount settlement.paymentId) offer ∧
        captured =
          { offer with
            capturedAmount := some offer.saving, capturedAt := some settlement.now, status := .captured }
  single : ∀ before settlement later, settlements = before ++ settlement :: later →
    (captureOffers invoice settlement (settled invoice offers before)).length ≤ 1
  counted : ∀ before later, settlements = before ++ later →
    capturedCount (settled invoice offers before) ≤ capturedCount offers + (settledPayments before).card
  bounded : ∀ before later, settlements = before ++ later →
    capturedAmount (settled invoice offers before) ≤
      capturedAmount offers + ∑ paymentId ∈ settledPayments before, worth invoice offers (invoice.amount paymentId)
  repeated : ∀ before settlement later, settlements = before ++ settlement :: later →
    settlement.paymentId ∈ settledPayments before →
      captureOffers invoice settlement (settled invoice offers before) = []

/-- The offers do not both await a payoff that one of the settled payments has. -/
def Apart (invoice : SettledInvoice) (settlements : List Settlement) (one other : DiscountOffer) : Prop :=
  Awaits invoice one → Awaits invoice other → one.payoff = other.payoff →
    ∀ settlement ∈ settlements, one.payoff ≠ some (quantizeHalfEven (invoice.amount settlement.paymentId))

section Step

variable {invoice : SettledInvoice} {settlement : Settlement} {offers : List DiscountOffer} {offer edited : DiscountOffer}

theorem quantizeMoney_saving (offer : DiscountOffer) : quantizeMoney offer.saving = offer.saving := by
  rw [DiscountOffer.saving]
  cases offer.acceptedTier with
  | none => exact OnCents.quantizeMoney_eq ⟨0, by norm_num⟩
  | some tier => exact (quantizeMoney_onCents _).quantizeMoney_eq

/-- What the loop does with one offer. -/
theorem captureOffer_eq_some : captureOffer invoice settlement offer = some edited ↔
    PaysOff invoice (invoice.amount settlement.paymentId) offer ∧
      edited =
        { offer with capturedAmount := some offer.saving, capturedAt := some settlement.now, status := .captured } := by
  have stored := quantizeMoney_saving offer
  rw [captureOffer, captureCall]
  split
  next queried =>
    obtain ⟨linked, scope, accepted⟩ := queried
    cases carried : offer.acceptedTier with
    | none => simp [PaysOff, DiscountOffer.payoff, carried]
    | some tier =>
      rw [DiscountOffer.saving, carried, Option.map_some, Option.getD_some] at stored
      by_cases currency : pyUpper offer.currency = pyUpper invoice.currency
      · by_cases pays : quantizeHalfEven (invoice.amount settlement.paymentId) =
            quantizeHalfEven (offer.baseAmount - discountSavings offer.baseAmount tier)
        · have awaits : Awaits invoice offer := ⟨linked, scope, accepted, currency⟩
          simp [PaysOff, DiscountOffer.payoff, DiscountOffer.saving, carried, SettledInvoice.payment, currency, pays, markCaptured,
            accepted, stored, awaits, eq_comm]
        · have other : ¬quantizeHalfEven (offer.baseAmount - discountSavings offer.baseAmount tier) =
              quantizeHalfEven (invoice.amount settlement.paymentId) := fun same => pays same.symm
          simp [PaysOff, DiscountOffer.payoff, carried, SettledInvoice.payment, currency, pays, other]
      · have foreign : ¬Awaits invoice offer := fun awaits => currency awaits.currency
        simp [PaysOff, SettledInvoice.payment, currency, foreign]
  next skipped =>
    have idle : ¬Awaits invoice offer := fun awaits => skipped ⟨awaits.invoiceId, awaits.scope, awaits.status⟩
    simp [PaysOff, idle]

theorem settleOffer_eq_self (unpaid : ¬PaysOff invoice (invoice.amount settlement.paymentId) offer) :
    settleOffer invoice settlement offer = offer := by
  have idle : captureOffer invoice settlement offer = none := by
    cases captures : captureOffer invoice settlement offer with
    | none => rfl
    | some edited => exact absurd (captureOffer_eq_some.mp captures).1 unpaid
  rw [settleOffer, idle, Option.getD_none]

/-- An offer that has been captured awaits nothing. -/
theorem not_awaits_settleOffer (paid : PaysOff invoice (invoice.amount settlement.paymentId) offer) :
    ¬Awaits invoice (settleOffer invoice settlement offer) := by
  intro awaits
  have status := awaits.status
  rw [settleOffer, (captureOffer_eq_some).mpr ⟨paid, rfl⟩, Option.getD_some] at status
  cases status

/-- An offer that still awaits a payment after a settlement was left as it is. -/
theorem settleOffer_of_awaits (awaits : Awaits invoice (settleOffer invoice settlement offer)) :
    settleOffer invoice settlement offer = offer := by
  by_cases paid : PaysOff invoice (invoice.amount settlement.paymentId) offer
  · exact absurd awaits (not_awaits_settleOffer paid)
  · exact settleOffer_eq_self paid

/-- What a settlement adds to a total over the captured offers is what it captures. -/
theorem sum_settleOffers {M : Type*} [AddCommMonoid M] {value : DiscountOffer → M}
    (uncaptured : ∀ offer, offer.status ≠ .captured → value offer = 0) (offers : List DiscountOffer) :
    ((settleOffers invoice settlement offers).map value).sum =
      (offers.map value).sum + ((captureOffers invoice settlement offers).map value).sum := by
  induction offers with
  | nil => simp [settleOffers, captureOffers]
  | cons offer rest ih =>
    rw [settleOffers] at ih
    rw [settleOffers, captureOffers, List.map_cons, List.map_cons, List.map_cons, List.sum_cons, List.sum_cons, ih]
    cases captures : captureOffer invoice settlement offer with
    | none =>
      rw [List.filterMap_cons_none captures, settleOffer, captures, Option.getD_none, add_assoc]
      rfl
    | some edited =>
      have accepted : offer.status = .accepted := (captureOffer_eq_some.mp captures).1.1.status
      have nothing : value offer = 0 := uncaptured offer (by rw [accepted]; decide)
      rw [List.filterMap_cons_some captures, List.map_cons, List.sum_cons, settleOffer, captures, Option.getD_some,
        nothing, zero_add]
      exact add_left_comm _ _ _

/-- A settlement captures one offer at most exactly when it does not pay off two of them. -/
theorem length_captureOffers_le_one_iff : (captureOffers invoice settlement offers).length ≤ 1 ↔
    offers.Pairwise fun one other => ¬(PaysOff invoice (invoice.amount settlement.paymentId) one ∧
      PaysOff invoice (invoice.amount settlement.paymentId) other) := by
  induction offers with
  | nil => simp [captureOffers]
  | cons offer rest ih =>
    rw [List.pairwise_cons]
    cases captures : captureOffer invoice settlement offer with
    | none =>
      have unpaid : ¬PaysOff invoice (invoice.amount settlement.paymentId) offer := by
        intro paid
        rw [(captureOffer_eq_some).mpr ⟨paid, rfl⟩] at captures
        cases captures
      rw [captureOffers, List.filterMap_cons_none captures]
      rw [captureOffers] at ih
      rw [ih]
      exact ⟨fun apart => ⟨fun _ _ both => unpaid both.1, apart⟩, fun apart => apart.2⟩
    | some edited =>
      have paid := (captureOffer_eq_some.mp captures).1
      rw [captureOffers, List.filterMap_cons_some captures, List.length_cons]
      constructor
      · intro single
        have nothing : rest.filterMap (captureOffer invoice settlement) = [] := List.length_eq_zero_iff.mp (by omega)
        have unpaid : ∀ other ∈ rest, ¬PaysOff invoice (invoice.amount settlement.paymentId) other := by
          intro other mem pays
          have idle := List.filterMap_eq_nil_iff.mp nothing other mem
          rw [(captureOffer_eq_some).mpr ⟨pays, rfl⟩] at idle
          cases idle
        exact ⟨fun other mem both => unpaid other mem both.2,
          List.pairwise_of_forall_mem_list fun one mem _ _ both => unpaid one mem both.1⟩
      · rintro ⟨alone, _⟩
        have nothing : rest.filterMap (captureOffer invoice settlement) = [] := by
          refine List.filterMap_eq_nil_iff.mpr fun other mem => ?_
          cases again : captureOffer invoice settlement other with
          | none => rfl
          | some _ => exact absurd ⟨paid, (captureOffer_eq_some.mp again).1⟩ (alone other mem)
        rw [nothing, List.length_nil]

/-- Offers are apart for a settlement and the rest when the settlement captures one of them at most and leaves them apart
for the rest. -/
theorem pairwise_apart_cons_iff {rest : List Settlement} : offers.Pairwise (Apart invoice (settlement :: rest)) ↔
    (captureOffers invoice settlement offers).length ≤ 1 ∧
      (settleOffers invoice settlement offers).Pairwise (Apart invoice rest) := by
  rw [length_captureOffers_le_one_iff, settleOffers, List.pairwise_map, ← List.pairwise_and_iff]
  refine List.Pairwise.iff ?_
  intro one other
  constructor
  · intro apart
    refine ⟨fun both => ?_, fun awaitsOne awaitsOther same later mem => ?_⟩
    · exact apart both.1.1 both.2.1 (both.1.2.trans both.2.2.symm) settlement List.mem_cons_self both.1.2
    · have keptOne := settleOffer_of_awaits awaitsOne
      have keptOther := settleOffer_of_awaits awaitsOther
      rw [keptOne] at awaitsOne same ⊢
      rw [keptOther] at awaitsOther same
      exact apart awaitsOne awaitsOther same later (List.mem_cons_of_mem _ mem)
  · rintro ⟨single, apart⟩ awaitsOne awaitsOther same later mem pays
    by_cases now : one.payoff = some (quantizeHalfEven (invoice.amount settlement.paymentId))
    · exact single ⟨⟨awaitsOne, now⟩, awaitsOther, same ▸ now⟩
    · rcases List.mem_cons.mp mem with rfl | mem
      · exact now pays
      · have keptOne : settleOffer invoice settlement one = one := settleOffer_eq_self fun paid => now paid.2
        have keptOther : settleOffer invoice settlement other = other :=
          settleOffer_eq_self fun paid => now (same.trans paid.2)
        rw [keptOne, keptOther] at apart
        exact apart awaitsOne awaitsOther same later mem pays

end Step

section Runs

variable {invoice : SettledInvoice} {offers : List DiscountOffer} {settlements before : List Settlement}
  {settlement : Settlement} {offer : DiscountOffer} {amount : ℚ}

/-- The settlements of a run capture one offer each exactly when the offers are apart. -/
theorem pairwise_apart_iff : offers.Pairwise (Apart invoice settlements) ↔
    (settlementMachine invoice).Permits (fun offers settlement => (captureOffers invoice settlement offers).length ≤ 1)
      offers settlements := by
  induction settlements generalizing offers with
  | nil =>
    refine ⟨fun _ => trivial, fun _ => List.pairwise_of_forall fun one other _ _ _ => ?_⟩
    exact List.forall_mem_nil _
  | cons settlement rest ih =>
    rw [pairwise_apart_cons_iff, ih]
    rfl

theorem settled_concat : settled invoice offers (before ++ [settlement]) =
    settleOffers invoice settlement (settled invoice offers before) := Machine.exec_concat _ _ _

/-- An offer that awaits a payment after a run did so before it. -/
theorem mem_of_awaits_settled (mem : offer ∈ settled invoice offers before) (awaits : Awaits invoice offer) :
    offer ∈ offers := by
  induction before using List.reverseRecOn generalizing offer with
  | nil => exact mem
  | append_singleton before settlement ih =>
    rw [settled_concat, settleOffers] at mem
    obtain ⟨held, heldMem, rfl⟩ := List.mem_map.mp mem
    have kept := settleOffer_of_awaits awaits
    rw [kept] at awaits ⊢
    exact ih heldMem awaits

/-- A settlement pays off all it can. -/
theorem not_paysOff_settleOffers (mem : offer ∈ settleOffers invoice settlement offers) :
    ¬PaysOff invoice (invoice.amount settlement.paymentId) offer := by
  intro pays
  obtain ⟨held, _, rfl⟩ := List.mem_map.mp mem
  have kept := settleOffer_of_awaits pays.1
  rw [kept] at pays
  exact not_awaits_settleOffer pays (by rw [kept]; exact pays.1)

/-- What cannot be paid off with an amount cannot be after another settlement. -/
theorem not_paysOff_of_settleOffers (unpaid : ∀ offer ∈ offers, ¬PaysOff invoice amount offer)
    (mem : offer ∈ settleOffers invoice settlement offers) : ¬PaysOff invoice amount offer := by
  intro pays
  obtain ⟨held, heldMem, rfl⟩ := List.mem_map.mp mem
  rw [settleOffer_of_awaits pays.1] at pays
  exact unpaid held heldMem pays

theorem settledPayments_concat (before : List Settlement) (settlement : Settlement) :
    settledPayments (before ++ [settlement]) = insert settlement.paymentId (settledPayments before) := by
  ext paymentId
  simp [settledPayments]

/-- No offer is left that a payment which has settled pays off. -/
theorem not_paysOff_settled {paymentId : PaymentId} (has : paymentId ∈ settledPayments before)
    (mem : offer ∈ settled invoice offers before) : ¬PaysOff invoice (invoice.amount paymentId) offer := by
  induction before using List.reverseRecOn generalizing offer with
  | nil => simp [settledPayments] at has
  | append_singleton before settlement ih =>
    rw [settledPayments_concat] at has
    rw [settled_concat] at mem
    rcases Finset.mem_insert.mp has with rfl | earlier
    · exact not_paysOff_settleOffers mem
    · exact not_paysOff_of_settleOffers (fun held heldMem => ih earlier heldMem) mem

/-- A settlement that comes again captures nothing. -/
theorem captureOffers_again (has : settlement.paymentId ∈ settledPayments before) :
    captureOffers invoice settlement (settled invoice offers before) = [] := by
  refine List.filterMap_eq_nil_iff.mpr fun offer mem => ?_
  cases captures : captureOffer invoice settlement offer with
  | none => rfl
  | some edited => exact absurd (captureOffer_eq_some.mp captures).1 (not_paysOff_settled has mem)

/-- A total over the captured offers grows by the price of each payment at most, where a settlement captures one offer
at most and none above the price of its payment. -/
theorem sum_settled_le {M : Type*} [AddCommMonoid M] [PartialOrder M] [IsOrderedAddMonoid M] {value : DiscountOffer → M}
    {price : PaymentId → M} (uncaptured : ∀ offer, offer.status ≠ .captured → value offer = 0)
    (nonneg : ∀ paymentId, 0 ≤ price paymentId)
    (priced : ∀ before settlement captured, captured ∈ captureOffers invoice settlement (settled invoice offers before) →
      value captured ≤ price settlement.paymentId)
    (single : ∀ earlier settlement later, before = earlier ++ settlement :: later →
      (captureOffers invoice settlement (settled invoice offers earlier)).length ≤ 1) :
    ((settled invoice offers before).map value).sum ≤
      (offers.map value).sum + ∑ paymentId ∈ settledPayments before, price paymentId := by
  induction before using List.reverseRecOn with
  | nil => simp [settledPayments, settled, Machine.exec]
  | append_singleton before settlement ih =>
    have bound := ih fun earlier other later split => single earlier other (later ++ [settlement]) (by rw [split]; simp)
    rw [settled_concat, sum_settleOffers uncaptured, settledPayments_concat]
    by_cases has : settlement.paymentId ∈ settledPayments before
    · rw [captureOffers_again has, Finset.insert_eq_of_mem has, List.map_nil, List.sum_nil, add_zero]
      exact bound
    · rw [Finset.sum_insert has, add_left_comm, add_comm]
      refine add_le_add ?_ bound
      have one := single before settlement [] (by simp)
      cases captures : captureOffers invoice settlement (settled invoice offers before) with
      | nil => exact nonneg _
      | cons captured others =>
        rw [captures, List.length_cons] at one
        have alone : others = [] := List.length_eq_zero_iff.mp (by omega)
        rw [alone, List.map_singleton, List.sum_singleton]
        exact priced before settlement captured (by rw [captures]; exact List.mem_cons_self)

theorem worth_nonneg (invoice : SettledInvoice) (offers : List DiscountOffer) (amount : ℚ) :
    0 ≤ worth invoice offers amount := by
  rw [worth]
  induction (List.filter _ offers).map DiscountOffer.saving with
  | nil => exact le_rfl
  | cons saving rest ih => exact le_max_of_le_right ih

theorem saving_le_worth (mem : offer ∈ offers) (pays : PaysOff invoice amount offer) :
    offer.saving ≤ worth invoice offers amount := by
  have listed : offer ∈ offers.filter fun offer => @decide (PaysOff invoice amount offer) (Classical.propDecidable _) :=
    List.mem_filter.mpr ⟨mem, by simpa using pays⟩
  exact List.le_max_of_le' 0 (List.mem_map_of_mem listed) le_rfl

/-- What a settlement captures is an offer that it pays off. -/
theorem matched_of_mem_captureOffers {captured : DiscountOffer} (mem : captured ∈ captureOffers invoice settlement offers) :
    ∃ offer ∈ offers, PaysOff invoice (invoice.amount settlement.paymentId) offer ∧
      captured =
        { offer with
          capturedAmount := some offer.saving, capturedAt := some settlement.now, status := .captured } := by
  obtain ⟨offer, held, captures⟩ := List.mem_filterMap.mp mem
  exact ⟨offer, held, (captureOffer_eq_some).mp captures⟩

theorem capturedCount_eq (offers : List DiscountOffer) :
    capturedCount offers = (offers.map fun offer => if offer.status = .captured then 1 else 0).sum := by
  rw [capturedCount]
  induction offers with
  | nil => rfl
  | cons offer rest ih =>
    rw [List.countP_cons, ih, List.map_cons, List.sum_cons, add_comm]
    by_cases captured : offer.status = .captured
    · rw [if_pos captured, if_pos (decide_eq_true captured)]
    · rw [if_neg captured, if_neg (by simpa using captured)]

theorem capturedCount_settled_le (single : ∀ earlier settlement later, before = earlier ++ settlement :: later →
    (captureOffers invoice settlement (settled invoice offers earlier)).length ≤ 1) :
    capturedCount (settled invoice offers before) ≤ capturedCount offers + (settledPayments before).card := by
  rw [capturedCount_eq, capturedCount_eq, Finset.card_eq_sum_ones]
  refine sum_settled_le (fun offer other => if_neg other) (fun _ => Nat.zero_le _) ?_ single
  intro _ _ captured _
  split <;> omega

theorem capturedAmount_settled_le (single : ∀ earlier settlement later, before = earlier ++ settlement :: later →
    (captureOffers invoice settlement (settled invoice offers earlier)).length ≤ 1) :
    capturedAmount (settled invoice offers before) ≤
      capturedAmount offers + ∑ paymentId ∈ settledPayments before, worth invoice offers (invoice.amount paymentId) := by
  rw [capturedAmount, capturedAmount]
  refine sum_settled_le (fun offer other => if_neg other) (fun _ => worth_nonneg invoice offers _) ?_ single
  intro before settlement captured mem
  obtain ⟨offer, held, pays, rfl⟩ := matched_of_mem_captureOffers mem
  rw [if_pos rfl, Option.getD_some]
  exact saving_le_worth (mem_of_awaits_settled held pays.1) pays

/-- A settled payment realises one discount at most exactly when no two accepted offers of its invoice, in the currency
of it, have the same payoff and a payment of that payoff settles. -/
theorem realisesAtMostOne_iff (invoice : SettledInvoice) (offers : List DiscountOffer) (settlements : List Settlement) :
    RealisesAtMostOne invoice offers settlements ↔ offers.Pairwise (Apart invoice settlements) := by
  rw [pairwise_apart_iff, Machine.permits_iff]
  constructor
  · intro realises before settlement later split
    exact realises.single before settlement later split
  · intro single
    have within : ∀ before later, settlements = before ++ later → ∀ earlier settlement rest,
        before = earlier ++ settlement :: rest →
          (captureOffers invoice settlement (settled invoice offers earlier)).length ≤ 1 := by
      rintro before later rfl earlier settlement rest rfl
      exact single earlier settlement (rest ++ later) (by simp)
    refine ⟨fun before settlement later _ captured mem => matched_of_mem_captureOffers mem, single, ?_, ?_, ?_⟩
    · intro before later split
      exact capturedCount_settled_le (within before later split)
    · intro before later split
      exact capturedAmount_settled_le (within before later split)
    · intro before settlement later _ has
      exact captureOffers_again has

/-- Two percent off an invoice of 100, offered and accepted. -/
def twoPercentOff : DiscountOffer where
  scope := .invoice
  invoiceId := some 1
  status := .accepted
  tiers := [⟨10, 2⟩]
  baseAmount := 100
  currency := "USD"
  validFrom := none
  validUntil := none
  createdAt := 0
  acceptedTier := some ⟨10, 2⟩
  acceptedAt := some 0
  acceptedBy := none
  capturedAmount := none
  capturedAt := none

/-- One payment of 98.00 captures the two offers of two percent that were accepted on the invoice. -/
theorem payment_captures_twice :
    ¬RealisesAtMostOne ⟨1, "USD", fun _ => 98⟩ [twoPercentOff, twoPercentOff] [⟨1, 0⟩] := by
  intro realises
  have saving : discountSavings 100 ⟨10, 2⟩ = 2 := by
    have exact : (100 : ℚ) * 2 / 100 = 2 := by norm_num
    rw [discountSavings, exact]
    exact OnCents.quantizeMoney_eq ⟨200, by norm_num⟩
  have payoff : twoPercentOff.payoff = some (quantizeHalfEven 98) := by
    have left : (100 : ℚ) - 2 = 98 := by norm_num
    rw [DiscountOffer.payoff, twoPercentOff, Option.map_some, saving, left]
  have pays : PaysOff ⟨1, "USD", fun _ => 98⟩ 98 twoPercentOff := ⟨⟨rfl, rfl, rfl, rfl⟩, payoff⟩
  have apart := (length_captureOffers_le_one_iff).mp (realises.single [] ⟨1, 0⟩ [] rfl)
  exact (List.pairwise_cons.mp apart).1 twoPercentOff List.mem_cons_self ⟨pays, pays⟩

end Runs

end Payables.Discounts
