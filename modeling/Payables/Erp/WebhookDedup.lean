import Payables.Erp.Webhook

namespace Payables
open Lib

/-- What is dropped as a replay was decided before. -/
def NoUpdateLost (store : ErpStore) : Prop := ∀ update ∈ store.dropped, update ∈ store.decided

instance (store : ErpStore) : Decidable (NoUpdateLost store) :=
  inferInstanceAs (Decidable (∀ update ∈ store.dropped, update ∈ store.decided))

/-- A delivery under an event id that is taken reports the update that the id was taken for, and that one is
not being processed any more. -/
def RepeatsItsClaim (store : ErpStore) (erpType : String) (body : Json) : Prop :=
  ∀ delivery ∈ admitErpEvent store erpType body, ∀ key ∈ delivery.key, ∀ claim ∈ store.claims, claim.key = key →
    claim.update = delivery.update ∧ ∀ other ∈ store.processing, other.key ≠ some key
  deriving Decidable

/-- A delivery with a claim fails, if it does, where its claim is released. -/
def FailsInside (store : ErpStore) (index : Nat) (fault : Option ErpFault) : Prop :=
  ∀ delivery ∈ store.processing[index]?, delivery.key ≠ none →
    (mapErpStatus delivery.fields.status).isOk = true ∧ fault ≠ some .outside
  deriving Decidable

/-- The process dies on no delivery with a claim. -/
def DiesUnclaimed (store : ErpStore) (index : Nat) : Prop := ∀ delivery ∈ store.processing[index]?, delivery.key = none
  deriving Decidable

/-- The steps on which a claim stands for a decision. -/
def ClaimsDecide (store : ErpStore) : ErpHookLabel → Prop
  | .receive erpType body => RepeatsItsClaim store erpType body
  | .decide index fault => FailsInside store index fault
  | .crash index => DiesUnclaimed store index
  | .expire _ => True

instance (store : ErpStore) : (label : ErpHookLabel) → Decidable (ClaimsDecide store label)
  | .receive erpType body => inferInstanceAs (Decidable (RepeatsItsClaim store erpType body))
  | .decide index fault => inferInstanceAs (Decidable (FailsInside store index fault))
  | .crash index => inferInstanceAs (Decidable (DiesUnclaimed store index))
  | .expire _ => inferInstanceAs (Decidable True)

/-- Every claim is held by a delivery being processed, or its update is decided. -/
structure ErpInv (store : ErpStore) : Prop where
  claims : ∀ claim ∈ store.claims, claim.update ∈ store.decided ∨
    ∃ delivery ∈ store.processing, delivery.key = some claim.key ∧ delivery.update = claim.update
  kept : NoUpdateLost store

namespace ErpInv

variable {store : ErpStore}

theorem receive (inv : ErpInv store) {erpType : String} {body : Json} (repeats : RepeatsItsClaim store erpType body) :
    ErpInv (store.receive erpType body) := by
  have more (delivery : ErpProcessing) (claim : ErpClaim) (held : claim.update ∈ store.decided ∨
      ∃ other ∈ store.processing, other.key = some claim.key ∧ other.update = claim.update) :
      claim.update ∈ store.decided ∨
        ∃ other ∈ store.processing ++ [delivery], other.key = some claim.key ∧ other.update = claim.update :=
    held.imp_right fun ⟨other, member, same⟩ => ⟨other, List.mem_append_left _ member, same⟩
  unfold ErpStore.receive
  split
  · exact inv
  next delivery admitted =>
  split
  · exact ⟨fun claim member => more delivery claim (inv.claims claim member), inv.kept⟩
  next key claimed =>
  split
  · next taken =>
    refine ⟨inv.claims, fun update member => ?_⟩
    rcases List.mem_cons.mp member with rfl | old
    · obtain ⟨claim, inClaims, sameKey⟩ := List.any_eq_true.mp taken
      obtain ⟨same, idle⟩ := repeats delivery admitted key claimed claim inClaims (beq_iff_eq.mp sameKey)
      rw [← same]
      refine (inv.claims claim inClaims).resolve_right ?_
      rintro ⟨other, processing, holds, _⟩
      exact idle other processing (holds.trans (congrArg some (beq_iff_eq.mp sameKey)))
    · exact inv.kept update old
  · refine ⟨fun claim member => ?_, inv.kept⟩
    rcases List.mem_cons.mp member with rfl | old
    · exact .inr ⟨delivery, List.mem_append_right _ List.mem_cons_self, claimed, rfl⟩
    · exact more delivery claim (inv.claims claim old)

/-- A delivery taken off the list leaves every claim but its own in other hands. -/
theorem held_without {index : Nat} {delivery : ErpProcessing} (current : store.processing[index]? = some delivery)
    {claim : ErpClaim} (held : ∃ other ∈ store.processing, other.key = some claim.key ∧ other.update = claim.update) :
    (delivery.key = some claim.key ∧ delivery.update = claim.update) ∨
      ∃ other ∈ store.processing.eraseIdx index, other.key = some claim.key ∧ other.update = claim.update := by
  obtain ⟨other, member, same⟩ := held
  obtain ⟨position, here⟩ := List.mem_iff_getElem?.mp member
  by_cases at' : position = index
  · rw [at', current] at here
    cases here
    exact .inl same
  · exact .inr ⟨other, List.mem_eraseIdx_iff_getElem?.mpr ⟨position, at', here⟩, same⟩

theorem conclude (inv : ErpInv store) {index : Nat} {delivery : ErpProcessing} (current : store.processing[index]? = some delivery) :
    ErpInv (store.conclude index delivery) where
  claims := by
    intro claim member
    rcases inv.claims claim member with decided | held
    · exact .inl (List.mem_cons_of_mem _ decided)
    · refine (held_without current held).imp_left fun own => ?_
      rw [← own.2]
      exact List.mem_cons_self
  kept := fun update member => List.mem_cons_of_mem _ (inv.kept update member)

theorem released (inv : ErpInv store) {index : Nat} {delivery : ErpProcessing} (current : store.processing[index]? = some delivery) :
    ErpInv ((store.abandon index).release delivery.key) where
  claims := by
    intro claim member
    obtain ⟨old, other⟩ := List.mem_filter.mp member
    refine (inv.claims claim old).imp_right fun held => (held_without current held).resolve_left fun own => ?_
    rw [own.1, bne_self_eq_false] at other
    exact Bool.false_ne_true other
  kept := inv.kept

/-- A delivery without a claim may be lost. -/
theorem abandon (inv : ErpInv store) {index : Nat} {delivery : ErpProcessing} (current : store.processing[index]? = some delivery)
    (unclaimed : delivery.key = none) : ErpInv (store.abandon index) where
  claims := by
    intro claim member
    refine (inv.claims claim member).imp_right fun held => (held_without current held).resolve_left fun own => ?_
    rw [unclaimed] at own
    cases own.1
  kept := inv.kept

theorem decide (inv : ErpInv store) {index : Nat} {fault : Option ErpFault} (inside : FailsInside store index fault) :
    ErpInv (store.decide index fault) := by
  unfold ErpStore.decide
  split
  · exact inv
  next delivery current =>
  split
  · next raised =>
    refine inv.abandon current (by_contra fun claimed => ?_)
    have hashes := (inside delivery current claimed).1
    rw [raised] at hashes
    cases hashes
  · exact inv.conclude current
  split
  · exact inv.abandon current (by_contra fun claimed => (inside delivery current claimed).2 rfl)
  · exact inv.released current
  · exact inv.released current
  split
  · exact inv.released current
  · have concluded := inv.conclude current
    exact ⟨concluded.claims, concluded.kept⟩

theorem step (inv : ErpInv store) {label : ErpHookLabel} (decides : ClaimsDecide store label) : ErpInv (runErpHookLabel store label) := by
  cases label with
  | receive => exact inv.receive decides
  | decide => exact inv.decide decides
  | crash index =>
    cases current : store.processing[index]? with
    | none =>
      have same : store.processing.eraseIdx index = store.processing :=
        List.eraseIdx_of_length_le (List.getElem?_eq_none_iff.mp current)
      have unchanged : store.abandon index = store := by rw [ErpStore.abandon, same]
      rw [runErpHookLabel, unchanged]
      exact inv
    | some delivery => exact inv.abandon current (decides delivery current)
  | expire key => exact ⟨fun claim member => inv.claims claim (List.mem_filter.mp member).1, inv.kept⟩

end ErpInv

/-- No update is lost to the dedup in a run in which an event id stands for one update, its claim is released
by every failure, and no repetition overtakes the delivery it repeats. -/
theorem no_update_lost (store : ErpStore) (reach : erpWebhookMachine.Reach ClaimsDecide store) : NoUpdateLost store := by
  have start : ∀ first, erpWebhookMachine.init first → ErpInv first := by
    rintro first ⟨noClaims, _, noDrops, _⟩
    refine ⟨?_, ?_⟩
    · rw [noClaims]
      exact fun claim member => nomatch member
    · rw [NoUpdateLost, noDrops]
      exact fun update member => nomatch member
  have step : ∀ before label, ErpInv before → ClaimsDecide before label → ErpInv (erpWebhookMachine.step before label) :=
    fun _ _ inv decides => inv.step decides
  exact (reach.invariant start step).kept

/-- Two tenants with an invoice each that was sent to the ERP. -/
def sentInvoices : ErpStore where
  tenants := [⟨"acme", [⟨1, 1, .sentToErp, none, false⟩]⟩, ⟨"globex", [⟨1, 2, .sentToErp, none, false⟩]⟩]
  claims := []
  processing := []
  dropped := []
  decided := []

/-- A delivery of the documented shape. -/
def erpBody (slug correlation status event : String) : Json :=
  .object [("tenant_slug", .str slug), ("correlation_id", .str correlation), ("status", .str status), ("event_id", .str event)]

/-- A delivery of the Merge.dev shape: the event is the type of the hook. -/
def mergeBody (slug correlation status : String) : Json :=
  .object [("linked_account_id", .str slug), ("hook", .object [("event", .str "Invoice.changed")]),
    ("data", .object [("integration_params", .object [("correlation_id", .str correlation)]), ("status", .str status)])]

def firstInvoice : String := "00000000-0000-0000-0000-000000000001"

def secondInvoice : String := "00000000-0000-0000-0000-000000000002"

theorem no_update_lost_repeated : NoUpdateLost (erpWebhookMachine.exec sentInvoices
    [.receive "netsuite" (erpBody "acme" firstInvoice "posted" "evt_1"), .decide 0 (some .inside),
      .receive "netsuite" (erpBody "acme" firstInvoice "posted" "evt_1"), .decide 0 none,
      .receive "netsuite" (erpBody "acme" firstInvoice "posted" "evt_1")]) := by
  refine no_update_lost _ (Machine.Reach.exec (.start ?_) ?_)
  · exact ⟨rfl, rfl, rfl, rfl⟩
  · decide

/-- The second event of a Merge.dev account is dropped, whatever it reports and of whichever tenant; so is an event
whose first delivery died before it was applied. -/
theorem updates_lost :
    ¬NoUpdateLost (erpWebhookMachine.exec sentInvoices
        [.receive "merge_dev" (mergeBody "acme" firstInvoice "OPEN"), .decide 0 none,
          .receive "merge_dev" (mergeBody "globex" secondInvoice "OPEN")]) ∧
      ¬NoUpdateLost (erpWebhookMachine.exec sentInvoices
        [.receive "netsuite" (erpBody "acme" firstInvoice "posted" "evt_1"), .crash 0,
          .receive "netsuite" (erpBody "acme" firstInvoice "posted" "evt_1")]) := by
  exact ⟨by decide, by decide⟩

end Payables
