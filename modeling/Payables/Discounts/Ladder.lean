import Mathlib
import Payables.Discounts.DecidedOnce

namespace Payables.Discounts
open Lib

/-- The last date there is, the ordinal of 9999-12-31. -/
def lastDay : Day := 3652059

/-- `best_tier_for_date`, whose reference date defaults to the day itself. -/
def bestTierOn (tiers : List DiscountTier) (reference validUntil : Option Day) (day : Day) :
    Except Raised (Option DiscountTier) := bestTierForDate tiers day validUntil (reference.getD day)

/-- `select_tier_for_date`, with the same default. -/
def selectTierOn (tiers : List DiscountTier) (reference validUntil : Option Day) (tierDays : Nat) (day : Day) :
    Except Raised (Option DiscountTier) := selectTierForDate tiers tierDays day validUntil (reference.getD day)

/-- The offer as a whole has not passed. -/
def Running (validUntil : Option Day) (day : Day) : Prop := ∀ last ∈ validUntil, day ≤ last
  deriving Decidable

/-- A rung whose own window and whose offer are open on a day. -/
def OpenOn (reference validUntil : Option Day) (day : Day) (tier : DiscountTier) : Prop :=
  Running validUntil day ∧ day ≤ reference.getD day + tier.days
  deriving Decidable

def InRange (tier : DiscountTier) : Prop := 0 < tier.percent ∧ tier.percent < 100

/-- What a day can ask of a stored ladder. -/
structure SoundLadder (ladder : List DiscountTier) (reference validUntil : Option Day) (day : Day) : Prop where
  parsed : parseTiers ladder = .ok ladder
  inRange : ∀ tier ∈ ladder, InRange tier
  normalized : ∀ tier ∈ ladder, normalizeTier tier = .ok tier
  accepts : ∀ offer side tierDays now, offer.status = .offered → offer.tiers = ladder → offer.validUntil = validUntil →
    reference = some offer.referenceDate → (∃ tier ∈ ladder, OpenOn reference validUntil day tier) →
    (∀ days ∈ tierDays, ∃ tier ∈ ladder, tier.days = days ∧ OpenOn reference validUntil day tier) →
      ∃ call, acceptCall offer side tierDays day now = .ok call
  best : ∃ best, bestTierOn ladder reference validUntil day = .ok best ∧
    (best.isSome ↔ ∃ tier ∈ ladder, OpenOn reference validUntil day tier) ∧
    ∀ tier ∈ best, tier ∈ ladder ∧ OpenOn reference validUntil day tier ∧
      ∀ other ∈ ladder, OpenOn reference validUntil day other → other.percent ≤ tier.percent
  worsens : ∀ later, day ≤ later → ∀ tier, bestTierOn ladder reference validUntil later = .ok (some tier) →
    ∃ earlier, bestTierOn ladder reference validUntil day = .ok (some earlier) ∧ tier.percent ≤ earlier.percent
  selects : ∀ tierDays tier, selectTierOn ladder reference validUntil tierDays day = .ok (some tier) ↔
    tier ∈ ladder ∧ tier.days = tierDays ∧ OpenOn reference validUntil day tier

section Parsing

variable {tiers ladder : List DiscountTier} {tier stored : DiscountTier}

/-- A tier as it is stored. -/
def DiscountTier.rounded (tier : DiscountTier) : DiscountTier := { tier with percent := quantizeMoney tier.percent }

theorem normalizeTier_eq_ok : normalizeTier tier = .ok stored ↔ InRange tier ∧ stored = tier.rounded := by
  rw [normalizeTier]
  split
  next range =>
    constructor
    · intro same
      exact ⟨range, (Except.ok.inj same).symm⟩
    · rintro ⟨_, rfl⟩
      rfl
  next outside =>
    constructor
    · intro same
      cases same
    · intro both
      exact absurd both.1 outside

theorem mapM_normalizeTier_eq_ok : tiers.mapM normalizeTier = .ok ladder ↔
    (∀ tier ∈ tiers, InRange tier) ∧ ladder = tiers.map DiscountTier.rounded := by
  induction tiers generalizing ladder with
  | nil =>
    rw [List.mapM_nil, pure_eq_ok, List.map_nil]
    exact ⟨fun same => ⟨List.forall_mem_nil _, same.symm⟩, fun both => both.2.symm⟩
  | cons first rest ih =>
    constructor
    · intro maps
      obtain ⟨stored, others, head, tail, rfl⟩ := mapM_cons_eq_ok maps
      obtain ⟨range, rfl⟩ := (normalizeTier_eq_ok).mp head
      obtain ⟨ranges, rfl⟩ := ih.mp tail
      exact ⟨List.forall_mem_cons.mpr ⟨range, ranges⟩, rfl⟩
    · rintro ⟨ranges, rfl⟩
      obtain ⟨range, ranges⟩ := List.forall_mem_cons.mp ranges
      have tail := ih.mpr ⟨ranges, rfl⟩
      rw [List.mapM_cons, (normalizeTier_eq_ok).mpr ⟨range, rfl⟩, tail]
      rfl

theorem rounded_rounded (tier : DiscountTier) : tier.rounded.rounded = tier.rounded := by
  rw [DiscountTier.rounded, DiscountTier.rounded, (quantizeMoney_onCents tier.percent).quantizeMoney_eq]

/-- No tier has days that another has, as the loop over `seen` finds it. -/
theorem find_repeated_eq_none_iff :
    (ladder.find? fun tier => 1 < ladder.countP fun other => other.days = tier.days) = none ↔
      (ladder.map DiscountTier.days).Nodup := by
  rw [List.find?_eq_none, List.nodup_iff_count_le_one]
  have counts : ∀ days, (ladder.map DiscountTier.days).count days = ladder.countP fun other => other.days = days := by
    intro days
    rw [List.count, List.countP_map]
    rfl
  constructor
  · intro once days
    rw [counts]
    by_cases named : ∃ tier ∈ ladder, tier.days = days
    · obtain ⟨tier, mem, rfl⟩ := named
      have single := once tier mem
      simpa using single
    · have zero : ladder.countP (fun other => other.days = days) = 0 := by
        refine List.countP_eq_zero.mpr fun other mem => ?_
        simpa using fun same => named ⟨other, mem, same⟩
      omega
  · intro once tier _
    have single := once tier.days
    rw [counts] at single
    simpa using single

theorem parseTiers_eq_ok : parseTiers tiers = .ok ladder ↔ tiers ≠ [] ∧ (∀ tier ∈ tiers, InRange tier) ∧
    (tiers.map DiscountTier.days).Nodup ∧
      ladder = (tiers.map DiscountTier.rounded).insertionSort fun one other => one.days ≤ other.days := by
  have days : (tiers.map DiscountTier.rounded).map DiscountTier.days = tiers.map DiscountTier.days := by
    rw [List.map_map]
    rfl
  rw [parseTiers]
  by_cases none : tiers = []
  · rw [if_pos none]
    constructor
    · intro same
      cases same
    · intro accepted
      exact absurd none accepted.1
  · rw [if_neg none, bind_eq_ok]
    constructor
    · rintro ⟨stored, maps, rest⟩
      obtain ⟨ranges, rfl⟩ := (mapM_normalizeTier_eq_ok).mp maps
      split at rest
      · cases rest
      next single =>
        rw [find_repeated_eq_none_iff, days] at single
        exact ⟨none, ranges, single, (Except.ok.inj rest).symm⟩
    · rintro ⟨_, ranges, single, rfl⟩
      refine ⟨_, (mapM_normalizeTier_eq_ok).mpr ⟨ranges, rfl⟩, ?_⟩
      rw [← days, ← find_repeated_eq_none_iff] at single
      rw [single]

theorem mem_ladder_iff (accepted : parseTiers tiers = .ok ladder) : stored ∈ ladder ↔ ∃ tier ∈ tiers, tier.rounded = stored := by
  obtain ⟨_, _, _, rfl⟩ := (parseTiers_eq_ok).mp accepted
  rw [List.mem_insertionSort, List.mem_map]

/-- The days of an accepted ladder are all different. -/
theorem nodup_days_of_parseTiers (accepted : parseTiers tiers = .ok ladder) : (ladder.map DiscountTier.days).Nodup := by
  obtain ⟨_, _, single, rfl⟩ := (parseTiers_eq_ok).mp accepted
  have days : (tiers.map DiscountTier.rounded).map DiscountTier.days = tiers.map DiscountTier.days := by
    rw [List.map_map]
    rfl
  have moved := (List.perm_insertionSort (fun one other : DiscountTier => one.days ≤ other.days)
    (tiers.map DiscountTier.rounded)).map DiscountTier.days
  rw [days] at moved
  exact moved.nodup_iff.mpr single

/-- A stored ladder is accepted again as it is exactly when all its rungs are in range still. -/
theorem parseTiers_again_iff (accepted : parseTiers tiers = .ok ladder) :
    parseTiers ladder = .ok ladder ↔ ∀ tier ∈ ladder, InRange tier := by
  have single := nodup_days_of_parseTiers accepted
  have kept : ladder.map DiscountTier.rounded = ladder := by
    have same : ∀ stored ∈ ladder, stored.rounded = id stored := by
      intro stored mem
      obtain ⟨tier, _, rfl⟩ := (mem_ladder_iff accepted).mp mem
      exact rounded_rounded tier
    rw [List.map_congr_left same, List.map_id]
  obtain ⟨some, _, _, same⟩ := (parseTiers_eq_ok).mp accepted
  have sorted : ladder.Pairwise fun one other => one.days ≤ other.days := by
    rw [same]
    exact List.pairwise_insertionSort _ _
  have filled : ladder ≠ [] := by
    intro empty
    obtain ⟨tier, mem⟩ := List.exists_mem_of_ne_nil tiers some
    have stored := (mem_ladder_iff accepted).mpr ⟨tier, mem, rfl⟩
    rw [empty] at stored
    cases stored
  rw [parseTiers_eq_ok, kept, sorted.insertionSort_eq]
  exact ⟨fun again => again.2.1, fun ranges => ⟨filled, ranges, single, rfl⟩⟩

/-- Rounding keeps a percent in range exactly between half a cent and half a cent below one hundred. -/
theorem inRange_rounded_iff (range : InRange tier) :
    InRange tier.rounded ↔ 1 / 200 ≤ tier.percent ∧ tier.percent < 19999 / 200 := by
  have rounds : tier.rounded.percent = (⌊tier.percent * 100 + 1 / 2⌋ : ℤ) / 100 := by
    rw [DiscountTier.rounded, quantizeMoney, if_pos range.1.le]
  have above : (0 : ℚ) < (⌊tier.percent * 100 + 1 / 2⌋ : ℤ) / 100 ↔ 1 / 200 ≤ tier.percent := by
    rw [div_pos_iff_of_pos_right (by norm_num), Int.cast_pos, Int.floor_pos]
    constructor <;> intro holds <;> linarith
  have below : ((⌊tier.percent * 100 + 1 / 2⌋ : ℤ) : ℚ) / 100 < 100 ↔ tier.percent < 19999 / 200 := by
    rw [div_lt_iff₀ (by norm_num)]
    have whole : ((⌊tier.percent * 100 + 1 / 2⌋ : ℤ) : ℚ) < 100 * 100 ↔ ⌊tier.percent * 100 + 1 / 2⌋ < 10000 := by
      rw [← Int.cast_lt (R := ℚ)]
      norm_num
    rw [whole, Int.floor_lt]
    constructor <;> intro holds <;> push_cast at * <;> linarith
  rw [InRange, rounds, above, below]

end Parsing

section Selection

variable {tiers : List DiscountTier} {tier : DiscountTier} {best : Option DiscountTier} {validUntil : Option Day}
  {day ref : Day} {found : Bool}

theorem addDays_of_le {days : Nat} (fits : ref + days ≤ lastDay) : addDays ref days = .ok (ref + days) := if_pos fits

theorem le_of_addDays {days : Nat} {later : Day} (adds : addDays ref days = .ok later) : ref + days ≤ lastDay := by
  rw [addDays] at adds
  split at adds
  next fits => exact fits
  next => cases adds

theorem running_iff : Running validUntil day ↔ ¬validUntil.any (· < day) := by
  cases validUntil with
  | none => simp [Running]
  | some last => simp [Running]

theorem tierAchievable_of_running (running : Running validUntil day) (fits : ref + tier.days ≤ lastDay) :
    tierAchievable tier day validUntil ref = .ok (decide (day ≤ ref + tier.days)) := by
  rw [tierAchievable, if_neg (running_iff.mp running), addDays_of_le fits]
  rfl

/-- A rung is only looked at where its deadline is a date. -/
theorem fits_of_tierAchievable (running : Running validUntil day)
    (looks : tierAchievable tier day validUntil ref = .ok found) : ref + tier.days ≤ lastDay := by
  rw [tierAchievable, if_neg (running_iff.mp running)] at looks
  obtain ⟨deadline, adds, _⟩ := bind_eq_ok.mp looks
  exact le_of_addDays adds

theorem fits_of_bestTier (running : Running validUntil day) {result : Option DiscountTier}
    (picks : bestTier day validUntil ref best tiers = .ok result) : ∀ tier ∈ tiers, ref + tier.days ≤ lastDay := by
  induction tiers generalizing best with
  | nil => exact List.forall_mem_nil _
  | cons first rest ih =>
    obtain ⟨found, looks, next⟩ := bind_eq_ok.mp picks
    have fits := fits_of_tierAchievable running looks
    split at next
    · exact List.forall_mem_cons.mpr ⟨fits, ih next⟩
    · exact List.forall_mem_cons.mpr ⟨fits, ih next⟩

theorem bestTier_cons {rest : List DiscountTier} (running : Running validUntil day)
    (fits : ref + tier.days ≤ lastDay) : bestTier day validUntil ref best (tier :: rest) =
      bestTier day validUntil ref
        (if day ≤ ref + tier.days ∧ best.all (·.percent < tier.percent) then some tier else best) rest := by
  rw [bestTier, tierAchievable_of_running running fits]
  by_cases better : day ≤ ref + tier.days ∧ best.all (·.percent < tier.percent)
  · rw [if_pos better]
    exact if_pos ⟨decide_eq_true better.1, better.2⟩
  · rw [if_neg better]
    exact if_neg fun both => better ⟨of_decide_eq_true both.1, both.2⟩

/-- What the loop returns from the best rung so far: that one or an open one, with a percent as high as theirs. -/
theorem bestTier_spec (running : Running validUntil day) (fits : ∀ tier ∈ tiers, ref + tier.days ≤ lastDay) :
    ∃ result, bestTier day validUntil ref best tiers = .ok result ∧
      (∀ tier ∈ result, best = some tier ∨ tier ∈ tiers ∧ day ≤ ref + tier.days) ∧
      ∀ other, best = some other ∨ other ∈ tiers ∧ day ≤ ref + other.days →
        ∃ tier ∈ result, other.percent ≤ tier.percent := by
  induction tiers generalizing best with
  | nil =>
    refine ⟨best, rfl, fun tier mem => .inl mem, ?_⟩
    rintro other (same | ⟨mem, _⟩)
    · exact ⟨other, same, le_rfl⟩
    · cases mem
  | cons first rest ih =>
    obtain ⟨fitsFirst, fitsRest⟩ := List.forall_mem_cons.mp fits
    rw [bestTier_cons running fitsFirst]
    by_cases better : day ≤ ref + first.days ∧ best.all (·.percent < first.percent)
    · rw [if_pos better]
      obtain ⟨result, picks, among, highest⟩ := ih fitsRest
      refine ⟨result, picks, fun tier mem => ?_, fun other candidate => ?_⟩
      · rcases among tier mem with same | ⟨held, window⟩
        · obtain rfl := Option.some.inj same
          exact .inr ⟨List.mem_cons_self, better.1⟩
        · exact .inr ⟨List.mem_cons_of_mem _ held, window⟩
      · rcases candidate with same | ⟨held, window⟩
        · obtain ⟨tier, mem, above⟩ := highest first (.inl rfl)
          have below : other.percent < first.percent := by simpa [same] using better.2
          exact ⟨tier, mem, below.le.trans above⟩
        · rcases List.mem_cons.mp held with rfl | held
          · exact highest other (.inl rfl)
          · exact highest other (.inr ⟨held, window⟩)
    · rw [if_neg better]
      obtain ⟨result, picks, among, highest⟩ := ih fitsRest
      refine ⟨result, picks, fun tier mem => ?_, fun other candidate => ?_⟩
      · rcases among tier mem with same | ⟨held, window⟩
        · exact .inl same
        · exact .inr ⟨List.mem_cons_of_mem _ held, window⟩
      · rcases candidate with same | ⟨held, window⟩
        · exact highest other (.inl same)
        · rcases List.mem_cons.mp held with rfl | held
          · -- An open rung is passed over only for one that is at least as good.
            cases best with
            | none => exact absurd ⟨window, rfl⟩ better
            | some kept =>
              have above : other.percent ≤ kept.percent := by
                by_contra lower
                exact better ⟨window, by simpa using lower⟩
              obtain ⟨tier, mem, higher⟩ := highest kept (.inl rfl)
              exact ⟨tier, mem, above.trans higher⟩
          · exact highest other (.inr ⟨held, window⟩)

theorem selectTier_eq_some {tierDays : Nat} (single : (tiers.map DiscountTier.days).Nodup) :
    selectTier tiers tierDays = some tier ↔ tier ∈ tiers ∧ tier.days = tierDays := by
  constructor
  · intro finds
    exact ⟨List.mem_of_find?_eq_some finds, by simpa using List.find?_some finds⟩
  · rintro ⟨mem, named⟩
    cases finds : selectTier tiers tierDays with
    | none => exact absurd named (by simpa using List.find?_eq_none.mp finds tier mem)
    | some other =>
      have otherNamed : other.days = tierDays := by simpa using List.find?_some finds
      have same := List.inj_on_of_nodup_map single (List.mem_of_find?_eq_some finds) mem (otherNamed.trans named.symm)
      rw [same]

end Selection

section Ladders

variable {tiers ladder : List DiscountTier} {tier : DiscountTier} {reference validUntil : Option Day} {day later : Day}

/-- While the offer runs, the deadline of every rung is a date. -/
def DeadlinesFit (tiers : List DiscountTier) (reference validUntil : Option Day) (day : Day) : Prop :=
  Running validUntil day → ∀ tier ∈ tiers, reference.getD day + tier.days ≤ lastDay

theorem OpenOn.earlier (opened : OpenOn reference validUntil later tier) (le : day ≤ later) :
    OpenOn reference validUntil day tier := by
  refine ⟨fun last mem => le.trans (opened.1 last mem), ?_⟩
  cases reference with
  | none =>
    have grows : (0 : Int) ≤ tier.days := Int.natCast_nonneg _
    exact le_add_of_nonneg_right grows
  | some ref => exact le.trans opened.2

/-- `best_tier_for_date` returns an open rung with the highest percent of those that are open. -/
theorem bestTierOn_spec (fits : DeadlinesFit ladder reference validUntil day) :
    ∃ best, bestTierOn ladder reference validUntil day = .ok best ∧
      (∀ tier ∈ best, tier ∈ ladder ∧ OpenOn reference validUntil day tier) ∧
      ∀ other ∈ ladder, OpenOn reference validUntil day other → ∃ tier ∈ best, other.percent ≤ tier.percent := by
  rw [bestTierOn, bestTierForDate]
  by_cases running : Running validUntil day
  · rw [if_neg (running_iff.mp running)]
    obtain ⟨best, picks, among, highest⟩ := bestTier_spec running (fits running)
    refine ⟨best, picks, fun tier mem => ?_, fun other mem opened => highest other (.inr ⟨mem, opened.2⟩)⟩
    rcases among tier mem with none | ⟨held, window⟩
    · cases none
    · exact ⟨held, running, window⟩
  · have passed : validUntil.any (· < day) := not_not.mp fun open_ => running (running_iff.mpr open_)
    rw [if_pos passed]
    refine ⟨none, rfl, fun tier mem => ?_, fun other _ opened => absurd opened.1 running⟩
    cases mem

/-- Where `best_tier_for_date` returns at all, it has found the deadlines of the rungs. -/
theorem deadlinesFit_of_bestTierOn {best : Option DiscountTier} (picks : bestTierOn ladder reference validUntil day = .ok best) :
    DeadlinesFit ladder reference validUntil day := by
  intro running
  rw [bestTierOn, bestTierForDate, if_neg (running_iff.mp running)] at picks
  exact fits_of_bestTier running picks

theorem selectTierOn_eq_some {tierDays : Nat} (single : (ladder.map DiscountTier.days).Nodup)
    (fits : DeadlinesFit ladder reference validUntil day) :
    selectTierOn ladder reference validUntil tierDays day = .ok (some tier) ↔
      tier ∈ ladder ∧ tier.days = tierDays ∧ OpenOn reference validUntil day tier := by
  rw [selectTierOn, selectTierForDate, ← and_assoc, ← selectTier_eq_some single]
  cases named : selectTier ladder tierDays with
  | none => simp
  | some other =>
    have mem := ((selectTier_eq_some single).mp named).1
    have looks : tierAchievable other day validUntil (reference.getD day) =
        .ok (decide (OpenOn reference validUntil day other)) := by
      by_cases running : Running validUntil day
      · rw [tierAchievable_of_running running (fits running other mem)]
        exact congrArg _ (decide_eq_decide.mpr ⟨fun window => ⟨running, window⟩, fun opened => opened.2⟩)
      · have passed : validUntil.any (· < day) := not_not.mp fun open_ => running (running_iff.mpr open_)
        rw [tierAchievable, if_pos passed, decide_eq_false fun opened => running opened.1]
    show (tierAchievable other day validUntil (reference.getD day) >>= _) = _ ↔ _
    rw [looks]
    by_cases opened : OpenOn reference validUntil day other
    · rw [decide_eq_true opened]
      constructor
      · intro same
        obtain rfl := Option.some.inj (Except.ok.inj same)
        exact ⟨rfl, opened⟩
      · rintro ⟨same, _⟩
        obtain rfl := Option.some.inj same
        rfl
    · rw [decide_eq_false opened]
      constructor
      · intro same
        cases Except.ok.inj same
      · rintro ⟨same, held⟩
        obtain rfl := Option.some.inj same
        exact absurd held opened

/-- An offered offer is accepted at any tier of its ladder that a selection returns. -/
theorem acceptCall_of_pickTier {offer : DiscountOffer} {tierDays : Option Nat} (offered : offer.status = .offered)
    (normal : normalizeTier tier = .ok tier) (picks : pickTier offer tierDays day = .ok tier) (side : OfferSide) (now : Time) :
    ∃ call, acceptCall offer side tierDays day now = .ok call := by
  let edited : DiscountOffer :=
    { offer with acceptedTier := some tier, acceptedAt := some now, acceptedBy := side.actorId, status := .accepted }
  have edits : acceptOffer offer tier side.actorId now = .ok edited := by
    rw [acceptOffer, if_neg (not_not.mpr offered), normal]
    rfl
  refine ⟨⟨offer, edited, side.acceptance edited.acceptedTier⟩, ?_⟩
  exact bind_eq_ok.mpr ⟨tier, picks, bind_eq_ok.mpr ⟨edited, conflicting_eq_ok.mpr edits, rfl⟩⟩

theorem pickTier_best {offer : DiscountOffer}
    (picks : bestTierOn offer.tiers (some offer.referenceDate) offer.validUntil day = .ok (some tier)) :
    pickTier offer none day = .ok tier := by
  rw [bestTierOn, Option.getD_some] at picks
  rw [pickTier, picks]
  rfl

theorem pickTier_named {offer : DiscountOffer} {days : Nat}
    (picks : selectTierOn offer.tiers (some offer.referenceDate) offer.validUntil days day = .ok (some tier)) :
    pickTier offer (some days) day = .ok tier := by
  rw [selectTierOn, Option.getD_some] at picks
  rw [pickTier, picks]
  rfl

theorem soundLadder_of_fits (accepted : parseTiers tiers = .ok ladder) (ranges : ∀ tier ∈ ladder, InRange tier)
    (fits : DeadlinesFit ladder reference validUntil day) : SoundLadder ladder reference validUntil day := by
  have single := nodup_days_of_parseTiers accepted
  have normal : ∀ tier ∈ ladder, normalizeTier tier = .ok tier := by
    intro stored mem
    obtain ⟨tier, _, rfl⟩ := (mem_ladder_iff accepted).mp mem
    exact (normalizeTier_eq_ok).mpr ⟨ranges _ mem, (rounded_rounded tier).symm⟩
  obtain ⟨best, picks, among, highest⟩ := bestTierOn_spec fits
  refine ⟨(parseTiers_again_iff accepted).mpr ranges, ranges, normal, ?_, ⟨best, picks, ?_, ?_⟩, ?_, ?_⟩
  · rintro offer side tierDays now offered rfl rfl rfl ⟨tier, mem, opened⟩ named
    cases tierDays with
    | none =>
      obtain ⟨chosen, held, _⟩ := highest tier mem opened
      obtain rfl := Option.mem_def.mp held
      exact acceptCall_of_pickTier offered (normal chosen (among chosen rfl).1) (pickTier_best picks) side now
    | some days =>
      obtain ⟨chosen, held, same, window⟩ := named days rfl
      have selects := (selectTierOn_eq_some single fits).mpr ⟨held, same, window⟩
      exact acceptCall_of_pickTier offered (normal chosen held) (pickTier_named selects) side now
  · constructor
    · intro some
      obtain ⟨tier, held⟩ := Option.isSome_iff_exists.mp some
      exact ⟨tier, among tier held⟩
    · rintro ⟨tier, mem, opened⟩
      obtain ⟨chosen, held, _⟩ := highest tier mem opened
      exact Option.isSome_iff_exists.mpr ⟨chosen, held⟩
  · intro tier held
    refine ⟨(among tier held).1, (among tier held).2, fun other mem opened => ?_⟩
    obtain ⟨chosen, same, above⟩ := highest other mem opened
    obtain rfl := Option.some.inj (held.symm.trans same)
    exact above
  · intro later le tier laterPicks
    obtain ⟨laterBest, samePicks, laterAmong, _⟩ := bestTierOn_spec (deadlinesFit_of_bestTierOn laterPicks)
    obtain rfl := Except.ok.inj (laterPicks.symm.trans samePicks)
    obtain ⟨mem, opened⟩ := laterAmong tier rfl
    obtain ⟨chosen, held, above⟩ := highest tier mem (opened.earlier le)
    obtain rfl := Option.mem_def.mp held
    exact ⟨chosen, picks, above⟩
  · intro tierDays tier
    exact selectTierOn_eq_some single fits

/-- A ladder that `parse_tiers` accepts is sound on a day exactly when rounding leaves its percents between 0 and 100 and,
while the offer runs, the calendar reaches to its deadlines. -/
theorem soundLadder_iff (accepted : parseTiers tiers = .ok ladder) (reference validUntil : Option Day) (day : Day) :
    SoundLadder ladder reference validUntil day ↔
      (∀ tier ∈ tiers, 1 / 200 ≤ tier.percent ∧ tier.percent < 19999 / 200) ∧
        DeadlinesFit tiers reference validUntil day := by
  have ranges := (parseTiers_eq_ok.mp accepted).2.1
  have ofLadder : ∀ {P : DiscountTier → Prop}, (∀ stored ∈ ladder, P stored) ↔ ∀ tier ∈ tiers, P tier.rounded := by
    intro P
    constructor
    · intro each tier mem
      exact each _ ((mem_ladder_iff accepted).mpr ⟨tier, mem, rfl⟩)
    · intro each stored mem
      obtain ⟨tier, held, rfl⟩ := (mem_ladder_iff accepted).mp mem
      exact each tier held
  have fits : DeadlinesFit ladder reference validUntil day ↔ DeadlinesFit tiers reference validUntil day :=
    forall_congr' fun _ => ofLadder
  have rounds : (∀ tier ∈ ladder, InRange tier) ↔ ∀ tier ∈ tiers, 1 / 200 ≤ tier.percent ∧ tier.percent < 19999 / 200 := by
    rw [ofLadder]
    exact forall₂_congr fun tier mem => inRange_rounded_iff (ranges tier mem)
  rw [← rounds, ← fits]
  constructor
  · intro sound
    obtain ⟨best, picks, _⟩ := sound.best
    exact ⟨sound.inRange, deadlinesFit_of_bestTierOn picks⟩
  · rintro ⟨inRange, reach⟩
    exact soundLadder_of_fits accepted inRange reach

theorem sound_two_rungs : SoundLadder [⟨5, 3⟩, ⟨10, 2⟩] (some 739617) (some 739647) 739620 := by
  have parsed : parseTiers [⟨5, 3⟩, ⟨10, 2⟩] = .ok [⟨5, 3⟩, ⟨10, 2⟩] := by
    have three : quantizeMoney 3 = 3 := OnCents.quantizeMoney_eq ⟨300, by norm_num⟩
    have two : quantizeMoney 2 = 2 := OnCents.quantizeMoney_eq ⟨200, by norm_num⟩
    refine (parseTiers_eq_ok).mpr ⟨by simp, ?_, by decide, ?_⟩
    · simp [InRange]
      norm_num
    · simp [DiscountTier.rounded, three, two]
  refine (soundLadder_iff parsed _ _ _).mpr ⟨?_, fun _ => ?_⟩
  · simp
    norm_num
  · simp [lastDay]

/-- A percent of 0.001 is accepted and stored as `0.00`, which is refused from then on. -/
theorem stored_rung_refused :
    parseTiers [⟨5, 1 / 1000⟩] = .ok [⟨5, 0⟩] ∧ ¬SoundLadder [⟨5, 0⟩] (some 739617) none 739617 := by
  constructor
  · have nothing : quantizeMoney (1 / 1000) = 0 := by
      have floor : ⌊(1 / 1000 : ℚ) * 100 + 1 / 2⌋ = 0 := by
        rw [Int.floor_eq_iff]
        norm_num
      rw [quantizeMoney, if_pos (by norm_num), floor]
      norm_num
    refine (parseTiers_eq_ok).mpr ⟨by simp, ?_, by decide, ?_⟩
    · simp [InRange]
      norm_num
    · rw [List.map_singleton, DiscountTier.rounded, nothing]
      rfl
  · intro sound
    have positive : (0 : ℚ) < 0 := (sound.inRange ⟨5, 0⟩ (List.mem_singleton_self _)).1
    exact lt_irrefl _ positive

end Ladders

end Payables.Discounts
