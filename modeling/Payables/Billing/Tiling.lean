import Payables.Billing.Periods

namespace Payables.Billing
open Lib

/-- The windows of a sequence of instants, each one written back before the next is resolved. -/
def billedPeriods (subscription : Subscription) : List Datetime → Option (List BillingPeriod)
  | [] => some []
  | now :: later => do
    let period ← currentPeriod subscription now
    let periods ← billedPeriods (subscription.persist period) later
    return period :: periods

/-- A window on a row that was never resolved is the first month of its anchor. -/
def Subscription.Opened (subscription : Subscription) : Prop :=
  ∀ start ∈ subscription.currentPeriodStart, ∀ stop ∈ subscription.currentPeriodEnd, addMonths start 1 = some stop

/-- The windows tile time from the anchor on. -/
structure TilesTime (anchor : Datetime) (times : List Datetime) (periods : List BillingPeriod) : Prop where
  contain : List.Forall₂ (fun now period => period.Contains now) times periods
  apart : periods.Pairwise fun one other => one = other ∨ one.stop ≤ other.start ∨ other.stop ≤ one.start
  joined : periods.Pairwise fun one other =>
    other.start.date.months = one.start.date.months + 1 → one.stop = other.start
  boundaries : ∀ period ∈ periods, ∃ k, IsMonth anchor k period

/-- The instants keep in step with the months of the anchor, where the last window is the one after `k` months: none is
before the anchor, none comes later than the bound of the walk, and none leaves a month too short for the day of the
anchor. -/
def InStep (anchor : Datetime) : Nat → List Datetime → Prop
  | _, [] => True
  | k, now :: later =>
    anchor ≤ now ∧ monthsSince anchor now ≤ k + maxPeriodsForward ∧ (Clamps anchor k → monthsSince anchor now = k) ∧
      InStep anchor (monthsSince anchor now) later

instance (anchor : Datetime) : (k : Nat) → (times : List Datetime) → Decidable (InStep anchor k times)
  | _, [] => inferInstanceAs (Decidable True)
  | k, now :: later =>
    have := instDecidableInStep anchor (monthsSince anchor now) later
    inferInstanceAs (Decidable (anchor ≤ now ∧ monthsSince anchor now ≤ k + maxPeriodsForward ∧
      (Clamps anchor k → monthsSince anchor now = k) ∧ InStep anchor (monthsSince anchor now) later))

section Boundaries

variable {anchor start now : Datetime} {k j : Nat} {period other : BillingPeriod}

/-- Of two months in a row, one has 31 days. -/
theorem monthLength_long (anchor : Datetime) (k : Nat) : monthLength anchor k = 31 ∨ monthLength anchor (k + 1) = 31 := by
  have next : (anchor.date.months + (k + 1)) % 12 = if (anchor.date.months + k) % 12 = 11 then 0 else (anchor.date.months + k) % 12 + 1 := by
    split <;> omega
  rw [monthLength, monthLength, next]
  unfold daysInMonth
  generalize (anchor.date.months + k) % 12 = month
  split_ifs <;> omega

theorem monthLength_of_addMonths (bounds : addMonths anchor k = some start) (j : Nat) :
    monthLength start j = monthLength anchor (k + j) := by
  have months := (addMonths_eq_some.mp bounds).1
  rw [monthLength, monthLength, months, Nat.add_assoc]

/-- A boundary on the day of the anchor takes its place. -/
theorem addMonths_of_boundary (bounds : addMonths anchor k = some start) (fits : ¬Clamps anchor k) (j : Nat) :
    addMonths start j = addMonths anchor (k + j) := by
  obtain ⟨months, day, micros⟩ := addMonths_eq_some.mp bounds
  rw [Clamps, not_lt] at fits
  have sameDay : start.date.day = anchor.date.day := by omega
  ext boundary
  rw [addMonths_eq_some, addMonths_eq_some, monthLength_of_addMonths bounds, months, sameDay,
    micros, Nat.add_assoc]

/-- From a boundary that was moved back, no later month is one of the months of the anchor. -/
theorem not_isMonth_of_clamps (bounds : addMonths anchor k = some start) (clamps : Clamps anchor k)
    (month : IsMonth start j period) : ¬∃ whole, IsMonth anchor whole period := by
  rintro ⟨whole, starts, stops⟩
  obtain ⟨months, day, _⟩ := addMonths_eq_some.mp bounds
  obtain ⟨fromMonths, fromDay, _⟩ := addMonths_eq_some.mp month.1
  obtain ⟨toMonths, toDay, _⟩ := addMonths_eq_some.mp month.2
  obtain ⟨startMonths, startDay, _⟩ := addMonths_eq_some.mp starts
  obtain ⟨stopMonths, stopDay, _⟩ := addMonths_eq_some.mp stops
  have same : whole = k + j := by omega
  have last := anchor.date.dayRange.2
  have most := daysInMonth_le anchor.date.year anchor.date.month
  have long := monthLength_long anchor (k + j)
  rw [monthLength_of_addMonths bounds] at fromDay toDay
  rw [same] at startDay stopDay
  rw [Nat.add_assoc k j 1] at stopDay
  rw [← Nat.add_assoc k j 1] at stopDay toDay
  rw [Clamps] at clamps
  omega

/-- Months of one anchor are the same, or one of them ends before the other begins. -/
theorem IsMonth.apart (one : IsMonth anchor k period) (two : IsMonth anchor j other) :
    period = other ∨ period.stop ≤ other.start ∨ other.stop ≤ period.start := by
  rcases Nat.lt_trichotomy k j with before | same | after
  · exact .inr (.inl (addMonths_le one.2 two.1 before))
  · rw [same] at one
    have starts := Option.some.inj (one.1.symm.trans two.1)
    have stops := Option.some.inj (one.2.symm.trans two.2)
    cases period
    cases other
    simp_all
  · exact .inr (.inr (addMonths_le two.2 one.1 after))

theorem IsMonth.joined (one : IsMonth anchor k period) (two : IsMonth anchor j other)
    (next : other.start.date.months = period.start.date.months + 1) : period.stop = other.start := by
  have months := (addMonths_eq_some.mp one.1).1
  have otherMonths := (addMonths_eq_some.mp two.1).1
  have succ : k + 1 = j := by omega
  have stops := one.2
  rw [succ] at stops
  exact Option.some.inj (stops.symm.trans two.1)

/-- Counting from a boundary on the day of the anchor. -/
theorem monthsSince_of_boundary (bounds : addMonths anchor k = some start) (fits : ¬Clamps anchor k) (begun : start ≤ now) :
    monthsSince anchor now = k + monthsSince start now := by
  have first : anchor ≤ start := addMonths_le (addMonths_zero anchor) bounds (Nat.zero_le k)
  have exists_ : ∀ from_ : Datetime, from_ ≤ now → ∃ boundary, addMonths from_ (monthsSince from_ now) = some boundary := by
    intro from_ early
    have within := now.date.months_lt
    have months : from_.date.months ≤ now.date.months := by
      rcases Datetime.le_iff.mp early with earlier | ⟨same, _⟩
      · rcases CalendarDate.lt_iff.mp earlier with month | ⟨month, _⟩ <;> omega
      · rw [same]
    have below : monthsSince from_ now ≤ now.date.months - from_.date.months := by
      simp only [monthsSince]
      split <;> omega
    exact addMonths_exists (by omega)
  have reached := (addMonths_le_iff (first.trans begun) bounds).mp begun
  have least : k + monthsSince start now ≤ monthsSince anchor now := by
    obtain ⟨boundary, found⟩ := exists_ start begun
    have before := (addMonths_le_iff begun found).mpr le_rfl
    rw [addMonths_of_boundary bounds fits] at found
    exact (addMonths_le_iff (first.trans begun) found).mp before
  have most : monthsSince anchor now - k ≤ monthsSince start now := by
    obtain ⟨boundary, found⟩ := exists_ anchor (first.trans begun)
    have before := (addMonths_le_iff (first.trans begun) found).mpr le_rfl
    have split : monthsSince anchor now = k + (monthsSince anchor now - k) := by omega
    rw [split, ← addMonths_of_boundary bounds fits] at found
    exact (addMonths_le_iff begun found).mp before
  omega

end Boundaries

/-- The window of a row is the month after `k` months of the anchor, or none is written yet. -/
structure OnMonth (anchor : Datetime) (k : Nat) (subscription : Subscription) : Prop where
  starts : addMonths anchor k = some subscription.anchor
  stops : ∀ start ∈ subscription.currentPeriodStart, ∀ stop ∈ subscription.currentPeriodEnd,
    addMonths anchor (k + 1) = some stop
  written : k ≠ 0 → ∃ period, subscription = subscription.persist period

section Steps

variable {anchor now : Datetime} {k : Nat} {subscription : Subscription} {period : BillingPeriod}

theorem Subscription.Opened.onMonth (opened : subscription.Opened) : OnMonth subscription.anchor 0 subscription := by
  refine ⟨addMonths_zero _, fun start begins stop ends => ?_, fun absurd_ => absurd rfl absurd_⟩
  have same : subscription.anchor = start := by rw [Subscription.anchor, Option.mem_def.mp begins, Option.getD_some]
  rw [same]
  exact opened start begins stop ends

/-- The window on the row is kept where it contains the instant. -/
theorem currentPeriod_eq_some (resolves : currentPeriod subscription now = some period) :
    (subscription = subscription.persist period ∧ period.Contains now) ∨
      resolvePeriod subscription.anchor now = some period ∧
        ∀ last, subscription = subscription.persist last → ¬last.Contains now := by
  obtain ⟨id, planId, status, start, stop, createdAt, externalSubscriptionId⟩ := subscription
  simp only [Subscription.persist, Subscription.mk.injEq, true_and, and_true]
  cases start with
  | none => exact .inr ⟨resolves, by simp⟩
  | some start =>
    cases stop with
    | none => exact .inr ⟨resolves, by simp⟩
    | some stop =>
      simp only [currentPeriod] at resolves
      split at resolves
      next within =>
        obtain rfl := Option.some.inj resolves
        exact .inl ⟨⟨rfl, rfl⟩, within⟩
      next outside =>
        refine .inr ⟨resolves, ?_⟩
        rintro ⟨first, last⟩ ⟨begins, ends⟩
        obtain rfl : start = first := Option.some.inj begins
        obtain rfl : stop = last := Option.some.inj ends
        exact outside

theorem OnMonth.isMonth (on : OnMonth anchor k subscription) (same : subscription = subscription.persist period) :
    IsMonth anchor k period := by
  have starts := on.starts
  rw [same] at starts
  refine ⟨starts, on.stops period.start ?_ period.stop ?_⟩
  · rw [same]
    rfl
  · rw [same]
    rfl

/-- A window is the month of the anchor that its instant is in exactly when the instant keeps in step. -/
theorem step_iff (on : OnMonth anchor k subscription) (after : anchor ≤ now → subscription.anchor ≤ now)
    (resolves : currentPeriod subscription now = some period) :
    (period.Contains now ∧ ∃ whole, IsMonth anchor whole period) ↔
      anchor ≤ now ∧ monthsSince anchor now ≤ k + maxPeriodsForward ∧ (Clamps anchor k → monthsSince anchor now = k) := by
  have first : anchor ≤ subscription.anchor := addMonths_le (addMonths_zero anchor) on.starts (Nat.zero_le k)
  rcases currentPeriod_eq_some resolves with ⟨same, within⟩ | ⟨walks, outside⟩
  · have month := on.isMonth same
    have begun : anchor ≤ now := by
      have start : subscription.anchor = period.start := by
        rw [same]
        rfl
      rw [start] at first
      exact first.trans within.1
    have index := (month.contains_iff begun).mp within
    refine ⟨fun _ => ⟨begun, by omega, fun _ => index⟩, fun _ => ⟨within, k, month⟩⟩
  · have walked := isMonth_of_resolvePeriod walks
    by_cases clamps : Clamps anchor k
    · constructor
      · rintro ⟨_, whole⟩
        exact absurd whole (not_isMonth_of_clamps on.starts clamps walked)
      · rintro ⟨begun, _, index⟩
        have some_ : k ≠ 0 := by
          rintro rfl
          exact absurd clamps (not_lt.mpr anchor.date.day_le)
        obtain ⟨last, same⟩ := on.written some_
        exact absurd (((on.isMonth same).contains_iff begun).mpr (index clamps)) (outside last same)
    · have month : IsMonth anchor (k + min maxPeriodsForward (monthsSince subscription.anchor now)) period := by
        refine ⟨?_, ?_⟩
        · rw [← addMonths_of_boundary on.starts clamps]
          exact walked.1
        · rw [Nat.add_assoc, ← addMonths_of_boundary on.starts clamps]
          exact walked.2
      constructor
      · rintro ⟨within, _⟩
        have begun : anchor ≤ now :=
          (addMonths_le (addMonths_zero anchor) month.1 (Nat.zero_le _)).trans within.1
        have index := (month.contains_iff begun).mp within
        exact ⟨begun, by omega, fun absurd_ => absurd absurd_ clamps⟩
      · rintro ⟨begun, bound, _⟩
        have counted := monthsSince_of_boundary on.starts clamps (after begun)
        refine ⟨(month.contains_iff begun).mpr (by omega), _, month⟩

theorem OnMonth.persist {whole : Nat} (month : IsMonth anchor whole period) :
    OnMonth anchor whole (subscription.persist period) := by
  refine ⟨month.1, ?_, fun _ => ⟨period, rfl⟩⟩
  rintro _ ⟨rfl⟩ _ ⟨rfl⟩
  exact month.2

/-- The windows are months of the anchor that contain their instants exactly when the instants keep in step. -/
theorem months_iff {times : List Datetime} {periods : List BillingPeriod} (on : OnMonth anchor k subscription)
    (increasing : times.Pairwise (· ≤ ·)) (after : ∀ now ∈ times, anchor ≤ now → subscription.anchor ≤ now)
    (bills : billedPeriods subscription times = some periods) :
    (List.Forall₂ (fun now period => period.Contains now) times periods ∧
        ∀ period ∈ periods, ∃ whole, IsMonth anchor whole period) ↔ InStep anchor k times := by
  induction times generalizing subscription k periods with
  | nil =>
    obtain rfl := Option.some.inj bills
    simp [InStep]
  | cons now later ih =>
    obtain ⟨ordered, rest⟩ := List.pairwise_cons.mp increasing
    obtain ⟨period, resolves, bills⟩ := Option.bind_eq_some_iff.mp bills
    obtain ⟨others, billed, made⟩ := Option.bind_eq_some_iff.mp bills
    obtain rfl := Option.some.inj made
    have step := step_iff on (after now List.mem_cons_self) resolves
    have next : ∀ whole, IsMonth anchor whole period → period.Contains now → anchor ≤ now →
        ((List.Forall₂ (fun now period => period.Contains now) later others ∧
          ∀ period ∈ others, ∃ whole, IsMonth anchor whole period) ↔ InStep anchor (monthsSince anchor now) later) := by
      intro whole month within begun
      rw [(month.contains_iff begun).mp within]
      refine ih (.persist month) rest (fun time mem _ => ?_) billed
      exact within.1.trans (ordered time mem)
    rw [List.forall₂_cons, List.forall_mem_cons]
    constructor
    · rintro ⟨⟨within, contained⟩, ⟨whole, month⟩, months⟩
      obtain ⟨begun, bound, clamped⟩ := step.mp ⟨within, whole, month⟩
      exact ⟨begun, bound, clamped, (next whole month within begun).mp ⟨contained, months⟩⟩
    · rintro ⟨begun, bound, clamped, inStep⟩
      obtain ⟨within, whole, month⟩ := step.mpr ⟨begun, bound, clamped⟩
      obtain ⟨contained, months⟩ := (next whole month within begun).mpr inStep
      exact ⟨⟨within, contained⟩, ⟨whole, month⟩, months⟩

end Steps

/-- Windows that are months of one anchor tile. -/
theorem tilesTime_of_months {anchor : Datetime} {times : List Datetime} {periods : List BillingPeriod}
    (contain : List.Forall₂ (fun now period => period.Contains now) times periods)
    (boundaries : ∀ period ∈ periods, ∃ k, IsMonth anchor k period) : TilesTime anchor times periods := by
  refine ⟨contain, ?_, ?_, boundaries⟩
  · refine List.pairwise_of_forall_mem_list fun one mem other otherMem => ?_
    obtain ⟨k, month⟩ := boundaries one mem
    obtain ⟨j, otherMonth⟩ := boundaries other otherMem
    exact month.apart otherMonth
  · refine List.pairwise_of_forall_mem_list fun one mem other otherMem next => ?_
    obtain ⟨k, month⟩ := boundaries one mem
    obtain ⟨j, otherMonth⟩ := boundaries other otherMem
    exact month.joined otherMonth next

/-- The windows of an increasing sequence of instants tile time exactly when the instants keep in step with the months of
the anchor. -/
theorem windows_tile_iff {subscription : Subscription} (opened : subscription.Opened) {times : List Datetime}
    (increasing : times.Pairwise (· ≤ ·)) {periods : List BillingPeriod}
    (bills : billedPeriods subscription times = some periods) :
    TilesTime subscription.anchor times periods ↔ InStep subscription.anchor 0 times := by
  rw [← months_iff opened.onMonth increasing (fun _ _ begun => begun) bills]
  exact ⟨fun tiles => ⟨tiles.contain, tiles.boundaries⟩, fun months => tilesTime_of_months months.1 months.2⟩

/-- Noon of a day of 2028. -/
def noonOf (month day : Nat) (valid : (CalendarDate.of? 2028 month day).isSome) : Datetime :=
  ⟨(CalendarDate.of? 2028 month day).get valid, 43200000000, by decide⟩

def openedAt (started stop : Datetime) : Subscription := ⟨0, 1, .active, some started, some stop, started, none⟩

/-- Resolved in January, in February and after a pause in July. -/
theorem windows_tile_mid_month : TilesTime (noonOf 1 15 (by decide))
    [noonOf 1 20 (by decide), noonOf 2 20 (by decide), noonOf 7 2 (by decide)]
    [⟨noonOf 1 15 (by decide), noonOf 2 15 (by decide)⟩, ⟨noonOf 2 15 (by decide), noonOf 3 15 (by decide)⟩,
      ⟨noonOf 6 15 (by decide), noonOf 7 15 (by decide)⟩] := by
  have opened : (openedAt (noonOf 1 15 (by decide)) (noonOf 2 15 (by decide))).Opened := by
    rintro _ ⟨rfl⟩ _ ⟨rfl⟩
    decide
  exact (windows_tile_iff opened (by decide) (by decide)).mpr (by decide)

/-- From the end of January on, the window of March begins at the end of February, and the one of April before the one of
March has ended. -/
theorem windows_overlap : ¬∀ (subscription : Subscription) (times : List Datetime) (periods : List BillingPeriod),
    subscription.Opened → times.Pairwise (· ≤ ·) → billedPeriods subscription times = some periods →
    TilesTime subscription.anchor times periods := by
  intro always
  have opened : (openedAt (noonOf 1 31 (by decide)) (noonOf 2 29 (by decide))).Opened := by
    rintro _ ⟨rfl⟩ _ ⟨rfl⟩
    decide
  have tiles := always (openedAt (noonOf 1 31 (by decide)) (noonOf 2 29 (by decide)))
    [noonOf 3 10 (by decide), noonOf 4 2 (by decide)]
    [⟨noonOf 2 29 (by decide), noonOf 3 31 (by decide)⟩, ⟨noonOf 3 29 (by decide), noonOf 4 29 (by decide)⟩] opened
    (by decide) (by decide)
  have apart := (List.pairwise_cons.mp tiles.apart).1 _ List.mem_cons_self
  revert apart
  decide

end Payables.Billing
