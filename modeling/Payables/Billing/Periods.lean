import Payables.Basic
import Payables.Lib.Datetime

namespace Payables.Billing
open Lib

abbrev PlanId := Nat

inductive SubscriptionStatus
  | trialing
  | active
  | pastDue
  | canceled
  deriving DecidableEq

/-- The binding of an organisation to a plan. -/
structure Subscription where
  id : Nat
  planId : PlanId
  status : SubscriptionStatus
  currentPeriodStart : Option Datetime
  currentPeriodEnd : Option Datetime
  createdAt : Datetime
  externalSubscriptionId : Option String
  deriving DecidableEq

/-- `_MAX_PERIODS_FORWARD`. -/
def maxPeriodsForward : Nat := 1200

/-- `add_months`. It raises past year 9999. -/
def addMonths (when : Datetime) (months : Nat) : Option Datetime :=
  let total := when.date.month - 1 + months
  let year := when.date.year + total / 12
  let month := total % 12 + 1
  let day := min when.date.day (daysInMonth year month)
  (CalendarDate.of? year month day).map fun date => { when with date := date }

/-- A monthly window, with its start and without its end. -/
structure BillingPeriod where
  start : Datetime
  stop : Datetime
  deriving DecidableEq

/-- The first loop of `resolve_period`. -/
def stepBack (anchor now : Datetime) : Nat → Option Nat
  | 0 => some 0
  | k + 1 => do
    let boundary ← addMonths anchor (k + 1)
    if now < boundary then stepBack anchor now k else some (k + 1)

/-- The second loop of `resolve_period`, with the periods that it may still walk. -/
def stepForward (anchor now : Datetime) : Nat → Nat → BillingPeriod → Option BillingPeriod
  | 0, _, period => some period
  | left + 1, k, period =>
    if period.stop ≤ now then do
      let stop ← addMonths anchor (k + 2)
      stepForward anchor now left (k + 1) ⟨period.stop, stop⟩
    else some period

/-- `resolve_period`. -/
def resolvePeriod (anchor now : Datetime) : Option BillingPeriod :=
  if now ≤ anchor then do
    let stop ← addMonths anchor 1
    return ⟨anchor, stop⟩
  else do
    let k ← stepBack anchor now (min (now.date.months - anchor.date.months) maxPeriodsForward)
    let start ← addMonths anchor k
    let stop ← addMonths anchor (k + 1)
    stepForward anchor now (maxPeriodsForward - k) k ⟨start, stop⟩

/-- `current_period`. It raises past year 9999. -/
def currentPeriod (subscription : Subscription) (now : Datetime) : Option BillingPeriod :=
  match subscription.currentPeriodStart, subscription.currentPeriodEnd with
  | some start, some stop => if start ≤ now ∧ now < stop then some ⟨start, stop⟩ else resolvePeriod start now
  | some start, none => resolvePeriod start now
  | none, _ => resolvePeriod subscription.createdAt now

/-- A subscription with a window written back to it. -/
def Subscription.persist (subscription : Subscription) (period : BillingPeriod) : Subscription :=
  { subscription with currentPeriodStart := some period.start, currentPeriodEnd := some period.stop }

/-- The instant that the windows of a subscription are counted from. -/
def Subscription.anchor (subscription : Subscription) : Datetime :=
  subscription.currentPeriodStart.getD subscription.createdAt

/-- The days of the month that lies a number of months after the month of an instant. -/
def monthLength (anchor : Datetime) (k : Nat) : Nat :=
  daysInMonth ((anchor.date.months + k) / 12) ((anchor.date.months + k) % 12 + 1)

/-- The month that lies `k` months after the anchor is too short for the day of the anchor. -/
def Clamps (anchor : Datetime) (k : Nat) : Prop := monthLength anchor k < anchor.date.day
  deriving Decidable

/-- In the month of an instant, the boundary has been reached. -/
def Reached (anchor now : Datetime) : Prop :=
  let day := min anchor.date.day (daysInMonth now.date.year now.date.month)
  day < now.date.day ∨ day = now.date.day ∧ anchor.micros ≤ now.micros
  deriving Decidable

/-- The whole months from the anchor to an instant. -/
def monthsSince (anchor now : Datetime) : Nat :=
  let k := now.date.months - anchor.date.months
  if Reached anchor now then k else k - 1

/-- A window that is the month after `k` months. -/
def IsMonth (anchor : Datetime) (k : Nat) (period : BillingPeriod) : Prop :=
  addMonths anchor k = some period.start ∧ addMonths anchor (k + 1) = some period.stop

def BillingPeriod.Contains (period : BillingPeriod) (now : Datetime) : Prop := period.start ≤ now ∧ now < period.stop
  deriving Decidable

section Months

variable {anchor other boundary later now : Datetime} {k j : Nat} {period : BillingPeriod}

theorem addMonths_eq_some : addMonths anchor k = some boundary ↔
    boundary.date.months = anchor.date.months + k ∧
      boundary.date.day = min anchor.date.day (monthLength anchor k) ∧ boundary.micros = anchor.micros := by
  have range := anchor.date.monthRange
  have year : anchor.date.year + (anchor.date.month - 1 + k) / 12 = (anchor.date.months + k) / 12 := by
    rw [CalendarDate.months]
    omega
  have month : (anchor.date.month - 1 + k) % 12 = (anchor.date.months + k) % 12 := by
    rw [CalendarDate.months]
    omega
  have made : ∀ date, CalendarDate.ofMonths? (anchor.date.months + k) (min anchor.date.day (monthLength anchor k)) = some date ↔
      date.months = anchor.date.months + k ∧ date.day = min anchor.date.day (monthLength anchor k) :=
    fun _ => CalendarDate.ofMonths?_eq_some
  simp only [CalendarDate.ofMonths?] at made
  simp only [addMonths, year, month, Option.map_eq_some_iff]
  constructor
  · rintro ⟨date, found, rfl⟩
    obtain ⟨months, day⟩ := (made date).mp found
    exact ⟨months, day, rfl⟩
  · rintro ⟨months, day, micros⟩
    refine ⟨boundary.date, (made _).mpr ⟨months, day⟩, ?_⟩
    cases boundary
    cases anchor
    simp only at micros ⊢
    simp [micros]

/-- There is a boundary up to the last month of year 9999. -/
theorem addMonths_exists (within : anchor.date.months + k < 120000) : ∃ boundary, addMonths anchor k = some boundary := by
  have range := anchor.date.monthRange
  have years := anchor.date.yearRange
  have firstDay := anchor.date.dayRange.1
  have months := anchor.date.months_ge
  have length := daysInMonth_ge ((anchor.date.months + k) / 12) ((anchor.date.months + k) % 12 + 1)
  let date : CalendarDate :=
    { year := (anchor.date.months + k) / 12
      month := (anchor.date.months + k) % 12 + 1
      day := min anchor.date.day (monthLength anchor k)
      yearRange := by omega
      monthRange := by omega
      dayRange := by rw [monthLength]; omega }
  refine ⟨{ anchor with date := date }, (addMonths_eq_some).mpr ⟨?_, rfl, rfl⟩⟩
  show (anchor.date.months + k) / 12 * 12 + ((anchor.date.months + k) % 12 + 1 - 1) = anchor.date.months + k
  omega

theorem addMonths_zero (anchor : Datetime) : addMonths anchor 0 = some anchor := by
  refine (addMonths_eq_some).mpr ⟨rfl, ?_, rfl⟩
  have within := anchor.date.day_le
  have length : monthLength anchor 0 = daysInMonth (anchor.date.months / 12) (anchor.date.months % 12 + 1) := rfl
  rw [length]
  omega

theorem monthLength_of_months {date : CalendarDate} (months : date.months = anchor.date.months + k) :
    monthLength anchor k = daysInMonth date.year date.month := by
  have range := date.monthRange
  have year : (anchor.date.months + k) / 12 = date.year := by rw [← months, CalendarDate.months]; omega
  have month : (anchor.date.months + k) % 12 + 1 = date.month := by rw [← months, CalendarDate.months]; omega
  rw [monthLength, year, month]

theorem lt_of_months_lt (earlier : anchor.date.months < other.date.months) : anchor < other :=
  Datetime.lt_iff.mpr (.inl (CalendarDate.lt_iff.mpr (.inl earlier)))

/-- Later boundaries are later. -/
theorem addMonths_lt (first : addMonths anchor k = some boundary) (second : addMonths anchor j = some later) (before : k < j) :
    boundary < later := by
  have months := (addMonths_eq_some.mp first).1
  have laterMonths := (addMonths_eq_some.mp second).1
  exact lt_of_months_lt (by omega)

theorem addMonths_le (first : addMonths anchor k = some boundary) (second : addMonths anchor j = some later) (before : k ≤ j) :
    boundary ≤ later := by
  rcases Nat.lt_or_eq_of_le before with earlier | same
  · exact (addMonths_lt first second earlier).le
  · rw [same, second] at first
    exact (Option.some.inj first).ge

/-- A boundary has been reached exactly when that many months have gone by. -/
theorem addMonths_le_iff (begun : anchor ≤ now) (bounds : addMonths anchor k = some boundary) :
    boundary ≤ now ↔ k ≤ monthsSince anchor now := by
  obtain ⟨months, day, micros⟩ := (addMonths_eq_some).mp bounds
  have ordered : anchor.date.months ≤ now.date.months := by
    rcases Datetime.le_iff.mp begun with earlier | ⟨same, _⟩
    · rcases CalendarDate.lt_iff.mp earlier with month | ⟨month, _⟩ <;> omega
    · rw [same]
  rcases Nat.lt_trichotomy boundary.date.months now.date.months with earlier | same | after
  · have before : boundary ≤ now := (lt_of_months_lt earlier).le
    refine ⟨fun _ => ?_, fun _ => before⟩
    simp only [monthsSince]
    split <;> omega
  · have exact_ : k = now.date.months - anchor.date.months := by omega
    have length : monthLength anchor k = daysInMonth now.date.year now.date.month :=
      monthLength_of_months (by omega)
    have reached : boundary ≤ now ↔ Reached anchor now := by
      rw [Datetime.le_iff, CalendarDate.lt_iff]
      simp only [Reached, ← length, ← day]
      constructor
      · rintro ((month | ⟨_, before⟩) | ⟨sameDay, time⟩)
        · omega
        · exact .inl before
        · rw [← sameDay, ← micros]
          exact .inr ⟨rfl, time⟩
      · rintro (before | ⟨sameDay, time⟩)
        · exact .inl (.inr ⟨same, before⟩)
        · rw [← micros] at time
          exact .inr ⟨CalendarDate.ext_months same sameDay, time⟩
    rw [reached]
    simp only [monthsSince]
    by_cases holds : Reached anchor now
    · rw [if_pos holds]
      exact ⟨fun _ => exact_.le, fun _ => holds⟩
    · rw [if_neg holds]
      refine ⟨fun absent => absurd absent holds, fun le => ?_⟩
      have zero : k = 0 := by omega
      rw [zero, addMonths_zero] at bounds
      rw [← Option.some.inj bounds] at reached
      exact reached.mp begun
  · refine ⟨fun le => absurd le (lt_of_months_lt after).not_ge, fun le => ?_⟩
    simp only [monthsSince] at le
    split at le <;> omega

/-- Before the anchor no month has gone by. -/
theorem monthsSince_of_le (early : now ≤ anchor) : monthsSince anchor now = 0 := by
  have ordered : now.date.months ≤ anchor.date.months := by
    rcases Datetime.le_iff.mp early with earlier | ⟨same, _⟩
    · rcases CalendarDate.lt_iff.mp earlier with month | ⟨month, _⟩ <;> omega
    · rw [same]
  simp only [monthsSince]
  split <;> omega

theorem monthsSince_mono (begun : anchor ≤ now) (ordered : now ≤ later) : monthsSince anchor now ≤ monthsSince anchor later := by
  by_contra more
  have short : monthsSince anchor later + 1 ≤ monthsSince anchor now := by omega
  have months : anchor.date.months + (monthsSince anchor later + 1) ≤ now.date.months := by
    have below : monthsSince anchor now ≤ now.date.months - anchor.date.months := by
      simp only [monthsSince]
      split <;> omega
    omega
  have within := now.date.months_lt
  obtain ⟨boundary, bounds⟩ := addMonths_exists (by omega : anchor.date.months + (monthsSince anchor later + 1) < 120000)
  have reached := (addMonths_le_iff begun bounds).mpr short
  have still := (addMonths_le_iff (begun.trans ordered) bounds).mp (reached.trans ordered)
  omega

/-- The window of an instant is the month that it is in. -/
theorem IsMonth.contains_iff (month : IsMonth anchor k period) (begun : anchor ≤ now) :
    period.Contains now ↔ monthsSince anchor now = k := by
  have starts := addMonths_le_iff begun month.1
  have stops := addMonths_le_iff begun month.2
  rw [BillingPeriod.Contains, starts, ← not_le, stops]
  omega

theorem stepBack_eq_some (begun : anchor < now) (steps : stepBack anchor now k = some j) :
    j = min k (monthsSince anchor now) := by
  induction k with
  | zero =>
    have zero := Option.some.inj steps
    omega
  | succ k ih =>
    rw [stepBack] at steps
    obtain ⟨boundary, bounds, rest⟩ := Option.bind_eq_some_iff.mp steps
    have reached := addMonths_le_iff begun.le bounds
    split at rest
    next early =>
      have short := mt reached.mpr early.not_ge
      have earlier := ih rest
      omega
    next late =>
      have long := reached.mp (not_lt.mp late)
      have same := Option.some.inj rest
      omega

/-- The second loop has nothing to do, but for a window that ends too early at the bound. -/
theorem stepForward_eq_some {left : Nat} (month : IsMonth anchor k period) (begun : anchor < now)
    (walked : k = min (left + k) (monthsSince anchor now)) {last : BillingPeriod}
    (steps : stepForward anchor now left k period = some last) : last = period := by
  cases left with
  | zero => exact (Option.some.inj steps).symm
  | succ left =>
    rw [stepForward] at steps
    have stops := addMonths_le_iff begun.le month.2
    split at steps
    next over_ =>
      have more := stops.mp over_
      omega
    next => exact (Option.some.inj steps).symm

/-- `resolve_period` finds the month of the instant, within the bound on its walk. -/
theorem isMonth_of_resolvePeriod (resolves : resolvePeriod anchor now = some period) :
    IsMonth anchor (min maxPeriodsForward (monthsSince anchor now)) period := by
  rw [resolvePeriod] at resolves
  split at resolves
  next early =>
    obtain ⟨stop, bounds, made⟩ := Option.bind_eq_some_iff.mp resolves
    obtain rfl := Option.some.inj made
    rw [monthsSince_of_le early, Nat.min_zero]
    exact ⟨addMonths_zero anchor, bounds⟩
  next late =>
    have begun : anchor < now := not_le.mp late
    obtain ⟨k, back, rest⟩ := Option.bind_eq_some_iff.mp resolves
    obtain ⟨start, starts, rest⟩ := Option.bind_eq_some_iff.mp rest
    obtain ⟨stop, stops, rest⟩ := Option.bind_eq_some_iff.mp rest
    have count := stepBack_eq_some begun back
    have below : monthsSince anchor now ≤ now.date.months - anchor.date.months := by
      simp only [monthsSince]
      split <;> omega
    have found : k = min maxPeriodsForward (monthsSince anchor now) := by omega
    have month : IsMonth anchor k ⟨start, stop⟩ := ⟨starts, stops⟩
    have walked : k = min (maxPeriodsForward - k + k) (monthsSince anchor now) := by omega
    rw [← found, stepForward_eq_some month begun walked rest]
    exact month

end Months

end Payables.Billing
