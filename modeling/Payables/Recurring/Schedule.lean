import Mathlib.Order.MinMax
import Mathlib.Tactic.Common
import Payables.Lib.Calendar

namespace Payables
open Lib

inductive Cadence
  | monthly
  | quarterly
  | annual
  deriving DecidableEq

/-- The columns of a template that say when its occurrences are. The schema keeps the day in every month. -/
structure Schedule where
  cadence : Cadence
  dayOfPeriod : Nat
  startDate : CalendarDate
  dayRange : 1 ≤ dayOfPeriod ∧ dayOfPeriod ≤ 28
  deriving DecidableEq

/-- `_add_months`. It raises past year 9999. -/
def addMonths (d : CalendarDate) (months : Nat) : Option CalendarDate :=
  let total := d.months + months
  let year := total / 12
  let month := total % 12 + 1
  CalendarDate.of? year month (min d.day (daysInMonth year month))

/-- `_months_per_period`. -/
def monthsPerPeriod : Cadence → Nat
  | .quarterly => 3
  | .annual => 12
  | .monthly => 1

/-- The last two digits of a number. -/
def twoDigits (n : Nat) : List Char := [Nat.digitChar (n / 10 % 10), Nat.digitChar (n % 10)]

/-- `:04d`, on a year. -/
def fourDigits (n : Nat) : List Char := twoDigits (n / 100) ++ twoDigits n

/-- `period_key_for`. -/
def periodKeyFor (cadence : Cadence) (runOn : CalendarDate) : String :=
  match cadence with
  | .annual => String.ofList (fourDigits runOn.year)
  | .quarterly => String.ofList (fourDigits runOn.year ++ ['-', 'Q', Nat.digitChar ((runOn.month - 1) / 3 + 1)])
  | .monthly => String.ofList (fourDigits runOn.year ++ '-' :: twoDigits runOn.month)

/-- One period on, at the day of the period. -/
def nextOccurrence (s : Schedule) (d : CalendarDate) : Option CalendarDate := do
  let later ← addMonths d (monthsPerPeriod s.cadence)
  CalendarDate.of? later.year later.month s.dayOfPeriod

/-- The loop of `compute_next_run_on`. -/
def walkForward (s : Schedule) (floor : CalendarDate) : Nat → CalendarDate → Option CalendarDate
  | 0, candidate => some candidate
  | fuel + 1, candidate =>
    if candidate < floor then do walkForward s floor fuel (← nextOccurrence s candidate)
    else some candidate

/-- `compute_next_run_on`. The outer option is empty where the date arithmetic raises. -/
def computeNextRunOn (s : Schedule) (after : CalendarDate) (endDate : Option CalendarDate) : Option (Option CalendarDate) := do
  let floor := max after s.startDate
  let anchor ← CalendarDate.of? s.startDate.year s.startDate.month 1
  let anchor ← addMonths anchor 0
  let first ← CalendarDate.of? anchor.year anchor.month s.dayOfPeriod
  let candidate ← walkForward s floor (floor.months + 1 - first.months) first
  return if endDate.any (· < candidate) then none else some candidate

/-- The loop of `current_due_run_on`. -/
def walkUpTo (s : Schedule) (ceiling : CalendarDate) : Nat → CalendarDate → Option CalendarDate
  | 0, nxt => some nxt
  | fuel + 1, nxt => do
    let following ← nextOccurrence s nxt
    if ceiling < following then some nxt else walkUpTo s ceiling fuel following

/-- The first occurrence, as `current_due_run_on` finds it. -/
def firstRunOn (s : Schedule) : Option CalendarDate := do
  let first ← CalendarDate.of? s.startDate.year s.startDate.month s.dayOfPeriod
  if first < s.startDate then nextOccurrence s first else some first

/-- `current_due_run_on`. -/
def currentDueRunOn (s : Schedule) (today : CalendarDate) : Option CalendarDate := do
  let first ← firstRunOn s
  let ceiling := max today s.startDate
  if ceiling < first then some first
  else walkUpTo s ceiling (ceiling.months + 1 - first.months) first

namespace Schedule

variable (s : Schedule)

/-- The dates the schedule asks for: the day of every period from the one of the start date on, unless
that is before the start date. -/
def Occurs (date : CalendarDate) : Prop :=
  s.startDate ≤ date ∧ date.day = s.dayOfPeriod ∧ (date.months - s.startDate.months) % monthsPerPeriod s.cadence = 0
  deriving Decidable

/-- The occurrences up to a date. -/
def occurrencesUpTo (last : CalendarDate) : List CalendarDate :=
  ((List.range (last.months + 1 - s.startDate.months)).filterMap fun ahead =>
    CalendarDate.ofMonths? (s.startDate.months + ahead) s.dayOfPeriod).filter fun date => s.Occurs date ∧ date ≤ last

end Schedule

theorem monthsPerPeriod_pos (cadence : Cadence) : 0 < monthsPerPeriod cadence := by
  cases cadence <;> decide

theorem addMonths_eq_some {d later : CalendarDate} {months : Nat} (added : addMonths d months = some later) :
    later.months = d.months + months := by
  obtain ⟨year, month, _⟩ := CalendarDate.of?_eq_some.mp added
  rw [CalendarDate.months, year, month]
  omega

section
variable {s : Schedule} {date other first : CalendarDate}

theorem nextOccurrence_eq_some (found : nextOccurrence s date = some other) :
    other.months = date.months + monthsPerPeriod s.cadence ∧ other.day = s.dayOfPeriod := by
  obtain ⟨later, added, made⟩ := Option.bind_eq_some_iff.mp found
  obtain ⟨year, month, day⟩ := CalendarDate.of?_eq_some.mp made
  refine ⟨?_, day⟩
  rw [CalendarDate.months, year, month]
  exact addMonths_eq_some added

/-- A day that the walks of the schedule can pass: the day of a period from the first one on. -/
def OnGrid (s : Schedule) (date : CalendarDate) : Prop :=
  date.day = s.dayOfPeriod ∧ ∃ periods, date.months = s.startDate.months + periods * monthsPerPeriod s.cadence

theorem Schedule.occurs_iff : s.Occurs date ↔ s.startDate ≤ date ∧ OnGrid s date := by
  have positive := monthsPerPeriod_pos s.cadence
  constructor
  · rintro ⟨after, day, periods⟩
    have later : s.startDate.months ≤ date.months := by
      rcases CalendarDate.le_iff.mp after with before | same <;> omega
    obtain ⟨count, ahead⟩ := Nat.dvd_of_mod_eq_zero periods
    refine ⟨after, day, count, ?_⟩
    rw [Nat.mul_comm count, ← ahead]
    omega
  · rintro ⟨after, day, count, months⟩
    refine ⟨after, day, ?_⟩
    rw [months, Nat.add_sub_cancel_left, Nat.mul_mod_left]

theorem OnGrid.next (grid : OnGrid s date) (found : nextOccurrence s date = some other) : OnGrid s other := by
  obtain ⟨_, count, months⟩ := grid
  obtain ⟨later, day⟩ := nextOccurrence_eq_some found
  refine ⟨day, count + 1, ?_⟩
  rw [later, months, Nat.succ_mul]
  omega

theorem nextOccurrence_gt (found : nextOccurrence s date = some other) : date < other := by
  have later := (nextOccurrence_eq_some found).1
  have positive := monthsPerPeriod_pos s.cadence
  exact CalendarDate.lt_iff.mpr (.inl (by omega))

/-- No day of the grid lies strictly between a day and the next. -/
theorem OnGrid.next_le {between : CalendarDate} (grid : OnGrid s date) (member : OnGrid s between) (past : date < between)
    (found : nextOccurrence s date = some other) : other ≤ between := by
  obtain ⟨later, day⟩ := nextOccurrence_eq_some found
  obtain ⟨day', count, months⟩ := grid
  obtain ⟨betweenDay, count', months'⟩ := member
  have more : count < count' := by
    rcases CalendarDate.lt_iff.mp past with before | same
    · by_contra fewer
      have bound := Nat.mul_le_mul_right (monthsPerPeriod s.cadence) (not_lt.mp fewer)
      omega
    · omega
  have bound := Nat.mul_le_mul_right (monthsPerPeriod s.cadence) (Nat.succ_le_of_lt more)
  rw [Nat.succ_mul] at bound
  exact CalendarDate.le_iff.mpr (by omega)

/-- The loop of `compute_next_run_on` ends on the first day of the grid from the floor on. -/
theorem walkForward_eq_some {floor : CalendarDate} {fuel : Nat} (grid : OnGrid s first)
    (enough : floor.months + 1 ≤ fuel + first.months) (found : walkForward s floor fuel first = some date) :
    OnGrid s date ∧ floor ≤ date ∧ ∀ member, OnGrid s member → first ≤ member → floor ≤ member → date ≤ member := by
  induction fuel generalizing first with
  | zero =>
    cases found
    exact ⟨grid, CalendarDate.le_iff.mpr (.inl (by omega)), fun _ _ from' _ => from'⟩
  | succ fuel ih =>
    unfold walkForward at found
    split at found
    · next short =>
      obtain ⟨later, stepped, walked⟩ := Option.bind_eq_some_iff.mp found
      have months := (nextOccurrence_eq_some stepped).1
      have positive := monthsPerPeriod_pos s.cadence
      obtain ⟨grid', reached, least⟩ := ih (grid.next stepped) (by omega) walked
      refine ⟨grid', reached, fun member onGrid from' above => least member onGrid ?_ above⟩
      exact grid.next_le onGrid (short.trans_le above) stepped
    · next reached =>
      cases found
      exact ⟨grid, not_lt.mp reached, fun _ _ from' _ => from'⟩

/-- The loop of `current_due_run_on` ends on the last day of the grid up to the ceiling. -/
theorem walkUpTo_eq_some {ceiling : CalendarDate} {fuel : Nat} (grid : OnGrid s first) (within : first ≤ ceiling)
    (enough : ceiling.months + 1 ≤ fuel + first.months) (found : walkUpTo s ceiling fuel first = some date) :
    OnGrid s date ∧ first ≤ date ∧ date ≤ ceiling ∧ ∀ member, OnGrid s member → date < member → ceiling < member := by
  induction fuel generalizing first with
  | zero =>
    rcases CalendarDate.le_iff.mp within with before | same <;> omega
  | succ fuel ih =>
    unfold walkUpTo at found
    obtain ⟨following, stepped, walked⟩ := Option.bind_eq_some_iff.mp found
    split at walked
    · next past =>
      cases walked
      refine ⟨grid, le_refl _, within, fun member onGrid beyond => past.trans_le ?_⟩
      exact grid.next_le onGrid beyond stepped
    · next reached =>
      have months := (nextOccurrence_eq_some stepped).1
      have positive := monthsPerPeriod_pos s.cadence
      obtain ⟨grid', from', below, last⟩ := ih (grid.next stepped) (not_lt.mp reached) (by omega) walked
      exact ⟨grid', (nextOccurrence_gt stepped).le.trans from', below, last⟩

theorem onGrid_first (months : first.months = s.startDate.months) (day : first.day = s.dayOfPeriod) :
    OnGrid s first ∧ ∀ member, OnGrid s member → first ≤ member := by
  refine ⟨⟨day, 0, by rw [months, Nat.zero_mul, Nat.add_zero]⟩, fun member grid => ?_⟩
  obtain ⟨day', count, later⟩ := grid
  have order : first.months ≤ member.months := by rw [months, later]; exact Nat.le_add_right _ _
  exact CalendarDate.le_iff.mpr (by omega)

/-- Not after the end date. -/
def InForce (endDate : Option CalendarDate) (date : CalendarDate) : Prop := ∀ last ∈ endDate, date ≤ last
  deriving Decidable

/-- A date that a cursor has not passed: an empty cursor leaves only what is after the end date. -/
def Ahead (cursor endDate : Option CalendarDate) (date : CalendarDate) : Prop :=
  match cursor with
  | some next => next ≤ date
  | none => ¬InForce endDate date

theorem Ahead.mono {cursor endDate : Option CalendarDate} (ahead : Ahead cursor endDate date) (later : date ≤ other) :
    Ahead cursor endDate other := by
  cases cursor with
  | some next => exact le_trans (show next ≤ date from ahead) later
  | none => exact fun inForce => ahead fun last bound => later.trans (inForce last bound)

/-- The cursor is the first occurrence from a date on, or empty once that is past the end date. -/
theorem computeNextRunOn_eq_some {after : CalendarDate} {endDate cursor : Option CalendarDate}
    (found : computeNextRunOn s after endDate = some cursor) :
    (∀ next ∈ cursor, s.Occurs next ∧ after ≤ next ∧ InForce endDate next) ∧
      ∀ member, s.Occurs member → after ≤ member → Ahead cursor endDate member := by
  unfold computeNextRunOn at found
  obtain ⟨start, made, found⟩ := Option.bind_eq_some_iff.mp found
  obtain ⟨anchor, added, found⟩ := Option.bind_eq_some_iff.mp found
  obtain ⟨first, placed, found⟩ := Option.bind_eq_some_iff.mp found
  obtain ⟨candidate, walked, found⟩ := Option.bind_eq_some_iff.mp found
  obtain ⟨startYear, startMonth, _⟩ := CalendarDate.of?_eq_some.mp made
  obtain ⟨year, month, day⟩ := CalendarDate.of?_eq_some.mp placed
  have months : first.months = s.startDate.months := by
    rw [CalendarDate.months, year, month]
    refine (addMonths_eq_some added).trans ?_
    rw [CalendarDate.months, startYear, startMonth, CalendarDate.months, Nat.add_zero]
  obtain ⟨grid, from'⟩ := onGrid_first months day
  obtain ⟨onGrid, reached, least⟩ := walkForward_eq_some grid (by omega) walked
  obtain ⟨past, begun⟩ := max_le_iff.mp reached
  have leads : ∀ member, s.Occurs member → after ≤ member → candidate ≤ member := by
    intro member occurs above
    obtain ⟨started, memberGrid⟩ := Schedule.occurs_iff.mp occurs
    exact least member memberGrid (from' member memberGrid) (max_le above started)
  cases found
  split
  · next past =>
    obtain ⟨last, bound, short⟩ := (Option.any_eq_true _ _).mp past
    refine ⟨fun next none' => ?_, fun member occurs above inForce => ?_⟩
    · cases none'
    · have within := inForce last bound
      exact absurd (of_decide_eq_true short) (not_lt.mpr ((leads member occurs above).trans within))
  · next within =>
    refine ⟨fun next same => ?_, leads⟩
    cases same
    refine ⟨Schedule.occurs_iff.mpr ⟨begun, onGrid⟩, past, fun last bound => not_lt.mp fun short => within ?_⟩
    exact (Option.any_eq_true _ _).mpr ⟨last, bound, decide_eq_true short⟩

/-- Advancing from an occurrence by a period leaves every later occurrence ahead. -/
theorem computeNextRunOn_next {runOn anchor : CalendarDate} {endDate cursor : Option CalendarDate} (occurs : s.Occurs runOn)
    (added : addMonths runOn (monthsPerPeriod s.cadence) = some anchor) (found : computeNextRunOn s anchor endDate = some cursor) :
    (∀ next ∈ cursor, s.Occurs next) ∧ ∀ member, s.Occurs member → runOn < member → Ahead cursor endDate member := by
  obtain ⟨cursors, ahead⟩ := computeNextRunOn_eq_some found
  refine ⟨fun next same => (cursors next same).1, fun member memberOccurs past => ahead member memberOccurs ?_⟩
  have grid := (Schedule.occurs_iff.mp occurs).2
  have memberGrid := (Schedule.occurs_iff.mp memberOccurs).2
  obtain ⟨year, month, day⟩ := CalendarDate.of?_eq_some.mp added
  have room := daysInMonth_ge ((runOn.months + monthsPerPeriod s.cadence) / 12) ((runOn.months + monthsPerPeriod s.cadence) % 12 + 1)
  have range := s.dayRange
  -- the day is at most 28, so adding months does not clamp it
  have placed : nextOccurrence s runOn = some anchor := by
    refine Option.bind_eq_some_iff.mpr ⟨anchor, added, CalendarDate.of?_eq_some.mpr ⟨rfl, rfl, ?_⟩⟩
    rw [day, grid.1]
    omega
  exact grid.next_le memberGrid past placed

theorem firstRunOn_eq_some (found : firstRunOn s = some first) :
    OnGrid s first ∧ s.startDate ≤ first ∧ ∀ member, s.Occurs member → first ≤ member := by
  obtain ⟨placed, made, chosen⟩ := Option.bind_eq_some_iff.mp found
  obtain ⟨year, month, day⟩ := CalendarDate.of?_eq_some.mp made
  have months : placed.months = s.startDate.months := by rw [CalendarDate.months, year, month, CalendarDate.months]
  obtain ⟨grid, from'⟩ := onGrid_first months day
  split at chosen
  · next early =>
    have positive := monthsPerPeriod_pos s.cadence
    have later := (nextOccurrence_eq_some chosen).1
    refine ⟨grid.next chosen, CalendarDate.le_iff.mpr (.inl (by omega)), fun member occurs => ?_⟩
    obtain ⟨started, memberGrid⟩ := Schedule.occurs_iff.mp occurs
    exact grid.next_le memberGrid (early.trans_le started) chosen
  · next begun =>
    cases chosen
    exact ⟨grid, not_lt.mp begun, fun member occurs => from' member (Schedule.occurs_iff.mp occurs).2⟩

/-- What a manual generation targets: an occurrence, with none between it and today; before the schedule
begins it is the first one. -/
theorem currentDueRunOn_eq_some {today runOn : CalendarDate} (found : currentDueRunOn s today = some runOn) :
    s.Occurs runOn ∧ (∀ member, s.Occurs member → runOn < member → today < member) ∧
      ∀ member, s.Occurs member → today < member → runOn ≤ member := by
  obtain ⟨first, chosen, found⟩ := Option.bind_eq_some_iff.mp found
  obtain ⟨firstGrid, started, least⟩ := firstRunOn_eq_some chosen
  simp only at found
  split at found
  · next notBegun =>
    cases found
    have ahead : today < runOn := (le_max_left _ _).trans_lt notBegun
    refine ⟨Schedule.occurs_iff.mpr ⟨started, firstGrid⟩, fun member _ past => ahead.trans past, fun member occurs _ => ?_⟩
    exact least member occurs
  · next begun =>
    obtain ⟨runGrid, after, within, last⟩ := walkUpTo_eq_some firstGrid (not_lt.mp begun) (by omega) found
    refine ⟨Schedule.occurs_iff.mpr ⟨started.trans after, runGrid⟩, fun member occurs past => ?_, fun member occurs future => ?_⟩
    · exact (le_max_left _ _).trans_lt (last member (Schedule.occurs_iff.mp occurs).2 past)
    · exact within.trans (max_le future.le occurs.1)

theorem Schedule.mem_occurrencesUpTo {last : CalendarDate} : date ∈ s.occurrencesUpTo last ↔ s.Occurs date ∧ date ≤ last := by
  unfold Schedule.occurrencesUpTo
  rw [List.mem_filter, List.mem_filterMap]
  refine ⟨fun ⟨_, kept⟩ => of_decide_eq_true kept, fun ⟨occurs, within⟩ => ⟨⟨date.months - s.startDate.months, ?_, ?_⟩, ?_⟩⟩
  · rw [List.mem_range]
    have upTo : date.months ≤ last.months := by rcases CalendarDate.le_iff.mp within with before | same <;> omega
    have since : s.startDate.months ≤ date.months := by rcases CalendarDate.le_iff.mp occurs.1 with before | same <;> omega
    omega
  · have since : s.startDate.months ≤ date.months := by rcases CalendarDate.le_iff.mp occurs.1 with before | same <;> omega
    exact CalendarDate.ofMonths?_eq_some.mpr ⟨by omega, occurs.2.1⟩
  · exact decide_eq_true ⟨occurs, within⟩

theorem digitChar_inj {one other : Nat} (small : one < 10) (small' : other < 10) (same : Nat.digitChar one = Nat.digitChar other) :
    one = other := by
  have each : ∀ one < 10, ∀ other < 10, Nat.digitChar one = Nat.digitChar other → one = other := by decide
  exact each one small other small' same

theorem twoDigits_inj {one other : Nat} (small : one < 100) (small' : other < 100) (same : twoDigits one = twoDigits other) :
    one = other := by
  obtain ⟨tens, rest⟩ := List.cons_eq_cons.mp same
  have tens' := digitChar_inj (by omega) (by omega) tens
  have units' := digitChar_inj (by omega) (by omega) (List.cons_eq_cons.mp rest).1
  omega

theorem fourDigits_inj {one other : Nat} (small : one < 10000) (small' : other < 10000) (same : fourDigits one = fourDigits other) :
    one = other := by
  obtain ⟨high, low⟩ := List.append_inj same rfl
  have high' := twoDigits_inj (by omega) (by omega) high
  obtain ⟨tens, rest⟩ := List.cons_eq_cons.mp low
  have tens' := digitChar_inj (by omega) (by omega) tens
  have units' := digitChar_inj (by omega) (by omega) (List.cons_eq_cons.mp rest).1
  omega

/-- A period has one occurrence. -/
theorem periodKeyFor_inj (occurs : s.Occurs date) (occurs' : s.Occurs other)
    (same : periodKeyFor s.cadence date = periodKeyFor s.cadence other) : date = other := by
  obtain ⟨day, count, months⟩ := (Schedule.occurs_iff.mp occurs).2
  obtain ⟨day', count', months'⟩ := (Schedule.occurs_iff.mp occurs').2
  have range := date.monthRange
  have range' := other.monthRange
  have years := date.yearRange
  have years' := other.yearRange
  refine CalendarDate.ext_months ?_ (day.trans day'.symm)
  rw [CalendarDate.months] at months
  rw [CalendarDate.months] at months'
  rw [CalendarDate.months, CalendarDate.months]
  cases cadence : s.cadence with
  | monthly =>
    rw [cadence] at same
    obtain ⟨year, month⟩ := List.append_inj (String.ofList_inj.mp same) rfl
    have year' := fourDigits_inj (by omega) (by omega) year
    have month' := twoDigits_inj (by omega) (by omega) (List.cons_eq_cons.mp month).2
    omega
  | quarterly =>
    rw [cadence] at same months months'
    simp only [monthsPerPeriod] at months months'
    obtain ⟨year, quarter⟩ := List.append_inj (String.ofList_inj.mp same) rfl
    have year' := fourDigits_inj (by omega) (by omega) year
    have last := (List.cons_eq_cons.mp (List.cons_eq_cons.mp (List.cons_eq_cons.mp quarter).2).2).1
    have quarter' := digitChar_inj (by omega) (by omega) last
    omega
  | annual =>
    rw [cadence] at same months months'
    simp only [monthsPerPeriod] at months months'
    have year' := fourDigits_inj (by omega) (by omega) (String.ofList_inj.mp same)
    omega

end

end Payables
