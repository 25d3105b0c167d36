import Mathlib.Data.List.Sort
import Payables.Recurring.ExactSchedule

namespace Payables
open Lib

/-- The loop of `project_schedule`. -/
def projectLoop (s : Schedule) (endDate : Option CalendarDate) : Nat → CalendarDate → Option (List (String × CalendarDate))
  | 0, _ => some []
  | count + 1, runOn =>
    if endDate.any (· < runOn) then some []
    else do
      let following ← nextOccurrence s runOn
      let rest ← projectLoop s endDate count following
      return (periodKeyFor s.cadence runOn, runOn) :: rest

/-- `project_schedule`, of a template with a cursor. -/
def projectSchedule (s : Schedule) (endDate cursor : Option CalendarDate) (count : Int) (fromDate : Option CalendarDate) :
    Option (List (String × CalendarDate)) :=
  if count ≤ 0 then some []
  else
    match fromDate.or cursor with
    | none => some []
    | some start => do
      let placed ← CalendarDate.of? start.year start.month s.dayOfPeriod
      let runOn ← if placed < start then nextOccurrence s placed else some placed
      projectLoop s endDate count.toNat runOn

namespace Schedule

/-- The dates that a schedule asks for. -/
def lattice (s : Schedule) : Set CalendarDate := {date | s.Occurs date}

/-- The occurrences from a date on. -/
def occurrencesFrom (s : Schedule) (start : CalendarDate) : List CalendarDate :=
  (s.occurrencesUpTo endOfTime).filter (start ≤ ·)

/-- The next dates of a schedule from a date on, as many as are asked for and the end date leaves. -/
def nextDates (s : Schedule) (endDate : Option CalendarDate) (count : Int) (start : CalendarDate) : List CalendarDate :=
  ((s.occurrencesFrom start).filter fun date => InForce endDate date).take count.toNat

/-- The schedule asks for a date after this one. -/
def Continues (s : Schedule) (date : CalendarDate) : Prop := ∃ later ∈ s.lattice, date < later

end Schedule

section Walks

variable {s : Schedule} {date first later member floor ceiling : CalendarDate} {fuel : Nat}

theorem isSome_of? {year month day : Nat} : (CalendarDate.of? year month day).isSome = true ↔
    (1 ≤ year ∧ year ≤ 9999) ∧ (1 ≤ month ∧ month ≤ 12) ∧ 1 ≤ day ∧ day ≤ daysInMonth year month := by
  rw [CalendarDate.of?]
  split_ifs with valid
  · exact iff_of_true rfl valid
  · exact iff_of_false Bool.false_ne_true valid

/-- The calendar ends before month 120000. -/
theorem months_lt (date : CalendarDate) : date.months < 120000 := by
  have year := date.yearRange
  have month := date.monthRange
  rw [CalendarDate.months]
  omega

/-- The day of a schedule is in every month. -/
theorem exists_inMonth (s : Schedule) (date : CalendarDate) :
    ∃ placed, CalendarDate.of? date.year date.month s.dayOfPeriod = some placed ∧ placed.months = date.months ∧
      placed.day = s.dayOfPeriod := by
  have room := daysInMonth_ge date.year date.month
  have range := s.dayRange
  obtain ⟨placed, made⟩ := Option.isSome_iff_exists.mp
    (isSome_of?.mpr ⟨date.yearRange, date.monthRange, range.1, by omega⟩)
  obtain ⟨year, month, day⟩ := CalendarDate.of?_eq_some.mp made
  exact ⟨placed, made, by rw [CalendarDate.months, year, month, CalendarDate.months], day⟩

/-- A period ahead there is a day of the schedule unless the calendar ends. -/
theorem exists_next (within : date.months + monthsPerPeriod s.cadence < 120000) : ∃ next, nextOccurrence s date = some next := by
  have year := date.yearRange
  have days := date.dayRange
  have room := daysInMonth_ge ((date.months + monthsPerPeriod s.cadence) / 12)
    ((date.months + monthsPerPeriod s.cadence) % 12 + 1)
  have late : 12 ≤ date.months := by
    rw [CalendarDate.months]
    omega
  obtain ⟨moved, added⟩ := Option.isSome_iff_exists.mp (isSome_of?.mpr
    (⟨⟨by omega, by omega⟩, ⟨by omega, by omega⟩, by omega, Nat.min_le_right _ _⟩ :
      (1 ≤ (date.months + monthsPerPeriod s.cadence) / 12 ∧ (date.months + monthsPerPeriod s.cadence) / 12 ≤ 9999) ∧
        (1 ≤ (date.months + monthsPerPeriod s.cadence) % 12 + 1 ∧ (date.months + monthsPerPeriod s.cadence) % 12 + 1 ≤ 12) ∧
          1 ≤ min date.day (daysInMonth ((date.months + monthsPerPeriod s.cadence) / 12)
            ((date.months + monthsPerPeriod s.cadence) % 12 + 1)) ∧ _))
  obtain ⟨next, placed, -⟩ := exists_inMonth s moved
  exact ⟨next, Option.bind_eq_some_iff.mpr ⟨moved, added, placed⟩⟩

/-- A later day of the grid is a period ahead at least. -/
theorem OnGrid.exists_next (grid : OnGrid s date) (other : OnGrid s later) (past : date < later) :
    ∃ next, nextOccurrence s date = some next ∧ next ≤ later := by
  have apart : date.months + monthsPerPeriod s.cadence ≤ later.months := by
    obtain ⟨day, count, months⟩ := grid
    obtain ⟨day', count', months'⟩ := other
    have more : count < count' := by
      rcases CalendarDate.lt_iff.mp past with before | same
      · by_contra fewer
        have bound := Nat.mul_le_mul_right (monthsPerPeriod s.cadence) (not_lt.mp fewer)
        omega
      · omega
    have bound := Nat.mul_le_mul_right (monthsPerPeriod s.cadence) (Nat.succ_le_of_lt more)
    rw [Nat.succ_mul] at bound
    omega
  obtain ⟨next, stepped⟩ := Payables.exists_next (apart.trans_lt (months_lt later))
  exact ⟨next, stepped, grid.next_le other past stepped⟩

theorem Schedule.mem_lattice : date ∈ s.lattice ↔ s.startDate ≤ date ∧ OnGrid s date := Schedule.occurs_iff

/-- One period after a date of the lattice comes the next one. -/
theorem nextOccurrence_least (occurs : date ∈ s.lattice) (stepped : nextOccurrence s date = some later) :
    IsLeast {next ∈ s.lattice | date < next} later := by
  obtain ⟨begun, grid⟩ := Schedule.mem_lattice.mp occurs
  have past := nextOccurrence_gt stepped
  refine ⟨⟨Schedule.mem_lattice.mpr ⟨begun.trans past.le, grid.next stepped⟩, past⟩, ?_⟩
  rintro other ⟨inside, beyond⟩
  exact grid.next_le (Schedule.mem_lattice.mp inside).2 beyond stepped

theorem nextOccurrence_iff (occurs : date ∈ s.lattice) :
    nextOccurrence s date = some later ↔ IsLeast {next ∈ s.lattice | date < next} later := by
  refine ⟨nextOccurrence_least occurs, ?_⟩
  intro least
  obtain ⟨next, stepped, -⟩ := (Schedule.mem_lattice.mp occurs).2.exists_next (Schedule.mem_lattice.mp least.1.1).2 least.1.2
  rw [stepped, (nextOccurrence_least occurs stepped).unique least]

theorem continues_iff (occurs : date ∈ s.lattice) : s.Continues date ↔ ∃ next, nextOccurrence s date = some next := by
  constructor
  · rintro ⟨later, inside, past⟩
    obtain ⟨next, stepped, -⟩ := (Schedule.mem_lattice.mp occurs).2.exists_next (Schedule.mem_lattice.mp inside).2 past
    exact ⟨next, stepped⟩
  · rintro ⟨next, stepped⟩
    exact ⟨next, (nextOccurrence_least occurs stepped).1.1, nextOccurrence_gt stepped⟩

/-- The loop of `compute_next_run_on` reaches any day of the grid. -/
theorem walkForward_total (grid : OnGrid s first) (target : OnGrid s member) (ahead : first ≤ member) (above : floor ≤ member) :
    ∃ found, walkForward s floor fuel first = some found := by
  induction fuel generalizing first with
  | zero => exact ⟨first, rfl⟩
  | succ fuel ih =>
    unfold walkForward
    by_cases short : first < floor
    · obtain ⟨next, stepped, within⟩ := grid.exists_next target (short.trans_le above)
      obtain ⟨found, walked⟩ := ih (grid.next stepped) within
      refine ⟨found, ?_⟩
      rw [if_pos short, stepped]
      exact walked
    · exact ⟨first, if_neg short⟩

theorem walkForward_iff (grid : OnGrid s first) (lowest : ∀ member, OnGrid s member → first ≤ member)
    (enough : floor.months + 1 ≤ fuel + first.months) : walkForward s floor fuel first = some date ↔
      IsLeast {member | OnGrid s member ∧ floor ≤ member} date := by
  constructor
  · intro walked
    obtain ⟨onGrid, reached, least⟩ := walkForward_eq_some grid enough walked
    exact ⟨⟨onGrid, reached⟩, fun member inside => least member inside.1 (lowest member inside.1) inside.2⟩
  · intro least
    obtain ⟨found, walked⟩ := @walkForward_total s first date floor fuel grid least.1.1
      (lowest date least.1.1) least.1.2
    obtain ⟨onGrid, reached, least'⟩ := walkForward_eq_some grid enough walked
    rw [walked]
    refine congrArg some (le_antisymm ?_ ?_)
    · exact least' date least.1.1 (lowest date least.1.1) least.1.2
    · exact least.2 ⟨onGrid, reached⟩

/-- The day of the schedule in the month of the start date. -/
theorem exists_placed (s : Schedule) : ∃ placed,
    CalendarDate.of? s.startDate.year s.startDate.month s.dayOfPeriod = some placed ∧ placed.months = s.startDate.months ∧
      OnGrid s placed ∧ ∀ member, OnGrid s member → placed ≤ member := by
  obtain ⟨placed, made, months, day⟩ := exists_inMonth s s.startDate
  exact ⟨placed, made, months, onGrid_first months day⟩

theorem computeNextRunOn_iff {after : CalendarDate} {endDate cursor : Option CalendarDate} :
    computeNextRunOn s after endDate = some cursor ↔
      ∃ next, IsLeast {date ∈ s.lattice | max after s.startDate ≤ date} next ∧
        cursor = if InForce endDate next then some next else none := by
  obtain ⟨placed, made, months, grid, lowest⟩ := exists_placed s
  have year := s.startDate.yearRange
  have month := s.startDate.monthRange
  obtain ⟨anchor, anchored⟩ := Option.isSome_iff_exists.mp (isSome_of?.mpr
    ⟨year, month, le_refl 1, (by decide : 1 ≤ 28).trans (daysInMonth_ge s.startDate.year s.startDate.month)⟩)
  obtain ⟨anchorYear, anchorMonth, anchorDay⟩ := CalendarDate.of?_eq_some.mp anchored
  have still : addMonths anchor 0 = some anchor := by
    refine CalendarDate.of?_eq_some.mpr ⟨?_, ?_, ?_⟩
    · rw [Nat.add_zero, CalendarDate.months]
      omega
    · rw [Nat.add_zero, CalendarDate.months]
      omega
    · have room := daysInMonth_ge ((anchor.months + 0) / 12) ((anchor.months + 0) % 12 + 1)
      omega
  have walk : computeNextRunOn s after endDate =
      (walkForward s (max after s.startDate) ((max after s.startDate).months + 1 - placed.months) placed).map
        fun candidate => if endDate.any (· < candidate) then none else some candidate := by
    simp only [computeNextRunOn, anchored, still, Option.bind_eq_bind, Option.bind_some, anchorYear, anchorMonth, made,
      Option.map_eq_bind]
    rfl
  have enough : (max after s.startDate).months + 1 ≤
      (max after s.startDate).months + 1 - placed.months + placed.months := by omega
  have same : {member | OnGrid s member ∧ max after s.startDate ≤ member} =
      {date ∈ s.lattice | max after s.startDate ≤ date} := by
    ext member
    constructor
    · rintro ⟨onGrid, above⟩
      exact ⟨Schedule.mem_lattice.mpr ⟨(le_max_right _ _).trans above, onGrid⟩, above⟩
    · rintro ⟨inside, above⟩
      exact ⟨(Schedule.mem_lattice.mp inside).2, above⟩
  have ending (candidate : CalendarDate) : (if endDate.any (· < candidate) then none else some candidate) =
      if InForce endDate candidate then some candidate else none := by
    have ended : endDate.any (· < candidate) = true ↔ ¬InForce endDate candidate := by
      cases endDate <;> simp [InForce]
    by_cases inForce : InForce endDate candidate
    · rw [if_pos inForce, if_neg fun past => ended.mp past inForce]
    · rw [if_neg inForce, if_pos (ended.mpr inForce)]
  rw [walk, Option.map_eq_some_iff]
  refine exists_congr fun next => ?_
  rw [walkForward_iff grid lowest enough, same, ending, eq_comm (a := cursor)]

theorem exists_firstRunOn (inside : member ∈ s.lattice) : ∃ first, firstRunOn s = some first := by
  obtain ⟨placed, made, months, grid, lowest⟩ := exists_placed s
  obtain ⟨begun, onGrid⟩ := Schedule.mem_lattice.mp inside
  have chosen : firstRunOn s = if placed < s.startDate then nextOccurrence s placed else some placed := by
    simp only [firstRunOn, made, Option.bind_eq_bind, Option.bind_some]
  rw [chosen]
  by_cases early : placed < s.startDate
  · rw [if_pos early]
    obtain ⟨next, stepped, -⟩ := grid.exists_next onGrid (early.trans_le begun)
    exact ⟨next, stepped⟩
  · rw [if_neg early]
    exact ⟨placed, rfl⟩

/-- The first date of the lattice is found where there is one. -/
theorem firstRunOn_iff : firstRunOn s = some first ↔ IsLeast s.lattice first := by
  have sound {found : CalendarDate} (run : firstRunOn s = some found) : IsLeast s.lattice found := by
    obtain ⟨onGrid, begun, least⟩ := firstRunOn_eq_some run
    exact ⟨Schedule.mem_lattice.mpr ⟨begun, onGrid⟩, fun member inside => least member inside⟩
  refine ⟨sound, ?_⟩
  intro least
  obtain ⟨found, run⟩ := exists_firstRunOn least.1
  rw [run, (sound run).unique least]

/-- The loop of `current_due_run_on` looks one period past the day it returns. -/
theorem walkUpTo_next (within : first ≤ ceiling) (enough : ceiling.months + 1 ≤ fuel + first.months)
    (walked : walkUpTo s ceiling fuel first = some date) : ∃ next, nextOccurrence s date = some next := by
  induction fuel generalizing first with
  | zero =>
    have order := CalendarDate.le_iff.mp within
    omega
  | succ fuel ih =>
    unfold walkUpTo at walked
    obtain ⟨following, stepped, rest⟩ := Option.bind_eq_some_iff.mp walked
    by_cases past : ceiling < following
    · rw [if_pos past, Option.some.injEq] at rest
      rw [← rest]
      exact ⟨following, stepped⟩
    · rw [if_neg past] at rest
      have months := (nextOccurrence_eq_some stepped).1
      have positive := monthsPerPeriod_pos s.cadence
      exact ih (not_lt.mp past) (by omega) rest

theorem walkUpTo_total (occurs : first ∈ s.lattice) (last : IsGreatest {date ∈ s.lattice | date ≤ ceiling} date)
    (continues : s.Continues date) (within : first ≤ date) : ∃ found, walkUpTo s ceiling fuel first = some found := by
  induction fuel generalizing first with
  | zero => exact ⟨first, rfl⟩
  | succ fuel ih =>
    have steps : ∃ following, nextOccurrence s first = some following := by
      rcases within.lt_or_eq with before | rfl
      · obtain ⟨following, stepped, -⟩ := (Schedule.mem_lattice.mp occurs).2.exists_next
          (Schedule.mem_lattice.mp last.1.1).2 before
        exact ⟨following, stepped⟩
      · exact (continues_iff occurs).mp continues
    obtain ⟨following, stepped⟩ := steps
    have inside := (nextOccurrence_least occurs stepped).1.1
    unfold walkUpTo
    rw [stepped]
    by_cases past : ceiling < following
    · exact ⟨first, if_pos past⟩
    · obtain ⟨found, walked⟩ := ih inside (last.2 ⟨inside, not_lt.mp past⟩)
      exact ⟨found, (if_neg past).trans walked⟩

theorem currentDueRunOn_iff {today runOn : CalendarDate} : currentDueRunOn s today = some runOn ↔
    (IsLeast s.lattice runOn ∧ max today s.startDate < runOn) ∨
      (IsGreatest {date ∈ s.lattice | date ≤ max today s.startDate} runOn ∧ s.Continues runOn) := by
  constructor
  · intro found
    obtain ⟨first, chosen, walked⟩ := Option.bind_eq_some_iff.mp found
    have least := firstRunOn_iff.mp chosen
    simp only at walked
    by_cases ahead : max today s.startDate < first
    · rw [if_pos ahead, Option.some.injEq] at walked
      exact .inl ⟨walked ▸ least, walked ▸ ahead⟩
    · rw [if_neg ahead] at walked
      have within := not_lt.mp ahead
      obtain ⟨begun, grid⟩ := Schedule.mem_lattice.mp least.1
      obtain ⟨onGrid, after, below, last⟩ := walkUpTo_eq_some grid within (by omega) walked
      have inside : runOn ∈ s.lattice := Schedule.mem_lattice.mpr ⟨begun.trans after, onGrid⟩
      refine .inr ⟨⟨⟨inside, below⟩, ?_⟩, (continues_iff inside).mpr (walkUpTo_next within (by omega) walked)⟩
      rintro other ⟨member, low⟩
      by_contra beyond
      exact absurd low (not_le.mpr (last other (Schedule.mem_lattice.mp member).2 (not_le.mp beyond)))
  · rintro (⟨least, ahead⟩ | ⟨last, continues⟩)
    · refine Option.bind_eq_some_iff.mpr ⟨runOn, firstRunOn_iff.mpr least, ?_⟩
      exact if_pos ahead
    · obtain ⟨first, chosen⟩ := exists_firstRunOn last.1.1
      have least := firstRunOn_iff.mp chosen
      have within := least.2 last.1.1
      have begun := within.trans last.1.2
      obtain ⟨found, walked⟩ := @walkUpTo_total s runOn first (max today s.startDate)
        ((max today s.startDate).months + 1 - first.months) least.1 last continues within
      have grid := (Schedule.mem_lattice.mp least.1).2
      obtain ⟨onGrid, after, below, beyond⟩ := walkUpTo_eq_some grid begun (by omega) walked
      have inside : found ∈ s.lattice :=
        Schedule.mem_lattice.mpr ⟨(Schedule.mem_lattice.mp least.1).1.trans after, onGrid⟩
      have same : found = runOn := by
        refine le_antisymm (last.2 ⟨inside, below⟩) (not_lt.mp fun short => ?_)
        exact absurd last.1.2 (not_le.mpr (beyond runOn (Schedule.mem_lattice.mp last.1.1).2 short))
      refine Option.bind_eq_some_iff.mpr ⟨first, chosen, ?_⟩
      rw [← same]
      exact (if_neg (not_lt.mpr begun)).trans walked

/-- Advancing the cursor from a date of the lattice leads to the next one. -/
theorem cursorAfter_iff {t : RecurringTemplate} {runOn : CalendarDate} {cursor : Option CalendarDate}
    (occurs : runOn ∈ t.schedule.lattice) : t.cursorAfter runOn = some cursor ↔
      ∃ next, IsLeast {date ∈ t.schedule.lattice | runOn < date} next ∧
        cursor = if InForce t.endDate next then some next else none := by
  obtain ⟨begun, grid⟩ := Schedule.mem_lattice.mp occurs
  have placed {anchor : CalendarDate} (added : addMonths runOn (monthsPerPeriod t.schedule.cadence) = some anchor) :
      nextOccurrence t.schedule runOn = some anchor := by
    obtain ⟨year, month, day⟩ := CalendarDate.of?_eq_some.mp added
    have room := daysInMonth_ge ((runOn.months + monthsPerPeriod t.schedule.cadence) / 12)
      ((runOn.months + monthsPerPeriod t.schedule.cadence) % 12 + 1)
    have range := t.schedule.dayRange
    refine Option.bind_eq_some_iff.mpr ⟨anchor, added, CalendarDate.of?_eq_some.mpr ⟨rfl, rfl, ?_⟩⟩
    rw [day, grid.1]
    omega
  have from' {anchor : CalendarDate} (stepped : nextOccurrence t.schedule runOn = some anchor) :
      {date ∈ t.schedule.lattice | max anchor t.schedule.startDate ≤ date} = {date ∈ t.schedule.lattice | runOn < date} := by
    have least := nextOccurrence_least occurs stepped
    ext date
    constructor
    · rintro ⟨inside, above⟩
      exact ⟨inside, (nextOccurrence_gt stepped).trans_le ((le_max_left _ _).trans above)⟩
    · rintro ⟨inside, past⟩
      exact ⟨inside, max_le (least.2 ⟨inside, past⟩) (Schedule.mem_lattice.mp inside).1⟩
  rw [RecurringTemplate.cursorAfter]
  constructor
  · intro found
    obtain ⟨anchor, added, computed⟩ := Option.bind_eq_some_iff.mp found
    rw [computeNextRunOn_iff, from' (placed added)] at computed
    exact computed
  · intro next
    obtain ⟨following, least, -⟩ := id next
    obtain ⟨moved, added, -⟩ := Option.bind_eq_some_iff.mp ((nextOccurrence_iff occurs).mpr least)
    refine Option.bind_eq_some_iff.mpr ⟨moved, added, ?_⟩
    rw [computeNextRunOn_iff, from' (placed added)]
    exact next

end Walks

section Projection

variable {s : Schedule} {endDate : Option CalendarDate} {date start next : CalendarDate} {count : Nat}
  {projected : List (String × CalendarDate)}

theorem mem_occurrencesFrom : date ∈ s.occurrencesFrom start ↔ date ∈ s.lattice ∧ start ≤ date := by
  rw [Schedule.occurrencesFrom, List.mem_filter, Schedule.mem_occurrencesUpTo, decide_eq_true_iff]
  exact and_congr_left fun _ => and_iff_left (le_endOfTime date)

theorem occurrencesUpTo_sorted (last : CalendarDate) : (s.occurrencesUpTo last).Pairwise (· < ·) := by
  refine List.Pairwise.filter _ (List.Pairwise.filterMap _ ?_ List.pairwise_lt_range)
  intro ahead ahead' less one made other made'
  have months := (CalendarDate.ofMonths?_eq_some.mp made).1
  have months' := (CalendarDate.ofMonths?_eq_some.mp made').1
  exact CalendarDate.lt_iff.mpr (.inl (by omega))

theorem occurrencesFrom_sorted (start : CalendarDate) : (s.occurrencesFrom start).Pairwise (· < ·) :=
  List.Pairwise.filter _ (occurrencesUpTo_sorted endOfTime)

/-- The occurrences from a date of the lattice on are that date and those after it. -/
theorem occurrencesFrom_eq (occurs : start ∈ s.lattice) : s.occurrencesFrom start =
    start :: (s.occurrencesFrom start).filter (start < ·) := by
  have sorted := occurrencesFrom_sorted (s := s) start
  refine List.Pairwise.eq_of_mem_iff sorted (List.pairwise_cons.mpr ⟨?_, sorted.filter _⟩) ?_
  · intro later member
    exact of_decide_eq_true (List.mem_filter.mp member).2
  · intro member
    rw [List.mem_cons, List.mem_filter, mem_occurrencesFrom, decide_eq_true_iff]
    constructor
    · rintro ⟨inside, from'⟩
      exact from'.eq_or_lt.imp Eq.symm fun past => ⟨⟨inside, from'⟩, past⟩
    · rintro (rfl | ⟨inside, -⟩)
      · exact ⟨occurs, le_refl _⟩
      · exact inside

theorem occurrencesFrom_next (least : IsLeast {date ∈ s.lattice | start < date} next) :
    (s.occurrencesFrom start).filter (start < ·) = s.occurrencesFrom next := by
  refine List.Pairwise.eq_of_mem_iff ((occurrencesFrom_sorted start).filter _) (occurrencesFrom_sorted next) ?_
  intro member
  rw [List.mem_filter, mem_occurrencesFrom, mem_occurrencesFrom, decide_eq_true_iff]
  constructor
  · rintro ⟨⟨inside, -⟩, past⟩
    exact ⟨inside, least.2 ⟨inside, past⟩⟩
  · rintro ⟨inside, from'⟩
    have past := least.1.2.trans_le from'
    exact ⟨⟨inside, past.le⟩, past⟩

/-- The walk of `project_schedule` lists the next dates, and looks one period past each. -/
theorem projectLoop_iff (occurs : start ∈ s.lattice) : projectLoop s endDate count start = some projected ↔
    projected = (s.nextDates endDate count start).map (fun date => (periodKeyFor s.cadence date, date)) ∧
      ∀ date ∈ s.nextDates endDate count start, s.Continues date := by
  induction count generalizing start projected with
  | zero =>
    have nothing : s.nextDates endDate ((0 : Nat) : Int) start = [] := rfl
    rw [nothing, projectLoop, Option.some.injEq]
    simp [eq_comm]
  | succ count ih =>
    unfold projectLoop
    have ended : endDate.any (· < start) = true ↔ ¬InForce endDate start := by
      cases endDate <;> simp [InForce]
    by_cases inForce : InForce endDate start
    · rw [if_neg fun past => ended.mp past inForce]
      have listed (rest : List CalendarDate) (same : (s.occurrencesFrom start).filter (start < ·) = rest) :
          s.nextDates endDate ((count + 1 : Nat) : Int) start =
            start :: (rest.filter fun date => InForce endDate date).take count := by
        rw [Schedule.nextDates, occurrencesFrom_eq occurs, same, List.filter_cons, if_pos (decide_eq_true inForce)]
        rfl
      by_cases continues : s.Continues start
      · obtain ⟨next, stepped⟩ := (continues_iff occurs).mp continues
        have least := nextOccurrence_least occurs stepped
        have dates : s.nextDates endDate ((count + 1 : Nat) : Int) start = start :: s.nextDates endDate (count : Int) next :=
          listed _ (occurrencesFrom_next least)
        rw [dates, stepped, List.map_cons, List.forall_mem_cons]
        simp only [Option.bind_eq_bind, Option.bind_some, Option.pure_def, Option.bind_eq_some_iff, Option.some.injEq]
        constructor
        · rintro ⟨rest, walked, rfl⟩
          obtain ⟨rfl, all⟩ := (ih least.1.1).mp walked
          exact ⟨rfl, continues, all⟩
        · rintro ⟨rfl, -, all⟩
          exact ⟨_, (ih least.1.1).mpr ⟨rfl, all⟩, rfl⟩
      · have stuck : nextOccurrence s start = none := by
          by_contra moves
          exact continues ((continues_iff occurs).mpr (Option.ne_none_iff_exists'.mp moves))
        rw [stuck, listed _ rfl]
        constructor
        · intro impossible
          cases impossible
        · rintro ⟨-, all⟩
          exact absurd (all start List.mem_cons_self) continues
    · rw [if_pos (ended.mpr inForce)]
      have nothing : s.nextDates endDate ((count + 1 : Nat) : Int) start = [] := by
        rw [Schedule.nextDates, List.filter_eq_nil_iff.mpr, List.take_nil]
        intro date member
        rw [decide_eq_true_iff]
        exact fun later => inForce fun last bound => (mem_occurrencesFrom.mp member).2.trans (later last bound)
      rw [nothing, Option.some.injEq]
      simp [eq_comm]

theorem projectSchedule_iff {cursor : Option CalendarDate} {count : Int} (occurs : start ∈ s.lattice) :
    projectSchedule s endDate cursor count (some start) = some projected ↔
      projected = (s.nextDates endDate count start).map (fun date => (periodKeyFor s.cadence date, date)) ∧
        ∀ date ∈ s.nextDates endDate count start, s.Continues date := by
  by_cases none' : count ≤ 0
  · have nothing : s.nextDates endDate count start = [] := by
      rw [Schedule.nextDates, Int.toNat_of_nonpos none', List.take_zero]
    rw [projectSchedule, if_pos none', nothing, Option.some.injEq]
    simp [eq_comm]
  · have placed : CalendarDate.of? start.year start.month s.dayOfPeriod = some start :=
      CalendarDate.of?_eq_some.mpr ⟨rfl, rfl, (Schedule.mem_lattice.mp occurs).2.1⟩
    have counted : ((count.toNat : Nat) : Int) = count := Int.toNat_of_nonneg (by omega)
    have walk := @projectLoop_iff s endDate start count.toNat projected occurs
    rw [counted] at walk
    rw [projectSchedule, if_neg none', ← walk]
    simp only [Option.some_or, placed, Option.bind_eq_bind, Option.bind_some, lt_irrefl, if_false]

end Projection

/-- The three walks of the calendar agree on one lattice of dates: the next date from a day on, or none once that is past
the end date; the last date up to a day, or the first of all; the dates that follow one another, each under a key of its
own; and the date after one that was generated. The calendar ends with the year 9999. A function raises where it looks for
a date that is not there, and the last two walks look one date past what they return. -/
theorem schedule_on_lattice (s : Schedule) (endDate : Option CalendarDate) :
    (∀ after cursor, computeNextRunOn s after endDate = some cursor ↔
        ∃ next, IsLeast {date ∈ s.lattice | max after s.startDate ≤ date} next ∧
          cursor = if InForce endDate next then some next else none) ∧
      (∀ today runOn, currentDueRunOn s today = some runOn ↔
        (IsLeast s.lattice runOn ∧ max today s.startDate < runOn) ∨
          (IsGreatest {date ∈ s.lattice | date ≤ max today s.startDate} runOn ∧ s.Continues runOn)) ∧
      (∀ start ∈ s.lattice, ∀ cursor count projected,
        projectSchedule s endDate cursor count (some start) = some projected ↔
          projected = (s.nextDates endDate count start).map (fun date => (periodKeyFor s.cadence date, date)) ∧
            ∀ date ∈ s.nextDates endDate count start, s.Continues date) ∧
      (∀ one ∈ s.lattice, ∀ other ∈ s.lattice, periodKeyFor s.cadence one = periodKeyFor s.cadence other → one = other) ∧
      ∀ t : RecurringTemplate, t.schedule = s → t.endDate = endDate → ∀ runOn ∈ s.lattice, ∀ cursor,
        t.cursorAfter runOn = some cursor ↔ ∃ next, IsLeast {date ∈ s.lattice | runOn < date} next ∧
          cursor = if InForce endDate next then some next else none := by
  refine ⟨fun after cursor => computeNextRunOn_iff, fun today runOn => currentDueRunOn_iff, ?_, ?_, ?_⟩
  · intro start occurs cursor count projected
    exact projectSchedule_iff occurs
  · intro one occurs other occurs'
    exact periodKeyFor_inj occurs occurs'
  · rintro t rfl rfl runOn occurs cursor
    exact cursorAfter_iff occurs

/-- A schedule with one date, in the last month of the calendar. -/
def lastMonth : Schedule := ⟨.monthly, 5, (CalendarDate.of? 9999 12 1).get (by decide), by decide⟩

/-- In the last month of the calendar nothing is found due, and nothing is projected. -/
theorem last_month_raises :
    (¬∀ (s : Schedule) (today runOn : CalendarDate),
      IsGreatest {date ∈ s.lattice | date ≤ max today s.startDate} runOn → currentDueRunOn s today = some runOn) ∧
      ¬∀ (s : Schedule) (endDate : Option CalendarDate), ∀ start ∈ s.lattice, ∀ count : Int,
        projectSchedule s endDate none count (some start) =
          some ((s.nextDates endDate count start).map fun date => (periodKeyFor s.cadence date, date)) := by
  have occurs : lastMonth.Occurs ((CalendarDate.of? 9999 12 5).get (by decide)) := by decide
  have placed : (CalendarDate.of? 9999 12 5).get (by decide) ∈ lastMonth.lattice := occurs
  constructor
  · intro due
    have last : IsGreatest {date ∈ lastMonth.lattice | date ≤ max endOfTime lastMonth.startDate}
        ((CalendarDate.of? 9999 12 5).get (by decide)) := by
      refine ⟨⟨placed, by decide⟩, ?_⟩
      rintro date ⟨inside, -⟩
      have bound := months_lt date
      have day := (Schedule.mem_lattice.mp inside).2.1
      refine CalendarDate.le_iff.mpr ?_
      have months : ((CalendarDate.of? 9999 12 5).get (by decide)).months = 119999 := by decide
      have fifth : ((CalendarDate.of? 9999 12 5).get (by decide)).day = 5 ∧ lastMonth.dayOfPeriod = 5 := by decide
      omega
    have found := due lastMonth endOfTime _ last
    exact absurd found (by decide)
  · intro projects
    have found := projects lastMonth none _ placed 1
    have raises : projectSchedule lastMonth none none 1 (some ((CalendarDate.of? 9999 12 5).get (by decide))) = none := by
      decide
    rw [raises] at found
    cases found

end Payables
