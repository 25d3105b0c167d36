import Payables.Lib.Datetime

namespace Payables.Lib

namespace CalendarDate

/-- The number of the last day of the year 9999. -/
def lastOrdinal : Nat := daysBefore 120000

/-- The day with a number, where there is one. -/
def ofOrdinal? (number : Nat) : Option CalendarDate :=
  (List.range 120000).findSome? fun months => ofMonths? months (number - daysBefore months)

theorem ordinal_injective : Function.Injective ordinal := by
  intro one other same
  rcases lt_trichotomy one other with before | same' | after
  · exact absurd same (ordinal_lt before).ne
  · exact same'
  · exact absurd same (ordinal_lt after).ne'

theorem ordinal_pos (date : CalendarDate) : 1 ≤ date.ordinal := by
  have first := date.dayRange.1
  rw [ordinal]
  omega

theorem ordinal_le_last (date : CalendarDate) : date.ordinal ≤ lastOrdinal := by
  have within := date.day_le
  have month := daysBefore_lt date.months_ge date.months_lt
  rw [ordinal, lastOrdinal]
  omega

/-- Every number of a day falls in one of the months. -/
theorem exists_month {number bound : Nat} (first : daysBefore 12 < number) (last : number ≤ daysBefore bound)
    (years : 12 ≤ bound) : ∃ months, 12 ≤ months ∧ months < bound ∧ daysBefore months < number ∧
      number ≤ daysBefore (months + 1) := by
  induction bound with
  | zero => omega
  | succ bound ih =>
    by_cases start : bound + 1 = 12
    · rw [start] at last
      omega
    · by_cases earlier : number ≤ daysBefore bound
      · obtain ⟨months, counted, below, from', upTo⟩ := ih earlier (by omega)
        exact ⟨months, counted, by omega, from', upTo⟩
      · exact ⟨bound, by omega, by omega, by omega, last⟩

theorem ofOrdinal?_eq_some {number : Nat} {date : CalendarDate} : ofOrdinal? number = some date ↔ date.ordinal = number := by
  have sound : ∀ {found : CalendarDate}, ofOrdinal? number = some found → found.ordinal = number := by
    intro found made
    obtain ⟨months, -, here⟩ := List.exists_of_findSome?_eq_some made
    obtain ⟨month, day⟩ := ofMonths?_eq_some.mp here
    have first := found.dayRange.1
    rw [ordinal, month]
    omega
  constructor
  · exact sound
  · intro numbered
    have here : ofMonths? date.months (number - daysBefore date.months) = some date := by
      refine ofMonths?_eq_some.mpr ⟨rfl, ?_⟩
      rw [← numbered, ordinal]
      omega
    cases made : ofOrdinal? number with
    | none =>
      have missed := List.findSome?_eq_none_iff.mp made date.months (List.mem_range.mpr date.months_lt)
      rw [here] at missed
      cases missed
    | some found => exact congrArg some (ordinal_injective ((sound made).trans numbered.symm))

/-- The numbers of days are those up to the last one. -/
theorem exists_ordinal {number : Nat} : (∃ date : CalendarDate, date.ordinal = number) ↔ 1 ≤ number ∧ number ≤ lastOrdinal := by
  constructor
  · rintro ⟨date, rfl⟩
    exact ⟨date.ordinal_pos, date.ordinal_le_last⟩
  · rintro ⟨first, last⟩
    have start : daysBefore 12 = 0 := by decide
    obtain ⟨months, years, below, after, upTo⟩ := exists_month (by omega) last (by omega)
    rw [daysBefore_succ years] at upTo
    have valid : (1 ≤ months / 12 ∧ months / 12 ≤ 9999) ∧ (1 ≤ months % 12 + 1 ∧ months % 12 + 1 ≤ 12) ∧
        1 ≤ number - daysBefore months ∧ number - daysBefore months ≤ daysInMonth (months / 12) (months % 12 + 1) := by
      omega
    refine ⟨⟨months / 12, months % 12 + 1, number - daysBefore months, valid.1, valid.2.1, valid.2.2⟩, ?_⟩
    have same : months / 12 * 12 + (months % 12 + 1 - 1) = months := by omega
    rw [ordinal, CalendarDate.months]
    simp only [same]
    omega

theorem exists_ofOrdinal? {number : Nat} : (∃ date, ofOrdinal? number = some date) ↔ 1 ≤ number ∧ number ≤ lastOrdinal := by
  rw [← exists_ordinal]
  exact exists_congr fun _ => ofOrdinal?_eq_some

/-- `date + timedelta(days=...)`, where the day is in the calendar. -/
def plusDays? (date : CalendarDate) (days : ℤ) : Option CalendarDate := ofOrdinal? (date.ordinal + days).toNat

theorem plusDays?_eq_some {date later : CalendarDate} {days : ℤ} :
    date.plusDays? days = some later ↔ (later.ordinal : ℤ) = date.ordinal + days := by
  have first := later.ordinal_pos
  rw [plusDays?, ofOrdinal?_eq_some]
  omega

theorem exists_plusDays? {date : CalendarDate} {days : ℤ} :
    (∃ later, date.plusDays? days = some later) ↔ 1 ≤ date.ordinal + days ∧ date.ordinal + days ≤ lastOrdinal := by
  unfold plusDays?
  rw [exists_ofOrdinal?]
  omega

/-- Monday is 0. -/
def weekday (date : CalendarDate) : Nat := (date.ordinal + 6) % 7

theorem weekday_lt (date : CalendarDate) : date.weekday < 7 := Nat.mod_lt _ (by omega)

theorem weekday_lt_ordinal (date : CalendarDate) : date.weekday < date.ordinal := by
  have first := date.ordinal_pos
  rw [weekday]
  omega

/-- The first day of the month of a date. -/
def monthStart (date : CalendarDate) : CalendarDate :=
  ⟨date.year, date.month, 1, date.yearRange, date.monthRange, le_rfl, le_trans (by decide) (daysInMonth_ge _ _)⟩

end CalendarDate

end Payables.Lib
