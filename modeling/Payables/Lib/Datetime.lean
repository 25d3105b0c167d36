import Mathlib.Tactic.IntervalCases
import Payables.Lib.Calendar

namespace Payables.Lib

/-- The days of the years before a year. -/
def daysBeforeYear (year : Nat) : Nat := (year - 1) * 365 + (year - 1) / 4 - (year - 1) / 100 + (year - 1) / 400

/-- The days of the months of a year before a month, in a year of 365 days. -/
def daysBeforeMonth : Nat → Nat
  | 2 => 31
  | 3 => 59
  | 4 => 90
  | 5 => 120
  | 6 => 151
  | 7 => 181
  | 8 => 212
  | 9 => 243
  | 10 => 273
  | 11 => 304
  | 12 => 334
  | _ => 0

def isLeap (year : Nat) : Bool := year % 4 = 0 && (year % 100 ≠ 0 || year % 400 = 0)

/-- The days before the month with a given number of months before it. -/
def daysBefore (months : Nat) : Nat :=
  daysBeforeYear (months / 12) + daysBeforeMonth (months % 12 + 1) +
    if 2 ≤ months % 12 ∧ isLeap (months / 12) then 1 else 0

theorem isLeap_iff {year : Nat} : isLeap year ↔ year % 4 = 0 ∧ (year % 100 ≠ 0 ∨ year % 400 = 0) := by
  simp [isLeap]

/-- The multiples of a number up to a year. -/
theorem div_step (step : Nat) {year : Nat} (counted : 1 ≤ year) :
    year / step = (year - 1) / step + if year % step = 0 then 1 else 0 := by
  obtain ⟨before, rfl⟩ : ∃ before, year = before + 1 := ⟨year - 1, by omega⟩
  rw [Nat.add_sub_cancel, Nat.succ_div]
  simp only [Nat.dvd_iff_mod_eq_zero]

theorem daysBeforeYear_succ {year : Nat} (positive : 1 ≤ year) :
    daysBeforeYear (year + 1) = daysBeforeYear year + 365 + if isLeap year then 1 else 0 := by
  have below : (year - 1) / 100 ≤ (year - 1) / 4 := Nat.div_le_div_left (by omega) (by omega)
  have leap : isLeap year ↔ year % 4 = 0 ∧ (year % 100 ≠ 0 ∨ year % 400 = 0) := isLeap_iff
  have days : year * 365 = (year - 1) * 365 + 365 := by omega
  have centuries : year % 100 = 0 → year % 4 = 0 := fun byHundred => by omega
  have cycles : year % 400 = 0 → year % 100 = 0 := fun byCycle => by omega
  rw [daysBeforeYear, daysBeforeYear, Nat.add_sub_cancel, div_step 4 positive, div_step 100 positive, div_step 400 positive, days]
  generalize (year - 1) * 365 = whole
  generalize (year - 1) / 4 = fours at below ⊢
  generalize (year - 1) / 100 = hundreds at below ⊢
  generalize (year - 1) / 400 = fourHundreds
  by_cases byFour : year % 4 = 0
  · by_cases byHundred : year % 100 = 0
    · by_cases byCycle : year % 400 = 0
      · rw [if_pos byFour, if_pos byHundred, if_pos byCycle, if_pos (leap.mpr ⟨byFour, .inr byCycle⟩)]
        clear leap days centuries cycles
        omega
      · have common : ¬isLeap year := fun holds => (leap.mp holds).2.elim (absurd byHundred) byCycle
        rw [if_pos byFour, if_pos byHundred, if_neg byCycle, if_neg common]
        clear leap days centuries cycles
        omega
    · have noCycle : year % 400 ≠ 0 := fun byCycle => byHundred (cycles byCycle)
      rw [if_pos byFour, if_neg byHundred, if_neg noCycle, if_pos (leap.mpr ⟨byFour, .inl byHundred⟩)]
      clear leap days centuries cycles
      omega
  · have noHundred : year % 100 ≠ 0 := fun byHundred => byFour (centuries byHundred)
    have noCycle : year % 400 ≠ 0 := fun byCycle => noHundred (cycles byCycle)
    have common : ¬isLeap year := fun holds => byFour (leap.mp holds).1
    rw [if_neg byFour, if_neg noHundred, if_neg noCycle, if_neg common]
    clear leap days centuries cycles
    omega

/-- A month has its days. -/
theorem daysBefore_succ {months : Nat} (positive : 12 ≤ months) :
    daysBefore (months + 1) = daysBefore months + daysInMonth (months / 12) (months % 12 + 1) := by
  by_cases december : months % 12 = 11
  · have year : (months + 1) / 12 = months / 12 + 1 := by omega
    have january : (months + 1) % 12 = 0 := by omega
    have counted : 1 ≤ months / 12 := by omega
    simp only [daysBefore, year, january, december, daysBeforeYear_succ counted, daysBeforeMonth, daysInMonth]
    simp
    omega
  · have year : (months + 1) / 12 = months / 12 := by omega
    have next : (months + 1) % 12 = months % 12 + 1 := by omega
    have range : months % 12 < 11 := by omega
    simp only [daysBefore, year, next, daysInMonth, isLeap_iff]
    generalize months % 12 = month at range
    by_cases leap : months / 12 % 4 = 0 ∧ (months / 12 % 100 ≠ 0 ∨ months / 12 % 400 = 0)
    · simp only [leap, and_true, if_true]
      interval_cases month <;> simp [daysBeforeMonth]
    · simp only [leap, and_false, if_false]
      interval_cases month <;> simp [daysBeforeMonth]

theorem daysBefore_lt {one other : Nat} (positive : 12 ≤ one) (before : one < other) :
    daysBefore one + daysInMonth (one / 12) (one % 12 + 1) ≤ daysBefore other := by
  induction other with
  | zero => omega
  | succ other ih =>
    have next : 12 ≤ other → daysBefore (other + 1) = daysBefore other + daysInMonth (other / 12) (other % 12 + 1) :=
      daysBefore_succ
    by_cases same : one = other
    · subst same
      exact (next positive).ge
    · have earlier := ih (by omega)
      have more := next (by omega)
      omega

/-- The number of a day, where the first of January of year 1 has the number 1. -/
def CalendarDate.ordinal (date : CalendarDate) : Nat := daysBefore date.months + date.day

theorem CalendarDate.months_ge (date : CalendarDate) : 12 ≤ date.months := by
  have years := date.yearRange
  rw [CalendarDate.months]
  omega

theorem CalendarDate.months_lt (date : CalendarDate) : date.months < 120000 := by
  have years := date.yearRange
  have range := date.monthRange
  rw [CalendarDate.months]
  omega

theorem CalendarDate.day_le (date : CalendarDate) :
    date.day ≤ daysInMonth (date.months / 12) (date.months % 12 + 1) := by
  have range := date.monthRange
  have year : date.months / 12 = date.year := by rw [CalendarDate.months]; omega
  have month : date.months % 12 + 1 = date.month := by rw [CalendarDate.months]; omega
  rw [year, month]
  exact date.dayRange.2

theorem CalendarDate.ordinal_lt {one other : CalendarDate} (before : one < other) : one.ordinal < other.ordinal := by
  have within := one.day_le
  have first := other.dayRange.1
  rw [CalendarDate.ordinal, CalendarDate.ordinal]
  rcases CalendarDate.lt_iff.mp before with earlier | ⟨same, day⟩
  · have apart := daysBefore_lt one.months_ge earlier
    omega
  · rw [same]
    omega

/-- The microseconds of a day. -/
def microsPerDay : Nat := 86400000000

/-- An instant in UTC, to the microsecond. -/
structure Datetime where
  date : CalendarDate
  micros : Nat
  microsRange : micros < microsPerDay
  deriving DecidableEq

namespace Datetime

/-- Instants compare as their days and times of day do. -/
def key (instant : Datetime) : CalendarDate ×ₗ ℕ := toLex (instant.date, instant.micros)

theorem key_injective : Function.Injective key := by
  intro one other same
  cases one
  cases other
  simp only [key, EmbeddingLike.apply_eq_iff_eq, Prod.mk.injEq] at same
  simpa only [mk.injEq] using same

instance : LinearOrder Datetime := LinearOrder.lift' key key_injective

theorem lt_iff {one other : Datetime} :
    one < other ↔ one.date < other.date ∨ one.date = other.date ∧ one.micros < other.micros := by
  show one.key < other.key ↔ _
  simp only [key, Prod.Lex.toLex_lt_toLex]

theorem le_iff {one other : Datetime} :
    one ≤ other ↔ one.date < other.date ∨ one.date = other.date ∧ one.micros ≤ other.micros := by
  show one.key ≤ other.key ↔ _
  simp only [key, Prod.Lex.toLex_le_toLex]

/-- The microseconds up to an instant. -/
def stamp (instant : Datetime) : Nat := instant.date.ordinal * microsPerDay + instant.micros

theorem stamp_strictMono : StrictMono stamp := by
  intro one other before
  have day := one.microsRange
  rw [stamp, stamp]
  rcases lt_iff.mp before with earlier | ⟨same, time⟩
  · have ordinals := CalendarDate.ordinal_lt earlier
    rw [microsPerDay] at *
    omega
  · rw [same]
    omega

theorem stamp_lt {one other : Datetime} : one.stamp < other.stamp ↔ one < other := stamp_strictMono.lt_iff_lt

theorem stamp_le {one other : Datetime} : one.stamp ≤ other.stamp ↔ one ≤ other := stamp_strictMono.le_iff_le

end Datetime

end Payables.Lib
