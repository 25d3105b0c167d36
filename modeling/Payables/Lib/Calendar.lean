import Mathlib.Data.Prod.Lex
import Mathlib.Tactic.Common

namespace Payables.Lib

/-- The days of a month of the Gregorian calendar. -/
def daysInMonth (year month : Nat) : Nat :=
  if month = 2 then if year % 4 = 0 ∧ (year % 100 ≠ 0 ∨ year % 400 = 0) then 29 else 28
  else if month = 4 ∨ month = 6 ∨ month = 9 ∨ month = 11 then 30
  else 31

theorem daysInMonth_ge (year month : Nat) : 28 ≤ daysInMonth year month := by
  unfold daysInMonth
  split
  · split <;> omega
  · split <;> omega

theorem daysInMonth_le (year month : Nat) : daysInMonth year month ≤ 31 := by
  unfold daysInMonth
  split
  · split <;> omega
  · split <;> omega

/-- A day of the years 1 to 9999. -/
structure CalendarDate where
  year : Nat
  month : Nat
  day : Nat
  yearRange : 1 ≤ year ∧ year ≤ 9999
  monthRange : 1 ≤ month ∧ month ≤ 12
  dayRange : 1 ≤ day ∧ day ≤ daysInMonth year month
  deriving DecidableEq

namespace CalendarDate

/-- The date with these parts, where there is one. -/
def of? (year month day : Nat) : Option CalendarDate :=
  if valid : (1 ≤ year ∧ year ≤ 9999) ∧ (1 ≤ month ∧ month ≤ 12) ∧ 1 ≤ day ∧ day ≤ daysInMonth year month then
    some ⟨year, month, day, valid.1, valid.2.1, valid.2.2⟩
  else none

theorem of?_eq_some {year month day : Nat} {date : CalendarDate} :
    of? year month day = some date ↔ date.year = year ∧ date.month = month ∧ date.day = day := by
  constructor
  · intro made
    unfold of? at made
    split at made
    · cases made
      exact ⟨rfl, rfl, rfl⟩
    · cases made
  · rintro ⟨rfl, rfl, rfl⟩
    exact dif_pos ⟨date.yearRange, date.monthRange, date.dayRange⟩

/-- The number of months before the month of the date. -/
def months (date : CalendarDate) : Nat := date.year * 12 + (date.month - 1)

/-- A day of the month with a given number of months before it. -/
def ofMonths? (months day : Nat) : Option CalendarDate := of? (months / 12) (months % 12 + 1) day

theorem ofMonths?_eq_some {months day : Nat} {date : CalendarDate} :
    ofMonths? months day = some date ↔ date.months = months ∧ date.day = day := by
  have range := date.monthRange
  unfold ofMonths? CalendarDate.months
  rw [of?_eq_some]
  constructor
  · rintro ⟨year, month, day⟩
    exact ⟨by omega, day⟩
  · rintro ⟨number, day⟩
    exact ⟨by omega, by omega, day⟩

/-- A date is known from its month and its day. -/
theorem ext_months {one other : CalendarDate} (sameMonth : one.months = other.months) (sameDay : one.day = other.day) :
    one = other := by
  have found := ofMonths?_eq_some.mpr ⟨sameMonth, sameDay⟩
  exact Option.some.inj (found.symm.trans (ofMonths?_eq_some.mpr ⟨rfl, rfl⟩))

/-- Dates compare as their years, months and days do. -/
def key (date : CalendarDate) : ℕ ×ₗ ℕ ×ₗ ℕ := toLex (date.year, toLex (date.month, date.day))

theorem key_injective : Function.Injective key := by
  intro one other same
  cases one
  cases other
  simp only [key, EmbeddingLike.apply_eq_iff_eq, Prod.mk.injEq] at same
  simpa only [mk.injEq] using same

instance : LinearOrder CalendarDate := LinearOrder.lift' key key_injective

theorem lt_iff {one other : CalendarDate} :
    one < other ↔ one.months < other.months ∨ one.months = other.months ∧ one.day < other.day := by
  have lex : one < other ↔ one.year < other.year ∨
      one.year = other.year ∧ (one.month < other.month ∨ one.month = other.month ∧ one.day < other.day) := by
    show one.key < other.key ↔ _
    simp only [key, Prod.Lex.toLex_lt_toLex]
  have range := one.monthRange
  have range' := other.monthRange
  rw [lex, months, months]
  omega

theorem le_iff {one other : CalendarDate} :
    one ≤ other ↔ one.months < other.months ∨ one.months = other.months ∧ one.day ≤ other.day := by
  rw [← not_lt, lt_iff]
  omega

end CalendarDate

end Payables.Lib
