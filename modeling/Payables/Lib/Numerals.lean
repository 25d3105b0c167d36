import Mathlib.Algebra.Order.Field.Rat
import Mathlib.Data.List.TakeWhile
import Payables.Lib.Calendar

namespace Payables.Lib

/-- A character of a decimal numeral. -/
def isNumeralChar (c : Char) : Bool := c.isDigit || c == '-' || c == '.'

/-- The last `width` decimal digits of a number. -/
def padded : Nat → Nat → List Char
  | 0, _ => []
  | width + 1, n => padded width (n / 10) ++ [Nat.digitChar (n % 10)]

/-- A number of units of `1 / 10 ^ places`, written with that many places. -/
def fixedPoint (places : Nat) (negative : Bool) (units : Nat) : List Char :=
  (if negative then ['-'] else []) ++ Nat.toDigits 10 (units / 10 ^ places) ++ '.' :: padded places (units % 10 ^ places)

/-- The value of a non-empty run of digits. -/
def digitRun? (text : List Char) : Option Nat :=
  if text ≠ [] ∧ text.all Char.isDigit then some (Nat.ofDigitChars 10 text 0) else none

/-- An optional sign in front of a numeral. -/
def splitSign : List Char → Bool × List Char
  | [] => (false, [])
  | c :: rest => if c = '-' then (true, rest) else if c = '+' then (false, rest) else (false, c :: rest)

/-- The digits before and after the point, as one run, and the number of those after it. -/
def mantissa? (text : List Char) : Option (Nat × Nat) :=
  let whole := text.takeWhile (· != '.')
  let fraction := (text.dropWhile (· != '.')).drop 1
  (digitRun? (whole ++ fraction)).map (·, fraction.length)

/-- The power of ten a numeral ends with. -/
def exponent? : List Char → Option ℤ
  | [] => some 0
  | _ :: text => (digitRun? (splitSign text).2).map fun power => if (splitSign text).1 then -power else power

/-- The finite numerals: a sign, digits around an optional point, and an exponent. -/
def decimal? (text : List Char) : Option ℚ := do
  let (negative, body) := splitSign text
  let isMantissa := fun c => c != 'e' && c != 'E'
  let (digits, places) ← mantissa? (body.takeWhile isMantissa)
  let power ← exponent? (body.dropWhile isMantissa)
  return (if negative then -(digits : ℚ) else digits) * 10 ^ (power - places)

/-- `YYYY-MM-DD`. -/
def isoDate (date : CalendarDate) : List Char := padded 4 date.year ++ '-' :: padded 2 date.month ++ '-' :: padded 2 date.day

/-- `YYYYMMDD`. -/
def basicDate (date : CalendarDate) : List Char := padded 4 date.year ++ (padded 2 date.month ++ padded 2 date.day)

/-- The date that `YYYY-MM-DD` stands for. -/
def isoDate? (text : List Char) : Option CalendarDate :=
  if text.length = 10 ∧ text[4]? = some '-' ∧ text[7]? = some '-' then do
    let year ← digitRun? (text.take 4)
    let month ← digitRun? ((text.drop 5).take 2)
    let day ← digitRun? (text.drop 8)
    CalendarDate.of? year month day
  else none

/-- The date that `YYYYMMDD` stands for. -/
def basicDate? (text : List Char) : Option CalendarDate :=
  if text.length = 8 then do
    let year ← digitRun? (text.take 4)
    let month ← digitRun? ((text.drop 4).take 2)
    let day ← digitRun? (text.drop 6)
    CalendarDate.of? year month day
  else none

section Digits

theorem padded_length (width n : Nat) : (padded width n).length = width := by
  induction width generalizing n with
  | zero => rfl
  | succ width ih => rw [padded, List.length_append, ih, List.length_singleton]

theorem isDigit_of_mem_padded {width n : Nat} {c : Char} (member : c ∈ padded width n) : c.isDigit = true := by
  induction width generalizing n with
  | zero => cases member
  | succ width ih =>
    rw [padded, List.mem_append, List.mem_singleton] at member
    rcases member with earlier | rfl
    · exact ih earlier
    · rw [Nat.isDigit_digitChar]
      exact decide_eq_true (by omega)

/-- The padded digits of a number that fits the width read back. -/
theorem ofDigitChars_padded {width n : Nat} (fits : n < 10 ^ width) : Nat.ofDigitChars 10 (padded width n) 0 = n := by
  induction width generalizing n with
  | zero =>
    rw [pow_zero] at fits
    rw [padded, Nat.ofDigitChars_nil]
    omega
  | succ width ih =>
    have leading : n / 10 < 10 ^ width := by
      rw [pow_succ] at fits
      omega
    have last : n % 10 < 10 := by omega
    rw [padded, Nat.ofDigitChars_append, ih leading, Nat.ofDigitChars_cons_digitChar_of_lt_ten last, Nat.ofDigitChars_nil]
    omega

theorem digitRun?_padded {width n : Nat} (wide : 0 < width) (fits : n < 10 ^ width) :
    digitRun? (padded width n) = some n := by
  have nonempty : padded width n ≠ [] := by
    intro empty
    have length := padded_length width n
    rw [empty, List.length_nil] at length
    omega
  have digits : (padded width n).all Char.isDigit = true := List.all_eq_true.mpr fun _ member => isDigit_of_mem_padded member
  rw [digitRun?, if_pos ⟨nonempty, digits⟩, ofDigitChars_padded fits]

theorem isDigit_of_mem_toDigits {n : Nat} {c : Char} (member : c ∈ Nat.toDigits 10 n) : c.isDigit = true :=
  Nat.isDigit_of_mem_toDigits (by omega) (by omega) member

end Digits

section Numerals

variable {places units : Nat} {negative : Bool}

theorem isNumeralChar_of_mem_fixedPoint {c : Char} (member : c ∈ fixedPoint places negative units) :
    isNumeralChar c = true := by
  have digit : c.isDigit = true → isNumeralChar c = true := by
    intro isDigit
    simp only [isNumeralChar, isDigit, Bool.true_or]
  simp only [fixedPoint, List.mem_append, List.mem_cons] at member
  rcases member with (sign | whole) | rfl | fraction
  · cases negative
    · cases sign
    · rw [if_pos rfl, List.mem_singleton] at sign
      subst sign
      decide
  · exact digit (isDigit_of_mem_toDigits whole)
  · decide
  · exact digit (isDigit_of_mem_padded fraction)

theorem fixedPoint_ne_nil : fixedPoint places negative units ≠ [] := by
  intro empty
  have length := congrArg List.length empty
  simp only [fixedPoint, List.length_append, List.length_cons, List.length_nil] at length
  omega

theorem ne_of_isDigit {c d : Char} (digit : c.isDigit = true) (other : d.isDigit = false) : c ≠ d := by
  rintro rfl
  rw [digit] at other
  cases other

/-- The sign of a numeral is read off in front of a digit. -/
theorem splitSign_signed {digits : List Char} (digit : ∀ c ∈ digits, c.isDigit = true) (rest : List Char)
    (nonempty : digits ≠ []) :
    splitSign ((if negative then ['-'] else []) ++ (digits ++ rest)) = (negative, digits ++ rest) := by
  cases negative
  · cases digits with
    | nil => exact absurd rfl nonempty
    | cons c digits =>
      have head := digit c List.mem_cons_self
      have notMinus : c ≠ '-' := ne_of_isDigit head (by decide)
      have notPlus : c ≠ '+' := ne_of_isDigit head (by decide)
      simp only [Bool.false_eq_true, if_false, List.nil_append, List.cons_append, splitSign, if_neg notMinus, if_neg notPlus]
  · rfl

/-- The digits of both sides of the point are one run. -/
theorem mantissa?_fixed :
    mantissa? (Nat.toDigits 10 (units / 10 ^ places) ++ '.' :: padded places (units % 10 ^ places)) =
      some (units, places) := by
  have fits : units % 10 ^ places < 10 ^ places := Nat.mod_lt _ (Nat.pow_pos (by omega))
  have noPoint : ∀ c ∈ Nat.toDigits 10 (units / 10 ^ places), (c != '.') = true := by
    intro c member
    exact bne_iff_ne.mpr (ne_of_isDigit (isDigit_of_mem_toDigits member) (by decide))
  have whole : (Nat.toDigits 10 (units / 10 ^ places) ++ '.' :: padded places (units % 10 ^ places)).takeWhile (· != '.') =
      Nat.toDigits 10 (units / 10 ^ places) := by
    rw [List.takeWhile_append_of_pos noPoint]
    simp
  have fraction : (Nat.toDigits 10 (units / 10 ^ places) ++ '.' :: padded places (units % 10 ^ places)).dropWhile (· != '.') =
      '.' :: padded places (units % 10 ^ places) := by
    rw [List.dropWhile_append_of_pos noPoint]
    simp
  have digits : (Nat.toDigits 10 (units / 10 ^ places) ++ padded places (units % 10 ^ places)).all Char.isDigit = true := by
    rw [List.all_eq_true]
    intro c member
    rcases List.mem_append.mp member with whole | fraction
    · exact isDigit_of_mem_toDigits whole
    · exact isDigit_of_mem_padded fraction
  have nonempty : Nat.toDigits 10 (units / 10 ^ places) ++ padded places (units % 10 ^ places) ≠ [] := by
    simp [Nat.toDigits_ne_nil]
  have value : Nat.ofDigitChars 10 (Nat.toDigits 10 (units / 10 ^ places) ++ padded places (units % 10 ^ places)) 0 = units := by
    rw [Nat.ofDigitChars_append, Nat.ofDigitChars_ten_toDigits, Nat.ofDigitChars_eq_ofDigitChars_zero, padded_length,
      ofDigitChars_padded fits, Nat.div_add_mod]
  simp only [mantissa?, whole, fraction, List.drop_one, List.tail_cons]
  rw [digitRun?, if_pos ⟨nonempty, digits⟩, value, padded_length, Option.map_some]

/-- A number written with a fixed number of places reads back. -/
theorem decimal?_fixedPoint :
    decimal? (fixedPoint places negative units) = some ((if negative then -(units : ℚ) else units) / 10 ^ places) := by
  have noExponent : ∀ c ∈ Nat.toDigits 10 (units / 10 ^ places) ++ '.' :: padded places (units % 10 ^ places),
      (c != 'e' && c != 'E') = true := by
    intro c member
    have digit : c.isDigit = true → (c != 'e' && c != 'E') = true := by
      intro isDigit
      have lower : c ≠ 'e' := ne_of_isDigit isDigit (by decide)
      have upper : c ≠ 'E' := ne_of_isDigit isDigit (by decide)
      simp [lower, upper]
    rcases List.mem_append.mp member with whole | rest
    · exact digit (isDigit_of_mem_toDigits whole)
    · rcases List.mem_cons.mp rest with rfl | fraction
      · decide
      · exact digit (isDigit_of_mem_padded fraction)
  have taken := List.takeWhile_eq_self_iff.mpr noExponent
  have dropped := List.dropWhile_eq_nil_iff.mpr noExponent
  have sign : splitSign (fixedPoint places negative units) =
      (negative, Nat.toDigits 10 (units / 10 ^ places) ++ '.' :: padded places (units % 10 ^ places)) := by
    rw [fixedPoint, List.append_assoc]
    exact splitSign_signed (fun _ member => isDigit_of_mem_toDigits member) _ Nat.toDigits_ne_nil
  simp only [decimal?, sign, taken, dropped, mantissa?_fixed, exponent?, Option.bind_eq_bind, Option.bind_some,
    zero_sub, zpow_neg, zpow_natCast, Option.pure_def]
  rw [div_eq_mul_inv]

end Numerals

section Dates

theorem isNumeralChar_of_mem_isoDate {date : CalendarDate} {c : Char} (member : c ∈ isoDate date) :
    isNumeralChar c = true := by
  have digit : c.isDigit = true → isNumeralChar c = true := by
    intro isDigit
    simp only [isNumeralChar, isDigit, Bool.true_or]
  simp only [isoDate, List.append_assoc, List.cons_append, List.mem_append, List.mem_cons] at member
  rcases member with year | rfl | month | rfl | day
  · exact digit (isDigit_of_mem_padded year)
  · decide
  · exact digit (isDigit_of_mem_padded month)
  · decide
  · exact digit (isDigit_of_mem_padded day)

theorem isNumeralChar_of_mem_basicDate {date : CalendarDate} {c : Char} (member : c ∈ basicDate date) :
    isNumeralChar c = true := by
  have digit : c.isDigit = true := by
    simp only [basicDate, List.mem_append] at member
    rcases member with year | month | day
    · exact isDigit_of_mem_padded year
    · exact isDigit_of_mem_padded month
    · exact isDigit_of_mem_padded day
  simp only [isNumeralChar, digit, Bool.true_or]

/-- The year, the month and the day of a date each fit their digits. -/
theorem digitRun?_date (date : CalendarDate) :
    digitRun? (padded 4 date.year) = some date.year ∧ digitRun? (padded 2 date.month) = some date.month ∧
      digitRun? (padded 2 date.day) = some date.day := by
  have yearRange := date.yearRange
  have monthRange := date.monthRange
  have dayRange := date.dayRange
  have short := daysInMonth_le date.year date.month
  exact ⟨digitRun?_padded (by omega) (by omega), digitRun?_padded (by omega) (by omega),
    digitRun?_padded (by omega) (by omega)⟩

/-- Every date reads back from its text. -/
theorem isoDate?_isoDate (date : CalendarDate) : isoDate? (isoDate date) = some date := by
  obtain ⟨year, month, day⟩ := digitRun?_date date
  have yearLength := padded_length 4 date.year
  have monthLength := padded_length 2 date.month
  have dayLength := padded_length 2 date.day
  have length : (isoDate date).length = 10 := by
    simp only [isoDate, List.append_assoc, List.cons_append, List.length_append, List.length_cons]
    omega
  have first : (isoDate date)[4]? = some '-' := by
    rw [isoDate, List.append_assoc, List.getElem?_append_right (by omega), yearLength]
    rfl
  have second : (isoDate date)[7]? = some '-' := by
    rw [isoDate, List.getElem?_append_right (by simp only [List.length_append, List.length_cons]; omega)]
    simp only [List.length_append, List.length_cons, yearLength, monthLength]
    rfl
  have years : (isoDate date).take 4 = padded 4 date.year := by
    rw [isoDate, List.append_assoc, List.take_left' yearLength]
  have months : ((isoDate date).drop 5).take 2 = padded 2 date.month := by
    rw [isoDate, List.append_assoc, List.drop_append, yearLength, List.drop_eq_nil_of_le (by omega)]
    simp only [List.nil_append, List.cons_append, List.drop_succ_cons, List.drop_zero, Nat.reduceSub]
    exact List.take_left' monthLength
  have days : (isoDate date).drop 8 = padded 2 date.day := by
    have before : (padded 4 date.year ++ '-' :: padded 2 date.month).length = 7 := by
      simp only [List.length_append, List.length_cons]
      omega
    rw [isoDate, List.drop_append, before, List.drop_eq_nil_of_le (by omega)]
    rfl
  rw [isoDate?, if_pos ⟨length, first, second⟩, years, months, days, year, month, day]
  exact CalendarDate.of?_eq_some.mpr ⟨rfl, rfl, rfl⟩

/-- Every date reads back from its basic text, which is no text of the other form. -/
theorem basicDate?_basicDate (date : CalendarDate) :
    isoDate? (basicDate date) = none ∧ basicDate? (basicDate date) = some date := by
  obtain ⟨year, month, day⟩ := digitRun?_date date
  have yearLength := padded_length 4 date.year
  have monthLength := padded_length 2 date.month
  have dayLength := padded_length 2 date.day
  have length : (basicDate date).length = 8 := by
    simp only [basicDate, List.length_append]
    omega
  have years : (basicDate date).take 4 = padded 4 date.year := List.take_left' yearLength
  have months : ((basicDate date).drop 4).take 2 = padded 2 date.month := by
    rw [basicDate, List.drop_left' yearLength, List.take_left' monthLength]
  have days : (basicDate date).drop 6 = padded 2 date.day := by
    have before : (padded 4 date.year ++ padded 2 date.month).length = 6 := by
      simp only [List.length_append]
      omega
    rw [basicDate, ← List.append_assoc, List.drop_left' before]
  constructor
  · rw [isoDate?, if_neg (by omega)]
  · rw [basicDate?, if_pos length, years, months, days, year, month, day]
    exact CalendarDate.of?_eq_some.mpr ⟨rfl, rfl, rfl⟩

end Dates

end Payables.Lib
