import Mathlib.Data.Int.Log
import Payables.Approval.MoneyGates
import Payables.Lib.Rounding
import Payables.Lib.Spelling
import Payables.Lib.Stripping
import Payables.Workflow.Reporting

namespace Payables
open Lib

/-- The exponents that `Decimal` can hold. Without an exponent no text is long enough to pass them. -/
def holdable (numeral : Numeral) : Bool :=
  numeral.power == 0 || (-1999999999999999997 ≤ numeral.power - numeral.places &&
    numeral.power - numeral.places + (Nat.toDigits 10 numeral.digits).length ≤ 10 ^ 18)

/-- The characters of a text that `Decimal` reads: without the spaces around it and the underscores, and with the digits
of ASCII. -/
def decimalBody (text : List Char) : List Char := ((pyStrip text).filter (· != '_')).map foldDigit

/-- `Decimal(text)`, of a text in any script. -/
def pyDecimal (text : List Char) : Option Decimal :=
  let body := decimalBody text
  match specialDecimal? (splitSign body).1 (splitSign body).2 with
  | some special => some special
  | none =>
    match numeral? body with
    | some numeral => if holdable numeral then some (.finite numeral.value) else none
    | none => none

/-- `fits_numeric`. -/
def fitsNumeric (precision scale : Nat) : Decimal → Bool
  | .finite value => |(roundHalfAway (value * 10 ^ scale) : ℚ) / 10 ^ scale| < 10 ^ (precision - scale)
  | .infinite _ => false
  | .nan => false

/-- What an operation of the default context keeps of a result: 28 digits. -/
def contextRound (value : ℚ) : ℚ :=
  let unit := (10 : ℚ) ^ (Int.log 10 |value| - 27)
  roundHalfEven (value / unit) * unit

/-- `Decimal(text)`, where it is a number that `NUMERIC(precision, 2)` holds. -/
def columnAmount (precision : Nat) (text : List Char) : Option ℚ :=
  match pyDecimal text with
  | some (.finite value) => if fitsNumeric precision 2 (.finite value) then some value else none
  | _ => none

section Reading

theorem toLower_of_isDigit {c : Char} (digit : c.isDigit = true) : c.toLower = c := by
  rw [Char.isDigit] at digit
  rw [Char.toLower, dif_neg]
  simp only [Bool.and_eq_true, decide_eq_true_eq, UInt32.le_iff_toNat_le] at digit
  simp only [not_and, UInt32.le_iff_toNat_le]
  have low : '0'.val.toNat = 48 ∧ '9'.val.toNat = 57 ∧ 'A'.val.toNat = 65 := by decide
  omega

/-- What begins with a digit or a point is no infinity and no `NaN`. -/
theorem specialDecimal?_of_head {negative : Bool} {c : Char} {rest : List Char} (numeric : c.isDigit = true ∨ c = '.') :
    specialDecimal? negative (c :: rest) = none := by
  have lower : c.toLower = c ∧ c ≠ 'i' ∧ c ≠ 'n' ∧ c ≠ 's' := by
    rcases numeric with digit | rfl
    · exact ⟨toLower_of_isDigit digit, ne_of_isDigit digit (by decide), ne_of_isDigit digit (by decide),
        ne_of_isDigit digit (by decide)⟩
    · decide
  obtain ⟨same, notI, notN, notS⟩ := lower
  have inf : ¬(c :: rest.map Char.toLower = "inf".toList ∨ c :: rest.map Char.toLower = "infinity".toList) := by
    rintro (word | word)
    · exact notI (List.cons.inj word).1
    · exact notI (List.cons.inj word).1
  have quiet : "nan".toList.isPrefixOf (c :: rest.map Char.toLower) = false := by
    simp [List.isPrefixOf, notN.symm]
  have loud : (c :: rest.map Char.toLower).head? ≠ some 's' := by
    simpa using notS
  simp only [specialDecimal?, List.map_cons, same, if_neg inf, if_neg loud, quiet, Bool.false_eq_true, false_and, if_false]

theorem eq_n_of_toLower {c : Char} (lower : c.toLower = 'n') : c = 'n' ∨ c = 'N' := by
  rw [Char.toLower] at lower
  by_cases upper : c.val ≥ 'A'.val ∧ c.val ≤ 'Z'.val
  · rw [dif_pos upper] at lower
    have code := congrArg UInt32.toNat (congrArg Char.val lower)
    have apart : ('a'.val - 'A'.val).toNat = 32 ∧ 'n'.val.toNat = 110 ∧ 'N'.val.toNat = 78 := by decide
    have bound := c.val.toNat_lt
    rw [UInt32.toNat_add, apart.1, apart.2.1] at code
    refine .inr (Char.ext (UInt32.toNat_inj.mp ?_))
    omega
  · rw [dif_neg upper] at lower
    exact .inl lower

/-- An infinity and `NaN` are written with an `n`. -/
theorem n_mem_of_special {negative : Bool} {body : List Char} {special : Decimal}
    (read : specialDecimal? negative body = some special) : 'n' ∈ body ∨ 'N' ∈ body := by
  have folded : 'n' ∈ body.map Char.toLower := by
    simp only [specialDecimal?] at read
    have inside {quiet : List Char} (start : "nan".toList.isPrefixOf quiet = true) : 'n' ∈ quiet :=
      (List.isPrefixOf_iff_prefix.mp start).subset List.mem_cons_self
    split_ifs at read with inf signal nan nan
    · rcases inf with word | word <;> rw [word] <;> decide
    · exact List.mem_of_mem_drop (inside nan.1)
    · exact inside nan.1
  obtain ⟨c, member, lower⟩ := List.mem_map.mp folded
  rcases eq_n_of_toLower lower with rfl | rfl
  · exact .inl member
  · exact .inr member

theorem specialDecimal?_spelled (negative : Bool) (spelling : Spelling) :
    specialDecimal? negative (spelling.mantissa ++ spelling.exponentText) = none := by
  cases parts : spelling.mantissa with
  | nil => exact absurd parts spelling.mantissa_ne_nil
  | cons c rest =>
    have head : c ∈ spelling.mantissa := by
      rw [parts]
      exact List.mem_cons_self
    exact specialDecimal?_of_head (spelling.mem_mantissa head)

theorem specialDecimal?_ne_finite {negative : Bool} {body : List Char} {value : ℚ} :
    specialDecimal? negative body ≠ some (.finite value) := by
  simp only [specialDecimal?]
  split_ifs <;> simp

/-- `Decimal` reads a finite number exactly off the texts that spell one. -/
theorem pyDecimal_eq_finite {text : List Char} {value : ℚ} : pyDecimal text = some (.finite value) ↔
    ∃ spelling : Spelling, spelling.text = decimalBody text ∧ holdable spelling.numeral = true ∧
      spelling.numeral.value = value := by
  constructor
  · intro read
    simp only [pyDecimal] at read
    cases special : specialDecimal? (splitSign (decimalBody text)).1 (splitSign (decimalBody text)).2 with
    | some other =>
      simp only [special, Option.some.injEq] at read
      exact absurd (read ▸ special) specialDecimal?_ne_finite
    | none =>
      cases parsed : numeral? (decimalBody text) with
      | none => simp [special, parsed] at read
      | some numeral =>
        obtain ⟨spelling, written, rfl⟩ := exists_spelling parsed
        by_cases held : holdable spelling.numeral = true
        · simp only [special, parsed, held, if_true, Option.some.injEq, Decimal.finite.injEq] at read
          exact ⟨spelling, written, held, read⟩
        · simp [special, parsed, held] at read
  · rintro ⟨spelling, written, held, rfl⟩
    have sign := @splitSign_signText spelling.sign _ spelling.unsigned
    rw [← Spelling.text, written] at sign
    have parsed := spelling.numeral?_text
    rw [written] at parsed
    simp only [pyDecimal, sign, specialDecimal?_spelled, parsed, held, if_true]

/-- Stripping, dropping underscores and folding digits leave the other characters of ASCII. -/
theorem mem_decimalBody {text : List Char} {c : Char} (ascii : c.toNat < 128) (solid : c.isDigit = false)
    (visible : isPySpace c = false) (joined : c ≠ '_') : c ∈ decimalBody text ↔ c ∈ text := by
  have stripped : (pyStrip text).filter (· == c) = text.filter (· == c) := by
    refine filter_strip ?_ text
    intro d blank
    rw [beq_eq_false_iff_ne]
    rintro rfl
    rw [visible] at blank
    cases blank
  rw [decimalBody, List.mem_map]
  constructor
  · rintro ⟨d, member, folded⟩
    rw [← (foldDigit_eq_iff ascii solid).mp folded]
    exact mem_of_mem_strip (List.mem_of_mem_filter member)
  · intro member
    have inside : c ∈ (pyStrip text).filter (· == c) := by
      rw [stripped]
      exact List.mem_filter.mpr ⟨member, beq_self_eq_true c⟩
    exact ⟨c, List.mem_filter.mpr ⟨List.mem_of_mem_filter inside, bne_iff_ne.mpr joined⟩, foldDigit_of_ascii ascii⟩

theorem pyStrip_eq_self {text : List Char} (visible : ∀ c ∈ text, isPySpace c = false) : pyStrip text = text := by
  have front : text.dropWhile isPySpace = text := by
    cases text with
    | nil => rfl
    | cons c rest => exact List.dropWhile_cons_of_neg (Bool.eq_false_iff.mp (visible c List.mem_cons_self))
  rw [pyStrip, front, List.rdropWhile_eq_self_iff]
  intro nonempty
  exact Bool.eq_false_iff.mp (visible _ (List.getLast_mem nonempty))

/-- A text of visible characters of ASCII is read as it stands. -/
theorem decimalBody_eq_self {text : List Char}
    (plain : ∀ c ∈ text, c.toNat < 128 ∧ isPySpace c = false ∧ c ≠ '_') : decimalBody text = text := by
  have stripped : pyStrip text = text := pyStrip_eq_self fun c member => (plain c member).2.1
  have joined : text.filter (· != '_') = text := by
    rw [List.filter_eq_self]
    exact fun c member => bne_iff_ne.mpr (plain c member).2.2
  rw [decimalBody, stripped, joined]
  refine (List.map_congr_left ?_).trans (List.map_id' text)
  exact fun c member => foldDigit_of_ascii (plain c member).1

theorem plain_of_isDigit {c : Char} (digit : c.isDigit = true) : c.toNat < 128 ∧ isPySpace c = false ∧ c ≠ '_' := by
  have range : 48 ≤ c.toNat ∧ c.toNat ≤ 57 := by
    rw [Char.isDigit, Bool.and_eq_true, decide_eq_true_eq, decide_eq_true_eq] at digit
    exact ⟨digit.1, digit.2⟩
  refine ⟨by omega, ?_, ne_of_isDigit digit (by decide)⟩
  simp only [isPySpace, Bool.or_eq_false_iff, Bool.and_eq_false_iff, decide_eq_false_iff_not, beq_eq_false_iff_ne]
  omega

/-- The text of a numeral is read as its value. -/
theorem pyDecimal_text {spelling : Spelling} (held : holdable spelling.numeral = true) :
    pyDecimal spelling.text = some (.finite spelling.numeral.value) := by
  have body : decimalBody spelling.text = spelling.text := by
    refine decimalBody_eq_self ?_
    intro c member
    rcases spelling.mem_text member with digit | other
    · exact plain_of_isDigit digit
    · simp only [List.mem_cons, List.not_mem_nil, or_false] at other
      rcases other with rfl | rfl | rfl | rfl | rfl <;> exact ⟨by decide, by decide, by decide⟩
  exact pyDecimal_eq_finite.mpr ⟨spelling, body.symm, held, rfl⟩

/-- An amount for a column is the value of a numeral. -/
theorem columnAmount_eq_some {precision : Nat} {text : List Char} {amount : ℚ} :
    columnAmount precision text = some amount ↔ ∃ spelling : Spelling, spelling.text = decimalBody text ∧
      holdable spelling.numeral = true ∧ spelling.numeral.value = amount ∧
      fitsNumeric precision 2 (.finite amount) = true := by
  have read : columnAmount precision text = some amount ↔
      pyDecimal text = some (.finite amount) ∧ fitsNumeric precision 2 (.finite amount) = true := by
    rw [columnAmount]
    cases parsed : pyDecimal text with
    | none => simp
    | some decimal =>
      cases decimal with
      | finite value =>
        by_cases fits : fitsNumeric precision 2 (.finite value) = true
        · simp only [fits, if_true, Option.some.injEq, Decimal.finite.injEq]
          constructor
          · rintro rfl
            exact ⟨rfl, fits⟩
          · exact fun same => same.1
        · simp only [fits, Bool.false_eq_true, if_false, reduceCtorEq, Option.some.injEq, Decimal.finite.injEq, false_iff]
          rintro ⟨rfl, within⟩
          exact fits within
      | infinite negative => simp
      | nan => simp
  rw [read, pyDecimal_eq_finite]
  constructor
  · rintro ⟨⟨spelling, written, held, same⟩, fits⟩
    exact ⟨spelling, written, held, same, fits⟩
  · rintro ⟨spelling, written, held, same, fits⟩
    exact ⟨⟨spelling, written, held, same⟩, fits⟩

end Reading

section Context

/-- Rounding to even does not care for the sign. -/
theorem roundHalfEven_neg (value : ℚ) : roundHalfEven (-value) = -roundHalfEven value := by
  have least := Int.floor_le value
  have above := Int.lt_floor_add_one value
  rcases least.eq_or_lt with whole | inside
  · have turned := roundHalfEven_intCast (-⌊value⌋)
    rw [Int.cast_neg, whole] at turned
    have same := roundHalfEven_intCast ⌊value⌋
    rw [whole] at same
    rw [turned, same]
  · have floor : ⌊-value⌋ = -⌊value⌋ - 1 := by
      rw [Int.floor_eq_iff]
      push_cast
      exact ⟨by linarith, by linarith⟩
    simp only [roundHalfEven, floor]
    push_cast
    rcases lt_trichotomy (value - ⌊value⌋) (1 / 2) with low | half | high
    · rw [if_neg (by linarith), if_pos (by linarith), if_pos low]
      omega
    · have turned : -value - (-(⌊value⌋ : ℚ) - 1) = 1 / 2 := by linarith
      simp only [turned, half, lt_irrefl, if_false]
      split_ifs <;> omega
    · rw [if_pos (by linarith), if_neg (by linarith), if_pos high]
      omega

/-- The unit of the last digit that is kept. -/
theorem contextUnit_pos (value : ℚ) : 0 < (10 : ℚ) ^ (Int.log 10 |value| - 27) := zpow_pos (by norm_num) _

@[simp]
theorem contextRound_zero : contextRound 0 = 0 := by
  have rounded := roundHalfEven_intCast 0
  rw [Int.cast_zero] at rounded
  simp only [contextRound, zero_div, rounded, Int.cast_zero, zero_mul]

theorem contextRound_neg (value : ℚ) : contextRound (-value) = -contextRound value := by
  simp only [contextRound, abs_neg, neg_div, roundHalfEven_neg, Int.cast_neg, neg_mul]

/-- A number keeps its leading digit, so that it stays near. -/
theorem contextRound_near {value : ℚ} (positive : 0 < value) :
    value / 2 ≤ contextRound value ∧ contextRound value ≤ 2 * value := by
  have unit := contextUnit_pos value
  have log : (10 : ℚ) ^ Int.log 10 |value| ≤ |value| := by
    exact_mod_cast Int.zpow_log_le_self (b := 10) (by norm_num) (abs_pos.mpr positive.ne')
  have wide : 1 ≤ value / (10 : ℚ) ^ (Int.log 10 |value| - 27) := by
    have finer : (10 : ℚ) ^ (Int.log 10 |value| - 27) ≤ 10 ^ Int.log 10 |value| :=
      zpow_le_zpow_right₀ (by norm_num) (by omega)
    rw [abs_of_pos positive] at log
    rw [one_le_div unit]
    exact finer.trans (by rwa [abs_of_pos positive])
  have floor : 1 ≤ ⌊value / (10 : ℚ) ^ (Int.log 10 |value| - 27)⌋ := Int.le_floor.mpr (by exact_mod_cast wide)
  have low := le_roundHalfEven (Int.floor_le (value / (10 : ℚ) ^ (Int.log 10 |value| - 27)))
  have high := roundHalfEven_le (Int.le_ceil (value / (10 : ℚ) ^ (Int.log 10 |value| - 27)))
  have below := Int.lt_floor_add_one (value / (10 : ℚ) ^ (Int.log 10 |value| - 27))
  have above := Int.ceil_lt_add_one (value / (10 : ℚ) ^ (Int.log 10 |value| - 27))
  have floorCast : (1 : ℚ) ≤ (⌊value / (10 : ℚ) ^ (Int.log 10 |value| - 27)⌋ : ℚ) := by exact_mod_cast floor
  have lowCast : (⌊value / (10 : ℚ) ^ (Int.log 10 |value| - 27)⌋ : ℚ) ≤
      roundHalfEven (value / (10 : ℚ) ^ (Int.log 10 |value| - 27)) := by exact_mod_cast low
  have highCast : (roundHalfEven (value / (10 : ℚ) ^ (Int.log 10 |value| - 27)) : ℚ) ≤
      (⌈value / (10 : ℚ) ^ (Int.log 10 |value| - 27)⌉ : ℚ) := by exact_mod_cast high
  have scaled : value / (10 : ℚ) ^ (Int.log 10 |value| - 27) * (10 : ℚ) ^ (Int.log 10 |value| - 27) = value :=
    div_mul_cancel₀ _ unit.ne'
  constructor
  · calc value / 2 = value / (10 : ℚ) ^ (Int.log 10 |value| - 27) / 2 * (10 : ℚ) ^ (Int.log 10 |value| - 27) := by
          rw [div_mul_eq_mul_div, scaled]
      _ ≤ contextRound value := mul_le_mul_of_nonneg_right (by linarith) unit.le
  · calc contextRound value ≤ 2 * (value / (10 : ℚ) ^ (Int.log 10 |value| - 27)) * (10 : ℚ) ^ (Int.log 10 |value| - 27) :=
          mul_le_mul_of_nonneg_right (by linarith) unit.le
      _ = 2 * value := by rw [mul_assoc, scaled]

theorem contextRound_nonneg {value : ℚ} (nonneg : 0 ≤ value) : 0 ≤ contextRound value := by
  rcases nonneg.eq_or_lt with rfl | positive
  · exact contextRound_zero.ge
  · have near := (contextRound_near positive).1
    linarith

theorem contextRound_neg_of_neg {value : ℚ} (negative : value < 0) : contextRound value < 0 := by
  have near := (contextRound_near (neg_pos.mpr negative)).1
  rw [contextRound_neg] at near
  linarith

/-- Powers of ten pass through. -/
theorem contextRound_scale (value : ℚ) (power : ℤ) : contextRound (value * 10 ^ power) = contextRound value * 10 ^ power := by
  rcases eq_or_ne value 0 with rfl | nonzero
  · rw [zero_mul, contextRound_zero, zero_mul]
  have base : (0 : ℚ) < 10 := by norm_num
  have scale := zpow_pos base power
  have size : |value * 10 ^ power| = |value| * 10 ^ power := by
    rw [abs_mul, abs_of_pos scale]
  have positive := abs_pos.mpr nonzero
  have log : Int.log 10 |value * 10 ^ power| = Int.log 10 |value| + power := by
    have low : (10 : ℚ) ^ Int.log 10 |value| ≤ |value| := by
      exact_mod_cast Int.zpow_log_le_self (b := 10) (by norm_num) positive
    have high : |value| < (10 : ℚ) ^ (Int.log 10 |value| + 1) := by
      exact_mod_cast Int.lt_zpow_succ_log_self (b := 10) (by norm_num) |value|
    have least : Int.log 10 |value| + power ≤ Int.log 10 (|value| * 10 ^ power) := by
      refine (Int.zpow_le_iff_le_log (by norm_num) (mul_pos positive scale)).mp ?_
      push_cast
      rw [zpow_add₀ base.ne']
      exact mul_le_mul_of_nonneg_right low scale.le
    have most : Int.log 10 (|value| * 10 ^ power) < Int.log 10 |value| + 1 + power := by
      refine (Int.lt_zpow_iff_log_lt (by norm_num) (mul_pos positive scale)).mp ?_
      push_cast
      rw [zpow_add₀ base.ne' _ power]
      exact mul_lt_mul_of_pos_right high scale
    rw [size]
    omega
  have unit : (10 : ℚ) ^ (Int.log 10 |value * 10 ^ power| - 27) = 10 ^ (Int.log 10 |value| - 27) * 10 ^ power := by
    rw [log, ← zpow_add₀ base.ne']
    congr 1
    omega
  have quotient : value * 10 ^ power / (10 ^ (Int.log 10 |value| - 27) * 10 ^ power) =
      value / (10 : ℚ) ^ (Int.log 10 |value| - 27) := mul_div_mul_right _ _ scale.ne'
  simp only [contextRound, unit, quotient, mul_assoc]

end Context

end Payables
