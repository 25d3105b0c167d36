import Payables.Amounts.Readers

namespace Payables.Amounts
open Lib

/-- Digits, or up to three digits and groups of three digits behind separators. -/
def isGrouping (sep : Char) (whole : List Char) : Bool :=
  match whole.splitOn sep with
  | [] => false
  | [run] => run.all Char.isDigit
  | first :: groups =>
    first.all Char.isDigit && 1 ≤ first.length && first.length ≤ 3 &&
      groups.all fun group => group.all Char.isDigit && group.length == 3

/-- A token that is well formed in a convention: an optional sign, digits that may be grouped, and at most one decimal
separator with digits behind it. -/
structure WrittenIn (convention : AmountConvention) (core : List Char) where
  sign : Option Bool
  whole : List Char
  pointed : Bool
  fraction : List Char
  parts : core = signText sign ++ (whole ++ ((if pointed then [convention.point] else []) ++ fraction))
  grouping : isGrouping convention.group whole = true
  digits : ∀ c ∈ fraction, c.isDigit = true
  unpointed : pointed = false → fraction = []
  shown : ∃ c ∈ core, c.isDigit = true

/-- A token that is well formed in one of the conventions. -/
def WellFormed (core : List Char) : Prop := ∃ convention, Nonempty (WrittenIn convention core)

/-- A money field is read only off a well-formed token, as a finite number that its column holds. -/
def MoneyFromWellFormed (val : Option (List Char)) (convention : Option AmountConvention) : Prop :=
  ∀ amount ∈ cleanDecimal val convention,
    (∃ core ∈ amountCore val, WellFormed core) ∧ (∃ value, amount = .finite value) ∧ fitsNumeric 15 2 amount = true

def isSeparator (c : Char) : Bool := c == ',' || c == '.'

/-- Behind its sign a token has digits of ASCII and separators only. -/
def Plain (core : List Char) : Prop := ∀ c ∈ (splitSign core).2, c.isDigit = true ∨ isSeparator c = true

/-- A rewritten token is below `10 ^ 13`, from its digits and how many of them follow the period. -/
def BelowLimit (rewritten : List Char) : Prop :=
  200 * Nat.ofDigitChars 10 (rewritten.filter Char.isDigit) 0 <
    (2 * 10 ^ 15 - 1) * 10 ^ ((rewritten.dropWhile (· != '.')).drop 1).length

/-- A token without what `Decimal` would take beside digits, whose separators are one, or cut the part in front of the
decimal separator in threes, and whose digits are not too many. -/
structure SoundToken (reading : AmountConvention) (core : List Char) : Prop where
  plain : Plain core
  inPlace : core.countP isSeparator ≤ 1 ∨
    isGrouping reading.group ((splitSign core).2.takeWhile (· != reading.point)) = true
  bounded : BelowLimit (rewriteAs reading core)

section Grouping

variable {sep : Char} {whole : List Char}

/-- Every character is a separator or in a piece between two. -/
theorem mem_piece {c : Char} (member : c ∈ whole) : c = sep ∨ ∃ piece ∈ whole.splitOn sep, c ∈ piece := by
  have inside (pieces : List (List Char)) (joined : c ∈ [sep].intercalate pieces) :
      c = sep ∨ ∃ piece ∈ pieces, c ∈ piece := by
    induction pieces with
    | nil => simp [List.intercalate_nil] at joined
    | cons first rest ih =>
      cases rest with
      | nil =>
        rw [List.intercalate_singleton] at joined
        exact .inr ⟨first, List.mem_cons_self, joined⟩
      | cons second rest =>
        rw [List.intercalate_cons_cons, List.mem_append, List.mem_append] at joined
        rcases joined with (own | between) | later
        · exact .inr ⟨first, List.mem_cons_self, own⟩
        · exact .inl (List.mem_singleton.mp between)
        · rcases ih later with same | ⟨piece, listed, own⟩
          · exact .inl same
          · exact .inr ⟨piece, List.mem_cons_of_mem _ listed, own⟩
  refine inside _ ?_
  rwa [List.intercalate_splitOn]

/-- A grouped number has digits and separators. -/
theorem mem_of_isGrouping {c : Char} (grouped : isGrouping sep whole = true) (member : c ∈ whole) :
    c.isDigit = true ∨ c = sep := by
  rcases @mem_piece sep whole c member with same | ⟨piece, listed, own⟩
  · exact .inr same
  · left
    rw [isGrouping] at grouped
    cases pieces : whole.splitOn sep with
    | nil => simp [pieces] at grouped
    | cons first rest =>
      rw [pieces] at grouped listed
      cases rest with
      | nil =>
        rw [List.mem_singleton.mp listed] at own
        exact List.all_eq_true.mp grouped c own
      | cons second rest =>
        simp only [Bool.and_eq_true] at grouped
        rcases List.mem_cons.mp listed with rfl | later
        · exact List.all_eq_true.mp grouped.1.1.1 c own
        · have group := List.all_eq_true.mp grouped.2 piece later
          rw [Bool.and_eq_true] at group
          exact List.all_eq_true.mp group.1 c own

theorem isGrouping_of_digits (digits : ∀ c ∈ whole, c.isDigit = true) (solid : sep.isDigit = false) :
    isGrouping sep whole = true := by
  have clear : sep ∉ whole := by
    intro member
    rw [digits sep member] at solid
    cases solid
  rw [isGrouping, List.splitOn_eq_singleton clear]
  exact List.all_eq_true.mpr digits

end Grouping

section Separators

variable (convention : AmountConvention)

theorem isSeparator_group : isSeparator convention.group = true := by
  cases convention <;> decide

theorem isSeparator_point : isSeparator convention.point = true := by
  cases convention <;> decide

theorem isDigit_of_isSeparator {c : Char} (separator : isSeparator c = true) : c.isDigit = false := by
  rw [isSeparator, Bool.or_eq_true, beq_iff_eq, beq_iff_eq] at separator
  rcases separator with rfl | rfl <;> decide

theorem separator_cases {c : Char} (separator : isSeparator c = true) : c = convention.group ∨ c = convention.point := by
  rw [isSeparator, Bool.or_eq_true, beq_iff_eq, beq_iff_eq] at separator
  cases convention
  · exact separator
  · exact separator.symm

theorem countP_isSeparator (text : List Char) :
    text.countP isSeparator = text.count convention.group + text.count convention.point := by
  induction text with
  | nil => rfl
  | cons c rest ih =>
    rw [List.countP_cons, List.count_cons, List.count_cons, ih]
    by_cases separator : isSeparator c = true
    · rcases separator_cases convention separator with rfl | rfl
      · have apart : (convention.group == convention.point) = false := by cases convention <;> decide
        simp only [separator, beq_self_eq_true, if_true, apart, Bool.false_eq_true, if_false]
        omega
      · have apart : (convention.point == convention.group) = false := by cases convention <;> decide
        simp only [separator, beq_self_eq_true, if_true, apart, Bool.false_eq_true, if_false]
        omega
    · have notGroup : (c == convention.group) = false := by
        rw [beq_eq_false_iff_ne]
        rintro rfl
        exact separator (isSeparator_group convention)
      have notPoint : (c == convention.point) = false := by
        rw [beq_eq_false_iff_ne]
        rintro rfl
        exact separator (isSeparator_point convention)
      simp only [separator, notGroup, notPoint, Bool.false_eq_true, if_false, Nat.add_zero]

/-- Rewriting makes a period of each decimal separator. -/
theorem count_rewriteAs (core : List Char) : (rewriteAs convention core).count '.' = core.count convention.point := by
  rw [rewriteAs_eq, List.count, List.countP_map, List.countP_filter, List.count]
  refine List.countP_congr ?_
  intro c _
  cases convention <;> by_cases comma : c = ',' <;> by_cases period : c = '.' <;>
    simp [AmountConvention.group, AmountConvention.point, comma, period]

end Separators

section Rewriting

variable {core : List Char} {reading : AmountConvention}

/-- A plain token becomes a sign, digits and periods. -/
theorem mem_rewriteAs_of_plain (plain : Plain core) {c : Char} (member : c ∈ rewriteAs reading (splitSign core).2) :
    c.isDigit = true ∨ c = '.' := by
  rw [rewriteAs_eq, List.mem_map] at member
  obtain ⟨d, inside, rfl⟩ := member
  obtain ⟨source, other⟩ := List.mem_filter.mp inside
  by_cases point : d = reading.point
  · exact .inr (if_pos point)
  · rw [if_neg point]
    rcases plain d source with digit | separator
    · exact .inl digit
    · rcases separator_cases reading separator with same | same
      · exact absurd same (bne_iff_ne.mp other)
      · exact absurd same point

/-- `Decimal` reads a plain token as a finite number without an exponent. -/
theorem spelled_of_plain (plain : Plain core) {amount : Decimal} (read : pyDecimal (rewriteAs reading core) = some amount) :
    ∃ spelling : Spelling, spelling.text = rewriteAs reading core ∧ spelling.exponent = none ∧
      amount = .finite spelling.numeral.value := by
  obtain ⟨sign, parts, -⟩ := exists_sign core
  have rewritten : rewriteAs reading core = signText sign ++ rewriteAs reading (splitSign core).2 := by
    conv_lhs => rw [parts, rewriteAs_append, rewriteAs_signText]
  have unsigned : ∀ c ∈ (rewriteAs reading (splitSign core).2).head?, c ≠ '-' ∧ c ≠ '+' := by
    intro c head
    rcases mem_rewriteAs_of_plain plain (List.mem_of_mem_head? head) with digit | rfl
    · exact ⟨ne_of_isDigit digit (by decide), ne_of_isDigit digit (by decide)⟩
    · decide
  have visible : ∀ c ∈ rewriteAs reading core, c.toNat < 128 ∧ isPySpace c = false ∧ c ≠ '_' := by
    intro c member
    rw [rewritten, List.mem_append] at member
    rcases member with signed | body
    · cases sign with
      | none => cases signed
      | some negative =>
        cases negative <;> simp [signText] at signed <;> rw [signed] <;> exact ⟨by decide, by decide, by decide⟩
    · rcases mem_rewriteAs_of_plain plain body with digit | rfl
      · exact plain_of_isDigit digit
      · exact ⟨by decide, by decide, by decide⟩
  have body := decimalBody_eq_self visible
  have ordinary : specialDecimal? (splitSign (rewriteAs reading core)).1 (splitSign (rewriteAs reading core)).2 = none := by
    rw [rewritten, splitSign_signText unsigned]
    cases rest : rewriteAs reading (splitSign core).2 with
    | nil => rfl
    | cons c others =>
      have head : c ∈ rewriteAs reading (splitSign core).2 := by
        rw [rest]
        exact List.mem_cons_self
      exact specialDecimal?_of_head (mem_rewriteAs_of_plain plain head)
  have finite : ∃ value, amount = .finite value := by
    rw [pyDecimal] at read
    simp only [body, ordinary] at read
    cases parsed : numeral? (rewriteAs reading core) with
    | none => simp [parsed] at read
    | some numeral =>
      by_cases held : holdable numeral = true
      · simp only [parsed, held, if_true, Option.some.injEq] at read
        exact ⟨_, read.symm⟩
      · simp [parsed, held] at read
  obtain ⟨value, rfl⟩ := finite
  obtain ⟨spelling, written, -, valued⟩ := pyDecimal_eq_finite.mp read
  rw [body] at written
  refine ⟨spelling, written, ?_, by rw [valued]⟩
  cases ending : spelling.exponent with
  | none => rfl
  | some power =>
    have letter : power.letter ∈ rewriteAs reading core := by
      rw [← written, Spelling.text, Spelling.exponentText, ending, Option.map_some, Option.getD_some, Exponent.text]
      simp
    rw [rewritten, List.mem_append] at letter
    rcases letter with signed | inside
    · cases sign with
      | none => cases signed
      | some negative =>
        cases negative <;> simp [signText] at signed <;> rcases power.isLetter with other | other <;>
          rw [other] at signed <;> exact absurd signed (by decide)
    · rcases mem_rewriteAs_of_plain plain inside with digit | period
      · rcases power.isLetter with other | other <;> rw [other] at digit <;> exact absurd digit (by decide)
      · rcases power.isLetter with other | other <;> rw [other] at period <;> exact absurd period (by decide)

/-- The limit of the column, in digits. -/
theorem bounded_iff {spelling : Spelling} (whole : spelling.exponent = none) :
    BelowLimit spelling.text ↔ fitsNumeric 15 2 (.finite spelling.numeral.value) = true := by
  have parts : spelling.text = signText spelling.sign ++ spelling.mantissa := by
    rw [Spelling.text, Spelling.exponentText, whole, Option.map_none, Option.getD_none, List.append_nil]
  have signless (c : Char) (member : c ∈ signText spelling.sign) : c.isDigit = false ∧ c ≠ '.' := by
    cases sign : spelling.sign with
    | none =>
      rw [sign] at member
      cases member
    | some negative =>
      rw [sign] at member
      cases negative <;> simp [signText] at member <;> rw [member] <;> decide
  have digits : spelling.text.filter Char.isDigit = spelling.whole ++ spelling.fraction := by
    have none : (signText spelling.sign).filter Char.isDigit = [] := by
      rw [List.filter_eq_nil_iff]
      exact fun c member => Bool.eq_false_iff.mp (signless c member).1
    have front : spelling.whole.filter Char.isDigit = spelling.whole :=
      List.filter_eq_self.mpr fun c member => spelling.digits c (List.mem_append_left _ member)
    have back : spelling.fraction.filter Char.isDigit = spelling.fraction :=
      List.filter_eq_self.mpr fun c member => spelling.digits c (List.mem_append_right _ member)
    have point : (if spelling.pointed then ['.'] else []).filter Char.isDigit = [] := by
      cases spelling.pointed <;> rfl
    rw [parts, Spelling.mantissa, List.filter_append, List.filter_append, List.filter_append, none, front, point, back,
      List.nil_append, List.nil_append]
  have behind : (spelling.text.dropWhile (· != '.')).drop 1 = spelling.fraction := by
    have solid : ∀ c ∈ signText spelling.sign ++ spelling.whole, (c != '.') = true := by
      intro c member
      rcases List.mem_append.mp member with sign | front
      · exact bne_iff_ne.mpr (signless c sign).2
      · exact bne_iff_ne.mpr (ne_of_isDigit (spelling.digits c (List.mem_append_left _ front)) (by decide))
    rw [parts, Spelling.mantissa, ← List.append_assoc, List.dropWhile_append_of_pos solid]
    cases pointed : spelling.pointed with
    | true => simp
    | false => simp [spelling.unpointed pointed]
  have power : spelling.numeral.power = 0 := by
    rw [Spelling.numeral, whole]
    rfl
  have size : |spelling.numeral.value| = (spelling.numeral.digits : ℚ) / 10 ^ spelling.numeral.places := by
    have scale : (10 : ℚ) ^ (0 - (spelling.numeral.places : ℤ)) = (10 ^ spelling.numeral.places)⁻¹ := by
      rw [zero_sub, zpow_neg, zpow_natCast]
    have unsigned : |(if spelling.numeral.negative = true then -(spelling.numeral.digits : ℚ) else spelling.numeral.digits)| =
        spelling.numeral.digits := by
      split <;> simp
    rw [Numeral.value, power, abs_mul, unsigned, scale, abs_of_pos (by positivity), div_eq_mul_inv]
  have units : |(roundHalfAway (spelling.numeral.value * 10 ^ 2) : ℚ) / 10 ^ 2| < 10 ^ (15 - 2) ↔
      |roundHalfAway (spelling.numeral.value * 10 ^ 2)| < 10 ^ 15 := by
    rw [abs_div, abs_of_pos (by norm_num : (0 : ℚ) < 10 ^ 2), div_lt_iff₀ (by norm_num)]
    rw [← Int.cast_abs, ← @Int.cast_lt ℚ]
    norm_num
  have scale : (0 : ℚ) < 10 ^ spelling.numeral.places := by positivity
  have counted : spelling.numeral.places = spelling.fraction.length := rfl
  have valued : spelling.numeral.digits = Nat.ofDigitChars 10 (spelling.whole ++ spelling.fraction) 0 := rfl
  rw [fitsNumeric, decide_eq_true_iff, units, abs_roundHalfAway_lt_iff, abs_mul, size, BelowLimit, digits, behind,
    ← counted, ← valued, abs_of_pos (by norm_num : (0 : ℚ) < 10 ^ 2), div_mul_eq_mul_div, div_lt_iff₀ scale,
    ← @Nat.cast_lt ℚ]
  push_cast
  constructor
  · intro below
    linarith
  · intro below
    linarith

/-- `Decimal` takes one period. -/
theorem count_point_le_one {spelling : Spelling} (whole : spelling.exponent = none)
    (written : spelling.text = rewriteAs reading core) : core.count reading.point ≤ 1 := by
  have digitless {run : List Char} (digits : ∀ c ∈ run, c.isDigit = true) : run.count '.' = 0 := by
    rw [List.count_eq_zero]
    intro member
    exact absurd (digits _ member) (by decide)
  have front := digitless fun c member => spelling.digits c (List.mem_append_left _ member)
  have back := digitless fun c member => spelling.digits c (List.mem_append_right _ member)
  have sign : (signText spelling.sign).count '.' = 0 := by
    cases spelling.sign with
    | none => rfl
    | some negative => cases negative <;> rfl
  have point : (if spelling.pointed then ['.'] else []).count '.' ≤ 1 := by
    cases spelling.pointed <;> decide
  rw [← count_rewriteAs, ← written, Spelling.text, Spelling.mantissa, Spelling.exponentText, whole, Option.map_none,
    Option.getD_none, List.append_nil, List.count_append, List.count_append, List.count_append, sign, front, back]
  omega

end Rewriting

namespace WrittenIn

variable {convention reading : AmountConvention} {core : List Char} (written : WrittenIn convention core)

/-- The characters behind the sign. -/
theorem mem_body {c : Char}
    (member : c ∈ written.whole ++ ((if written.pointed then [convention.point] else []) ++ written.fraction)) :
    c.isDigit = true ∨ isSeparator c = true := by
  rw [List.mem_append, List.mem_append] at member
  rcases member with whole | point | fraction
  · rcases mem_of_isGrouping written.grouping whole with digit | rfl
    · exact .inl digit
    · exact .inr (isSeparator_group convention)
  · right
    cases pointed : written.pointed <;> simp [pointed] at point
    rw [point]
    exact isSeparator_point convention
  · exact .inl (written.digits c fraction)

theorem body : (splitSign core).2 =
    written.whole ++ ((if written.pointed then [convention.point] else []) ++ written.fraction) := by
  have unsigned : ∀ c ∈ (written.whole ++ ((if written.pointed then [convention.point] else []) ++ written.fraction)).head?,
      c ≠ '-' ∧ c ≠ '+' := by
    intro c head
    rcases written.mem_body (List.mem_of_mem_head? head) with digit | separator
    · exact ⟨ne_of_isDigit digit (by decide), ne_of_isDigit digit (by decide)⟩
    · rw [isSeparator, Bool.or_eq_true, beq_iff_eq, beq_iff_eq] at separator
      rcases separator with rfl | rfl <;> decide
  conv_lhs => rw [written.parts, splitSign_signText unsigned]

include written in
theorem plain : Plain core := by
  intro c member
  rw [written.body] at member
  exact written.mem_body member

theorem point_not_mem_whole : convention.point ∉ written.whole := by
  intro member
  rcases mem_of_isGrouping written.grouping member with digit | same
  · rw [isDigit_of_isSeparator (isSeparator_point convention)] at digit
    cases digit
  · cases convention <;> exact absurd same (by decide)

theorem separator_not_mem_fraction {c : Char} (separator : isSeparator c = true) : c ∉ written.fraction := by
  intro member
  have digit := written.digits c member
  rw [isDigit_of_isSeparator separator] at digit
  cases digit

/-- In the convention a token is written in, the part in front of the decimal separator is grouped. -/
theorem takeWhile_body : (splitSign core).2.takeWhile (· != convention.point) = written.whole := by
  have solid : ∀ c ∈ written.whole, (c != convention.point) = true := by
    intro c member
    rw [bne_iff_ne]
    rintro rfl
    exact written.point_not_mem_whole member
  rw [written.body, List.takeWhile_append_of_pos solid]
  cases pointed : written.pointed with
  | true => simp
  | false => simp [written.unpointed pointed]

/-- The separators of a token: those of its groups, and its decimal separator. -/
theorem countP_core : core.countP isSeparator =
    written.whole.count convention.group + if written.pointed then 1 else 0 := by
  have sign : (signText written.sign).countP isSeparator = 0 := by
    cases written.sign with
    | none => rfl
    | some negative => cases negative <;> rfl
  have fraction : written.fraction.countP isSeparator = 0 := by
    rw [List.countP_eq_zero]
    intro c member separator
    exact written.separator_not_mem_fraction separator member
  have point : (if written.pointed then [convention.point] else []).countP isSeparator = if written.pointed then 1 else 0 := by
    cases written.pointed with
    | true => rw [if_pos rfl, if_pos rfl, List.countP_singleton, if_pos (isSeparator_point convention)]
    | false => rfl
  have whole : written.whole.countP isSeparator = written.whole.count convention.group := by
    rw [countP_isSeparator convention, List.count_eq_zero.mpr written.point_not_mem_whole, Nat.add_zero]
  conv_lhs => rw [written.parts, List.countP_append, List.countP_append, List.countP_append, sign, whole, point, fraction]
  omega

/-- A token with separators of both kinds proves the convention it is written in. -/
theorem proves (grouped : convention.group ∈ written.whole) (pointed : written.pointed = true) :
    conventionProvedBy core = some convention := by
  have apart : convention.group ≠ convention.point := by cases convention <;> decide
  have parts : core = (signText written.sign ++ written.whole) ++ convention.point :: written.fraction := by
    conv_lhs => rw [written.parts, pointed, if_pos rfl, List.singleton_append, ← List.append_assoc]
  have front : convention.group ∈ signText written.sign ++ written.whole := List.mem_append_right _ grouped
  have last := rfind_lt_of_tail apart front (written.separator_not_mem_fraction (isSeparator_group convention))
  rw [← parts] at last
  refine conventionProvedBy_both ?_ ?_ last
  · rw [parts]
    exact List.mem_append_left _ front
  · rw [parts]
    exact List.mem_append_right _ List.mem_cons_self

include written in
/-- A well-formed token that `Decimal` takes has its separators in place as it is read. -/
theorem inPlace (reads : ∀ proved, conventionProvedBy core = some proved → reading = proved)
    (single : core.count reading.point ≤ 1) : core.countP isSeparator ≤ 1 ∨
      isGrouping reading.group ((splitSign core).2.takeWhile (· != reading.point)) = true := by
  by_cases same : reading = convention
  · right
    rw [same, written.takeWhile_body]
    exact written.grouping
  · -- Read in the other convention, the separator of thousands is the decimal separator, so that there is one at most.
    left
    have turned : reading.point = convention.group := by
      cases reading <;> cases convention <;> first | rfl | exact absurd rfl same
    have few : written.whole.count convention.group ≤ 1 := by
      have part : written.whole.Sublist core := by
        conv_rhs => rw [written.parts]
        exact (List.sublist_append_left _ _).trans (List.sublist_append_right _ _)
      rw [turned] at single
      exact (part.count_le _).trans single
    rw [written.countP_core]
    by_cases grouped : convention.group ∈ written.whole
    · cases pointed : written.pointed with
      | false => simpa using few
      | true => exact absurd (reads _ (written.proves grouped pointed)) same
    · rw [List.count_eq_zero.mpr grouped]
      cases written.pointed <;> simp

end WrittenIn

section Sound

variable {core : List Char} {reading : AmountConvention}

/-- Where a text has at most one separator, it is cut at it. -/
theorem exists_cut {text : List Char} (plain : ∀ c ∈ text, c.isDigit = true ∨ isSeparator c = true)
    (few : text.countP isSeparator ≤ 1) : (∀ c ∈ text, c.isDigit = true) ∨
      ∃ front sep back, text = front ++ sep :: back ∧ isSeparator sep = true ∧ (∀ c ∈ front, c.isDigit = true) ∧
        ∀ c ∈ back, c.isDigit = true := by
  induction text with
  | nil => exact .inl fun c member => by cases member
  | cons c rest ih =>
    rw [List.countP_cons] at few
    have tail : ∀ d ∈ rest, d.isDigit = true ∨ isSeparator d = true := fun d member => plain d (List.mem_cons_of_mem _ member)
    by_cases separator : isSeparator c = true
    · rw [if_pos separator] at few
      have none := List.countP_eq_zero.mp (by omega : rest.countP isSeparator = 0)
      refine .inr ⟨[], c, rest, rfl, separator, fun d member => (by cases member), ?_⟩
      exact fun d member => (tail d member).resolve_right (none d member)
    · have digit := (plain c List.mem_cons_self).resolve_right separator
      rcases ih tail (by omega) with all | ⟨front, sep, back, parts, cut, before, after⟩
      · left
        intro d member
        rcases List.mem_cons.mp member with rfl | later
        · exact digit
        · exact all d later
      · refine .inr ⟨c :: front, sep, back, by rw [parts, List.cons_append], cut, ?_, after⟩
        intro d member
        rcases List.mem_cons.mp member with rfl | later
        · exact digit
        · exact before d later

/-- Nothing but digits follows the decimal separator of a token that `Decimal` takes. -/
theorem digits_behind_point {front back : List Char} (reads : ∀ proved, conventionProvedBy core = some proved → reading = proved)
    (parts : core = front ++ reading.point :: back) (single : core.count reading.point ≤ 1)
    (plain : ∀ c ∈ back, c.isDigit = true ∨ isSeparator c = true) : ∀ c ∈ back, c.isDigit = true := by
  have apart : reading.group ≠ reading.point := by cases reading <;> decide
  have noPoint : reading.point ∉ back := by
    intro member
    have counted := List.count_pos_iff.mpr member
    rw [parts, List.count_append, List.count_cons_self] at single
    omega
  have noGroup : reading.group ∉ back := by
    intro member
    -- A separator of thousands behind the point would make the token prove the other convention.
    obtain ⟨middle, tail, cut, clear⟩ := List.eq_append_cons_of_mem (List.mem_reverse.mpr member)
    have last : back = tail.reverse ++ reading.group :: middle.reverse := by
      rw [← List.reverse_reverse back, cut, List.reverse_append, List.reverse_cons, List.append_assoc]
      rfl
    have whole : core = (front ++ reading.point :: tail.reverse) ++ reading.group :: middle.reverse := by
      rw [parts, last, List.append_assoc, List.cons_append]
    have pointClear : reading.point ∉ middle.reverse := by
      intro inside
      exact noPoint (last ▸ List.mem_append_right _ (List.mem_cons_of_mem _ inside))
    have pointFront : reading.point ∈ front ++ reading.point :: tail.reverse :=
      List.mem_append_right _ List.mem_cons_self
    have later := rfind_lt_of_tail apart.symm pointFront pointClear
    rw [← whole] at later
    have turned : reading.other.group = reading.point ∧ reading.other.point = reading.group := by
      cases reading <;> exact ⟨rfl, rfl⟩
    have proved : conventionProvedBy core = some reading.other := by
      refine conventionProvedBy_both ?_ ?_ ?_
      · rw [turned.1, whole]
        exact List.mem_append_left _ pointFront
      · rw [turned.2, whole]
        exact List.mem_append_right _ List.mem_cons_self
      · rw [turned.1, turned.2]
        exact later
    have same := reads _ proved
    cases reading <;> cases same
  intro c member
  refine (plain c member).resolve_right ?_
  intro separator
  rcases separator_cases reading separator with rfl | rfl
  · exact noGroup member
  · exact noPoint member

/-- A sound token that `Decimal` takes is well formed. -/
theorem wellFormed_of_sound {spelling : Spelling} (reads : ∀ proved, conventionProvedBy core = some proved → reading = proved)
    (sound : SoundToken reading core) (whole : spelling.exponent = none)
    (written : spelling.text = rewriteAs reading core) : WellFormed core := by
  obtain ⟨sign, parts, -⟩ := exists_sign core
  have single := count_point_le_one whole written
  have shown : ∃ c ∈ core, c.isDigit = true := by
    obtain ⟨d, digit⟩ := List.exists_mem_of_ne_nil _ spelling.nonempty
    have isDigit := spelling.digits d digit
    have inside : d ∈ rewriteAs reading core := by
      rw [← written, Spelling.text, Spelling.mantissa]
      rcases List.mem_append.mp digit with front | back <;> simp [*]
    rw [rewriteAs_eq, List.mem_map] at inside
    obtain ⟨c, member, same⟩ := inside
    by_cases point : c = reading.point
    · rw [if_pos point] at same
      rw [← same] at isDigit
      exact absurd isDigit (by decide)
    · rw [if_neg point] at same
      exact ⟨d, same ▸ List.mem_of_mem_filter member, isDigit⟩
  rcases sound.inPlace with few | grouped
  · have fewer : (splitSign core).2.countP isSeparator ≤ 1 := by
      have part : (splitSign core).2.Sublist core := by
        conv_rhs => rw [parts]
        exact List.sublist_append_right _ _
      exact part.countP_le.trans few
    rcases exists_cut sound.plain fewer with digits | ⟨front, sep, back, cut, separator, before, after⟩
    · exact ⟨.us, ⟨⟨sign, (splitSign core).2, false, [], by simpa using parts, isGrouping_of_digits digits (by decide),
        fun c member => (by cases member), fun _ => rfl, shown⟩⟩⟩
    · have point : ∃ convention : AmountConvention, convention.point = sep := by
        rw [isSeparator, Bool.or_eq_true, beq_iff_eq, beq_iff_eq] at separator
        rcases separator with rfl | rfl
        · exact ⟨.eu, rfl⟩
        · exact ⟨.us, rfl⟩
      obtain ⟨convention, rfl⟩ := point
      refine ⟨convention, ⟨⟨sign, front, true, back, ?_, ?_, after, by simp, shown⟩⟩⟩
      · rw [if_pos rfl, List.singleton_append, ← cut]
        exact parts
      · exact isGrouping_of_digits before (isDigit_of_isSeparator (isSeparator_group convention))
  · have pieces := (List.takeWhile_append_dropWhile (p := (· != reading.point)) (l := (splitSign core).2)).symm
    cases rest : (splitSign core).2.dropWhile (· != reading.point) with
    | nil =>
      rw [rest, List.append_nil] at pieces
      rw [← pieces] at grouped
      exact ⟨reading, ⟨⟨sign, (splitSign core).2, false, [], by simpa using parts, grouped,
        fun c member => (by cases member), fun _ => rfl, shown⟩⟩⟩
    | cons c back =>
      have point : c = reading.point := by
        have stopped := List.head?_dropWhile_not (· != reading.point) (splitSign core).2
        simpa [rest] using stopped
      rw [rest, point] at pieces
      have whole : core = (signText sign ++ (splitSign core).2.takeWhile (· != reading.point)) ++ reading.point :: back := by
        conv_lhs => rw [parts, pieces]
        rw [List.append_assoc]
      have plain : ∀ d ∈ back, d.isDigit = true ∨ isSeparator d = true := by
        intro d member
        refine sound.plain d ?_
        rw [pieces]
        exact List.mem_append_right _ (List.mem_cons_of_mem _ member)
      have digits := digits_behind_point reads whole single plain
      refine ⟨reading, ⟨⟨sign, _, true, back, ?_, grouped, digits, by simp, shown⟩⟩⟩
      rw [if_pos rfl, List.singleton_append, ← pieces]
      exact parts

end Sound

end Payables.Amounts
