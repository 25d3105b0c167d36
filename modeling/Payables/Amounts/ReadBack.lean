import Payables.Amounts.Readers

namespace Payables.Amounts
open Lib

/-- A whole number with a separator between its thousands. -/
def groupThousands (sep : Char) (n : Nat) : List Char :=
  if n < 1000 then Nat.toDigits 10 n else groupThousands sep (n / 1000) ++ sep :: padded 3 (n % 1000)

/-- How an amount is written: with its thousands grouped or not, and with up to two decimals that it fits. -/
structure Rendering where
  amount : ℚ
  grouped : Bool
  places : Nat
  short : places ≤ 2
  exact : (amount * 10 ^ places).den = 1

namespace Rendering

/-- The amount in units of its last decimal, without the sign. -/
def units (rendering : Rendering) : Nat := (rendering.amount * 10 ^ rendering.places).num.natAbs

def whole (rendering : Rendering) (convention : AmountConvention) : List Char :=
  if rendering.grouped then groupThousands convention.group (rendering.units / 10 ^ rendering.places)
  else Nat.toDigits 10 (rendering.units / 10 ^ rendering.places)

def fraction (rendering : Rendering) : List Char := padded rendering.places (rendering.units % 10 ^ rendering.places)

def sign (rendering : Rendering) : Option Bool := if rendering.amount < 0 then some true else none

/-- The amount as it is written in a convention. -/
def token (convention : AmountConvention) (rendering : Rendering) : List Char :=
  signText rendering.sign ++ (rendering.whole convention ++
    ((if rendering.places = 0 then [] else [convention.point]) ++ rendering.fraction))

end Rendering

section Grouping

variable {sep : Char} {n : Nat}

/-- A grouped number has digits and separators. -/
theorem mem_groupThousands {c : Char} (member : c ∈ groupThousands sep n) : c.isDigit = true ∨ c = sep := by
  induction n using Nat.strong_induction_on generalizing c with
  | _ n ih =>
    rw [groupThousands] at member
    by_cases small : n < 1000
    · rw [if_pos small] at member
      exact .inl (isDigit_of_mem_toDigits member)
    · rw [if_neg small, List.mem_append, List.mem_cons] at member
      rcases member with front | rfl | group
      · exact ih (n / 1000) (by omega) front
      · exact .inr rfl
      · exact .inl (isDigit_of_mem_padded group)

/-- Without its separators a grouped number is the number. -/
theorem ofDigitChars_groupThousands (solid : sep.isDigit = false) :
    Nat.ofDigitChars 10 ((groupThousands sep n).filter (· != sep)) 0 = n := by
  induction n using Nat.strong_induction_on with
  | _ n ih =>
    have kept {text : List Char} (digits : ∀ c ∈ text, c.isDigit = true) : text.filter (· != sep) = text := by
      rw [List.filter_eq_self]
      exact fun c member => bne_iff_ne.mpr (ne_of_isDigit (digits c member) solid)
    rw [groupThousands]
    by_cases small : n < 1000
    · rw [if_pos small, kept fun _ => isDigit_of_mem_toDigits, Nat.ofDigitChars_ten_toDigits]
    · have group : padded 3 (n % 1000) = (padded 3 (n % 1000)).filter (· != sep) := (kept fun _ => isDigit_of_mem_padded).symm
      have fits : n % 1000 < 10 ^ 3 := by omega
      have dropped : (sep :: padded 3 (n % 1000)).filter (· != sep) = padded 3 (n % 1000) := by
        rw [List.filter_cons_of_neg (by simp), ← group]
      rw [if_neg small, List.filter_append, dropped, Nat.ofDigitChars_append, ih (n / 1000) (by omega),
        Nat.ofDigitChars_eq_ofDigitChars_zero, padded_length, ofDigitChars_padded fits]
      omega

theorem groupThousands_ne_nil (solid : sep.isDigit = false) : (groupThousands sep n).filter (· != sep) ≠ [] := by
  have seen : ∃ c ∈ groupThousands sep n, c.isDigit = true := by
    rw [groupThousands]
    by_cases small : n < 1000
    · obtain ⟨c, member⟩ := List.exists_mem_of_ne_nil _ (@Nat.toDigits_ne_nil n 10)
      rw [if_pos small]
      exact ⟨c, member, isDigit_of_mem_toDigits member⟩
    · have nonempty : padded 3 (n % 1000) ≠ [] := by
        intro empty
        have length := padded_length 3 (n % 1000)
        rw [empty] at length
        cases length
      obtain ⟨c, member⟩ := List.exists_mem_of_ne_nil _ nonempty
      rw [if_neg small]
      exact ⟨c, List.mem_append_right _ (List.mem_cons_of_mem _ member), isDigit_of_mem_padded member⟩
  obtain ⟨c, member, digit⟩ := seen
  intro empty
  have gone := List.filter_eq_nil_iff.mp empty c member
  exact gone (bne_iff_ne.mpr (ne_of_isDigit digit solid))

/-- A number with a separator ends in one and three digits. -/
theorem groupThousands_tail (separated : sep ∈ groupThousands sep n) (solid : sep.isDigit = false) :
    ∃ front group, groupThousands sep n = front ++ sep :: group ∧ group.length = 3 ∧ ∀ c ∈ group, c.isDigit = true := by
  rw [groupThousands] at separated ⊢
  by_cases small : n < 1000
  · rw [if_pos small] at separated
    exact absurd (isDigit_of_mem_toDigits separated) (by simp [solid])
  · rw [if_neg small]
    exact ⟨_, _, rfl, padded_length 3 _, fun _ => isDigit_of_mem_padded⟩

end Grouping

namespace Rendering

variable (rendering : Rendering) (convention : AmountConvention)

theorem group_solid : convention.group.isDigit = false := by
  cases convention <;> decide

theorem point_solid : convention.point.isDigit = false := by
  cases convention <;> decide

theorem group_ne_point : convention.group ≠ convention.point := by
  cases convention <;> decide

theorem mem_whole {c : Char} (member : c ∈ rendering.whole convention) : c.isDigit = true ∨ c = convention.group := by
  rw [whole] at member
  cases grouped : rendering.grouped with
  | false =>
    rw [grouped, if_neg (by simp)] at member
    exact .inl (isDigit_of_mem_toDigits member)
  | true =>
    rw [grouped, if_pos rfl] at member
    exact mem_groupThousands member

theorem ofDigitChars_whole : Nat.ofDigitChars 10 ((rendering.whole convention).filter (· != convention.group)) 0 =
    rendering.units / 10 ^ rendering.places := by
  rw [whole]
  cases rendering.grouped with
  | false =>
    have kept : (Nat.toDigits 10 (rendering.units / 10 ^ rendering.places)).filter (· != convention.group) =
        Nat.toDigits 10 (rendering.units / 10 ^ rendering.places) := by
      rw [List.filter_eq_self]
      exact fun c member => bne_iff_ne.mpr (ne_of_isDigit (isDigit_of_mem_toDigits member) (group_solid convention))
    rw [if_neg (by simp), kept, Nat.ofDigitChars_ten_toDigits]
  | true => rw [if_pos rfl, ofDigitChars_groupThousands (group_solid convention)]

theorem whole_ne_nil : (rendering.whole convention).filter (· != convention.group) ≠ [] := by
  rw [whole]
  cases rendering.grouped with
  | false =>
    rw [if_neg (by simp)]
    obtain ⟨c, member⟩ := List.exists_mem_of_ne_nil _ (@Nat.toDigits_ne_nil (rendering.units / 10 ^ rendering.places) 10)
    intro empty
    have gone := List.filter_eq_nil_iff.mp empty c member
    exact gone (bne_iff_ne.mpr (ne_of_isDigit (isDigit_of_mem_toDigits member) (group_solid convention)))
  | true =>
    rw [if_pos rfl]
    exact groupThousands_ne_nil (group_solid convention)

/-- The numeral that a rendering becomes without its separators of thousands. -/
def spelling : Spelling where
  sign := rendering.sign
  whole := (rendering.whole convention).filter (· != convention.group)
  pointed := !(rendering.places == 0)
  fraction := rendering.fraction
  exponent := none
  digits := by
    intro c member
    rcases List.mem_append.mp member with front | back
    · obtain ⟨inside, other⟩ := List.mem_filter.mp front
      exact (rendering.mem_whole convention inside).resolve_right (bne_iff_ne.mp other)
    · exact isDigit_of_mem_padded back
  nonempty := fun empty => rendering.whole_ne_nil convention (List.append_eq_nil_iff.mp empty).1
  unpointed := by
    intro pointless
    have none : rendering.places = 0 := by simpa using pointless
    rw [fraction, none, padded]

/-- A rendering means its amount. -/
theorem value_spelling : (rendering.spelling convention).numeral.value = rendering.amount := by
  have places : rendering.fraction.length = rendering.places := padded_length _ _
  have within : rendering.units % 10 ^ rendering.places < 10 ^ rendering.places := Nat.mod_lt _ (Nat.pow_pos (by omega))
  have digits : (rendering.spelling convention).numeral.digits = rendering.units := by
    simp only [Spelling.numeral, spelling]
    rw [Nat.ofDigitChars_append, rendering.ofDigitChars_whole convention, Nat.ofDigitChars_eq_ofDigitChars_zero, places,
      fraction, ofDigitChars_padded within, Nat.div_add_mod]
  have scale : (0 : ℚ) < 10 ^ rendering.places := by positivity
  have whole : ((rendering.amount * 10 ^ rendering.places).num : ℚ) = rendering.amount * 10 ^ rendering.places :=
    (Rat.den_eq_one_iff _).mp rendering.exact
  have power : (10 : ℚ) ^ (0 - (rendering.places : ℤ)) = (10 ^ rendering.places)⁻¹ := by
    rw [zero_sub, zpow_neg, zpow_natCast]
  have counted : (rendering.spelling convention).numeral.places = rendering.places := places
  have unpowered : (rendering.spelling convention).numeral.power = 0 := rfl
  rw [Numeral.value, digits, counted, unpowered, power]
  by_cases negative : rendering.amount < 0
  · have sign : (rendering.spelling convention).numeral.negative = true := by
      simp [Spelling.numeral, spelling, Rendering.sign, negative]
    have below : (rendering.amount * 10 ^ rendering.places).num ≤ 0 :=
      Rat.num_nonpos.mpr (mul_nonpos_of_nonpos_of_nonneg negative.le scale.le)
    have size : -(rendering.units : ℚ) = rendering.amount * 10 ^ rendering.places := by
      rw [← whole, units, ← Int.cast_natCast, Int.ofNat_natAbs_of_nonpos below]
      push_cast
      ring
    rw [if_pos sign, size, mul_assoc, mul_inv_cancel₀ scale.ne', mul_one]
  · have sign : (rendering.spelling convention).numeral.negative = false := by
      simp [Spelling.numeral, spelling, Rendering.sign, negative]
    have above : 0 ≤ (rendering.amount * 10 ^ rendering.places).num :=
      Rat.num_nonneg.mpr (mul_nonneg (not_lt.mp negative) scale.le)
    have size : (rendering.units : ℚ) = rendering.amount * 10 ^ rendering.places := by
      rw [← whole, units, ← Int.cast_natCast, Int.natAbs_of_nonneg above]
    rw [if_neg (by simp [sign]), size, mul_assoc, mul_inv_cancel₀ scale.ne', mul_one]

theorem signText_kept {sign : Option Bool} {c : Char} (member : c ∈ signText sign) : c ≠ ',' ∧ c ≠ '.' := by
  cases sign with
  | none => cases member
  | some negative => cases negative <;> simp [signText] at member <;> rw [member] <;> decide

theorem sign_kept {c : Char} (member : c ∈ signText rendering.sign) : c ≠ convention.group ∧ c ≠ convention.point := by
  have kept := signText_kept member
  cases convention
  · exact kept
  · exact kept.symm

/-- Read in its own convention a token becomes the numeral. -/
theorem rewriteAs_token : rewriteAs convention (rendering.token convention) = (rendering.spelling convention).text := by
  have kept {text : List Char} (digits : ∀ c ∈ text, c.isDigit = true) : text.filter (· != convention.group) = text := by
    rw [List.filter_eq_self]
    exact fun c member => bne_iff_ne.mpr (ne_of_isDigit (digits c member) (group_solid convention))
  have still {text : List Char} (digits : ∀ c ∈ text, c.isDigit = true) :
      text.map (fun c => if c = convention.point then '.' else c) = text := by
    refine (List.map_congr_left ?_).trans (List.map_id' text)
    exact fun c member => if_neg (ne_of_isDigit (digits c member) (point_solid convention))
  have fraction : ∀ c ∈ rendering.fraction, c.isDigit = true := fun _ => isDigit_of_mem_padded
  have whole : ∀ c ∈ (rendering.whole convention).filter (· != convention.group), c.isDigit = true := by
    intro c member
    obtain ⟨inside, other⟩ := List.mem_filter.mp member
    exact (rendering.mem_whole convention inside).resolve_right (bne_iff_ne.mp other)
  have signFilter : (signText rendering.sign).filter (· != convention.group) = signText rendering.sign := by
    rw [List.filter_eq_self]
    exact fun c member => bne_iff_ne.mpr (rendering.sign_kept convention member).1
  have signMap : (signText rendering.sign).map (fun c => if c = convention.point then '.' else c) = signText rendering.sign := by
    refine (List.map_congr_left ?_).trans (List.map_id' _)
    exact fun c member => if_neg (rendering.sign_kept convention member).2
  have point : ((if rendering.places = 0 then [] else [convention.point]).filter (· != convention.group)).map
      (fun c => if c = convention.point then '.' else c) = if rendering.places = 0 then [] else ['.'] := by
    by_cases none : rendering.places = 0
    · rw [if_pos none, if_pos none]
      rfl
    · have pointKept : (convention.point != convention.group) = true := bne_iff_ne.mpr (group_ne_point convention).symm
      rw [if_neg none, if_neg none]
      simp [pointKept]
  have pointed : (if (rendering.spelling convention).pointed = true then ['.'] else []) =
      if rendering.places = 0 then [] else ['.'] := by
    by_cases none : rendering.places = 0 <;> simp [spelling, none]
  rw [rewriteAs_eq, token]
  simp only [List.filter_append, List.map_append, signFilter, signMap, still whole, kept fraction, still fraction, point]
  rw [Spelling.text, Spelling.mantissa, pointed]
  simp only [spelling, Spelling.exponentText, Option.map_none, Option.getD_none, List.append_nil]

/-- The part of a token in front of its decimal separator. -/
def front : List Char := signText rendering.sign ++ rendering.whole convention

theorem token_eq : rendering.token convention = rendering.front convention ++
    ((if rendering.places = 0 then [] else [convention.point]) ++ rendering.fraction) := by
  rw [token, front, List.append_assoc]

theorem point_not_mem_front : convention.point ∉ rendering.front convention := by
  intro member
  rcases List.mem_append.mp member with sign | whole
  · exact (rendering.sign_kept convention sign).2 rfl
  · rcases rendering.mem_whole convention whole with digit | group
    · rw [point_solid] at digit
      cases digit
    · exact group_ne_point convention group.symm

theorem not_mem_fraction {c : Char} (solid : c.isDigit = false) : c ∉ rendering.fraction := by
  intro member
  rw [fraction] at member
  rw [isDigit_of_mem_padded member] at solid
  cases solid

/-- A token proves the convention it is written in, or none. -/
theorem proves_own : conventionProvedBy (rendering.token convention) = none ∨
    conventionProvedBy (rendering.token convention) = some convention := by
  have length : rendering.fraction.length = rendering.places := padded_length _ _
  have noPoint := rendering.point_not_mem_front convention
  have noGroup := rendering.not_mem_fraction (group_solid convention)
  have noTail := rendering.not_mem_fraction (point_solid convention)
  rw [token_eq]
  by_cases pointless : rendering.places = 0
  · have empty : rendering.fraction = [] := List.eq_nil_of_length_eq_zero (length.trans pointless)
    rw [if_pos pointless, empty, List.append_nil, List.append_nil]
    by_cases grouped : convention.group ∈ rendering.front convention
    · -- The last group has three digits, so that one separator is no decimal separator.
      have inWhole : convention.group ∈ rendering.whole convention := by
        rcases List.mem_append.mp grouped with sign | whole
        · exact absurd rfl (rendering.sign_kept convention sign).1
        · exact whole
      have isGrouped : rendering.whole convention =
          groupThousands convention.group (rendering.units / 10 ^ rendering.places) := by
        rw [whole] at inWhole ⊢
        cases choice : rendering.grouped with
        | true => rw [if_pos rfl]
        | false =>
          rw [choice, if_neg (by simp)] at inWhole
          exact absurd (isDigit_of_mem_toDigits inWhole) (by simp [group_solid convention])
      rw [isGrouped] at inWhole
      obtain ⟨lead, group, parts, three, digits⟩ := groupThousands_tail inWhole (group_solid convention)
      have clear : convention.group ∉ group := by
        intro member
        have digit := digits _ member
        rw [group_solid] at digit
        cases digit
      have split : (rendering.front convention).splitOn convention.group =
          (signText rendering.sign ++ lead).splitOn convention.group ++ [group] := by
        rw [front, isGrouped, parts, ← List.append_assoc, List.splitOn_append_cons_self, List.splitOn_eq_singleton clear]
      rw [conventionProvedBy_group grouped noPoint, split]
      obtain ⟨first, others, pieces⟩ :=
        List.exists_cons_of_ne_nil (List.splitOn_ne_nil convention.group (signText rendering.sign ++ lead))
      rw [pieces]
      cases others with
      | nil => simp [three]
      | cons second others =>
        have many : 2 < (first :: second :: others ++ [group]).length := by simp
        simp only [if_pos many]
        split
        · exact .inr rfl
        · exact .inl rfl
    · refine .inl (conventionProvedBy_plain ?_)
      cases convention
      · exact ⟨grouped, noPoint⟩
      · exact ⟨noPoint, grouped⟩
  · have short := rendering.short
    right
    rw [if_neg pointless, List.singleton_append]
    by_cases grouped : convention.group ∈ rendering.front convention
    · exact conventionProvedBy_both (List.mem_append_left _ grouped) (List.mem_append_right _ List.mem_cons_self)
        (rfind_lt_of_tail (group_ne_point convention) grouped noGroup)
    · have ungrouped : convention.group ∉ rendering.front convention ++ convention.point :: rendering.fraction := by
        simp only [List.mem_append, List.mem_cons, not_or]
        exact ⟨grouped, group_ne_point convention, noGroup⟩
      have split : (rendering.front convention ++ convention.point :: rendering.fraction).splitOn convention.point =
          [rendering.front convention, rendering.fraction] := by
        rw [List.splitOn_append_cons_self, List.splitOn_eq_singleton noPoint, List.splitOn_eq_singleton noTail]
        rfl
      rw [conventionProvedBy_point (List.mem_append_right _ List.mem_cons_self) ungrouped, split]
      have few : rendering.fraction.length = 1 ∨ rendering.fraction.length = 2 := by omega
      simp [few]

/-- In a document of its convention a token is read back. -/
theorem pyDecimal_token (document : Option AmountConvention) (detected : document = some convention) :
    pyDecimal (applyConvention (rendering.token convention) document) = some (.finite rendering.amount) := by
  have read : applyConvention (rendering.token convention) document = rewriteAs convention (rendering.token convention) := by
    rw [applyConvention_eq, conventionRead, detected]
    rcases rendering.proves_own convention with nothing | own
    · rw [nothing, Option.none_or, Option.getD_some]
    · rw [own, Option.some_or, Option.getD_some]
  have held : holdable (rendering.spelling convention).numeral = true := rfl
  rw [read, rewriteAs_token, pyDecimal_text held, value_spelling]

/-- A token has digits, separators and a minus. -/
theorem mem_token {c : Char} (member : c ∈ rendering.token convention) : c.isDigit = true ∨ c ∈ ['-', ',', '.'] := by
  have separators : convention.group ∈ ['-', ',', '.'] ∧ convention.point ∈ ['-', ',', '.'] := by
    cases convention <;> decide
  rw [token_eq, front] at member
  simp only [List.mem_append] at member
  rcases member with (sign | whole) | point | fraction
  · right
    rw [Rendering.sign] at sign
    by_cases negative : rendering.amount < 0
    · simp [negative, signText] at sign
      rw [sign]
      decide
    · simp [negative, signText] at sign
  · rcases rendering.mem_whole convention whole with digit | rfl
    · exact .inl digit
    · exact .inr separators.1
  · by_cases none : rendering.places = 0
    · simp [none] at point
    · simp [none] at point
      rw [point]
      exact .inr separators.2
  · exact .inl (isDigit_of_mem_padded fraction)

theorem exists_digit : ∃ c ∈ rendering.token convention, c.isDigit = true := by
  obtain ⟨c, member⟩ := List.exists_mem_of_ne_nil _ (rendering.whole_ne_nil convention)
  obtain ⟨inside, other⟩ := List.mem_filter.mp member
  refine ⟨c, ?_, (rendering.mem_whole convention inside).resolve_right (bne_iff_ne.mp other)⟩
  rw [token, List.mem_append, List.mem_append]
  exact .inr (.inl inside)

end Rendering

/-- Amounts that are written in one convention are read back exactly from their document, as soon as one of them shows
the convention: by the rules for separators, and by the extraction that reads an invoice with them. -/
theorem tokens_read_back (convention : AmountConvention) (amounts : List Rendering)
    (shown : ∃ rendering ∈ amounts, conventionProvedBy (rendering.token convention) ≠ none) :
    ∀ rendering ∈ amounts,
      pyDecimal (applyConvention (rendering.token convention) (detectConvention (amounts.map (·.token convention)))) =
          some (.finite rendering.amount) ∧
        cleanDecimal (some (rendering.token convention))
            (extractionAmountConvention (amounts.map fun other => some (other.token convention))) =
          some (.finite rendering.amount) := by
  have cores : (amounts.map fun other => some (other.token convention)).filterMap amountCore =
      amounts.map (·.token convention) := by
    rw [List.filterMap_map, ← List.filterMap_eq_map]
    refine List.filterMap_congr ?_
    intro other _
    exact amountCore_eq_self (fun _ => other.mem_token convention) (other.exists_digit convention)
  have detected : detectConvention (amounts.map (·.token convention)) = some convention := by
    refine detectConvention_eq ?_ ?_
    · intro core member
      obtain ⟨other, _, rfl⟩ := List.mem_map.mp member
      exact other.proves_own convention
    · obtain ⟨other, member, proves⟩ := shown
      exact ⟨_, List.mem_map_of_mem member, proves⟩
  intro rendering _
  refine ⟨rendering.pyDecimal_token convention _ detected, ?_⟩
  rw [cleanDecimal, amountCore_eq_self (fun _ => rendering.mem_token convention) (rendering.exists_digit convention),
    Option.bind_some, extractionAmountConvention, cores]
  exact rendering.pyDecimal_token convention _ detected

/-- Twelve hundred and a half, beside a minus eight. -/
def sampleAmount : Rendering := ⟨2401 / 2, false, 1, by decide, by norm_num⟩

def sampleAmounts : List Rendering := [sampleAmount, ⟨-8, false, 0, by decide, by norm_num⟩]

theorem sample_read_back :
    pyDecimal (applyConvention (sampleAmount.token .eu) (detectConvention (sampleAmounts.map (·.token .eu)))) =
        some (.finite (2401 / 2)) ∧
      cleanDecimal (some (sampleAmount.token .eu))
          (extractionAmountConvention (sampleAmounts.map fun other => some (other.token .eu))) =
        some (.finite (2401 / 2)) := by
  refine tokens_read_back .eu sampleAmounts ⟨_, List.mem_cons_self, ?_⟩ sampleAmount List.mem_cons_self
  have scaled : (2401 / 2 * 10 ^ 1 : ℚ) = 12005 := by norm_num
  have positive : ¬(2401 / 2 : ℚ) < 0 := by norm_num
  simp only [sampleAmount, Rendering.token, Rendering.sign, Rendering.whole, Rendering.fraction, Rendering.units, scaled,
    positive]
  decide

end Payables.Amounts
