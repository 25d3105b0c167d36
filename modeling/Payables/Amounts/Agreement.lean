import Payables.Amounts.CellContents
import Payables.Amounts.ColumnsAndSigns

namespace Payables.Amounts
open Lib

/-- A text that a reader hands to `Decimal`: the convention it has read the cell in, whether it takes signs off a cell,
whether it has taken a minus off this one, and the column that the number must fit. -/
structure Handed where
  text : List Char
  reading : AmountConvention
  takesSigns : Bool
  minus : Bool
  precision : Option Nat

/-- What invoice extraction, the vendor statements, the bank statements and the imports hand to `Decimal` from a cell. -/
def handedOn (cell : List Char) (extraction statement : Option AmountConvention) : List Handed :=
  ((amountCore (some cell)).toList.map fun core =>
    ⟨applyConvention core extraction, conventionRead core extraction, false, false, none⟩) ++
  [⟨statementRest cell statement, conventionRead (behindMinus (statementBody (pyStrip cell))) statement, true,
      statementMinus cell, some 18⟩,
    ⟨bankRest cell, .us, true, bankMinus cell, some 18⟩,
    ⟨pyStrip (cell.filter fun c => c != ',' && c != '$'), .us, false, false, some 15⟩]

/-- The amounts that the four readers return for a cell, in documents of the given conventions. -/
def amountsRead (cell : List Char) (extraction statement : Option AmountConvention) : List (Option Decimal) :=
  [cleanDecimal (some cell) extraction, (parseAmount cell statement).map .finite, (parseBankAmount cell).map .finite,
    (parseDecimal cell).map .finite]

/-- No reader returns a different amount for a cell that another one accepts. -/
def ReadersAgree (cell : List Char) (extraction statement : Option AmountConvention) : Prop :=
  ∀ a b, some a ∈ amountsRead cell extraction statement → some b ∈ amountsRead cell extraction statement → a = b

/-- The digits of a cell as a numeral, read in a convention and without the signs in front. -/
def magnitude (reading : AmountConvention) (cell : List Char) : Numeral :=
  (numeral? ((rewriteAs reading (content cell)).dropWhile isSign)).getD ⟨false, 0, 0, 0⟩

namespace Handed

variable (handed : Handed) (cell : List Char)

/-- The number that the text is, where the reader has a use for it. -/
def decimal : Option Decimal :=
  match handed.precision with
  | none => pyDecimal handed.text
  | some precision => (columnAmount precision handed.text).map .finite

/-- Whether the reader turns the number round. -/
def negates : Bool := handed.takesSigns && (parenthesised (pyStrip cell) || handed.minus)

/-- Two readers take a cell alike: it is zero, or they see as many digits behind the decimal point, neither alone takes
off a minus inside parentheses, and turning the number round, where only one does, rounds nothing away. -/
def TakenAlike (other : Handed) : Prop :=
  (magnitude handed.reading cell).digits = 0 ∨
    (magnitude handed.reading cell).places = (magnitude other.reading cell).places ∧
      ((parenthesised (pyStrip cell) && handed.takesSigns && other.takesSigns) = true → handed.minus = other.minus) ∧
      (handed.negates cell = other.negates cell ∨
        contextRound (magnitude handed.reading cell).digits = (magnitude handed.reading cell).digits)

end Handed

/-- Any two readers that find a number take the cell alike. -/
def ReadAlike (cell : List Char) (extraction statement : Option AmountConvention) : Prop :=
  ∀ first ∈ handedOn cell extraction statement, ∀ second ∈ handedOn cell extraction statement,
    first.decimal.isSome = true → second.decimal.isSome = true → first.TakenAlike cell second

section Taking

variable {cell text : List Char} {takesSigns minus : Bool} {reading : AmountConvention} {spelling : Spelling}

/-- The content of a cell without its separators. -/
def joinedContent (cell : List Char) : List Char := (content cell).filter fun c => c != ',' && c != '.'

theorem filter_rewriteAs (text : List Char) :
    (rewriteAs reading text).filter (· != '.') = text.filter fun c => c != ',' && c != '.' := by
  rw [rewriteAs_eq, List.filter_map, List.filter_filter]
  have kept : ∀ c ∈ text, (((· != '.') ∘ fun c => if c = reading.point then '.' else c) c && (c != reading.group)) =
      (c != ',' && c != '.') := by
    intro c _
    cases reading <;> by_cases comma : c = ',' <;> by_cases period : c = '.' <;>
      simp [AmountConvention.group, AmountConvention.point, comma, period, Bool.and_comm]
  rw [List.filter_congr kept]
  refine (List.map_congr_left ?_).trans (List.map_id' _)
  intro c member
  have other := (List.mem_filter.mp member).2
  simp only [Bool.and_eq_true, bne_iff_ne] at other
  rw [if_neg]
  cases reading
  · exact other.2
  · exact other.1

theorem isSign_of_minus (taken : Bool) : ∀ c ∈ (if taken then ['-'] else []), isSign c = true := by
  cases taken <;> simp [isSign]

/-- Around the digits of a cell there are the sign that a reader has put there, the one it has taken off, and the sign of
the numeral that is left. -/
theorem joined_of_written (read : CellReading cell takesSigns minus reading text) (written : spelling.text = decimalBody text) :
    (if parenthesised (pyStrip cell) && !takesSigns then ['-'] else []) ++ joinedContent cell =
      (if minus then ['-'] else []) ++ (signText spelling.sign ++ spelling.joined.text) := by
  have unpointed {signs : List Char} (signed : ∀ c ∈ signs, isSign c = true) : signs.filter (· != '.') = signs := by
    rw [List.filter_eq_self]
    intro c member
    rw [bne_iff_ne]
    rintro rfl
    exact absurd (signed _ member) (by decide)
  have handed := congrArg (List.filter (· != '.')) read.handed
  rw [content_of_spelled written, List.filter_append, List.filter_append, unpointed (isSign_of_minus _),
    unpointed (isSign_of_minus _), filter_rewriteAs] at handed
  rw [joinedContent, handed, spelling.text_joined, spelling.text_magnitude, Spelling.text, List.filter_append,
    unpointed spelling.isSign_of_mem_signText]

/-- What a reader finds in a cell: its numeral has the digits of the cell, and the signs in front are the one it has put
there, the one it has taken off and the numeral's own. -/
theorem taken_of_written (read : CellReading cell takesSigns minus reading text) (written : spelling.text = decimalBody text) :
    magnitude reading cell = { spelling.numeral with negative := false } ∧
      numeral? ((joinedContent cell).dropWhile isSign) = some ⟨false, spelling.numeral.digits, 0, spelling.numeral.power⟩ ∧
      (if parenthesised (pyStrip cell) && !takesSigns then ['-'] else []) ++ (joinedContent cell).takeWhile isSign =
        (if minus then ['-'] else []) ++ signText spelling.sign := by
  have put := isSign_of_minus (parenthesised (pyStrip cell) && !takesSigns)
  have taken := isSign_of_minus minus
  have own := spelling.isSign_of_mem_signText
  have joined := joined_of_written read written
  have stops := spelling.joined.takeWhile_text
  have bare : spelling.joined.text.takeWhile isSign = [] ∧
      spelling.joined.text.dropWhile isSign = spelling.joined.text := ⟨stops.1, stops.2⟩
  refine ⟨?_, ?_, ?_⟩
  · have rest := congrArg (List.dropWhile isSign) read.handed
    rw [content_of_spelled written, List.dropWhile_append_of_pos put, List.dropWhile_append_of_pos taken,
      spelling.takeWhile_text.2] at rest
    rw [magnitude, rest, Spelling.numeral?_text, Option.getD_some, spelling.numeral_magnitude]
  · have behind := congrArg (List.dropWhile isSign) joined
    rw [List.dropWhile_append_of_pos put, List.dropWhile_append_of_pos taken, List.dropWhile_append_of_pos own, bare.2] at behind
    rw [behind, Spelling.numeral?_text, spelling.numeral_joined]
  · have front := congrArg (List.takeWhile isSign) joined
    rwa [List.takeWhile_append_of_pos put, List.takeWhile_append_of_pos taken, List.takeWhile_append_of_pos own, bare.1,
      List.append_nil] at front

end Taking

section Sizes

/-- Numbers near one number are equal on a decimal scale only on the same power. -/
theorem scaled_eq_iff {a b d : ℚ} (positive : 0 < d) (nearA : d / 2 ≤ a ∧ a ≤ 2 * d) (nearB : d / 2 ≤ b ∧ b ≤ 2 * d)
    (e f : ℤ) : a * 10 ^ e = b * 10 ^ f ↔ e = f ∧ a = b := by
  have apart {x y : ℚ} {m n : ℤ} (nearX : d / 2 ≤ x) (nearY : y ≤ 2 * d) (larger : n < m) :
      y * 10 ^ n < x * 10 ^ m := by
    have scale : (0 : ℚ) < 10 ^ n := zpow_pos (by norm_num) n
    have step : (10 : ℚ) * 10 ^ n ≤ 10 ^ m := by
      calc (10 : ℚ) * 10 ^ n = 10 ^ (1 + n) := by rw [zpow_add₀ (by norm_num), zpow_one]
        _ ≤ 10 ^ m := zpow_le_zpow_right₀ (by norm_num) (by omega)
    calc y * 10 ^ n ≤ 2 * d * 10 ^ n := mul_le_mul_of_nonneg_right nearY scale.le
      _ < d / 2 * (10 * 10 ^ n) := by nlinarith
      _ ≤ d / 2 * 10 ^ m := mul_le_mul_of_nonneg_left step (by linarith)
      _ ≤ x * 10 ^ m := mul_le_mul_of_nonneg_right nearX (zpow_nonneg (by norm_num) m)
  constructor
  · intro same
    rcases lt_trichotomy e f with less | rfl | more
    · exact absurd same (apart nearB.1 nearA.2 less).ne
    · exact ⟨rfl, mul_right_cancel₀ (zpow_ne_zero e (by norm_num)) same⟩
    · exact absurd same (apart nearA.1 nearB.2 more).ne'
  · rintro ⟨rfl, rfl⟩
    rfl

/-- Numbers with a sign are equal if sign and size are. -/
theorem signed_eq_iff {a b : ℚ} (positiveA : 0 < a) (positiveB : 0 < b) (m n : Bool) :
    (if m then -a else a) = (if n then -b else b) ↔ m = n ∧ a = b := by
  cases m <;> cases n <;> simp only [Bool.false_eq_true, if_true, if_false, reduceCtorEq, true_and, false_and, iff_false,
    neg_inj]
  · intro same
    linarith
  · intro same
    linarith

/-- The size of what a reader returns for a numeral: one that turns it round rounds it. -/
def sizeRead (negates : Bool) (numeral : Numeral) : ℚ :=
  (if negates then contextRound numeral.digits else numeral.digits) * 10 ^ (numeral.power - numeral.places)

theorem turned_value (negates : Bool) (numeral : Numeral) :
    (if negates then -contextRound numeral.value else numeral.value) =
      if negates != numeral.negative then -sizeRead negates numeral else sizeRead negates numeral := by
  have scaled : contextRound numeral.value = (if numeral.negative then -contextRound numeral.digits
      else contextRound numeral.digits) * 10 ^ (numeral.power - numeral.places) := by
    rw [Numeral.value, contextRound_scale]
    cases numeral.negative
    · rfl
    · rw [if_pos rfl, if_pos rfl, contextRound_neg]
  rw [scaled, Numeral.value, sizeRead]
  cases negates <;> cases numeral.negative <;> simp

theorem sizeRead_zero {negates : Bool} {numeral : Numeral} (zero : numeral.digits = 0) : sizeRead negates numeral = 0 := by
  rw [sizeRead, zero, Nat.cast_zero, contextRound_zero, ite_self, zero_mul]

/-- Two readers return the same size for the same digits if they scale and round them alike. -/
theorem sizeRead_eq_iff {first second : Bool} {numeral other : Numeral} (digits : other.digits = numeral.digits)
    (power : other.power = numeral.power) (nonzero : numeral.digits ≠ 0) :
    sizeRead first numeral = sizeRead second other ↔ numeral.places = other.places ∧
      (first = second ∨ contextRound numeral.digits = numeral.digits) := by
  have positive : (0 : ℚ) < numeral.digits := by exact_mod_cast Nat.pos_of_ne_zero nonzero
  have rounded := contextRound_near positive
  have near (negates : Bool) : (numeral.digits : ℚ) / 2 ≤ (if negates then contextRound numeral.digits else numeral.digits) ∧
      (if negates then contextRound numeral.digits else numeral.digits) ≤ 2 * (numeral.digits : ℚ) := by
    cases negates
    · exact ⟨by simp only [Bool.false_eq_true, if_false]; linarith, by simp only [Bool.false_eq_true, if_false]; linarith⟩
    · exact rounded
  rw [sizeRead, sizeRead, digits, power, scaled_eq_iff positive (near first) (near second)]
  refine and_congr ?_ ?_
  · omega
  · cases first <;> cases second <;> simp [eq_comm]

theorem sizeRead_pos {negates : Bool} {numeral : Numeral} (nonzero : numeral.digits ≠ 0) : 0 < sizeRead negates numeral := by
  have positive : (0 : ℚ) < numeral.digits := by exact_mod_cast Nat.pos_of_ne_zero nonzero
  have rounded := contextRound_near positive
  refine mul_pos ?_ (zpow_pos (by norm_num) _)
  cases negates
  · exact positive
  · exact lt_of_lt_of_le (by linarith) rounded.1

end Sizes

namespace Handed

variable {cell : List Char} {extraction statement : Option AmountConvention} {handed other : Handed}

/-- What the reader returns. -/
def amount (handed : Handed) (cell : List Char) : Option Decimal :=
  handed.decimal.map fun decimal =>
    match decimal with
    | .finite value => .finite (if handed.negates cell then -contextRound value else value)
    | special => special

/-- The readers return what becomes of the texts they hand on. -/
theorem mem_amountsRead {a : Decimal} : some a ∈ amountsRead cell extraction statement ↔
    ∃ handed ∈ handedOn cell extraction statement, handed.amount cell = some a := by
  have extracted : cleanDecimal (some cell) extraction = some a ↔ ∃ core ∈ amountCore (some cell),
      (Handed.mk (applyConvention core extraction) (conventionRead core extraction) false false none).amount cell = some a := by
    rw [cleanDecimal, Option.bind_eq_some_iff]
    refine exists_congr fun core => and_congr Iff.rfl ?_
    rw [amount, decimal]
    cases pyDecimal (applyConvention core extraction) with
    | none => exact Iff.rfl
    | some decimal => cases decimal <;> exact Iff.rfl
  have imported : parseDecimal cell = columnAmount 15 (pyStrip (cell.filter fun c => c != ',' && c != '$')) := by
    by_cases empty : cell = []
    · have nothing : pyStrip (([] : List Char).filter fun c => c != ',' && c != '$') = [] := rfl
      rw [parseDecimal, if_pos empty, empty, nothing, columnAmount_nil]
    · rw [parseDecimal, if_neg empty]
  have column (text : List Char) (reading : AmountConvention) (takesSigns minus : Bool) (precision : Nat) :
      (Handed.mk text reading takesSigns minus (some precision)).amount cell =
        ((columnAmount precision text).map fun value => if takesSigns && (parenthesised (pyStrip cell) || minus)
          then -contextRound value else value).map .finite := by
    simp only [amount, decimal, negates]
    cases columnAmount precision text <;> rfl
  have statements : (Handed.mk (statementRest cell statement)
      (conventionRead (behindMinus (statementBody (pyStrip cell))) statement) true (statementMinus cell) (some 18)).amount cell =
      (parseAmount cell statement).map .finite := by
    rw [column, parseAmount_eq]
    rfl
  have bank : (Handed.mk (bankRest cell) .us true (bankMinus cell) (some 18)).amount cell =
      (parseBankAmount cell).map .finite := by
    rw [column, parseBankAmount_eq]
    rfl
  have csv : (Handed.mk (pyStrip (cell.filter fun c => c != ',' && c != '$')) .us false false (some 15)).amount cell =
      (parseDecimal cell).map .finite := by
    rw [column, imported]
    simp only [Bool.false_and, Bool.false_eq_true, if_false, Option.map_id']
  simp only [amountsRead, handedOn, List.mem_cons, List.not_mem_nil, or_false, List.mem_append, List.mem_map,
    Option.mem_toList, or_and_right, exists_or, exists_eq_left, eq_comm (a := some a), extracted, statements, bank, csv]
  refine or_congr ?_ Iff.rfl
  constructor
  · rintro ⟨core, token, read⟩
    exact ⟨_, ⟨core, token, rfl⟩, read⟩
  · rintro ⟨_, ⟨core, token, rfl⟩, read⟩
    exact ⟨core, token, read⟩

/-- A number that the reader returns is spelled in the text, behind what it has taken off the cell. -/
theorem spelled_of_finite {value : ℚ} (listed : handed ∈ handedOn cell extraction statement)
    (read : handed.decimal = some (.finite value)) :
    CellReading cell handed.takesSigns handed.minus handed.reading handed.text ∧
      ∃ spelling : Spelling, spelling.text = decimalBody handed.text ∧ spelling.numeral.value = value := by
  have column {precision : Nat} {text : List Char}
      (fits : (columnAmount precision text).map Decimal.finite = some (.finite value)) :
      ∃ spelling : Spelling, spelling.text = decimalBody text ∧ spelling.numeral.value = value := by
    obtain ⟨amount, found, same⟩ := Option.map_eq_some_iff.mp fits
    obtain ⟨spelling, written, -, valued, -⟩ := columnAmount_eq_some.mp found
    exact ⟨spelling, written, valued.trans (Decimal.finite.inj same)⟩
  simp only [handedOn, List.mem_append, List.mem_map, Option.mem_toList, List.mem_cons, List.not_mem_nil, or_false] at listed
  rcases listed with ⟨core, token, rfl⟩ | rfl | rfl | rfl <;> simp only [decimal] at read ⊢
  · obtain ⟨spelling, written, -, valued⟩ := pyDecimal_eq_finite.mp read
    exact ⟨cellReading_extraction token, spelling, written, valued⟩
  · exact ⟨cellReading_statement cell statement, column read⟩
  · exact ⟨cellReading_bank cell, column read⟩
  · obtain ⟨amount, found, -⟩ := Option.map_eq_some_iff.mp read
    exact ⟨cellReading_csv found, column read⟩

/-- A cell with a number has the characters of one. -/
theorem mem_joinedContent {value : ℚ} (listed : handed ∈ handedOn cell extraction statement)
    (read : handed.decimal = some (.finite value)) {c : Char} (member : c ∈ joinedContent cell) :
    c.isDigit = true ∨ c ∈ ['.', 'e', 'E', '+', '-'] := by
  obtain ⟨found, spelling, written, -⟩ := spelled_of_finite listed read
  have inside := List.mem_append_right (if parenthesised (pyStrip cell) && !handed.takesSigns then ['-'] else []) member
  rw [joined_of_written found written] at inside
  simp only [List.mem_append] at inside
  rcases inside with taken | own | joined
  · cases minus : handed.minus <;> simp [minus] at taken
    simp [taken]
  · exact spelling.mem_text (List.mem_append_left _ own)
  · exact spelling.joined.mem_text joined

/-- Only invoice extraction returns an infinity or `NaN`, for a cell with an `n` in it. -/
theorem finite_or_extracted (listed : handed ∈ handedOn cell extraction statement) {a : Decimal}
    (read : handed.decimal = some a) : (∃ value, a = .finite value) ∨
      (∃ core, amountCore (some cell) = some core ∧
        handed = ⟨applyConvention core extraction, conventionRead core extraction, false, false, none⟩) ∧
      ∃ c ∈ joinedContent cell, c = 'n' ∨ c = 'N' := by
  have column {precision : Nat} {text : List Char} (fits : (columnAmount precision text).map Decimal.finite = some a) :
      ∃ value, a = .finite value := by
    obtain ⟨value, -, same⟩ := Option.map_eq_some_iff.mp fits
    exact ⟨value, same.symm⟩
  simp only [handedOn, List.mem_append, List.mem_map, Option.mem_toList, List.mem_cons, List.not_mem_nil, or_false] at listed
  rcases listed with ⟨core, token, rfl⟩ | rfl | rfl | rfl <;> simp only [decimal] at read
  · cases special : specialDecimal? (splitSign (decimalBody (applyConvention core extraction))).1
      (splitSign (decimalBody (applyConvention core extraction))).2 with
    | none =>
      simp only [pyDecimal, special] at read
      split at read
      · split_ifs at read
        exact .inl ⟨_, (Option.some.inj read).symm⟩
      · cases read
    | some other =>
      obtain ⟨sign, parts, -⟩ := exists_sign (decimalBody (applyConvention core extraction))
      have inside {c : Char} (member : c ∈ (splitSign (decimalBody (applyConvention core extraction))).2)
          (letter : c = 'n' ∨ c = 'N') : c ∈ joinedContent cell := by
        have body := List.mem_append_right (signText sign) member
        rw [← parts] at body
        have plain : c.toNat < 128 ∧ c.isDigit = false ∧ isPySpace c = false ∧ c ≠ '_' ∧ isVisible c = true ∧ ascii c = c ∧
            c ≠ '-' ∧ c ≠ '.' := by
          rcases letter with rfl | rfl <;> decide
        obtain ⟨small, solid, visible, unjoined, shown, same, unsigned, pointless⟩ := plain
        have text := (mem_decimalBody small solid visible unjoined).mp body
        have shownText : c ∈ content (applyConvention core extraction) :=
          List.mem_map.mpr ⟨c, List.mem_filter.mpr ⟨text, shown⟩, same⟩
        have handed := (@cellReading_extraction cell extraction core token).handed
        simp only [Bool.false_eq_true, if_false, List.nil_append] at handed
        rw [← handed, List.mem_append] at shownText
        have read : c ∈ rewriteAs (conventionRead core extraction) (content cell) := by
          refine shownText.resolve_left ?_
          split <;> simp [unsigned]
        rw [joinedContent, ← @filter_rewriteAs (conventionRead core extraction)]
        exact List.mem_filter.mpr ⟨read, bne_iff_ne.mpr pointless⟩
      refine .inr ⟨⟨core, token, rfl⟩, ?_⟩
      rcases n_mem_of_special special with member | member
      · exact ⟨'n', inside member (.inl rfl), .inl rfl⟩
      · exact ⟨'N', inside member (.inr rfl), .inr rfl⟩
  · exact .inl (column read)
  · exact .inl (column read)
  · exact .inl (column read)

theorem finite_or_same (listed : handed ∈ handedOn cell extraction statement)
    (member : other ∈ handedOn cell extraction statement) {a b : Decimal} (read : handed.decimal = some a)
    (readOther : other.decimal = some b) :
    handed = other ∨ (∃ value, a = .finite value) ∧ ∃ value, b = .finite value := by
  have apart {h : Handed} {value : ℚ} (inside : h ∈ handedOn cell extraction statement) (found : h.decimal = some (.finite value))
      (letter : ∃ c ∈ joinedContent cell, c = 'n' ∨ c = 'N') : False := by
    obtain ⟨c, within, letter⟩ := letter
    rcases mem_joinedContent inside found within with digit | sign
    · rcases letter with rfl | rfl <;> exact absurd digit (by decide)
    · rcases letter with rfl | rfl <;> exact absurd sign (by decide)
  rcases finite_or_extracted listed read with ⟨value, rfl⟩ | ⟨⟨core, token, same⟩, letter⟩
  · rcases finite_or_extracted member readOther with finite | ⟨-, letter⟩
    · exact .inr ⟨⟨value, rfl⟩, finite⟩
    · exact (apart listed read letter).elim
  · rcases finite_or_extracted member readOther with ⟨value, rfl⟩ | ⟨⟨core', token', same'⟩, -⟩
    · exact (apart member readOther letter).elim
    · rw [token, Option.some.injEq] at token'
      rw [same, same', token']
      exact .inl rfl

/-- Two readers find the same sign unless only one of them has taken off a minus that stands inside parentheses. -/
theorem negative_eq_iff {parens takes takes' minus minus' : Bool} {own own' : Option Bool} {front : List Char}
    (leaves : takes = false → minus = false) (leaves' : takes' = false → minus' = false)
    (found : (if parens && !takes then ['-'] else []) ++ front = (if minus then ['-'] else []) ++ signText own)
    (found' : (if parens && !takes' then ['-'] else []) ++ front = (if minus' then ['-'] else []) ++ signText own') :
    ((takes && (parens || minus)) != (own == some true)) = ((takes' && (parens || minus')) != (own' == some true)) ↔
      ((parens && takes && takes') = true → minus = minus') := by
  have counted {put taken : Bool} {sign : Option Bool}
      (parts : (if put then ['-'] else []) ++ front = (if taken then ['-'] else []) ++ signText sign) :
      put.toNat + front.count '-' = taken.toNat + (sign == some true).toNat := by
    have count := congrArg (List.count '-') parts
    have single (b : Bool) : (if b then ['-'] else []).count '-' = b.toNat := by cases b <;> rfl
    have signs : (signText sign).count '-' = (sign == some true).toNat := by
      cases sign with
      | none => rfl
      | some negative => cases negative <;> rfl
    rwa [List.count_append, List.count_append, single, single, signs] at count
  have first := counted found
  have second := counted found'
  generalize (own == some true) = negative at first ⊢
  generalize (own' == some true) = negative' at second ⊢
  generalize front.count '-' = n at first second
  cases parens <;> cases takes <;> cases takes' <;> cases minus <;> cases minus' <;> cases negative <;> cases negative' <;>
    simp at leaves leaves' first second ⊢ <;> omega

/-- Two numbers are the same amount exactly if the readers have taken the cell alike. -/
theorem amount_eq_iff {value value' : ℚ} (listed : handed ∈ handedOn cell extraction statement)
    (member : other ∈ handedOn cell extraction statement) (read : handed.decimal = some (.finite value))
    (readOther : other.decimal = some (.finite value')) :
    (if handed.negates cell then -contextRound value else value) =
      (if other.negates cell then -contextRound value' else value') ↔ handed.TakenAlike cell other := by
  obtain ⟨found, spelling, written, rfl⟩ := spelled_of_finite listed read
  obtain ⟨found', spelling', written', rfl⟩ := spelled_of_finite member readOther
  obtain ⟨size, joined, signs⟩ := taken_of_written found written
  obtain ⟨size', joined', signs'⟩ := taken_of_written found' written'
  rw [joined, Option.some.injEq, Numeral.mk.injEq] at joined'
  obtain ⟨-, digits, -, power⟩ := joined'
  have negative := negative_eq_iff found.leaves found'.leaves signs signs'
  rw [turned_value, turned_value, TakenAlike, size, size']
  by_cases zero : spelling.numeral.digits = 0
  · rw [sizeRead_zero zero, sizeRead_zero (digits.symm.trans zero)]
    simp [zero]
  · have nonzero' : spelling'.numeral.digits ≠ 0 := by rwa [← digits]
    rw [signed_eq_iff (sizeRead_pos zero) (sizeRead_pos nonzero'), sizeRead_eq_iff digits.symm power.symm zero]
    simp only [zero, false_or]
    refine ⟨?_, ?_⟩
    · rintro ⟨sign, places, rounds⟩
      exact ⟨places, negative.mp sign, rounds⟩
    · rintro ⟨places, sign, rounds⟩
      exact ⟨negative.mpr sign, places, rounds⟩

end Handed

/-- Readers that agree have taken a cell alike. -/
theorem Handed.alike_of_agree {cell : List Char} {extraction statement : Option AmountConvention} {first second : Handed}
    (agree : ReadersAgree cell extraction statement) (listed : first ∈ handedOn cell extraction statement)
    (member : second ∈ handedOn cell extraction statement) (found : first.decimal.isSome = true)
    (foundOther : second.decimal.isSome = true) : first.TakenAlike cell second := by
  obtain ⟨a, read⟩ := Option.isSome_iff_exists.mp found
  obtain ⟨b, readOther⟩ := Option.isSome_iff_exists.mp foundOther
  rcases finite_or_same listed member read readOther with rfl | ⟨⟨value, rfl⟩, value', rfl⟩
  · exact .inr ⟨rfl, fun _ => rfl, .inl rfl⟩
  · rw [← amount_eq_iff listed member read readOther]
    refine Decimal.finite.inj (agree _ _ ?_ ?_)
    · exact mem_amountsRead.mpr ⟨first, listed, by rw [amount, read]; rfl⟩
    · exact mem_amountsRead.mpr ⟨second, member, by rw [amount, readOther]; rfl⟩

/-- A cell that proves its convention: both separators, a repeated one before groups of three digits, or a single one
before one or two digits. -/
def ProvesConvention (cell : List Char) : Prop := ∃ core ∈ amountCore (some cell), (conventionProvedBy core).isSome = true

end Payables.Amounts
