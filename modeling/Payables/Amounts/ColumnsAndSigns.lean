import Payables.Amounts.StatementCsv

namespace Payables.Amounts
open Lib

/-- The leftmost column whose header is one of the names of a field. -/
def leftmostColumn (headers : CsvRow) (candidates : List String) : Option Nat := headers.findIdx? (isNamed candidates)

/-- Every field is read from its leftmost column. -/
def ReadsLeftmost (headers : CsvRow) (fields : List (List String)) : Prop :=
  ∀ candidates ∈ fields, columnOf headers candidates = leftmostColumn headers candidates

/-- No column to the right of the leftmost of a field repeats its header. -/
def NoLaterTwin (headers : CsvRow) (fields : List (List String)) : Prop :=
  ∀ candidates ∈ fields, ∀ i ∈ leftmostColumn headers candidates, ∀ j, i < j → headers[j]? ≠ headers[i]?

section Columns

variable {headers : CsvRow} {candidates : List String}

theorem headerIndex_concat (headers : CsvRow) (last header : Cell) :
    headerIndex (headers ++ [last]) header = if header = last then some headers.length else headerIndex headers header := by
  rw [headerIndex, List.zipIdx_append, List.foldl_append, Nat.zero_add]
  rfl

/-- The dictionary holds the last place of a header. -/
theorem headerIndex_eq_some {header : Cell} {i : Nat} : headerIndex headers header = some i ↔
    headers[i]? = some header ∧ ∀ j, i < j → headers[j]? ≠ some header := by
  induction headers using List.reverseRecOn with
  | nil => simp [headerIndex]
  | append_singleton headers last ih =>
    rw [headerIndex_concat]
    by_cases same : header = last
    · rw [if_pos same, Option.some_inj]
      constructor
      · rintro rfl
        refine ⟨by simp [same], ?_⟩
        intro j after
        rw [List.getElem?_eq_none (by simp; omega)]
        simp
      · rintro ⟨here, final⟩
        by_contra other
        have bound : i < (headers ++ [last]).length := (List.getElem?_eq_some_iff.mp here).1
        rw [List.length_append, List.length_singleton] at bound
        exact final headers.length (by omega) (by simp [same])
    · rw [if_neg same, ih]
      have shorter (j : Nat) : (headers ++ [last])[j]? = some header ↔ headers[j]? = some header := by
        rcases Nat.lt_trichotomy j headers.length with before | rfl | after
        · rw [List.getElem?_append_left before]
        · simp [Ne.symm same]
        · rw [List.getElem?_eq_none (by simp; omega), List.getElem?_eq_none (by omega)]
      simp only [ne_eq, shorter]

theorem findCol_eq : findCol headers candidates = (leftmostColumn headers candidates).bind (headers[·]?) := by
  rw [findCol, leftmostColumn, List.find?_eq_bind_findIdx?_getElem?]

/-- A field is read from its leftmost column exactly if the header of that column does not come again. -/
theorem columnOf_eq_leftmost_iff : columnOf headers candidates = leftmostColumn headers candidates ↔
    ∀ i ∈ leftmostColumn headers candidates, ∀ j, i < j → headers[j]? ≠ headers[i]? := by
  rw [columnOf, findCol_eq]
  cases found : leftmostColumn headers candidates with
  | none => simp
  | some i =>
    have inside : i < headers.length := (List.findIdx?_eq_some_iff_getElem.mp found).1
    rw [Option.bind_some, List.getElem?_eq_getElem inside, Option.bind_some, headerIndex_eq_some,
      List.getElem?_eq_getElem inside]
    constructor
    · rintro ⟨-, final⟩ k ⟨⟩
      rwa [List.getElem?_eq_getElem inside]
    · intro final
      have last := final i rfl
      rw [List.getElem?_eq_getElem inside] at last
      exact ⟨rfl, last⟩

theorem readsLeftmost_iff {fields : List (List String)} : ReadsLeftmost headers fields ↔ NoLaterTwin headers fields := by
  constructor
  · intro reads candidates field
    exact (columnOf_eq_leftmost_iff).mp (reads candidates field)
  · intro distinct candidates field
    exact (columnOf_eq_leftmost_iff).mpr (distinct candidates field)

/-- Where no header comes again, the statement is read from the leftmost column of every field. -/
theorem parseCsvStatement_leftmost {first : CsvRow} (distinct : NoLaterTwin (first.map pyStrip) bankFields)
    (parseDate : Cell → Option CalendarDate) (rest : CsvTable) :
    parseCsvStatement parseDate (first :: rest) = readBankStatement leftmostColumn parseDate (first :: rest) := by
  have reads := (readsLeftmost_iff).mpr distinct
  have at_ (candidates : List String) (field : candidates ∈ bankFields) := reads candidates field
  have row : bankRow parseDate (columnOf (first.map pyStrip)) = bankRow parseDate (leftmostColumn (first.map pyStrip)) := by
    funext row
    simp only [bankRow, bankAmount, at_ bankDateHeaders (by simp [bankFields]), at_ bankAmountHeaders (by simp [bankFields]),
      at_ debitHeaders (by simp [bankFields]), at_ creditHeaders (by simp [bankFields]), at_ descHeaders (by simp [bankFields]),
      at_ referenceHeaders (by simp [bankFields]), at_ counterpartyHeaders (by simp [bankFields])]
  cases rest with
  | nil => rfl
  | cons second rest =>
    simp only [parseCsvStatement, readBankStatement, row, at_ bankDateHeaders (by simp [bankFields]),
      at_ bankAmountHeaders (by simp [bankFields]), at_ debitHeaders (by simp [bankFields]),
      at_ creditHeaders (by simp [bankFields])]

theorem parseStatementCsv_leftmost {first : CsvRow} (distinct : NoLaterTwin (first.map pyStrip) statementFields)
    (parseDate : Cell → Option CalendarDate) (rest : CsvTable) :
    parseStatementCsv parseDate (first :: rest) = readVendorStatement leftmostColumn parseDate (first :: rest) := by
  have reads := (readsLeftmost_iff).mpr distinct
  have at_ (candidates : List String) (field : candidates ∈ statementFields) := reads candidates field
  have line (convention : Option AmountConvention) :
      statementLine parseDate (columnOf (first.map pyStrip)) convention =
        statementLine parseDate (leftmostColumn (first.map pyStrip)) convention := by
    funext row
    simp only [statementLine, at_ invoiceHeaders (by simp [statementFields]),
      at_ statementDateHeaders (by simp [statementFields]), at_ statementAmountHeaders (by simp [statementFields]),
      at_ statusHeaders (by simp [statementFields])]
  cases rest with
  | nil => rfl
  | cons second rest =>
    simp only [parseStatementCsv, readVendorStatement, line, at_ invoiceHeaders (by simp [statementFields]),
      at_ statementAmountHeaders (by simp [statementFields])]

/-- Every field of a bank statement comes from its leftmost column. -/
def BankReadsLeftmost (first : CsvRow) : Prop :=
  ReadsLeftmost (first.map pyStrip) bankFields ∧ ∀ parseDate rest,
    parseCsvStatement parseDate (first :: rest) = readBankStatement leftmostColumn parseDate (first :: rest)

/-- Every field of a vendor statement comes from its leftmost column. -/
def VendorReadsLeftmost (first : CsvRow) : Prop :=
  ReadsLeftmost (first.map pyStrip) statementFields ∧ ∀ parseDate rest,
    parseStatementCsv parseDate (first :: rest) = readVendorStatement leftmostColumn parseDate (first :: rest)

theorem bankReadsLeftmost_iff (first : CsvRow) : BankReadsLeftmost first ↔ NoLaterTwin (first.map pyStrip) bankFields := by
  constructor
  · exact fun reads => (readsLeftmost_iff).mp reads.1
  · exact fun distinct => ⟨(readsLeftmost_iff).mpr distinct, parseCsvStatement_leftmost distinct⟩

theorem vendorReadsLeftmost_iff (first : CsvRow) :
    VendorReadsLeftmost first ↔ NoLaterTwin (first.map pyStrip) statementFields := by
  constructor
  · exact fun reads => (readsLeftmost_iff).mp reads.1
  · exact fun distinct => ⟨(readsLeftmost_iff).mpr distinct, parseStatementCsv_leftmost distinct⟩

end Columns

/-- The minus signs and the parentheses of a cell, in their order. -/
def signMarks (cell : List Char) : List Char := cell.filter fun c => c == '-' || isParenthesis c

/-- One minus sign, or one pair of parentheses around the cell, or both. -/
def MarkedNegative (cell : Cell) : Prop :=
  signMarks cell = ['-'] ∨
    parenthesised (pyStrip cell) = true ∧ (signMarks cell = ['(', ')'] ∨ signMarks cell = ['(', '-', ')'])

/-- An amount is read only off a cell without a sign or with one that is well formed, and then with that sign. -/
def SignAsWritten (cell : Cell) (read : Option ℚ) : Prop :=
  ∀ amount ∈ read, signMarks cell = [] ∧ 0 ≤ amount ∨ MarkedNegative cell ∧ amount ≤ 0

/-- What a parser hands to `Decimal` from a cell, where that is an amount, has no minus of its own, neither in front nor
in its exponent, and the parentheses taken off the cell are a pair or none. A minus of its own does no harm where it is
the only sign of the cell, or the amount is zero. -/
def SignsUndisturbed (cell : Cell) (minus : Bool) (rest : List Char) : Prop :=
  ∀ numeral ∈ numeral? (decimalBody rest), (columnAmount 18 rest).isSome = true →
    (leading isParenthesis (pyStrip cell) = [] ∧ trailing isParenthesis (pyStrip cell) = [] ∨
      leading isParenthesis (pyStrip cell) = ['('] ∧ trailing isParenthesis (pyStrip cell) = [')']) ∧
    ('-' ∉ rest ∨ minus = false ∧ rest.count '-' = 1 ∧
      (numeral.digits = 0 ∨ (numeral.negative = true ↔ leading isParenthesis (pyStrip cell) = [])))

section Signs

variable {cell rest : List Char} {minus : Bool}

theorem signMarks_append (a b : List Char) : signMarks (a ++ b) = signMarks a ++ signMarks b := List.filter_append _ _

theorem signMarks_strip (text : List Char) : signMarks (pyStrip text) = signMarks text := by
  refine filter_strip ?_ text
  intro c blank
  by_contra mark
  simp only [Bool.not_eq_false, Bool.or_eq_true, beq_iff_eq, isParenthesis] at mark
  rcases mark with rfl | rfl | rfl <;> exact absurd blank (by decide)

theorem signMarks_parentheses {run : List Char} (all : ∀ c ∈ run, isParenthesis c = true) : signMarks run = run := by
  rw [signMarks, List.filter_eq_self]
  intro c member
  rw [all c member, Bool.or_true]

/-- The marks of a cell: the parentheses taken off it, and those of what is between them. -/
theorem signMarks_cell (cell : Cell) : signMarks cell = leading isParenthesis (pyStrip cell) ++
    (signMarks (stripParentheses (pyStrip cell)) ++ trailing isParenthesis (pyStrip cell)) := by
  have front : signMarks (leading isParenthesis (pyStrip cell)) = leading isParenthesis (pyStrip cell) :=
    signMarks_parentheses fun _ member => blank_of_mem_leading member
  have back : signMarks (trailing isParenthesis (pyStrip cell)) = trailing isParenthesis (pyStrip cell) :=
    signMarks_parentheses fun _ member => blank_of_mem_trailing member
  conv_lhs => rw [← signMarks_strip, ← leading_strip_trailing isParenthesis (pyStrip cell), signMarks_append,
    signMarks_append, front, back]
  rfl

/-- Of the marks, a number has minus signs only. -/
theorem signMarks_spelled {spelling : Spelling} (written : spelling.text = decimalBody rest) :
    signMarks rest = List.replicate (rest.count '-') '-' := by
  have none (c : Char) (parenthesis : c = '(' ∨ c = ')') : c ∉ rest := by
    intro member
    have inside : c ∈ spelling.text := by
      rw [written]
      rcases parenthesis with rfl | rfl <;>
        exact (mem_decimalBody (by decide) (by decide) (by decide) (by decide)).mpr member
    rcases spelling.mem_text inside with digit | other
    · rcases parenthesis with rfl | rfl <;> exact absurd digit (by decide)
    · rcases parenthesis with rfl | rfl <;> exact absurd other (by decide)
  rw [← List.filter_beq, signMarks]
  refine List.filter_congr ?_
  intro c member
  have solid : isParenthesis c = false := by
    rw [isParenthesis, Bool.or_eq_false_iff]
    constructor
    · rw [beq_eq_false_iff_ne]
      rintro rfl
      exact none _ (.inl rfl) member
    · rw [beq_eq_false_iff_ne]
      rintro rfl
      exact none _ (.inr rfl) member
  rw [solid, Bool.or_false]

/-- A cell is in parentheses exactly if one opens the run in front and one closes the run behind. -/
theorem parenthesised_iff (inner : stripParentheses (pyStrip cell) ≠ []) : parenthesised (pyStrip cell) = true ↔
    (leading isParenthesis (pyStrip cell)).head? = some '(' ∧ (trailing isParenthesis (pyStrip cell)).getLast? = some ')' := by
  have parts := leading_strip_trailing isParenthesis (pyStrip cell)
  have solid {c : Char} (parenthesis : isParenthesis c = true) :
      (stripParentheses (pyStrip cell)).head? ≠ some c ∧ (stripParentheses (pyStrip cell)).getLast? ≠ some c := by
    constructor
    · intro head
      have other : isParenthesis c = false := head?_strip head
      rw [parenthesis] at other
      cases other
    · intro last
      have other : isParenthesis c = false := getLast?_strip last
      rw [parenthesis] at other
      cases other
  change leading isParenthesis (pyStrip cell) ++ (stripParentheses (pyStrip cell) ++ trailing isParenthesis (pyStrip cell)) =
    pyStrip cell at parts
  have head : (pyStrip cell).head? = some '(' ↔ (leading isParenthesis (pyStrip cell)).head? = some '(' := by
    conv_lhs => rw [← parts]
    cases front : leading isParenthesis (pyStrip cell) with
    | cons c run => simp
    | nil =>
      rw [List.nil_append, List.head?_append_of_ne_nil _ inner, List.head?_nil]
      simp [(@solid '(' (by decide)).1]
  have last : (pyStrip cell).getLast? = some ')' ↔ (trailing isParenthesis (pyStrip cell)).getLast? = some ')' := by
    conv_lhs => rw [← parts, ← List.append_assoc]
    cases back : trailing isParenthesis (pyStrip cell) with
    | cons c run => rw [List.getLast?_append_of_ne_nil _ (by simp)]
    | nil =>
      rw [List.append_nil, List.getLast?_append_of_ne_nil _ inner, List.getLast?_nil]
      simp [(@solid ')' (by decide)).2]
  rw [parenthesised, Bool.and_eq_true, beq_iff_eq, beq_iff_eq, head, last]

end Signs

/-- A cell whose number is handed to `Decimal`. -/
structure NumberCell (cell : Cell) (minus : Bool) (rest : List Char) : Prop where
  marks : signMarks (stripParentheses (pyStrip cell)) = (if minus then ['-'] else []) ++ signMarks rest
  inner : rest ≠ [] → stripParentheses (pyStrip cell) ≠ []

namespace NumberCell

variable {cell : Cell} {minus : Bool} {rest : List Char} {spelling : Spelling}

theorem signMarks_eq (number : NumberCell cell minus rest) (written : spelling.text = decimalBody rest) :
    signMarks cell = leading isParenthesis (pyStrip cell) ++
      (((if minus then ['-'] else []) ++ List.replicate (rest.count '-') '-') ++ trailing isParenthesis (pyStrip cell)) := by
  rw [signMarks_cell, number.marks, signMarks_spelled written]

theorem count_parentheses (number : NumberCell cell minus rest) (written : spelling.text = decimalBody rest) :
    (signMarks cell).countP isParenthesis =
      (leading isParenthesis (pyStrip cell)).length + (trailing isParenthesis (pyStrip cell)).length := by
  have front : (leading isParenthesis (pyStrip cell)).countP isParenthesis = (leading isParenthesis (pyStrip cell)).length :=
    List.countP_eq_length.mpr fun _ member => blank_of_mem_leading member
  have back : (trailing isParenthesis (pyStrip cell)).countP isParenthesis = (trailing isParenthesis (pyStrip cell)).length :=
    List.countP_eq_length.mpr fun _ member => blank_of_mem_trailing member
  have middle : ((if minus then ['-'] else []) ++ List.replicate (rest.count '-') '-').countP isParenthesis = 0 := by
    rw [List.countP_eq_zero]
    intro c member
    rw [List.mem_append] at member
    rcases member with sign | run
    · cases minus <;> simp at sign
      rw [sign]
      decide
    · rw [List.eq_of_mem_replicate run]
      decide
  rw [number.signMarks_eq written, List.countP_append, List.countP_append, front, back, middle, Nat.zero_add]

theorem count_minus (number : NumberCell cell minus rest) (written : spelling.text = decimalBody rest) :
    (signMarks cell).count '-' = (if minus then 1 else 0) + rest.count '-' := by
  have gone (run : List Char) (all : ∀ c ∈ run, isParenthesis c = true) : run.count '-' = 0 := by
    rw [List.count_eq_zero]
    intro member
    exact absurd (all _ member) (by decide)
  have front := gone (leading isParenthesis (pyStrip cell)) fun _ member => blank_of_mem_leading member
  have back := gone (trailing isParenthesis (pyStrip cell)) fun _ member => blank_of_mem_trailing member
  rw [number.signMarks_eq written, List.count_append, List.count_append, List.count_append, front, back,
    List.count_replicate_self]
  cases minus <;> simp

/-- The parentheses of a cell that is read are its pair or none. -/
theorem ends_of_marks (number : NumberCell cell minus rest) (written : spelling.text = decimalBody rest)
    (formed : signMarks cell = [] ∨ MarkedNegative cell) :
    (leading isParenthesis (pyStrip cell) = [] ∧ trailing isParenthesis (pyStrip cell) = [] ∨
      leading isParenthesis (pyStrip cell) = ['('] ∧ trailing isParenthesis (pyStrip cell) = [')']) := by
  have counted := number.count_parentheses written
  have nonempty : rest ≠ [] := by
    rintro rfl
    exact spelling.text_ne_nil written
  have bare (marks : (signMarks cell).countP isParenthesis = 0) :
      leading isParenthesis (pyStrip cell) = [] ∧ trailing isParenthesis (pyStrip cell) = [] := by
    constructor
    · exact List.eq_nil_of_length_eq_zero (by omega)
    · exact List.eq_nil_of_length_eq_zero (by omega)
  have pair (two : (signMarks cell).countP isParenthesis = 2) (around : parenthesised (pyStrip cell) = true) :
      leading isParenthesis (pyStrip cell) = ['('] ∧ trailing isParenthesis (pyStrip cell) = [')'] := by
    obtain ⟨opens, closes⟩ := (parenthesised_iff (number.inner nonempty)).mp around
    cases front : leading isParenthesis (pyStrip cell) with
    | nil => simp [front] at opens
    | cons c run =>
      cases back : trailing isParenthesis (pyStrip cell) with
      | nil => simp [back] at closes
      | cons d others =>
        rw [front, back, List.length_cons, List.length_cons] at counted
        have noRun : run = [] := List.eq_nil_of_length_eq_zero (by omega)
        have noOthers : others = [] := List.eq_nil_of_length_eq_zero (by omega)
        rw [front, noRun] at opens
        rw [back, noOthers] at closes
        simp only [List.head?_cons, Option.some.injEq] at opens
        simp only [List.getLast?_singleton, Option.some.injEq] at closes
        rw [opens, closes, noRun, noOthers]
        exact ⟨rfl, rfl⟩
  rcases formed with unsigned | minusOnly | ⟨around, marks | marks⟩
  · exact .inl (bare (by rw [unsigned]; rfl))
  · exact .inl (bare (by rw [minusOnly]; rfl))
  · exact .inr (pair (by rw [marks]; rfl) around)
  · exact .inr (pair (by rw [marks]; rfl) around)

/-- The value of a numeral that is no more than zero, or no less. -/
theorem value_nonpos_iff (numeral : Numeral) : numeral.value ≤ 0 ↔ numeral.digits = 0 ∨ numeral.negative = true := by
  constructor
  · intro nonpos
    by_cases negative : numeral.negative = true
    · exact .inr negative
    · have nonneg := numeral.value_nonneg (Bool.eq_false_iff.mpr negative)
      exact .inl (numeral.value_eq_zero_iff.mp (le_antisymm nonpos nonneg))
  · rintro (zero | negative)
    · exact (numeral.value_eq_zero_iff.mpr zero).le
    · exact numeral.value_nonpos negative

theorem value_nonneg_iff (numeral : Numeral) : 0 ≤ numeral.value ↔ numeral.digits = 0 ∨ numeral.negative = false := by
  constructor
  · intro nonneg
    by_cases negative : numeral.negative = true
    · have nonpos := numeral.value_nonpos negative
      exact .inl (numeral.value_eq_zero_iff.mp (le_antisymm nonpos nonneg))
    · exact .inr (Bool.eq_false_iff.mpr negative)
  · rintro (zero | positive)
    · exact (numeral.value_eq_zero_iff.mpr zero).ge
    · exact numeral.value_nonneg positive

theorem neg_contextRound_nonpos_iff {value : ℚ} : -contextRound value ≤ 0 ↔ 0 ≤ value := by
  rw [neg_nonpos]
  constructor
  · intro rounded
    by_contra negative
    exact absurd rounded (not_le.mpr (contextRound_neg_of_neg (not_le.mp negative)))
  · exact contextRound_nonneg

/-- A numeral without a minus is not negative. -/
theorem positive_of_no_minus (written : spelling.text = decimalBody rest) (none : '-' ∉ rest) :
    spelling.numeral.negative = false := by
  by_contra negative
  have signed : spelling.sign = some true := by
    simpa [Spelling.numeral] using negative
  have inside : '-' ∈ spelling.text := by
    simp [Spelling.text, signed, signText]
  rw [written] at inside
  exact none ((mem_decimalBody (by decide) (by decide) (by decide) (by decide)).mp inside)

/-- The sign that is read: that of the numeral, turned round by parentheses or a minus taken off the cell. -/
def signedAmount (cell : Cell) (minus : Bool) (amount : ℚ) : ℚ :=
  if parenthesised (pyStrip cell) || minus then -contextRound amount else amount

theorem parenthesised_of_ends (number : NumberCell cell minus rest) (written : spelling.text = decimalBody rest)
    (ends : leading isParenthesis (pyStrip cell) = [] ∧ trailing isParenthesis (pyStrip cell) = [] ∨
      leading isParenthesis (pyStrip cell) = ['('] ∧ trailing isParenthesis (pyStrip cell) = [')']) :
    parenthesised (pyStrip cell) = !(leading isParenthesis (pyStrip cell) == []) := by
  have nonempty : rest ≠ [] := by
    rintro rfl
    exact spelling.text_ne_nil written
  have around := parenthesised_iff (number.inner nonempty)
  rcases ends with ⟨front, back⟩ | ⟨front, back⟩
  · rw [front, back] at around
    rw [front]
    simpa using around
  · rw [front, back] at around
    rw [front]
    simpa using around

/-- An amount whose sign is read right has no signs of its own. -/
theorem undisturbed (number : NumberCell cell minus rest) (written : spelling.text = decimalBody rest)
    (property : signMarks cell = [] ∧ 0 ≤ signedAmount cell minus spelling.numeral.value ∨
      MarkedNegative cell ∧ signedAmount cell minus spelling.numeral.value ≤ 0) :
    '-' ∉ rest ∨ minus = false ∧ rest.count '-' = 1 ∧
      (spelling.numeral.digits = 0 ∨ (spelling.numeral.negative = true ↔ leading isParenthesis (pyStrip cell) = [])) := by
  have counted := number.count_minus written
  have ends := number.ends_of_marks written (property.imp And.left And.left)
  rcases property with ⟨unsigned, -⟩ | ⟨marked, nonpos⟩
  · rw [unsigned, List.count_nil] at counted
    exact .inl (List.count_eq_zero.mp (by omega))
  have few : (signMarks cell).count '-' ≤ 1 := by
    rcases marked with marks | ⟨-, marks | marks⟩ <;> rw [marks] <;> decide
  by_cases none : rest.count '-' = 0
  · exact .inl (List.count_eq_zero.mp none)
  -- The only minus of the cell is in its number, so that the numeral is negative unless parentheses turn it round.
  have alone : minus = false ∧ rest.count '-' = 1 := by
    cases minus
    · exact ⟨rfl, by simp at counted; omega⟩
    · simp only [if_true] at counted
      omega
  refine .inr ⟨alone.1, alone.2, ?_⟩
  rw [signedAmount, parenthesised_of_ends number written ends, alone.1, Bool.or_false] at nonpos
  by_cases bare : leading isParenthesis (pyStrip cell) = []
  · simp only [bare, beq_self_eq_true, Bool.not_true, Bool.false_eq_true, if_false, value_nonpos_iff] at nonpos
    simpa [bare] using nonpos
  · simp only [bare, Bool.not_eq_true', beq_eq_false_iff_ne, ne_eq, not_false_eq_true, if_true,
      neg_contextRound_nonpos_iff, value_nonneg_iff] at nonpos
    simpa [bare] using nonpos

/-- A number without signs of its own gets the sign of the marks around it. -/
theorem signed_of_no_minus (number : NumberCell cell minus rest) (written : spelling.text = decimalBody rest)
    (ends : leading isParenthesis (pyStrip cell) = [] ∧ trailing isParenthesis (pyStrip cell) = [] ∨
      leading isParenthesis (pyStrip cell) = ['('] ∧ trailing isParenthesis (pyStrip cell) = [')']) (none : '-' ∉ rest) :
    signMarks cell = [] ∧ 0 ≤ signedAmount cell minus spelling.numeral.value ∨
      MarkedNegative cell ∧ signedAmount cell minus spelling.numeral.value ≤ 0 := by
  have around := parenthesised_of_ends number written ends
  have marks := number.signMarks_eq written
  have positive := spelling.numeral.value_nonneg (positive_of_no_minus written none)
  rw [List.count_eq_zero.mpr none, List.replicate_zero, List.append_nil] at marks
  rcases ends with ⟨front, back⟩ | ⟨front, back⟩
  · rw [front] at around
    rw [front, back] at marks
    cases minus
    · left
      simp only [signedAmount, around]
      exact ⟨by simpa using marks, by simpa using positive⟩
    · right
      refine ⟨.inl (by simpa using marks), ?_⟩
      simp only [signedAmount, around, Bool.or_true, if_true]
      exact (neg_contextRound_nonpos_iff).mpr positive
  · rw [front] at around
    rw [front, back] at marks
    right
    refine ⟨.inr ⟨by simpa using around, by cases minus <;> simp [marks]⟩, ?_⟩
    have flag : (parenthesised (pyStrip cell) || minus) = true := by simp [around]
    rw [signedAmount, if_pos flag]
    exact (neg_contextRound_nonpos_iff).mpr positive

/-- A number with the only minus of its cell is negative, in whatever place the minus is. -/
theorem signed_of_own_minus (number : NumberCell cell false rest) (written : spelling.text = decimalBody rest)
    (ends : leading isParenthesis (pyStrip cell) = [] ∧ trailing isParenthesis (pyStrip cell) = [] ∨
      leading isParenthesis (pyStrip cell) = ['('] ∧ trailing isParenthesis (pyStrip cell) = [')'])
    (one : rest.count '-' = 1)
    (agree : spelling.numeral.digits = 0 ∨
      (spelling.numeral.negative = true ↔ leading isParenthesis (pyStrip cell) = [])) :
    MarkedNegative cell ∧ signedAmount cell false spelling.numeral.value ≤ 0 := by
  have around := parenthesised_of_ends number written ends
  have marks := number.signMarks_eq written
  rw [one, List.replicate_one] at marks
  rcases ends with ⟨front, back⟩ | ⟨front, back⟩
  · rw [front] at around agree
    rw [front, back] at marks
    refine ⟨.inl (by simpa using marks), ?_⟩
    simp only [signedAmount, around]
    exact (value_nonpos_iff _).mpr (by simpa using agree)
  · rw [front] at around agree
    rw [front, back] at marks
    refine ⟨.inr ⟨by simpa using around, .inr (by simpa using marks)⟩, ?_⟩
    have flag : (parenthesised (pyStrip cell) || false) = true := by simp [around]
    rw [signedAmount, if_pos flag]
    exact (neg_contextRound_nonpos_iff).mpr ((value_nonneg_iff _).mpr (by simpa using agree))

/-- What is read off a cell has the sign of the cell exactly where its number leaves the signs alone. -/
theorem signAsWritten_iff (number : NumberCell cell minus rest) :
    SignAsWritten cell ((columnAmount 18 rest).map (signedAmount cell minus)) ↔ SignsUndisturbed cell minus rest := by
  cases read : columnAmount 18 rest with
  | none => simp [SignAsWritten, SignsUndisturbed, read]
  | some amount =>
    obtain ⟨spelling, written, -, rfl, -⟩ := columnAmount_eq_some.mp read
    have parsed : numeral? (decimalBody rest) = some spelling.numeral := written ▸ spelling.numeral?_text
    simp only [SignAsWritten, SignsUndisturbed, Option.map_some, Option.mem_some_iff, forall_eq', read, Option.isSome_some,
      true_imp_iff, parsed]
    constructor
    · intro property
      exact ⟨number.ends_of_marks written (property.imp And.left And.left), number.undisturbed written property⟩
    · rintro ⟨ends, none | ⟨rfl, one, agree⟩⟩
      · exact number.signed_of_no_minus written ends none
      · exact .inr (number.signed_of_own_minus written ends one agree)

end NumberCell

section Cells

variable {cell : Cell} {convention : Option AmountConvention}

theorem mark_ne {c d : Char} (mark : (c == '-' || isParenthesis c) = true) (other : (d == '-' || isParenthesis d) = false) :
    c ≠ d := by
  rintro rfl
  rw [mark] at other
  cases other

/-- Dropping characters that are no marks leaves the marks. -/
theorem signMarks_filter {keep : Char → Bool} (kept : ∀ c, (c == '-' || isParenthesis c) = true → keep c = true)
    (text : List Char) : signMarks (text.filter keep) = signMarks text := by
  rw [signMarks, List.filter_filter]
  refine List.filter_congr ?_
  intro c _
  by_cases mark : (c == '-' || isParenthesis c) = true
  · rw [mark, kept c mark, Bool.and_self]
  · rw [Bool.eq_false_iff.mpr mark, Bool.false_and]

theorem signMarks_applyConvention (core : List Char) : signMarks (applyConvention core convention) = signMarks core := by
  rw [applyConvention_eq]
  cases conventionRead core convention with
  | us =>
    refine signMarks_filter ?_ core
    exact fun c mark => bne_iff_ne.mpr (mark_ne mark (by decide))
  | eu =>
    have dropped : signMarks (core.filter (· != '.')) = signMarks core := by
      refine signMarks_filter ?_ core
      exact fun c mark => bne_iff_ne.mpr (mark_ne mark (by decide))
    rw [rewriteAs, ← dropped, signMarks, List.filter_map]
    have marks : (fun c => c == '-' || isParenthesis c) ∘ (fun c => if c = ',' then '.' else c) =
        fun c => c == '-' || isParenthesis c := by
      funext c
      by_cases comma : c = ','
      · rw [Function.comp_apply, if_pos comma, comma]
        decide
      · rw [Function.comp_apply, if_neg comma]
    rw [marks]
    refine (List.map_congr_left ?_).trans (List.map_id' _)
    intro c member
    exact if_neg (mark_ne (List.mem_filter.mp member).2 (by decide))

/-- A minus in front of a text is one of its marks. -/
theorem signMarks_minus (body : List Char) : signMarks body =
    (if body.head? == some '-' then ['-'] else []) ++
      signMarks (if body.head? == some '-' then body.drop 1 else body) := by
  cases body with
  | nil => rfl
  | cons c rest =>
    by_cases minus : c = '-'
    · rw [minus]
      rfl
    · have other : ((c :: rest).head? == some '-') = false := by simpa using minus
      rw [other]
      rfl

theorem columnAmount_nil (precision : Nat) : columnAmount precision [] = none := by
  cases read : columnAmount precision [] with
  | none => rfl
  | some amount =>
    obtain ⟨spelling, written, -⟩ := columnAmount_eq_some.mp read
    exact absurd written spelling.text_ne_nil

/-- Whether `_parse_amount` takes a minus off a cell. -/
def bankMinus (cell : Cell) : Bool := (bankBody (pyStrip cell)).head? == some '-'

/-- What `_parse_amount` hands to `Decimal`. -/
def bankRest (cell : Cell) : List Char :=
  if bankMinus cell then (bankBody (pyStrip cell)).drop 1 else bankBody (pyStrip cell)

theorem numberCell_bank (cell : Cell) : NumberCell cell (bankMinus cell) (bankRest cell) where
  marks := by
    have body : signMarks (bankBody (pyStrip cell)) = signMarks (stripParentheses (pyStrip cell)) := by
      rw [bankBody, signMarks_strip]
      refine signMarks_filter ?_ _
      intro c mark
      have comma : c ≠ ',' := mark_ne mark (by decide)
      have dollar : c ≠ '$' := mark_ne mark (by decide)
      simp [comma, dollar]
    rw [← body]
    exact signMarks_minus _
  inner := by
    intro nonempty empty
    have body : bankBody (pyStrip cell) = [] := by
      rw [bankBody, empty]
      rfl
    exact nonempty (by simp [bankRest, body])

theorem parseBankAmount_eq (cell : Cell) : parseBankAmount cell =
    (columnAmount 18 (bankRest cell)).map (NumberCell.signedAmount cell (bankMinus cell)) := by
  rw [parseBankAmount]
  by_cases empty : pyStrip cell = []
  · have rest : bankRest cell = [] := by
      rw [bankRest, empty]
      cases bankMinus cell <;> rfl
    simp only [empty, if_true, rest, columnAmount_nil, Option.map_none]
  · simp only [empty, if_false]
    rfl

/-- Whether `_amount_core` takes a minus off a cell of a vendor statement. -/
def statementMinus (cell : Cell) : Bool := (statementBody (pyStrip cell)).head? == some '-'

/-- What `parse_amount` hands to `Decimal`. -/
def statementRest (cell : Cell) (convention : Option AmountConvention) : List Char :=
  applyConvention (behindMinus (statementBody (pyStrip cell))) convention

theorem numberCell_statement (cell : Cell) (convention : Option AmountConvention) :
    NumberCell cell (statementMinus cell) (statementRest cell convention) where
  marks := by
    have body : signMarks (statementBody (pyStrip cell)) = signMarks (stripParentheses (pyStrip cell)) := by
      rw [statementBody, signMarks_strip]
      refine signMarks_filter ?_ _
      intro c mark
      have other : c ∉ amountSymbols := by
        intro member
        have all : ∀ d ∈ amountSymbols, (d == '-' || isParenthesis d) = false := by simp [amountSymbols, isParenthesis]
        exact mark_ne mark (all c member) rfl
      simpa using other
    have behind : signMarks (behindMinus (statementBody (pyStrip cell))) =
        signMarks (if statementMinus cell then (statementBody (pyStrip cell)).drop 1 else statementBody (pyStrip cell)) := by
      by_cases minus : (statementBody (pyStrip cell)).head? = some '-'
      · rw [behindMinus, if_pos minus, signMarks_strip, statementMinus, if_pos (beq_iff_eq.mpr minus)]
      · rw [behindMinus, if_neg minus, statementMinus, if_neg (by simpa using minus)]
    rw [statementRest, signMarks_applyConvention, behind, ← body]
    exact signMarks_minus _
  inner := by
    intro nonempty empty
    have body : statementBody (pyStrip cell) = [] := by
      rw [statementBody, empty]
      rfl
    refine nonempty ?_
    rw [statementRest, body]
    rfl

/-- A number has a digit. -/
theorem any_isAnyDigit_of_columnAmount {precision : Nat} {text : List Char} {amount : ℚ}
    (read : columnAmount precision text = some amount) : text.any isAnyDigit = true := by
  obtain ⟨spelling, written, -⟩ := columnAmount_eq_some.mp read
  obtain ⟨d, digit⟩ := List.exists_mem_of_ne_nil _ spelling.nonempty
  have inside : d ∈ decimalBody text := by
    rw [← written, Spelling.text, Spelling.mantissa]
    rcases List.mem_append.mp digit with whole | fraction <;> simp [*]
  obtain ⟨c, member, folded⟩ := List.mem_map.mp inside
  have source : c ∈ text := mem_of_mem_strip (List.mem_of_mem_filter member)
  have shown := spelling.digits d digit
  rw [← folded] at shown
  exact List.any_eq_true.mpr ⟨c, source, isAnyDigit_of_foldDigit shown⟩

/-- The digits of a rewritten token are those of the token. -/
theorem mem_of_mem_applyConvention {core : List Char} {c : Char} (member : c ∈ applyConvention core convention)
    (digit : isAnyDigit c = true) : c ∈ core := by
  rw [applyConvention_eq] at member
  cases reading : conventionRead core convention with
  | us =>
    rw [reading] at member
    exact List.mem_of_mem_filter member
  | eu =>
    rw [reading, rewriteAs, List.mem_map] at member
    obtain ⟨d, inside, rfl⟩ := member
    by_cases comma : d = ','
    · rw [if_pos comma] at digit
      exact absurd digit (by decide)
    · rw [if_neg comma]
      exact List.mem_of_mem_filter inside

theorem parseAmount_eq (cell : Cell) (convention : Option AmountConvention) : parseAmount cell convention =
    (columnAmount 18 (statementRest cell convention)).map (NumberCell.signedAmount cell (statementMinus cell)) := by
  by_cases refused : pyStrip cell = [] ∨ behindMinus (statementBody (pyStrip cell)) = [] ∨
      (behindMinus (statementBody (pyStrip cell))).any isAnyDigit = false
  · have none : columnAmount 18 (statementRest cell convention) = none := by
      cases read : columnAmount 18 (statementRest cell convention) with
      | none => rfl
      | some amount =>
        obtain ⟨c, member, digit⟩ := List.any_eq_true.mp (any_isAnyDigit_of_columnAmount read)
        have source := mem_of_mem_applyConvention member digit
        have some : (behindMinus (statementBody (pyStrip cell))).any isAnyDigit = true := List.any_eq_true.mpr ⟨c, source, digit⟩
        rcases refused with empty | empty | noDigit
        · rw [empty] at source
          cases source
        · rw [empty] at source
          cases source
        · rw [some] at noDigit
          cases noDigit
    rw [parseAmount, statementCore, if_pos refused, none]
    rfl
  · have signed : NumberCell.signedAmount cell (statementMinus cell) = fun amount =>
        if parenthesised (pyStrip cell) || (statementBody (pyStrip cell)).head? == some '-' then -contextRound amount
        else amount := rfl
    rw [parseAmount, statementCore, if_neg refused, Option.bind_some, signed, statementRest]

end Cells

/-- Each parser of statements reads every field from its leftmost column exactly if no later column repeats that header,
and reads every amount with the sign of its cell exactly if the number of the cell leaves the signs alone. -/
theorem statements_read_as_written (first : CsvRow) (cell : Cell) (convention : Option AmountConvention) :
    ((BankReadsLeftmost first ↔ NoLaterTwin (first.map pyStrip) bankFields) ∧
        (VendorReadsLeftmost first ↔ NoLaterTwin (first.map pyStrip) statementFields)) ∧
      (SignAsWritten cell (parseBankAmount cell) ↔ SignsUndisturbed cell (bankMinus cell) (bankRest cell)) ∧
      (SignAsWritten cell (parseAmount cell convention) ↔
        SignsUndisturbed cell (statementMinus cell) (statementRest cell convention)) := by
  refine ⟨⟨bankReadsLeftmost_iff first, vendorReadsLeftmost_iff first⟩, ?_, ?_⟩
  · rw [parseBankAmount_eq]
    exact (numberCell_bank cell).signAsWritten_iff
  · rw [parseAmount_eq]
    exact (numberCell_statement cell convention).signAsWritten_iff

/-- Of two amount columns with one header the right one is read. -/
theorem later_twin_read :
    ¬((∀ first : CsvRow, BankReadsLeftmost first ∧ VendorReadsLeftmost first) ∧
      (∀ cell : Cell, SignAsWritten cell (parseBankAmount cell)) ∧
      ∀ (cell : Cell) (convention : Option AmountConvention), SignAsWritten cell (parseAmount cell convention)) := by
  rintro ⟨columns, -, -⟩
  have bank := (columns ["Date".toList, "Amount".toList, "Amount".toList]).1.1
  have read := bank bankAmountHeaders (by simp [bankFields])
  exact absurd read (by decide)

end Payables.Amounts
