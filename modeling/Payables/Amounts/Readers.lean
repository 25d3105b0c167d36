import Payables.Amounts.Conventions
import Payables.Amounts.Decimals

namespace Payables.Amounts
open Lib

/-- `text.startswith("(") and text.endswith(")")`. -/
def parenthesised (text : List Char) : Bool := text.head? == some '(' && text.getLast? == some ')'

def isParenthesis (c : Char) : Bool := c == '(' || c == ')'

/-- `text.strip("()")`. -/
def stripParentheses (text : List Char) : List Char := (text.dropWhile isParenthesis).rdropWhile isParenthesis

/-- `_NULL_SENTINELS`. -/
def nullSentinels : List String :=
  ["", "null", "none", "n/a", "na", "-", "—", "string or null", "string", "tbd", "unknown", "not provided", "not specified",
   "not available"]

def isNullSentinel (text : List Char) : Bool := nullSentinels.any fun sentinel => sentinel.toList == text.map Char.toLower

/-- What an extracted money field carries beside its number: `_CURRENCY_SYMBOLS`, `_NUMERIC_WHITESPACE` and percent signs. -/
def decorations : List Char :=
  ['$', '€', '£', '¥', '₹', '₽', '₩', '฿', '₪', '₦', ' ', '\t', '\u00a0', '\u202f', '%']

/-- `_amount_core` of invoice extraction. -/
def amountCore (val : Option (List Char)) : Option (List Char) :=
  match val with
  | none => none
  | some raw =>
    let s := pyStrip raw
    if isNullSentinel s then none
    else
      let signed := if parenthesised s then '-' :: pyStrip (s.drop 1).dropLast else s
      let bare := (signed.filter (!decorations.contains ·)).map fun c => if c = '−' then '-' else c
      if bare = [] ∨ isNullSentinel bare then none else some bare

/-- `_clean_decimal`. -/
def cleanDecimal (val : Option (List Char)) (convention : Option AmountConvention) : Option Decimal :=
  (amountCore val).bind fun core => pyDecimal (applyConvention core convention)

/-- `extraction_amount_convention`, of the money fields of a document. -/
def extractionAmountConvention (tokens : List (Option (List Char))) : Option AmountConvention :=
  detectConvention (tokens.filterMap amountCore)

/-- `_AMOUNT_SYMBOLS`. -/
def amountSymbols : List Char := ['$', '€', '£', '¥', ' ', '\t', '\u00a0', '\u202f']

/-- A cell of a statement without what surrounds its number, in `_amount_core` of the vendor statements. -/
def statementBody (s : List Char) : List Char := pyStrip ((stripParentheses s).filter (!amountSymbols.contains ·))

/-- What stands behind a leading minus. -/
def behindMinus (body : List Char) : List Char := if body.head? = some '-' then pyStrip (body.drop 1) else body

/-- `_amount_core` of the vendor statements: the digits and separators of a cell, and whether they are negative. -/
def statementCore (raw : List Char) : Option (List Char × Bool) :=
  let s := pyStrip raw
  let digits := behindMinus (statementBody s)
  if s = [] ∨ digits = [] ∨ digits.any isAnyDigit = false then none
  else some (digits, parenthesised s || (statementBody s).head? == some '-')

/-- `parse_amount`. -/
def parseAmount (raw : List Char) (convention : Option AmountConvention) : Option ℚ :=
  (statementCore raw).bind fun parsed =>
    (columnAmount 18 (applyConvention parsed.1 convention)).map fun amount =>
      if parsed.2 then -contextRound amount else amount

/-- A cell of a bank statement without what surrounds its number. -/
def bankBody (s : List Char) : List Char := pyStrip ((stripParentheses s).filter fun c => c != ',' && c != '$')

/-- `_parse_amount`. -/
def parseBankAmount (raw : List Char) : Option ℚ :=
  let s := pyStrip raw
  if s = [] then none
  else
    let body := bankBody s
    let minus := body.head? == some '-'
    (columnAmount 18 (if minus then body.drop 1 else body)).map fun amount =>
      if parenthesised s || minus then -contextRound amount else amount

/-- `_parse_decimal`. -/
def parseDecimal (raw : List Char) : Option ℚ :=
  if raw = [] then none else columnAmount 15 (pyStrip (raw.filter fun c => c != ',' && c != '$'))

/-- No text with a digit stands for the absence of a value. -/
theorem isNullSentinel_of_digit {text : List Char} (shown : ∃ c ∈ text, c.isDigit = true) : isNullSentinel text = false := by
  obtain ⟨c, member, digit⟩ := shown
  by_contra sentinel
  rw [Bool.not_eq_false, isNullSentinel, List.any_eq_true] at sentinel
  obtain ⟨word, listed, same⟩ := sentinel
  have inside : c ∈ word.toList := by
    rw [beq_iff_eq.mp same, List.mem_map]
    exact ⟨c, member, toLower_of_isDigit digit⟩
  have wordless : ∀ word ∈ nullSentinels, word.toList.all (fun c => !c.isDigit) = true := by
    intro word listed
    simp only [nullSentinels, List.mem_cons, List.not_mem_nil, or_false] at listed
    rcases listed with rfl | rfl | rfl | rfl | rfl | rfl | rfl | rfl | rfl | rfl | rfl | rfl | rfl | rfl <;>
      exact of_characters (fun text => (text.all fun c => !c.isDigit) = true) String.toList_ofList (by decide)
  have other := List.all_eq_true.mp (wordless word listed) c inside
  rw [digit] at other
  cases other

/-- A token of digits, separators and signs has nothing to strip. -/
theorem amountCore_eq_self {core : List Char} (numeric : ∀ c ∈ core, c.isDigit = true ∨ c ∈ ['-', ',', '.'])
    (shown : ∃ c ∈ core, c.isDigit = true) : amountCore (some core) = some core := by
  have visible : ∀ c ∈ core, isPySpace c = false := by
    intro c member
    rcases numeric c member with digit | sign
    · exact (plain_of_isDigit digit).2.1
    · simp only [List.mem_cons, List.not_mem_nil, or_false] at sign
      rcases sign with rfl | rfl | rfl <;> decide
  have unlike {d : Char} (solid : d.isDigit = false) (other : d ∉ ['-', ',', '.']) : d ∉ core := by
    intro member
    rcases numeric d member with digit | sign
    · rw [digit] at solid
      cases solid
    · exact other sign
  have stripped : pyStrip core = core := pyStrip_eq_self visible
  have worded := isNullSentinel_of_digit shown
  have bare : parenthesised core = false := by
    have head : core.head? ≠ some '(' := fun open_ => unlike (by decide) (by decide) (List.mem_of_mem_head? open_)
    rw [parenthesised, beq_eq_false_iff_ne.mpr head, Bool.false_and]
  have undecorated : core.filter (!decorations.contains ·) = core := by
    rw [List.filter_eq_self]
    intro c member
    have free : ∀ d ∈ decorations, d.isDigit = false ∧ d ∉ ['-', ',', '.'] := by simp [decorations]
    by_contra decorated
    have listed : c ∈ decorations := by simpa using decorated
    exact unlike (free c listed).1 (free c listed).2 member
  have ascii : core.map (fun c => if c = '−' then '-' else c) = core := by
    refine (List.map_congr_left ?_).trans (List.map_id' core)
    intro c member
    have ordinary : c ≠ '−' := by
      rintro rfl
      exact unlike (by decide) (by decide) member
    exact if_neg ordinary
  have nonempty : core ≠ [] := by
    rintro rfl
    obtain ⟨c, member, -⟩ := shown
    cases member
  simp only [amountCore, stripped, worded, bare, Bool.false_eq_true, if_false, undecorated, ascii, nonempty, false_or]

end Payables.Amounts
