import Payables.Lib.Canonical
import Payables.Lib.Sql
import Payables.Workflow.Reporting

namespace Payables.Duplicates
open Lib

/-- `_SEPARATOR_RUN`, of one character. -/
def isSeparator (c : Char) : Bool := isPySpace c || ['-', '_', '.', '/', '#', '\\'].contains c

theorem isSeparator_of_isDigit (c : Char) (digit : c.isDigit = true) : isSeparator c = false := by
  simp only [Char.isDigit, Bool.and_eq_true, decide_eq_true_eq, UInt32.le_iff_toNat_le] at digit
  have range : 48 ≤ c.toNat ∧ c.toNat ≤ 57 := digit
  have solid : isPySpace c = false := by
    simp only [isPySpace, Bool.or_eq_false_iff, Bool.and_eq_false_iff, decide_eq_false_iff_not, beq_eq_false_iff_ne]
    omega
  have apart : ∀ d ∈ ['-', '_', '.', '/', '#', '\\'], d.toNat < 48 ∨ 57 < d.toNat := by
    intro d mark
    simp only [List.mem_cons, List.not_mem_nil, or_false] at mark
    rcases mark with rfl | rfl | rfl | rfl | rfl | rfl <;> decide
  rw [isSeparator, solid, Bool.false_or]
  refine Bool.of_not_eq_true fun listed => ?_
  have outside := apart c (List.contains_iff_mem.mp listed)
  omega

/-- `_SEPARATOR_RUN` and `_LEADING_ZEROS`. -/
def invoiceNumbering : Numbering Char where
  separates := isSeparator
  digit := Char.isDigit
  mark := '-'
  zero := '0'
  mark_separates := by decide
  zero_digit := by decide
  digit_solid := isSeparator_of_isDigit

def isSmallLetter (c : Char) : Bool := 'a' ≤ c && c ≤ 'z'

/-- What `str.lower` and the `lower` of the database do. -/
structure Casing where
  lower : List Char → List Char
  sqlLower : List Char → List Char
  /-- The characters that are no capitals. -/
  lowered : Char → Bool
  lower_lowered : ∀ text, ∀ c ∈ lower text, lowered c = true
  lower_eq : ∀ text, (∀ c ∈ text, lowered c = true) → lower text = text
  mark_lowered : lowered '-' = true
  lower_strip : ∀ text, lower (pyStrip text) = pyStrip (lower text)
  sqlLower_letters : ∀ text, (sqlLower text).filter isSmallLetter = (lower text).filter isSmallLetter

structure Invoice where
  id : Nat
  vendorId : Option Nat
  vendorName : Option String
  invoiceNumber : Option String
  createdAt : Time

structure InvoiceTable where
  rows : List Invoice
  ids : (rows.map (·.id)).Nodup

section Numbers

variable (casing : Casing)

/-- `value.strip().lower()`. -/
def folded (value : String) : String := String.ofList (casing.lower (pyStrip value.toList))

def normalizeInvoiceNumber : Option String → Option String
  | none => none
  | some value =>
    if value = "" then none
    else
      let collapsed := strip invoiceNumbering.isMark (invoiceNumbering.collapse false (folded casing value).toList)
      if collapsed = [] then none else some (String.ofList (invoiceNumbering.dropZeros false collapsed))

def invoiceNumberLetterSkeleton (value : Option String) : String :=
  String.ofList ((casing.lower (value.getD "").toList).filter isSmallLetter)

end Numbers

section Detection

variable (casing : Casing) (table : InvoiceTable) (invoice : Invoice)

/-- `MAX_DUPLICATE_CANDIDATES`. -/
def maxDuplicateCandidates : Nat := 500

/-- `func.lower` of a column. -/
def lowerOf (text : Option String) : Option String := text.map fun text => String.ofList (casing.sqlLower text.toList)

/-- `vendor_match`, for an invoice with a vendor name. -/
def vendorMatch (row : Invoice) : Sql.Truth :=
  let named := Sql.eq (lowerOf casing (row.vendorName.map Sql.btrim)) (some (folded casing (invoice.vendorName.getD "")))
  match invoice.vendorId with
  | none => named
  | some id => Sql.or named (Sql.eq row.vendorId (some id))

def isOther (row : Invoice) : Sql.Truth := Sql.not (Sql.eq (some row.id) (some invoice.id))

/-- The invoices that the exact comparison counts. -/
def exactClause (row : Invoice) : Sql.Truth :=
  Sql.all [Sql.eq (lowerOf casing (row.invoiceNumber.map Sql.btrim)) (some (folded casing (invoice.invoiceNumber.getD ""))),
    vendorMatch casing invoice row, isOther invoice row]

/-- The candidates of the normalized comparison. -/
def candidateClause (row : Invoice) : Sql.Truth :=
  Sql.all [vendorMatch casing invoice row, isOther invoice row, Sql.isNotNull row.invoiceNumber,
    Sql.eq ((lowerOf casing row.invoiceNumber).map fun text => String.ofList (text.toList.filter isSmallLetter))
      (some (invoiceNumberLetterSkeleton casing invoice.invoiceNumber))]

/-- The candidates that are loaded, newest first. -/
def newestCandidates : List Invoice :=
  Sql.newest Invoice.createdAt maxDuplicateCandidates (Sql.select table.rows (candidateClause casing invoice))

/-- `_has_normalized_duplicate`. -/
def hasNormalizedDuplicate : Bool :=
  match normalizeInvoiceNumber casing invoice.invoiceNumber with
  | none => false
  | some target =>
    (newestCandidates casing table invoice).any fun row => normalizeInvoiceNumber casing row.invoiceNumber = some target

/-- Whether `refresh_warnings` adds `duplicate_invoice_number`. -/
def flagsDuplicate : Bool :=
  if (invoice.vendorName.any fun name => pyStripText name ≠ "") && invoice.invoiceNumber.any (· ≠ "") then
    !(Sql.select table.rows (exactClause casing invoice)).isEmpty || hasNormalizedDuplicate casing table invoice
  else false

end Detection

end Payables.Duplicates
