import Payables.Amounts.Context
import Payables.EInvoice.Bis3
import Payables.EInvoice.Mapper

namespace Payables.EInvoice.Guards
open Lib

section Arithmetic

/-- `_q`. A result of more digits than the context has is not valid. -/
def quantizeCents (value : ℚ) : Except Raised ℚ :=
  if |quantizeMoney value| < 10 ^ 26 then .ok (quantizeMoney value) else .error (.uncaught "InvalidOperation")

/-- `_agrees`. -/
def agrees (actual expected tolerance : ℚ) : Except Raised Bool := do
  let actual ← quantizeCents actual
  let expected ← quantizeCents expected
  .ok (|contextRound (actual - expected)| ≤ tolerance)

/-- `sum(terms, _ZERO)`. -/
def contextSum (terms : List ℚ) : ℚ := terms.foldl (fun total term => contextRound (total + term)) 0

/-- A sum where every one of its terms is there. -/
def contextSumIfAll (terms : List (Option ℚ)) : Option ℚ :=
  if terms ≠ [] ∧ terms.all Option.isSome then some (contextSum (terms.map fun term => term.getD 0)) else none

/-- A comparison of two figures by a rule, with what it reports where they do not agree. -/
structure Comparison where
  actual : ℚ
  expected : ℚ
  tolerance : ℚ
  error : FieldError

/-- A rule over two figures that is skipped where one of them is absent. -/
def comparing (actual expected : Option ℚ) (tolerance : ℚ) (error : FieldError) : List Comparison :=
  match actual, expected with
  | some actual, some expected => [⟨actual, expected, tolerance, error⟩]
  | _, _ => []

def Comparison.errors (comparison : Comparison) : Except Raised (List FieldError) := do
  let same ← agrees comparison.actual comparison.expected comparison.tolerance
  .ok (report (!same) comparison.error)

def comparisonErrors (comparisons : List Comparison) : Except Raised (List FieldError) := do
  let errors ← comparisons.mapM Comparison.errors
  .ok errors.flatten

end Arithmetic

section Calculation

variable (doc : EInvoiceDocument)

/-- `_line_amount_errors`. -/
def lineComparisons : List Comparison :=
  doc.lines.zipIdx.flatMap fun entry =>
    comparing entry.1.lineTotal
      (entry.1.quantity.bind fun quantity => entry.1.unitPrice.map fun price => contextRound (quantity * price)) cent
      ⟨s!"lines[{entry.2}].line_total", "PEPPOL-EN16931-R120",
        "Invoice line net amount must equal quantity times item net price"⟩

/-- The sum of the line totals. -/
def brCo10 : List Comparison :=
  comparing doc.lineExtensionAmount (contextSumIfAll (doc.lines.map EInvoiceLine.lineTotal)) cent
    ⟨"line_extension_amount", "BR-CO-10", "Sum of invoice line net amounts must equal the total of the lines"⟩

/-- The total without VAT. -/
def brCo13 : List Comparison :=
  comparing doc.taxExclusiveAmount
    (doc.lineExtensionAmount.map fun lines =>
      contextRound (contextRound (lines - doc.allowanceTotal.getD 0) + doc.chargeTotal.getD 0)) cent
    ⟨"tax_exclusive_amount", "BR-CO-13", "Total without VAT must equal the line total less allowances plus charges"⟩

/-- The total VAT. -/
def brCo14 : List Comparison :=
  comparing doc.taxTotal (contextSumIfAll (doc.taxes.map EInvoiceTax.taxAmount)) cent
    ⟨"tax_total", "BR-CO-14", "Invoice total VAT must equal the sum of the VAT breakdown amounts"⟩

/-- The total with VAT. -/
def brCo15 : List Comparison :=
  comparing doc.taxInclusiveAmount
    (doc.taxExclusiveAmount.bind fun exclusive => doc.taxTotal.map fun tax => contextRound (exclusive + tax)) cent
    ⟨"tax_inclusive_amount", "BR-CO-15", "Total with VAT must equal the total without VAT plus the total VAT"⟩

/-- The amount due. -/
def brCo16 : List Comparison :=
  comparing doc.payableAmount doc.taxInclusiveAmount cent
    ⟨"payable_amount", "BR-CO-16", "Amount due for payment must equal the total with VAT"⟩

/-- `_document_total_errors`. -/
def totalComparisons : List Comparison := brCo10 doc ++ brCo13 doc ++ brCo14 doc ++ brCo15 doc ++ brCo16 doc

/-- BR-CO-17. -/
def taxAmountComparisons : List Comparison :=
  doc.taxes.zipIdx.flatMap fun entry =>
    comparing entry.1.taxAmount
      (entry.1.taxableAmount.bind fun taxable => entry.1.rate.map fun rate =>
        contextRound (contextRound (taxable * rate) / 100)) vatTolerance
      ⟨s!"taxes[{entry.2}].tax_amount", "BR-CO-17",
        "VAT category tax amount must equal its taxable amount times its rate"⟩

/-- `per_category`. -/
def perCategory (category : String) : ℚ :=
  contextSum ((doc.lines.filter fun line => categoryOf line.taxCategory == category).map fun line => line.lineTotal.getD 0)

/-- BR-x-08, which is skipped where an allowance or a charge belongs to no known category. -/
def taxableAmountComparisons : List Comparison :=
  if doc.lines.isEmpty || doc.taxes.isEmpty then []
  else if doc.allowanceTotal.getD 0 != 0 || doc.chargeTotal.getD 0 != 0 then []
  else if doc.lines.any fun line => line.lineTotal.isNone || categoryOf line.taxCategory == "" then []
  else doc.taxes.zipIdx.flatMap fun entry =>
    if categoryOf entry.1.category = "" then []
    else comparing entry.1.taxableAmount (some (perCategory doc (categoryOf entry.1.category))) cent
      ⟨s!"taxes[{entry.2}].taxable_amount", vatCategoryRule (some (categoryOf entry.1.category)) "08",
        "VAT category taxable amount must equal the sum of its invoice lines"⟩

/-- BR-x-01. -/
def coverageErrors : List FieldError := if doc.lines.isEmpty || doc.taxes.isEmpty then [] else uncoveredErrors doc

/-- `calculation_errors`, whose rules on the VAT rates of the lines and on the completeness compare no sums. -/
def calculationErrors : Except Raised (List FieldError) := do
  let lines ← comparisonErrors (lineComparisons doc)
  let totals ← comparisonErrors (totalComparisons doc)
  let taxAmounts ← comparisonErrors (taxAmountComparisons doc)
  let taxableAmounts ← comparisonErrors (taxableAmountComparisons doc)
  .ok (lines ++ totals ++ (taxAmounts ++ eachIndexed doc.lines lineRateErrors ++ (coverageErrors doc ++ taxableAmounts)) ++
    documentCompletenessErrors doc)

end Calculation

section Structure

/-- What `validate_document` takes from elsewhere: the letters of Unicode, and the rules of the countries on tax ids and
rates, which answer with a reason. -/
structure CountryRules where
  isAlpha : Char → Bool
  validateTaxId : Option String → Option String → Option String
  validateTaxRate : Option String → Option ℚ → Option String → Option String

variable (rules : CountryRules) (doc : EInvoiceDocument)

/-- The error of a field that a rule gives a reason against. -/
def refused (field message : String) (reason : Option String) : List FieldError :=
  match truthy reason with
  | some code => [⟨field, code, message⟩]
  | none => []

/-- `validate_tax_document`. -/
def validateTaxDocument : List FieldError :=
  refused "seller.tax_id" "Seller tax id format is invalid for country"
      (rules.validateTaxId doc.seller.countryCode doc.seller.taxId) ++
    refused "buyer.tax_id" "Buyer tax id format is invalid for country"
      (rules.validateTaxId doc.buyer.countryCode doc.buyer.taxId) ++
    eachIndexed doc.taxes fun i tax =>
      refused s!"taxes[{i}].rate" "Tax rate is implausible for the country/regime"
        (rules.validateTaxRate doc.seller.countryCode tax.rate tax.category)

/-- The check of the currency. -/
def currencyErrors : List FieldError :=
  match truthy doc.currency with
  | none => [⟨"currency", "missing", "Document currency is required"⟩]
  | some currency =>
    report (!(currency.length == 3 && currency.toList.all rules.isAlpha))
      ⟨"currency", "malformed", "Currency must be a 3-letter ISO 4217 code"⟩

/-- The check of the monetary identity, for the totals that are there. -/
def identityErrors : List FieldError :=
  match doc.taxInclusiveAmount, doc.taxExclusiveAmount, doc.taxTotal with
  | some inclusive, some exclusive, some tax =>
    report (cent < |contextRound (inclusive - contextRound (exclusive + tax))|)
      ⟨"tax_inclusive_amount", "inconsistent", "Tax-inclusive total does not equal tax-exclusive total plus tax"⟩
  | _, _, _ => []

/-- `validate_document`. -/
def validateDocument (checkTax : Bool) : List FieldError :=
  report (isMissing doc.invoiceNumber) ⟨"invoice_number", "missing", "Invoice number is required"⟩ ++
    report doc.issueDate.isNone ⟨"issue_date", "missing", "Issue date is required"⟩ ++
    currencyErrors rules doc ++
    report (isMissing doc.seller.name) ⟨"seller.name", "missing", "Seller name is required"⟩ ++
    report (isMissing doc.buyer.name) ⟨"buyer.name", "missing", "Buyer name is required"⟩ ++
    report doc.lines.isEmpty ⟨"lines", "missing", "At least one invoice line is required"⟩ ++
    report (doc.payableAmount.or doc.taxInclusiveAmount).isNone
      ⟨"payable_amount", "missing", "A grand total (payable amount) is required"⟩ ++
    identityErrors doc ++
    (if checkTax then validateTaxDocument rules doc else [])

end Structure

end Payables.EInvoice.Guards
