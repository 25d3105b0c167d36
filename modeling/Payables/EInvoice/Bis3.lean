import Mathlib.Data.List.Sort
import Mathlib.Data.String.Basic
import Payables.EInvoice.Codelists

namespace Payables.EInvoice

open Lib

structure FieldError where
  field : String
  code : String
  message : String
  deriving DecidableEq

/-- `if bad: errors.append(error)`. -/
def report (bad : Bool) (error : FieldError) : List FieldError := if bad then [error] else []

/-- `not text`, for an optional string. -/
def isMissing (text : Option String) : Bool := (truthy text).isNone

section Mandatory

/-- `_party_errors`. -/
def partyErrors (side : String) (party : EInvoiceParty) : List FieldError :=
  report (isMissing party.name)
      ⟨side ++ ".name", "missing", "BR-06 / BR-07: BIS 3.0 requires the party name"⟩ ++
    (if isMissing party.endpointId then
      [⟨side ++ ".endpoint_id", "missing",
        "PEPPOL-EN16931-R010 / R020: the party\x27s electronic address (EndpointID)"⟩]
    else report (isMissing party.endpointSchemeId)
      ⟨side ++ ".endpoint_scheme_id", "missing",
        "PEPPOL-EN16931-R010 / R020: the address requires its EAS scheme identifier"⟩) ++
    report (isMissing party.countryCode)
      ⟨side ++ ".country_code", "missing", "BR-09 / BR-11: BIS 3.0 requires the party\x27s country code"⟩

/-- One round of the loop over the four monetary totals. -/
def totalMissing (field rule : String) (value : Option ℚ) : List FieldError :=
  report value.isNone ⟨field, "missing", rule ++ ": BIS 3.0 requires this LegalMonetaryTotal amount"⟩

/-- One round of the loop over the VAT groups. -/
def taxMissing (i : Nat) (tax : EInvoiceTax) : List FieldError :=
  report tax.taxableAmount.isNone ⟨s!"taxes[{i}].taxable_amount", "missing", "BR-45: VAT breakdown needs its base"⟩ ++
    report tax.taxAmount.isNone ⟨s!"taxes[{i}].tax_amount", "missing", "BR-46: VAT breakdown needs its amount"⟩ ++
    report (isMissing tax.category) ⟨s!"taxes[{i}].category", "missing", "BR-47: VAT breakdown needs its category"⟩

/-- One round of the loop over the lines. -/
def lineMissing (i : Nat) (line : EInvoiceLine) : List FieldError :=
  report (isMissing line.lineId) ⟨s!"lines[{i}].line_id", "missing", "BR-21: invoice line needs an id"⟩ ++
    report line.quantity.isNone ⟨s!"lines[{i}].quantity", "missing", "BR-22: invoice line needs a quantity"⟩ ++
    report line.lineTotal.isNone ⟨s!"lines[{i}].line_total", "missing", "BR-24: invoice line needs a net amount"⟩ ++
    report line.unitPrice.isNone ⟨s!"lines[{i}].unit_price", "missing", "BR-26: invoice line needs a price"⟩ ++
    report (isMissing line.description)
      ⟨s!"lines[{i}].description", "missing", "BR-25: invoice line needs an item name"⟩ ++
    report (isMissing line.taxCategory)
      ⟨s!"lines[{i}].tax_category", "missing", "BR-CO-04: invoice line needs its VAT category code"⟩ ++
    report line.taxRate.isNone ⟨s!"lines[{i}].tax_rate", "missing", "BR-CO-04: invoice line needs its VAT rate"⟩

/-- `for i, item in enumerate(items): errors.extend(…)`. -/
def eachIndexed {α : Type} (items : List α) (errors : Nat → α → List FieldError) : List FieldError :=
  items.zipIdx.flatMap fun entry => errors entry.2 entry.1

/-- `_mandatory_element_errors`. -/
def mandatoryElementErrors (doc : EInvoiceDocument) : List FieldError :=
  report (isMissing doc.invoiceNumber) ⟨"invoice_number", "missing", "BR-02: an invoice needs its number"⟩ ++
    report doc.issueDate.isNone ⟨"issue_date", "missing", "BR-03: an invoice needs its issue date"⟩ ++
    report (isMissing doc.currency) ⟨"currency", "missing", "BR-05: an invoice needs its currency code"⟩ ++
    partyErrors "seller" doc.seller ++ partyErrors "buyer" doc.buyer ++
    totalMissing "line_extension_amount" "BR-12" doc.lineExtensionAmount ++
    totalMissing "tax_exclusive_amount" "BR-13" doc.taxExclusiveAmount ++
    totalMissing "tax_inclusive_amount" "BR-14" doc.taxInclusiveAmount ++
    totalMissing "payable_amount" "BR-15" doc.payableAmount ++
    report doc.taxTotal.isNone ⟨"tax_total", "missing", "BR-CO-14: an invoice needs its total VAT amount"⟩ ++
    report doc.taxes.isEmpty ⟨"taxes", "missing", "BR-CO-18: an invoice needs a VAT breakdown group"⟩ ++
    eachIndexed doc.taxes taxMissing ++
    report doc.lines.isEmpty ⟨"lines", "missing", "BR-16: an invoice needs at least one line"⟩ ++
    eachIndexed doc.lines lineMissing

end Mandatory

section CodeLists

/-- The first two letters of a VAT identifier. -/
def prefixLetters (taxId : String) : String :=
  String.ofList (((pyUpper (pyStripText taxId)).toList.filter (· != ' ')).take 2)

/-- Whether a VAT identifier starts with a country, or with the letters of Greece. -/
def hasCountryPrefix (taxId : String) : Bool :=
  iso3166Alpha2.contains (prefixLetters taxId) || prefixLetters taxId == "EL"

/-- `_party_code_list_errors`. -/
def partyCodeListErrors (side : String) (party : EInvoiceParty) : List FieldError :=
  report (!isValidCountry party.countryCode)
      ⟨side ++ ".country_code", "BR-CL-14", "Country code must be a member of ISO 3166-1 alpha-2"⟩ ++
    report ((truthy party.taxId).any fun taxId => !hasCountryPrefix taxId)
      ⟨side ++ ".tax_id", "BR-CO-09", "VAT identifier must start with the ISO 3166-1 country prefix that issued it"⟩

/-- `code_list_errors`. -/
def codeListErrors (doc : EInvoiceDocument) : List FieldError :=
  report (!isValidCurrency doc.currency)
      ⟨"currency", "BR-CL-03", "Document currency must be a member of ISO 4217 (alphabetic)"⟩ ++
    report (!isValidDocumentType doc.invoiceTypeCode)
      ⟨"invoice_type_code", "BR-CL-01", "Invoice type code must be a member of UNTDID 1001"⟩ ++
    report (!isPlausiblePaymentMeans doc.paymentMeansCode)
      ⟨"payment_means_code", "BR-CL-16", "Payment means code is not shaped like a UNCL4461 code"⟩ ++
    partyCodeListErrors "seller" doc.seller ++ partyCodeListErrors "buyer" doc.buyer ++
    eachIndexed doc.taxes (fun i tax => report (!isValidVatCategory tax.category)
      ⟨s!"taxes[{i}].category", "BR-CL-17", "VAT category code must be a member of the UNCL5305 EN 16931 subset"⟩) ++
    eachIndexed doc.lines (fun i line =>
      report (!isValidVatCategory line.taxCategory)
          ⟨s!"lines[{i}].tax_category", "BR-CL-18",
            "Invoiced item VAT category must be a member of the UNCL5305 EN 16931 subset"⟩ ++
        report (!isPlausibleUnitCode line.unitCode)
          ⟨s!"lines[{i}].unit_code", "BR-CL-23", "Unit of measure is not shaped like a UN/ECE Rec 20 code"⟩)

end CodeLists

section Calculation

/-- `_TOLERANCE`. -/
def cent : ℚ := 1 / 100

/-- `_VAT_TOLERANCE`. -/
def vatTolerance : ℚ := 2 / 100

/-- `_agrees`. -/
def agrees (actual expected tolerance : ℚ) : Bool := |quantizeMoney actual - quantizeMoney expected| ≤ tolerance

/-- `_line_amount_errors`. -/
def lineAmountErrors (doc : EInvoiceDocument) : List FieldError :=
  eachIndexed doc.lines fun i line =>
    match line.quantity, line.unitPrice, line.lineTotal with
    | some quantity, some unitPrice, some lineTotal =>
      report (!agrees lineTotal (quantity * unitPrice) cent)
        ⟨s!"lines[{i}].line_total", "PEPPOL-EN16931-R120",
          "Invoice line net amount must equal quantity times item net price"⟩
    | _, _, _ => []

/-- A sum where every one of its terms is there. -/
def sumIfAll (terms : List (Option ℚ)) : Option ℚ :=
  if terms ≠ [] ∧ terms.all Option.isSome then some ((terms.map fun term => term.getD 0).sum) else none

/-- A rule over two figures that is skipped where one of them is absent. -/
def figuresAgree (actual expected : Option ℚ) (error : FieldError) : List FieldError :=
  match actual, expected with
  | some actual, some expected => report (!agrees actual expected cent) error
  | _, _ => []

/-- `_document_total_errors`. -/
def documentTotalErrors (doc : EInvoiceDocument) : List FieldError :=
  figuresAgree doc.lineExtensionAmount (sumIfAll (doc.lines.map EInvoiceLine.lineTotal))
      ⟨"line_extension_amount", "BR-CO-10", "Sum of invoice line net amounts must equal the total of the lines"⟩ ++
    figuresAgree doc.taxExclusiveAmount
      (doc.lineExtensionAmount.map fun lines => lines - doc.allowanceTotal.getD 0 + doc.chargeTotal.getD 0)
      ⟨"tax_exclusive_amount", "BR-CO-13",
        "Total without VAT must equal the line total less allowances plus charges"⟩ ++
    figuresAgree doc.taxTotal (sumIfAll (doc.taxes.map EInvoiceTax.taxAmount))
      ⟨"tax_total", "BR-CO-14", "Invoice total VAT must equal the sum of the VAT breakdown amounts"⟩ ++
    figuresAgree doc.taxInclusiveAmount
      (doc.taxExclusiveAmount.bind fun exclusive => doc.taxTotal.map fun tax => exclusive + tax)
      ⟨"tax_inclusive_amount", "BR-CO-15", "Total with VAT must equal the total without VAT plus the total VAT"⟩ ++
    figuresAgree doc.payableAmount doc.taxInclusiveAmount
      ⟨"payable_amount", "BR-CO-16", "Amount due for payment must equal the total with VAT"⟩

/-- `(text or "").strip().upper()`. -/
def categoryOf (text : Option String) : String := pyUpper (pyStripText (text.getD ""))

/-- The rule on the rate of one line, BR-x-05. -/
def lineRateErrors (i : Nat) (line : EInvoiceLine) : List FieldError :=
  match line.taxRate with
  | none => []
  | some rate =>
    let category := categoryOf line.taxCategory
    if category = "" then []
    else if zeroRateVatCategories.contains category && rate != 0 then
      [⟨s!"lines[{i}].tax_rate", vatCategoryRule (some category) "05", "This VAT category requires a zero rate"⟩]
    else report (category == "S" && rate ≤ 0)
      ⟨s!"lines[{i}].tax_rate", "BR-S-05", "A standard-rated line requires a rate above zero"⟩

/-- BR-CO-17 for one VAT group. -/
def taxAmountErrors (i : Nat) (tax : EInvoiceTax) : List FieldError :=
  match tax.taxableAmount, tax.rate, tax.taxAmount with
  | some taxable, some rate, some amount =>
    report (!agrees amount (taxable * rate / 100) vatTolerance)
      ⟨s!"taxes[{i}].tax_amount", "BR-CO-17", "VAT category tax amount must equal its taxable amount times its rate"⟩
  | _, _, _ => []

/-- The net amount of the lines of a category. -/
def perCategory (lines : List EInvoiceLine) (category : String) : ℚ :=
  ((lines.filter fun line => categoryOf line.taxCategory == category).map fun line => line.lineTotal.getD 0).sum

/-- BR-x-08 for one VAT group. -/
def taxableAmountErrors (lines : List EInvoiceLine) (i : Nat) (tax : EInvoiceTax) : List FieldError :=
  match tax.taxableAmount with
  | none => []
  | some taxable =>
    let category := categoryOf tax.category
    if category = "" then []
    else report (!agrees taxable (perCategory lines category) cent)
      ⟨s!"taxes[{i}].taxable_amount", vatCategoryRule (some category) "08",
        "VAT category taxable amount must equal the sum of its invoice lines"⟩

/-- The categories that are named, each once. -/
def namedCategories (texts : List (Option String)) : List String := ((texts.map categoryOf).filter (· != "")).dedup

/-- BR-x-01: the categories of the lines that have no VAT group, in order. -/
def uncoveredErrors (doc : EInvoiceDocument) : List FieldError :=
  let grouped := namedCategories (doc.taxes.map EInvoiceTax.category)
  let uncovered := (namedCategories (doc.lines.map EInvoiceLine.taxCategory)).filter (!grouped.contains ·)
  (uncovered.mergeSort fun one other => decide (one ≤ other)).map fun category =>
    ⟨"taxes", vatCategoryRule (some category) "01",
      "A VAT breakdown group is required for every VAT category used on a line"⟩

/-- `_breakdown_coverage_errors`. -/
def breakdownCoverageErrors (doc : EInvoiceDocument) : List FieldError :=
  if doc.lines.isEmpty || doc.taxes.isEmpty then []
  else
    uncoveredErrors doc ++
      -- BR-x-08 is skipped where an allowance or a charge belongs to no known category
      (if doc.allowanceTotal.getD 0 != 0 || doc.chargeTotal.getD 0 != 0 then []
      else if doc.lines.any fun line => line.lineTotal.isNone || categoryOf line.taxCategory == "" then []
      else eachIndexed doc.taxes (taxableAmountErrors doc.lines))

/-- `_vat_breakdown_errors`. -/
def vatBreakdownErrors (doc : EInvoiceDocument) : List FieldError :=
  eachIndexed doc.taxes taxAmountErrors ++ eachIndexed doc.lines lineRateErrors ++ breakdownCoverageErrors doc

/-- `_document_completeness_errors`. -/
def documentCompletenessErrors (doc : EInvoiceDocument) : List FieldError :=
  report (doc.payableAmount.any (0 < ·) && doc.dueDate.isNone && pyStripText (doc.paymentTermsNote.getD "") == "")
      ⟨"due_date", "BR-CO-25", "An invoice with an amount due requires a due date or payment terms"⟩ ++
    report (isMissing doc.seller.taxId && isMissing doc.seller.registrationId)
      ⟨"seller.tax_id", "BR-CO-26", "The seller requires a legal registration or VAT identifier"⟩

/-- `calculation_errors`. -/
def calculationErrors (doc : EInvoiceDocument) : List FieldError :=
  lineAmountErrors doc ++ documentTotalErrors doc ++ vatBreakdownErrors doc ++ documentCompletenessErrors doc

end Calculation

/-- `bis3_conformance_errors`. -/
def bis3ConformanceErrors (doc : EInvoiceDocument) : List FieldError :=
  mandatoryElementErrors doc ++ codeListErrors doc ++ calculationErrors doc

/-- `is_bis3_conformant`. -/
def isBis3Conformant (doc : EInvoiceDocument) : Bool := (bis3ConformanceErrors doc).isEmpty

end Payables.EInvoice
