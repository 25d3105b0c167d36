import Payables.EInvoice.Elements

namespace Payables.EInvoice

open Lib

def nsInvoice : String := "urn:oasis:names:specification:ubl:schema:xsd:Invoice-2"

def nsCac : String := "urn:oasis:names:specification:ubl:schema:xsd:CommonAggregateComponents-2"

def nsCbc : String := "urn:oasis:names:specification:ubl:schema:xsd:CommonBasicComponents-2"

def bis3CustomizationId : String :=
  "urn:cen.eu:en16931:2017#compliant#urn:fdc:peppol.eu:2017:poacc:billing:3.0"

def bis3ProfileId : String := "urn:fdc:peppol.eu:2017:poacc:billing:01:1.0"

def defaultInvoiceTypeCode : String := "380"

def defaultUnitCode : String := "C62"

/-- The tags of the address lines, for the generator and the parser. -/
def lineTags : List String := ["StreetName", "AdditionalStreetName", "BuildingNumber"]

section Elements

/-- `_cbc`. -/
abbrev cbc : String → String → Xml := leaf nsCbc

/-- `_cac`, with the elements added below it. -/
abbrev cac : String → List Xml → Xml := branch nsCac

abbrev cbcIf : String → Option String → List Xml := leafIf nsCbc

abbrev cacIf : String → Option String → (String → List Xml) → List Xml := branchIf nsCac

/-- `_amount_el`. -/
abbrev amountEl : String → Option ℚ → Option String → List Xml := amountIf nsCbc

/-- The VAT scheme below a tax category. -/
def vatScheme : Xml := cac "TaxScheme" [cbc "ID" "VAT"]

end Elements

section Generator

/-- `cbc:EndpointID`, emitted only when both halves are known. -/
def endpointOf (party : EInvoiceParty) : List Xml :=
  match truthy party.endpointId, truthy party.endpointSchemeId with
  | some id, some scheme => [.element ⟨nsCbc, "EndpointID"⟩ [("schemeID", scheme)] (some id) []]
  | _, _ => []

def hasAddress (party : EInvoiceParty) : Bool :=
  !party.addressLines.isEmpty || (truthy party.city).isSome || (truthy party.postalCode).isSome ||
    (truthy party.countryCode).isSome

/-- The children of `cac:PostalAddress`. -/
def addressOf (party : EInvoiceParty) : List Xml :=
  taggedLines nsCbc lineTags party.addressLines ++ cbcIf "CityName" party.city ++ cbcIf "PostalZone" party.postalCode ++
    cacIf "Country" party.countryCode fun code => [cbc "IdentificationCode" code]

/-- The children of `cac:PartyLegalEntity`. -/
def legalEntityOf (party : EInvoiceParty) : List Xml :=
  cbcIf "RegistrationName" party.name ++ cbcIf "CompanyID" party.registrationId

/-- `_build_party`. -/
def buildParty (party : EInvoiceParty) : Xml :=
  cac "Party" (endpointOf party ++ cacIf "PartyName" party.name (fun name => [cbc "Name" name]) ++
    Xml.elementIf (hasAddress party) (cac "PostalAddress" (addressOf party)) ++
    cacIf "PartyTaxScheme" party.taxId (fun taxId => [cbc "CompanyID" taxId, vatScheme]) ++
    Xml.elementIf ((truthy party.name).isSome || (truthy party.registrationId).isSome)
      (cac "PartyLegalEntity" (legalEntityOf party)) ++
    cacIf "Contact" party.email fun email => [cbc "ElectronicMail" email])

/-- `_build_tax_subtotal`. -/
def buildTaxSubtotal (currency : Option String) (tax : EInvoiceTax) : Xml :=
  cac "TaxSubtotal" (amountEl "TaxableAmount" tax.taxableAmount currency ++ amountEl "TaxAmount" tax.taxAmount currency ++
    [cac "TaxCategory" (cbcIf "ID" tax.category ++ rateIf nsCbc "Percent" tax.rate ++ [vatScheme])])

/-- `_build_tax_total`. -/
def buildTaxTotal (doc : EInvoiceDocument) : Xml :=
  cac "TaxTotal" (amountEl "TaxAmount" doc.taxTotal doc.currency ++ doc.taxes.map (buildTaxSubtotal doc.currency))

/-- `_build_monetary_total`. -/
def buildMonetaryTotal (doc : EInvoiceDocument) : Xml :=
  cac "LegalMonetaryTotal" (amountEl "LineExtensionAmount" doc.lineExtensionAmount doc.currency ++
    amountEl "TaxExclusiveAmount" doc.taxExclusiveAmount doc.currency ++
    amountEl "TaxInclusiveAmount" doc.taxInclusiveAmount doc.currency ++
    amountEl "AllowanceTotalAmount" doc.allowanceTotal doc.currency ++
    amountEl "ChargeTotalAmount" doc.chargeTotal doc.currency ++ amountEl "PayableAmount" doc.payableAmount doc.currency)

/-- `cbc:InvoicedQuantity`, with its unit. -/
def quantityOf (line : EInvoiceLine) : List Xml :=
  (line.quantity.map (quantityLeaf nsCbc "InvoicedQuantity" ((truthy line.unitCode).getD defaultUnitCode))).toList

/-- The children of the `cac:TaxTotal` of a line. -/
def lineTaxOf (line : EInvoiceLine) (currency : Option String) : List Xml :=
  amountEl "TaxAmount" line.taxAmount currency ++
    Xml.elementIf line.taxRate.isSome (cac "TaxSubtotal" [cac "TaxCategory" (rateIf nsCbc "Percent" line.taxRate)])

/-- The children of the `cac:Item` of a line. -/
def itemOf (line : EInvoiceLine) : List Xml :=
  cbcIf "Name" line.description ++ cacIf "SellersItemIdentification" line.itemCode (fun code => [cbc "ID" code]) ++
    cacIf "ClassifiedTaxCategory" line.taxCategory fun category =>
      [cbc "ID" category] ++ rateIf nsCbc "Percent" line.taxRate ++ [vatScheme]

/-- `_build_line`. -/
def buildLine (currency : Option String) (line : EInvoiceLine) : Xml :=
  cac "InvoiceLine" (cbcIf "ID" line.lineId ++ quantityOf line ++ amountEl "LineExtensionAmount" line.lineTotal currency ++
    Xml.elementIf (line.taxAmount.isSome || line.taxRate.isSome) (cac "TaxTotal" (lineTaxOf line currency)) ++
    Xml.elementIf ((truthy line.description).isSome || (truthy line.itemCode).isSome ||
      (truthy line.taxCategory).isSome || line.taxRate.isSome) (cac "Item" (itemOf line)) ++
    Xml.elementIf line.unitPrice.isSome (cac "Price" (amountEl "PriceAmount" line.unitPrice currency)))

/-- `if date is not None: _cbc(root, name, date.isoformat())`. -/
def dateIf (name : String) (date : Option CalendarDate) : List Xml :=
  (date.map fun day => cbc name (isoformat day)).toList

/-- The elements in front of the parties. -/
def headerOf (declared : Bool) (doc : EInvoiceDocument) : List Xml :=
  Xml.elementIf declared (cbc "CustomizationID" bis3CustomizationId) ++
    Xml.elementIf declared (cbc "ProfileID" bis3ProfileId) ++
    cbcIf "ID" doc.invoiceNumber ++ dateIf "IssueDate" doc.issueDate ++ dateIf "DueDate" doc.dueDate ++
    [cbc "InvoiceTypeCode" ((truthy doc.invoiceTypeCode).getD defaultInvoiceTypeCode)] ++
    cbcIf "DocumentCurrencyCode" doc.currency ++ cbcIf "BuyerReference" doc.buyerReference ++
    cacIf "OrderReference" doc.orderReference fun reference => [cbc "ID" reference]

/-- The elements from the parties to the totals. -/
def bodyOf (doc : EInvoiceDocument) : List Xml :=
  [cac "AccountingSupplierParty" [buildParty doc.seller], cac "AccountingCustomerParty" [buildParty doc.buyer]] ++
    cacIf "PaymentMeans" doc.paymentMeansCode (fun code => [cbc "PaymentMeansCode" code]) ++
    cacIf "PaymentTerms" doc.paymentTermsNote (fun note => [cbc "Note" note]) ++
    Xml.elementIf (doc.taxTotal.isSome || !doc.taxes.isEmpty) (buildTaxTotal doc) ++ [buildMonetaryTotal doc]

/-- `generate_ubl`, up to the tree it serialises. -/
def generateUbl (isBis3Conformant : EInvoiceDocument → Bool) (declareProfile : Option Bool) (doc : EInvoiceDocument) : Xml :=
  let declared := declareProfile.getD (isBis3Conformant doc)
  branch nsInvoice "Invoice" (headerOf declared doc ++ bodyOf doc ++ doc.lines.map (buildLine doc.currency))

end Generator

section Parser

/-- `_parse_party`. -/
def parseParty (party : Option Xml) : EInvoiceParty :=
  match party with
  | none => {}
  | some partyEl =>
    let endpoint := Xml.atPath ["EndpointID"] partyEl
    let address := Xml.atPath ["PostalAddress"] partyEl
    { name := (findText partyEl ["PartyName", "Name"]).or (findText partyEl ["PartyLegalEntity", "RegistrationName"])
      taxId := findText partyEl ["PartyTaxScheme", "CompanyID"]
      registrationId := findText partyEl ["PartyLegalEntity", "CompanyID"]
      addressLines := lineTags.filterMap fun tag => findText address [tag]
      city := findText address ["CityName"]
      postalCode := findText address ["PostalZone"]
      countryCode := findText address ["Country", "IdentificationCode"]
      email := findText partyEl ["Contact", "ElectronicMail"]
      endpointId := endpoint.bind fun el => nonEmpty (pyStripText (el.text.getD ""))
      endpointSchemeId := endpoint.bind (Xml.get "schemeID") }

def parseTaxSubtotal (sub : Xml) : EInvoiceTax where
  category := findText sub ["TaxCategory", "ID"]
  rate := toDecimal (findText sub ["TaxCategory", "Percent"])
  taxableAmount := toDecimal (findText sub ["TaxableAmount"])
  taxAmount := toDecimal (findText sub ["TaxAmount"])

/-- `_parse_tax_subtotals`. -/
def parseTaxSubtotals (taxTotal : Option Xml) : List EInvoiceTax :=
  match taxTotal with
  | none => []
  | some taxTotalEl =>
    (taxTotalEl.children.filter (·.localName? == some "TaxSubtotal")).map parseTaxSubtotal

/-- `_parse_line`. -/
def parseLine (lineEl : Xml) : EInvoiceLine :=
  let quantity := Xml.atPath ["InvoicedQuantity"] lineEl
  let lineTax := Xml.atPath ["TaxTotal"] lineEl
  let classified := Xml.atPath ["Item", "ClassifiedTaxCategory"] lineEl
  { lineId := findText lineEl ["ID"]
    description := (findText lineEl ["Item", "Name"]).or (findText lineEl ["Item", "Description"])
    itemCode := findText lineEl ["Item", "SellersItemIdentification", "ID"]
    lineTotal := toDecimal (findText lineEl ["LineExtensionAmount"])
    quantity := quantity.bind fun el => toDecimal el.text
    unitCode := quantity.bind (Xml.get "unitCode")
    unitPrice := toDecimal (findText lineEl ["Price", "PriceAmount"])
    taxAmount := toDecimal (findText lineTax ["TaxAmount"])
    taxCategory := findText classified ["ID"]
    -- the classified category is the authoritative source of the rate
    taxRate := (toDecimal (findText classified ["Percent"])).or
      (toDecimal (findText lineTax ["TaxSubtotal", "TaxCategory", "Percent"])) }

/-- `parse_ubl`, from the tree it parses. -/
def parseUbl (otherForms : String → Option CalendarDate) (root : Xml) : EInvoiceDocument :=
  let taxTotal := Xml.atPath ["TaxTotal"] root
  let monetaryTotal := Xml.atPath ["LegalMonetaryTotal"] root
  { sourceFormat := .ubl
    rawXmlRootTag := root.localName?
    invoiceNumber := findText root ["ID"]
    issueDate := toDate otherForms (findText root ["IssueDate"])
    dueDate := toDate otherForms (findText root ["DueDate"])
    currency := findText root ["DocumentCurrencyCode"]
    invoiceTypeCode := findText root ["InvoiceTypeCode"]
    buyerReference := findText root ["BuyerReference"]
    orderReference := findText root ["OrderReference", "ID"]
    seller := parseParty (Xml.atPath ["AccountingSupplierParty", "Party"] root)
    buyer := parseParty (Xml.atPath ["AccountingCustomerParty", "Party"] root)
    paymentMeansCode := findText root ["PaymentMeans", "PaymentMeansCode"]
    paymentTermsNote := findText root ["PaymentTerms", "Note"]
    taxTotal := toDecimal (findText taxTotal ["TaxAmount"])
    taxes := parseTaxSubtotals taxTotal
    lineExtensionAmount := toDecimal (findText monetaryTotal ["LineExtensionAmount"])
    taxExclusiveAmount := toDecimal (findText monetaryTotal ["TaxExclusiveAmount"])
    taxInclusiveAmount := toDecimal (findText monetaryTotal ["TaxInclusiveAmount"])
    allowanceTotal := toDecimal (findText monetaryTotal ["AllowanceTotalAmount"])
    chargeTotal := toDecimal (findText monetaryTotal ["ChargeTotalAmount"])
    payableAmount := toDecimal (findText monetaryTotal ["PayableAmount"])
    lines := (Xml.allNamed "InvoiceLine" [root]).map parseLine }

end Parser

end Payables.EInvoice
