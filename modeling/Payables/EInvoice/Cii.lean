import Payables.EInvoice.Ubl

namespace Payables.EInvoice

open Lib

namespace Cii

def nsRsm : String := "urn:un:unece:uncefact:data:standard:CrossIndustryInvoice:100"

def nsRam : String := "urn:un:unece:uncefact:data:standard:ReusableAggregateBusinessInformationEntity:100"

def nsUdt : String := "urn:un:unece:uncefact:data:standard:UnqualifiedDataType:100"

/-- The tags of the address lines, for the generator and the parser. -/
def lineTags : List String := ["LineOne", "LineTwo", "LineThree"]

/-- `_ram`, with a text. -/
abbrev ram : String → String → Xml := leaf nsRam

/-- `_ram`, with the elements added below it. -/
abbrev ramTree : String → List Xml → Xml := branch nsRam

abbrev ramIf : String → Option String → List Xml := leafIf nsRam

abbrev ramTreeIf : String → Option String → (String → List Xml) → List Xml := branchIf nsRam

/-- `_ram_amount`. -/
abbrev ramAmount : String → Option ℚ → Option String → List Xml := amountIf nsRam

/-- `if d is not None: _ram(parent, name, _amount_text(d))`. -/
abbrev ramRate : String → Option ℚ → List Xml := rateIf nsRam

section Generator

/-- `_datetime_string`. -/
def datetimeString (day : CalendarDate) : Xml :=
  .element ⟨nsUdt, "DateTimeString"⟩ [("format", "102")] (some (date102 day)) []

/-- `if date is not None:` followed by an aggregate that holds the date. -/
def dateTree (name : String) (date : Option CalendarDate) : List Xml :=
  (date.map fun day => ramTree name [datetimeString day]).toList

/-- The children of `ram:PostalTradeAddress`. -/
def addressOf (party : EInvoiceParty) : List Xml :=
  taggedLines nsRam lineTags party.addressLines ++ ramIf "PostcodeCode" party.postalCode ++
    ramIf "CityName" party.city ++ ramIf "CountryID" party.countryCode

/-- `ram:SpecifiedTaxRegistration/ram:ID`, under the VAT scheme. -/
def taxRegistrationId (taxId : String) : Xml := .element ⟨nsRam, "ID"⟩ [("schemeID", "VA")] (some taxId) []

/-- `_build_party`. -/
def buildParty (tag : String) (party : EInvoiceParty) : Xml :=
  ramTree tag (ramIf "Name" party.name ++
    ramTreeIf "SpecifiedLegalOrganization" party.registrationId (fun id => [ram "ID" id]) ++
    Xml.elementIf (hasAddress party) (ramTree "PostalTradeAddress" (addressOf party)) ++
    ramTreeIf "SpecifiedTaxRegistration" party.taxId (fun taxId => [taxRegistrationId taxId]) ++
    ramTreeIf "URIUniversalCommunication" party.email fun email => [ram "URIID" email])

/-- The children of `ram:SpecifiedTradeProduct`. -/
def productOf (line : EInvoiceLine) : List Xml :=
  ramIf "SellerAssignedID" line.itemCode ++ ramIf "Name" line.description

/-- The children of the settlement of a line. -/
def lineSettlementOf (line : EInvoiceLine) : List Xml :=
  Xml.elementIf (line.taxRate.isSome || line.taxAmount.isSome)
      (ramTree "ApplicableTradeTax" (ramRate "CalculatedAmount" line.taxAmount ++ ramRate "RateApplicablePercent" line.taxRate)) ++
    Xml.elementIf line.lineTotal.isSome
      (ramTree "SpecifiedTradeSettlementLineMonetarySummation" (ramRate "LineTotalAmount" line.lineTotal))

/-- `_build_line`. -/
def buildLine (line : EInvoiceLine) : Xml :=
  ramTree "IncludedSupplyChainTradeLineItem"
    (ramTreeIf "AssociatedDocumentLineDocument" line.lineId (fun id => [ram "LineID" id]) ++
    Xml.elementIf ((truthy line.description).isSome || (truthy line.itemCode).isSome)
      (ramTree "SpecifiedTradeProduct" (productOf line)) ++
    Xml.elementIf line.unitPrice.isSome (ramTree "SpecifiedLineTradeAgreement"
      [ramTree "NetPriceProductTradePrice" (ramRate "ChargeAmount" line.unitPrice)]) ++
    Xml.elementIf line.quantity.isSome (ramTree "SpecifiedLineTradeDelivery"
      (line.quantity.map (quantityLeaf nsRam "BilledQuantity" ((truthy line.unitCode).getD defaultUnitCode))).toList) ++
    Xml.elementIf (line.taxRate.isSome || line.taxAmount.isSome || line.lineTotal.isSome)
      (ramTree "SpecifiedLineTradeSettlement" (lineSettlementOf line)))

/-- `_build_tax`. -/
def buildTax (tax : EInvoiceTax) : Xml :=
  ramTree "ApplicableTradeTax" (ramAmount "CalculatedAmount" tax.taxAmount none ++ ramIf "CategoryCode" tax.category ++
    ramAmount "BasisAmount" tax.taxableAmount none ++ ramRate "RateApplicablePercent" tax.rate)

/-- The children of the header's monetary summation. -/
def summationOf (doc : EInvoiceDocument) : List Xml :=
  ramAmount "LineTotalAmount" doc.lineExtensionAmount none ++ ramAmount "TaxBasisTotalAmount" doc.taxExclusiveAmount none ++
    ramAmount "TaxTotalAmount" doc.taxTotal doc.currency ++ ramAmount "AllowanceTotalAmount" doc.allowanceTotal none ++
    ramAmount "ChargeTotalAmount" doc.chargeTotal none ++ ramAmount "GrandTotalAmount" doc.taxInclusiveAmount none ++
    ramAmount "DuePayableAmount" doc.payableAmount none

def hasSummation (doc : EInvoiceDocument) : Bool :=
  doc.lineExtensionAmount.isSome || doc.taxExclusiveAmount.isSome || doc.taxTotal.isSome || doc.allowanceTotal.isSome ||
    doc.chargeTotal.isSome || doc.taxInclusiveAmount.isSome || doc.payableAmount.isSome

/-- `_build_settlement`. -/
def buildSettlement (doc : EInvoiceDocument) : Xml :=
  ramTree "ApplicableHeaderTradeSettlement" (ramIf "InvoiceCurrencyCode" doc.currency ++
    ramTreeIf "SpecifiedTradeSettlementPaymentMeans" doc.paymentMeansCode (fun code => [ram "TypeCode" code]) ++
    doc.taxes.map buildTax ++
    Xml.elementIf ((truthy doc.paymentTermsNote).isSome || doc.dueDate.isSome) (ramTree "SpecifiedTradePaymentTerms"
      (ramIf "Description" doc.paymentTermsNote ++ dateTree "DueDateDateTime" doc.dueDate)) ++
    Xml.elementIf (hasSummation doc) (ramTree "SpecifiedTradeSettlementHeaderMonetarySummation" (summationOf doc)))

/-- `rsm:ExchangedDocument`. -/
def exchangedDocument (doc : EInvoiceDocument) : Xml :=
  branch nsRsm "ExchangedDocument" (ramIf "ID" doc.invoiceNumber ++
    [ram "TypeCode" ((truthy doc.invoiceTypeCode).getD defaultInvoiceTypeCode)] ++ dateTree "IssueDateTime" doc.issueDate)

/-- `ram:ApplicableHeaderTradeAgreement`. -/
def buildAgreement (doc : EInvoiceDocument) : Xml :=
  ramTree "ApplicableHeaderTradeAgreement" (ramIf "BuyerReference" doc.buyerReference ++
    [buildParty "SellerTradeParty" doc.seller, buildParty "BuyerTradeParty" doc.buyer] ++
    ramTreeIf "BuyerOrderReferencedDocument" doc.orderReference fun reference => [ram "IssuerAssignedID" reference])

/-- `rsm:SupplyChainTradeTransaction`. -/
def buildTransaction (doc : EInvoiceDocument) : Xml :=
  branch nsRsm "SupplyChainTradeTransaction" (doc.lines.map buildLine ++
    [buildAgreement doc, ramTree "ApplicableHeaderTradeDelivery" [], buildSettlement doc])

/-- `generate_cii`, up to the tree it serialises. -/
def generateCii (doc : EInvoiceDocument) : Xml :=
  branch nsRsm "CrossIndustryInvoice" [exchangedDocument doc, buildTransaction doc]

end Generator

section Parser

/-- `first or second`, of two decimals: a zero is false. -/
def decimalOr (first second : Option ℚ) : Option ℚ := (first.filter (· != 0)).or second

/-- The loop over the tax registrations of a party: the first id that is there. -/
def firstTaxId (children : List Xml) : Option String :=
  (children.filter (·.localName? == some "SpecifiedTaxRegistration")).findSome? fun reg => findText (some reg) ["ID"]

/-- `_parse_party`. -/
def parseParty (party : Option Xml) : EInvoiceParty :=
  match party with
  | none => {}
  | some partyEl =>
    let address := Xml.atPath ["PostalTradeAddress"] partyEl
    { name := findText partyEl ["Name"]
      taxId := firstTaxId partyEl.children
      registrationId := findText partyEl ["SpecifiedLegalOrganization", "ID"]
      addressLines := lineTags.filterMap fun tag => findText address [tag]
      city := findText address ["CityName"]
      postalCode := findText address ["PostcodeCode"]
      countryCode := findText address ["CountryID"]
      email := findText partyEl ["URIUniversalCommunication", "URIID"] }

def parseTax (tax : Xml) : EInvoiceTax where
  category := findText tax ["CategoryCode"]
  rate := toDecimal (findText tax ["RateApplicablePercent"])
  taxableAmount := toDecimal (findText tax ["BasisAmount"])
  taxAmount := toDecimal (findText tax ["CalculatedAmount"])

/-- `_parse_taxes`. -/
def parseTaxes (settlement : Option Xml) : List EInvoiceTax :=
  match settlement with
  | none => []
  | some settlementEl =>
    (settlementEl.children.filter (·.localName? == some "ApplicableTradeTax")).map parseTax

/-- `_parse_line`. -/
def parseLine (lineEl : Xml) : EInvoiceLine :=
  let product := Xml.atPath ["SpecifiedTradeProduct"] lineEl
  let agreement := Xml.atPath ["SpecifiedLineTradeAgreement"] lineEl
  let quantity := Xml.atPath ["SpecifiedLineTradeDelivery", "BilledQuantity"] lineEl
  let settlement := Xml.atPath ["SpecifiedLineTradeSettlement"] lineEl
  { lineId := findText lineEl ["AssociatedDocumentLineDocument", "LineID"]
    description := findText product ["Name"]
    itemCode := (findText product ["SellerAssignedID"]).or (findText product ["GlobalID"])
    unitPrice := decimalOr (toDecimal (findText agreement ["NetPriceProductTradePrice", "ChargeAmount"]))
      (toDecimal (findText agreement ["GrossPriceProductTradePrice", "ChargeAmount"]))
    quantity := quantity.bind fun el => toDecimal el.text
    unitCode := quantity.bind (Xml.get "unitCode")
    taxRate := toDecimal (findText settlement ["ApplicableTradeTax", "RateApplicablePercent"])
    taxAmount := toDecimal (findText settlement ["ApplicableTradeTax", "CalculatedAmount"])
    lineTotal := toDecimal (findText settlement ["SpecifiedTradeSettlementLineMonetarySummation", "LineTotalAmount"]) }

/-- `parse_cii`, from the tree it parses. -/
def parseCii (otherForms : String → Option CalendarDate) (root : Xml) : EInvoiceDocument :=
  let exchanged := Xml.atPath ["ExchangedDocument"] root
  let txn := Xml.atPath ["SupplyChainTradeTransaction"] root
  let agreement := txn.bind (Xml.atPath ["ApplicableHeaderTradeAgreement"])
  let settlement := txn.bind (Xml.atPath ["ApplicableHeaderTradeSettlement"])
  let summation := settlement.bind (Xml.atPath ["SpecifiedTradeSettlementHeaderMonetarySummation"])
  { sourceFormat := .cii
    rawXmlRootTag := root.localName?
    invoiceNumber := findText exchanged ["ID"]
    invoiceTypeCode := findText exchanged ["TypeCode"]
    issueDate := toDate otherForms (findText exchanged ["IssueDateTime", "DateTimeString"])
    buyerReference := findText agreement ["BuyerReference"]
    seller := parseParty (agreement.bind (Xml.atPath ["SellerTradeParty"]))
    buyer := parseParty (agreement.bind (Xml.atPath ["BuyerTradeParty"]))
    orderReference := findText agreement ["BuyerOrderReferencedDocument", "IssuerAssignedID"]
    currency := findText settlement ["InvoiceCurrencyCode"]
    paymentTermsNote := findText settlement ["SpecifiedTradePaymentTerms", "Description"]
    dueDate := toDate otherForms (findText settlement ["SpecifiedTradePaymentTerms", "DueDateDateTime", "DateTimeString"])
    paymentMeansCode := findText settlement ["SpecifiedTradeSettlementPaymentMeans", "TypeCode"]
    taxes := parseTaxes settlement
    lineExtensionAmount := toDecimal (findText summation ["LineTotalAmount"])
    taxExclusiveAmount := toDecimal (findText summation ["TaxBasisTotalAmount"])
    -- `… or doc.tax_total`, before anything was written to the field
    taxTotal := decimalOr (toDecimal (findText summation ["TaxTotalAmount"])) none
    allowanceTotal := toDecimal (findText summation ["AllowanceTotalAmount"])
    chargeTotal := toDecimal (findText summation ["ChargeTotalAmount"])
    taxInclusiveAmount := toDecimal (findText summation ["GrandTotalAmount"])
    payableAmount := toDecimal (findText summation ["DuePayableAmount"])
    lines := (Xml.allNamed "IncludedSupplyChainTradeLineItem" txn.toList).map parseLine }

end Parser

end Cii

end Payables.EInvoice
