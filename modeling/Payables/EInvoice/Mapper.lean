import Payables.EInvoice.Document

namespace Payables.EInvoice

open Lib

/-- A `Numeric` column with `scale` places: a whole number of units of its last place. -/
structure Numeric (scale : Nat) where
  units : ℤ
  deriving DecidableEq

def Numeric.value {scale : Nat} (amount : Numeric scale) : ℚ := amount.units / 10 ^ scale

/-- The columns of an `Invoice` row that the export reads. -/
structure StoredInvoice where
  invoiceNumber : String
  vendorName : String
  amount : Numeric 2
  currency : String
  invoiceDate : Option CalendarDate
  dueDate : Option CalendarDate
  paymentTerms : Option String
  poNumber : Option String
  subtotal : Option (Numeric 2)
  taxAmount : Option (Numeric 2)
  discountAmount : Option (Numeric 2)
  shippingAmount : Option (Numeric 2)
  vendorAddress : Option String
  vendorTaxId : Option String
  taxRate : Option (Numeric 2)
  paymentMethod : Option String
  referenceNumber : Option String
  deriving DecidableEq

/-- An `InvoiceLineItem` row. -/
structure StoredLine where
  lineNumber : Option ℤ
  itemCode : Option String
  description : Option String
  quantity : Option (Numeric 4)
  unitPrice : Option (Numeric 2)
  tax : Option (Numeric 2)
  total : Option (Numeric 2)
  deriving DecidableEq

structure BuyerIdentity where
  name : String
  taxId : Option String
  registrationId : Option String
  addressLines : List String
  city : Option String
  postalCode : Option String
  countryCode : Option String
  email : Option String
  deriving DecidableEq

/-- The registered id of a PEPPOL participant. -/
structure ParticipantId where
  value : String
  scheme : String
  deriving DecidableEq

section Tables

/-- `_VAT_PREFIX_TO_COUNTRY`. -/
def vatPrefixToCountry : List (String × String) :=
  [("AT", "AT"), ("BE", "BE"), ("BG", "BG"), ("CY", "CY"), ("CZ", "CZ"), ("DE", "DE"), ("DK", "DK"), ("EE", "EE"),
    ("ES", "ES"), ("FI", "FI"), ("FR", "FR"), ("HR", "HR"), ("HU", "HU"), ("IE", "IE"), ("IT", "IT"), ("LT", "LT"),
    ("LU", "LU"), ("LV", "LV"), ("MT", "MT"), ("NL", "NL"), ("PL", "PL"), ("PT", "PT"), ("RO", "RO"), ("SE", "SE"),
    ("SI", "SI"), ("SK", "SK"), ("EL", "GR"), ("GB", "GB")]

/-- `PAYMENT_MEANS_TO_METHOD`. -/
def paymentMeansToMethod : List (String × String) :=
  [("30", "ach"), ("58", "ach"), ("31", "wire"), ("42", "wire"), ("20", "check"), ("48", "credit_card"),
    ("54", "credit_card")]

/-- `METHOD_TO_PAYMENT_MEANS`. -/
def methodToPaymentMeansCodes : List (String × String) :=
  [("ach", "30"), ("wire", "42"), ("check", "20"), ("credit_card", "48")]

/-- `method_to_payment_means`. -/
def methodToPaymentMeans (method : Option String) : Option String :=
  (truthy method).bind fun method =>
    let raw := pyStripText method
    if (paymentMeansToMethod.map (·.1)).contains raw then some raw
    else tableGet methodToPaymentMeansCodes (String.ofList (raw.toList.map Char.toLower))

/-- `_country_from_tax_id`. -/
def countryFromTaxId (taxId : Option String) : Option String :=
  (truthy taxId).bind fun id =>
    tableGet vatPrefixToCountry (String.ofList (((pyUpper (pyStripText id)).toList.filter (· != ' ')).take 2))

end Tables

/-- The characters at which `str.splitlines` ends a line. -/
def isLineBreak (c : Char) : Bool :=
  let n := c.toNat
  (10 ≤ n && n ≤ 13) || (28 ≤ n && n ≤ 30) || n == 0x85 || n == 0x2028 || n == 0x2029

/-- `str.splitlines`, with the part of the current line already read, in reverse. -/
def splitLinesFrom (line : List Char) : List Char → List (List Char)
  | [] => if line = [] then [] else [line.reverse]
  | '\r' :: '\n' :: rest => line.reverse :: splitLinesFrom [] rest
  | c :: rest => if isLineBreak c then line.reverse :: splitLinesFrom [] rest else splitLinesFrom (c :: line) rest

/-- `_split_address`. -/
def splitAddress (address : Option String) : List String :=
  match truthy address with
  | none => []
  | some text => ((splitLinesFrom [] text.toList).map (String.ofList ∘ pyStrip)).filter (· != "")

/-- `_DEFAULT_TAX_CATEGORY`. -/
def defaultTaxCategory : String := "S"

/-- `_tax_exclusive_base`. -/
def taxExclusiveBase (invoice : StoredInvoice) : Option ℚ :=
  invoice.subtotal.map fun subtotal =>
    subtotal.value - (invoice.discountAmount.map Numeric.value).getD 0 + (invoice.shippingAmount.map Numeric.value).getD 0

/-- The seller of the document: the vendor. -/
def sellerOf (invoice : StoredInvoice) : EInvoiceParty where
  name := invoice.vendorName
  taxId := invoice.vendorTaxId
  addressLines := splitAddress invoice.vendorAddress
  countryCode := countryFromTaxId invoice.vendorTaxId

/-- The buyer of the document: our own entity. -/
def buyerOf (identity : BuyerIdentity) : EInvoiceParty where
  name := identity.name
  taxId := identity.taxId
  registrationId := identity.registrationId
  addressLines := identity.addressLines
  city := identity.city
  postalCode := identity.postalCode
  countryCode := identity.countryCode
  email := identity.email

/-- The single VAT group of the document, where the row has a tax or a rate. -/
def taxesOf (invoice : StoredInvoice) : List EInvoiceTax :=
  if invoice.taxAmount.isSome || invoice.taxRate.isSome then
    [{ category := defaultTaxCategory
       rate := invoice.taxRate.map Numeric.value
       taxableAmount := taxExclusiveBase invoice
       taxAmount := invoice.taxAmount.map Numeric.value }]
  else []

/-- One line of the document: every line is at the rate of the invoice. -/
def lineOf (invoice : StoredInvoice) (line : StoredLine) : EInvoiceLine where
  lineId := line.lineNumber.map toString
  itemCode := line.itemCode
  description := line.description
  quantity := line.quantity.map Numeric.value
  unitPrice := line.unitPrice.map Numeric.value
  lineTotal := line.total.map Numeric.value
  taxAmount := line.tax.map Numeric.value
  taxRate := invoice.taxRate.map Numeric.value
  taxCategory := if invoice.taxRate.isSome then some defaultTaxCategory else none

/-- `invoice_to_einvoice_document`. -/
def invoiceToEinvoiceDocument (invoice : StoredInvoice) (lineItems : List StoredLine) (buyerIdentity : BuyerIdentity) :
    EInvoiceDocument where
  sourceFormat := .ubl
  invoiceNumber := invoice.invoiceNumber
  issueDate := invoice.invoiceDate
  dueDate := invoice.dueDate
  currency := invoice.currency
  invoiceTypeCode := "380"
  buyerReference := invoice.referenceNumber
  orderReference := invoice.poNumber
  paymentTermsNote := invoice.paymentTerms
  paymentMeansCode := methodToPaymentMeans invoice.paymentMethod
  seller := sellerOf invoice
  buyer := buyerOf buyerIdentity
  lineExtensionAmount := invoice.subtotal.map Numeric.value
  taxExclusiveAmount := taxExclusiveBase invoice
  taxInclusiveAmount := some invoice.amount.value
  taxTotal := invoice.taxAmount.map Numeric.value
  allowanceTotal := invoice.discountAmount.map Numeric.value
  chargeTotal := invoice.shippingAmount.map Numeric.value
  payableAmount := some invoice.amount.value
  taxes := taxesOf invoice
  lines := lineItems.map (lineOf invoice)

/-- A document whose parties carry the ids of the participants that a send names, receiver first. -/
def EInvoiceDocument.stamped (doc : EInvoiceDocument) (participants : Option (ParticipantId × ParticipantId)) :
    EInvoiceDocument :=
  match participants with
  | none => doc
  | some (receiver, sender) =>
    { doc with
      seller := { doc.seller with endpointId := some receiver.value, endpointSchemeId := some receiver.scheme }
      buyer := { doc.buyer with endpointId := some sender.value, endpointSchemeId := some sender.scheme } }

section Scales

theorem hasPlaces_value {scale : Nat} (amount : Option (Numeric scale)) : HasPlaces scale (amount.map Numeric.value) := by
  intro d member
  obtain ⟨numeric, _, rfl⟩ := Option.mem_map.mp member
  exact ⟨numeric.units, rfl⟩

/-- The base of the tax is at the scale of the columns it is added from. -/
theorem hasPlaces_taxExclusiveBase (invoice : StoredInvoice) : HasPlaces 2 (taxExclusiveBase invoice) := by
  intro d member
  obtain ⟨subtotal, _, rfl⟩ := Option.mem_map.mp member
  have discount : ∃ units : ℤ, (invoice.discountAmount.map Numeric.value).getD 0 = units / 10 ^ 2 := by
    cases invoice.discountAmount with
    | none => exact ⟨0, by simp⟩
    | some amount => exact ⟨amount.units, rfl⟩
  have shipping : ∃ units : ℤ, (invoice.shippingAmount.map Numeric.value).getD 0 = units / 10 ^ 2 := by
    cases invoice.shippingAmount with
    | none => exact ⟨0, by simp⟩
    | some amount => exact ⟨amount.units, rfl⟩
  obtain ⟨less, discounted⟩ := discount
  obtain ⟨more, shipped⟩ := shipping
  refine ⟨subtotal.units - less + more, ?_⟩
  simp only [discounted, shipped, Numeric.value]
  push_cast
  ring

end Scales

end Payables.EInvoice
