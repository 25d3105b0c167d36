import Payables.EInvoice.Ubl
import Payables.EInvoice.Mapper

namespace Payables.EInvoice

open Lib

/-- Every string of a party is trimmed and not empty. -/
structure EInvoiceParty.Tidy (party : EInvoiceParty) : Prop where
  name : TidyText party.name
  taxId : TidyText party.taxId
  registrationId : TidyText party.registrationId
  addressLines : ∀ line ∈ party.addressLines, TidyText (some line)
  city : TidyText party.city
  postalCode : TidyText party.postalCode
  countryCode : TidyText party.countryCode
  email : TidyText party.email
  endpointId : TidyText party.endpointId
  endpointSchemeId : TidyText party.endpointSchemeId

/-- The party as its element holds it: an address line needs a tag of its own, and each half of the
electronic address needs the other. -/
def EInvoiceParty.held (party : EInvoiceParty) : EInvoiceParty :=
  { party with
    addressLines := party.addressLines.take lineTags.length
    endpointId := party.endpointSchemeId.bind fun _ => party.endpointId
    endpointSchemeId := party.endpointId.bind fun _ => party.endpointSchemeId }

/-- The party as the reader of UBL finds it. -/
def EInvoiceParty.readBack (party : EInvoiceParty) : EInvoiceParty where
  name := stripped party.name
  taxId := stripped party.taxId
  registrationId := stripped party.registrationId
  addressLines := (party.addressLines.take lineTags.length).filterMap fun line => stripped (some line)
  city := stripped party.city
  postalCode := stripped party.postalCode
  countryCode := stripped party.countryCode
  email := stripped party.email
  endpointId := (truthy party.endpointSchemeId).bind fun _ => stripped party.endpointId
  endpointSchemeId := (truthy party.endpointId).bind fun _ => truthy party.endpointSchemeId

section Party

variable {party : EInvoiceParty}

@[simp] theorem firstNamed_endpointOf (wanted : String) :
    Xml.firstNamed wanted (endpointOf party) = if "EndpointID" = wanted then (endpointOf party).head? else none := by
  unfold endpointOf
  split
  · simp only [Xml.firstNamed_cons, Xml.localName?, Option.some.injEq, Xml.firstNamed_nil, List.head?_cons]
  · simp only [Xml.firstNamed_nil, List.head?_nil, ite_self]

theorem findText_partyName : findText (buildParty party) ["PartyName", "Name"] = stripped party.name := by
  rw [buildParty, findText_branch]
  simp only [Xml.firstNamed_append, firstNamed_endpointOf, firstNamed_branchIf, firstNamed_elementIf_branch, String.reduceEq,
    if_false, if_true, Option.none_or, Option.or_none]
  exact findText_map_branch fun _ => rfl

theorem findText_partyTaxId : findText (buildParty party) ["PartyTaxScheme", "CompanyID"] = stripped party.taxId := by
  rw [buildParty, findText_branch]
  simp only [Xml.firstNamed_append, firstNamed_endpointOf, firstNamed_branchIf, firstNamed_elementIf_branch, String.reduceEq,
    if_false, if_true, Option.none_or, Option.or_none]
  exact findText_map_branch fun _ => rfl

theorem findText_partyEmail : findText (buildParty party) ["Contact", "ElectronicMail"] = stripped party.email := by
  rw [buildParty, findText_branch]
  simp only [Xml.firstNamed_append, firstNamed_endpointOf, firstNamed_branchIf, firstNamed_elementIf_branch, String.reduceEq,
    if_false, if_true, Option.none_or, Option.or_none]
  exact findText_map_branch fun _ => rfl

/-- What is read of the legal entity is what was written of it. -/
theorem findText_partyLegalEntity {wanted : String} {text : Option String}
    (absent : (truthy text).isSome → ((truthy party.name).isSome || (truthy party.registrationId).isSome) = true)
    (found : Xml.firstNamed wanted (legalEntityOf party) = (truthy text).map (cbc wanted)) :
    findText (buildParty party) ["PartyLegalEntity", wanted] = stripped text := by
  rw [buildParty, findText_branch]
  simp only [Xml.firstNamed_append, firstNamed_endpointOf, firstNamed_branchIf, firstNamed_elementIf_branch, String.reduceEq,
    if_false, if_true, Option.none_or, Option.or_none]
  cases present : (truthy party.name).isSome || (truthy party.registrationId).isSome with
  | true => rw [if_pos rfl, findText_branch, found, findText_map_leaf]
  | false =>
    rw [if_neg Bool.false_ne_true, findText_none, ← bind_truthy]
    cases shown : truthy text with
    | none => rfl
    | some t => exact absurd (absent (by rw [shown]; rfl)) (by rw [present]; decide)

theorem findText_registrationName :
    findText (buildParty party) ["PartyLegalEntity", "RegistrationName"] = stripped party.name := by
  refine findText_partyLegalEntity ?_ ?_
  · intro present
    rw [present, Bool.true_or]
  · simp only [legalEntityOf, Xml.firstNamed_append, firstNamed_leafIf, String.reduceEq, if_false, if_true, Option.or_none]

theorem findText_registrationId :
    findText (buildParty party) ["PartyLegalEntity", "CompanyID"] = stripped party.registrationId := by
  refine findText_partyLegalEntity ?_ ?_
  · intro present
    rw [present, Bool.or_true]
  · simp only [legalEntityOf, Xml.firstNamed_append, firstNamed_leafIf, String.reduceEq, if_false, if_true, Option.none_or]

/-- The address element of a party, where it has one. -/
theorem atPath_postalAddress :
    Xml.atPath ["PostalAddress"] (buildParty party) =
      if hasAddress party then some (cac "PostalAddress" (addressOf party)) else none := by
  rw [buildParty, atPath_branch]
  simp only [Xml.firstNamed_append, firstNamed_endpointOf, firstNamed_branchIf, firstNamed_elementIf_branch, String.reduceEq,
    if_false, if_true, Option.none_or, Option.or_none]

theorem atPath_endpoint : Xml.atPath ["EndpointID"] (buildParty party) = (endpointOf party).head? := by
  rw [buildParty, atPath_branch]
  simp only [Xml.firstNamed_append, firstNamed_endpointOf, firstNamed_branchIf, firstNamed_elementIf_branch, String.reduceEq,
    if_false, if_true, Option.or_none]

theorem firstNamed_addressLines (wanted : String) (lines : List String) :
    Xml.firstNamed wanted (taggedLines nsCbc lineTags lines) =
      if "StreetName" = wanted then (truthy lines[0]?).map (cbc "StreetName")
      else if "AdditionalStreetName" = wanted then (truthy lines[1]?).map (cbc "AdditionalStreetName")
      else if "BuildingNumber" = wanted then (truthy lines[2]?).map (cbc "BuildingNumber")
      else none :=
  firstNamed_taggedLines (by decide) lines

/-- A party without an address element has none of the fields that the element holds. -/
theorem noAddress (absent : hasAddress party = false) :
    party.addressLines = [] ∧ truthy party.city = none ∧ truthy party.postalCode = none ∧ truthy party.countryCode = none := by
  simp only [hasAddress, Bool.or_eq_false_iff, Bool.not_eq_false', List.isEmpty_iff, Option.isSome_eq_false_iff,
    Option.isNone_iff_eq_none] at absent
  exact ⟨absent.1.1.1, absent.1.1.2, absent.1.2, absent.2⟩

theorem stripped_of_truthy_none {text : Option String} (absent : truthy text = none) : stripped text = none := by
  rw [← bind_truthy, absent, Option.bind_none]

theorem findText_city :
    findText (Xml.atPath ["PostalAddress"] (buildParty party)) ["CityName"] = stripped party.city := by
  rw [atPath_postalAddress]
  cases present : hasAddress party with
  | false => exact (stripped_of_truthy_none (noAddress present).2.1).symm
  | true =>
    rw [if_pos rfl, findText_branch]
    simp only [addressOf, Xml.firstNamed_append, firstNamed_addressLines, firstNamed_leafIf, firstNamed_branchIf,
      String.reduceEq, if_false, if_true, Option.none_or, Option.or_none]
    exact findText_map_leaf

theorem findText_postalCode :
    findText (Xml.atPath ["PostalAddress"] (buildParty party)) ["PostalZone"] = stripped party.postalCode := by
  rw [atPath_postalAddress]
  cases present : hasAddress party with
  | false => exact (stripped_of_truthy_none (noAddress present).2.2.1).symm
  | true =>
    rw [if_pos rfl, findText_branch]
    simp only [addressOf, Xml.firstNamed_append, firstNamed_addressLines, firstNamed_leafIf, firstNamed_branchIf,
      String.reduceEq, if_false, if_true, Option.none_or, Option.or_none]
    exact findText_map_leaf

theorem findText_countryCode :
    findText (Xml.atPath ["PostalAddress"] (buildParty party)) ["Country", "IdentificationCode"] = stripped party.countryCode := by
  rw [atPath_postalAddress]
  cases present : hasAddress party with
  | false => exact (stripped_of_truthy_none (noAddress present).2.2.2).symm
  | true =>
    rw [if_pos rfl, findText_branch]
    simp only [addressOf, Xml.firstNamed_append, firstNamed_addressLines, firstNamed_leafIf, firstNamed_branchIf,
      String.reduceEq, if_false, if_true, Option.none_or]
    exact findText_map_branch fun _ => rfl

/-- The first three address lines come back in order, and no others. -/
theorem findText_addressLines :
    (lineTags.filterMap fun tag => findText (Xml.atPath ["PostalAddress"] (buildParty party)) [tag]) =
      (party.addressLines.take lineTags.length).filterMap fun line => stripped (some line) := by
  rw [atPath_postalAddress]
  cases present : hasAddress party with
  | false =>
    rw [(noAddress present).1]
    simp [lineTags]
  | true =>
    have first : findText (some (cac "PostalAddress" (addressOf party))) ["StreetName"] = stripped party.addressLines[0]? := by
      simp only [findText_branch, addressOf, Xml.firstNamed_append, firstNamed_addressLines, firstNamed_leafIf,
        firstNamed_branchIf, String.reduceEq, if_false, if_true, Option.or_none]
      exact findText_map_leaf
    have second : findText (some (cac "PostalAddress" (addressOf party))) ["AdditionalStreetName"] =
        stripped party.addressLines[1]? := by
      simp only [findText_branch, addressOf, Xml.firstNamed_append, firstNamed_addressLines, firstNamed_leafIf,
        firstNamed_branchIf, String.reduceEq, if_false, if_true, Option.or_none]
      exact findText_map_leaf
    have third : findText (some (cac "PostalAddress" (addressOf party))) ["BuildingNumber"] =
        stripped party.addressLines[2]? := by
      simp only [findText_branch, addressOf, Xml.firstNamed_append, firstNamed_addressLines, firstNamed_leafIf,
        firstNamed_branchIf, String.reduceEq, if_false, if_true, Option.or_none]
      exact findText_map_leaf
    have none : stripped none = none := rfl
    rw [if_pos rfl]
    simp only [lineTags, List.filterMap_cons, List.filterMap_nil, first, second, third]
    rcases party.addressLines with _ | ⟨street, _ | ⟨additional, _ | ⟨building, rest⟩⟩⟩
    all_goals simp [none, List.filterMap_cons]

theorem parse_endpoint :
    ((Xml.atPath ["EndpointID"] (buildParty party)).bind fun el => nonEmpty (pyStripText (el.text.getD ""))) =
        ((truthy party.endpointSchemeId).bind fun _ => stripped party.endpointId) ∧
      (Xml.atPath ["EndpointID"] (buildParty party)).bind (Xml.get "schemeID") =
        ((truthy party.endpointId).bind fun _ => truthy party.endpointSchemeId) := by
  rw [atPath_endpoint, ← bind_truthy]
  unfold endpointOf
  cases truthy party.endpointId with
  | none => cases truthy party.endpointSchemeId <;> exact ⟨rfl, rfl⟩
  | some id =>
    cases truthy party.endpointSchemeId with
    | none => exact ⟨rfl, rfl⟩
    | some scheme => simp [Xml.get, Xml.text]

/-- A party is read back without the space around its strings, and without what has no element. -/
theorem parseParty_buildParty : parseParty (buildParty party) = party.readBack := by
  have endpoint := @parse_endpoint party
  have name : (stripped party.name).or (stripped party.name) = stripped party.name := by cases stripped party.name <;> rfl
  simp only [parseParty, findText_partyName, findText_registrationName, findText_partyTaxId, findText_registrationId,
    findText_addressLines, findText_city, findText_postalCode, findText_countryCode, findText_partyEmail, endpoint.1,
    endpoint.2, name, EInvoiceParty.readBack]

/-- A party of trimmed strings is read back as its element holds it. -/
theorem readBack_eq_held (tidy : party.Tidy) : party.readBack = party.held := by
  have lines : ((party.addressLines.take lineTags.length).filterMap fun line => stripped (some line)) =
      party.addressLines.take lineTags.length := by
    have each : ∀ line ∈ party.addressLines.take lineTags.length, stripped (some line) = some line :=
      fun line member => (tidy.addressLines line (List.mem_of_mem_take member)).stripped_eq
    rw [List.filterMap_congr each, List.filterMap_some]
  simp only [EInvoiceParty.readBack, EInvoiceParty.held, tidy.name.stripped_eq, tidy.taxId.stripped_eq,
    tidy.registrationId.stripped_eq, lines, tidy.city.stripped_eq, tidy.postalCode.stripped_eq,
    tidy.countryCode.stripped_eq, tidy.email.stripped_eq, tidy.endpointId.stripped_eq, tidy.endpointId.truthy_eq,
    tidy.endpointSchemeId.truthy_eq]

end Party

structure EInvoiceTax.Exact (tax : EInvoiceTax) : Prop where
  rate : HasPlaces 2 tax.rate
  taxableAmount : HasPlaces 2 tax.taxableAmount
  taxAmount : HasPlaces 2 tax.taxAmount

structure EInvoiceLine.Tidy (line : EInvoiceLine) : Prop where
  lineId : TidyText line.lineId
  itemCode : TidyText line.itemCode
  description : TidyText line.description
  unitCode : TidyText line.unitCode
  taxCategory : TidyText line.taxCategory

structure EInvoiceLine.Exact (line : EInvoiceLine) : Prop where
  quantity : HasPlaces 4 line.quantity
  unitPrice : HasPlaces 2 line.unitPrice
  lineTotal : HasPlaces 2 line.lineTotal
  taxRate : HasPlaces 2 line.taxRate
  taxAmount : HasPlaces 2 line.taxAmount

/-- The line as its element holds it: a quantity always has a unit, and the unit needs a quantity. -/
def EInvoiceLine.held (line : EInvoiceLine) : EInvoiceLine :=
  { line with unitCode := line.quantity.map fun _ => line.unitCode.getD defaultUnitCode }

/-- The VAT group as the reader of UBL finds it. -/
def EInvoiceTax.readBack (tax : EInvoiceTax) : EInvoiceTax where
  category := stripped tax.category
  rate := tax.rate.map (quantized 2)
  taxableAmount := tax.taxableAmount.map (quantized 2)
  taxAmount := tax.taxAmount.map (quantized 2)

/-- The line as the reader of UBL finds it. -/
def EInvoiceLine.readBack (line : EInvoiceLine) : EInvoiceLine where
  lineId := stripped line.lineId
  itemCode := stripped line.itemCode
  description := stripped line.description
  quantity := line.quantity.map (quantized 4)
  unitCode := line.quantity.map fun _ => (truthy line.unitCode).getD defaultUnitCode
  unitPrice := line.unitPrice.map (quantized 2)
  lineTotal := line.lineTotal.map (quantized 2)
  taxRate := line.taxRate.map (quantized 2)
  taxAmount := line.taxAmount.map (quantized 2)
  taxCategory := stripped line.taxCategory

section Taxes

variable {currency : Option String} {tax : EInvoiceTax}

/-- A VAT group is read back as its texts round it. -/
theorem parseTaxSubtotal_build : parseTaxSubtotal (buildTaxSubtotal currency tax) = tax.readBack := by
  have category : findText (buildTaxSubtotal currency tax) ["TaxCategory", "ID"] = stripped tax.category := by
    simp only [buildTaxSubtotal, findText_branch, Xml.firstNamed_append, firstNamed_amountIf, firstNamed_branch,
      firstNamed_leafIf, firstNamed_rateIf, vatScheme, String.reduceEq, if_false, if_true, Option.none_or,
      Xml.firstNamed_nil, Option.or_none]
    exact findText_map_leaf
  have rate : toDecimal (findText (buildTaxSubtotal currency tax) ["TaxCategory", "Percent"]) = tax.rate.map (quantized 2) := by
    simp only [buildTaxSubtotal, findText_branch, Xml.firstNamed_append, firstNamed_amountIf, firstNamed_branch,
      firstNamed_leafIf, firstNamed_rateIf, vatScheme, String.reduceEq, if_false, if_true, Option.none_or,
      Xml.firstNamed_nil, Option.or_none]
    exact toDecimal_map_rate tax.rate
  have taxable : toDecimal (findText (buildTaxSubtotal currency tax) ["TaxableAmount"]) =
      tax.taxableAmount.map (quantized 2) := by
    simp only [buildTaxSubtotal, findText_branch, Xml.firstNamed_append, firstNamed_amountIf, firstNamed_branch,
      String.reduceEq, if_false, if_true, Xml.firstNamed_nil, Option.or_none]
    exact toDecimal_map_amount tax.taxableAmount
  have amount : toDecimal (findText (buildTaxSubtotal currency tax) ["TaxAmount"]) = tax.taxAmount.map (quantized 2) := by
    simp only [buildTaxSubtotal, findText_branch, Xml.firstNamed_append, firstNamed_amountIf, firstNamed_branch,
      String.reduceEq, if_false, if_true, Option.none_or, Xml.firstNamed_nil, Option.or_none]
    exact toDecimal_map_amount tax.taxAmount
  rw [parseTaxSubtotal, category, rate, taxable, amount, EInvoiceTax.readBack]

/-- The VAT groups of a total are its children of their name. -/
theorem taxSubtotals_of_total (doc : EInvoiceDocument) :
    (buildTaxTotal doc).children.filter (·.localName? == some "TaxSubtotal") = doc.taxes.map (buildTaxSubtotal doc.currency) := by
  have amount : (amountEl "TaxAmount" doc.taxTotal doc.currency).filter (·.localName? == some "TaxSubtotal") = [] := by
    cases doc.taxTotal <;> rfl
  have groups : (doc.taxes.map (buildTaxSubtotal doc.currency)).filter (·.localName? == some "TaxSubtotal") =
      doc.taxes.map (buildTaxSubtotal doc.currency) := by
    rw [List.filter_eq_self]
    intro group member
    obtain ⟨tax, _, rfl⟩ := List.mem_map.mp member
    rfl
  rw [buildTaxTotal, children_branch, List.filter_append, amount, groups, List.nil_append]

end Taxes

section Lines

variable {currency : Option String} {line : EInvoiceLine}

@[simp] theorem firstNamed_quantityOf (wanted : String) :
    Xml.firstNamed wanted (quantityOf line) =
      if "InvoicedQuantity" = wanted then
        line.quantity.map (quantityLeaf nsCbc "InvoicedQuantity" ((truthy line.unitCode).getD defaultUnitCode))
      else none :=
  firstNamed_toList (fun _ => rfl) _

theorem findText_lineId : findText (buildLine currency line) ["ID"] = stripped line.lineId := by
  simp only [buildLine, findText_branch, Xml.firstNamed_append, firstNamed_leafIf, firstNamed_quantityOf, firstNamed_amountIf,
    firstNamed_elementIf_branch, String.reduceEq, if_false, if_true, Option.or_none]
  exact findText_map_leaf

theorem toDecimal_lineTotal :
    toDecimal (findText (buildLine currency line) ["LineExtensionAmount"]) = line.lineTotal.map (quantized 2) := by
  simp only [buildLine, findText_branch, Xml.firstNamed_append, firstNamed_leafIf, firstNamed_quantityOf, firstNamed_amountIf,
    firstNamed_elementIf_branch, String.reduceEq, if_false, if_true, Option.none_or, Option.or_none]
  exact toDecimal_map_amount line.lineTotal

theorem toDecimal_unitPrice :
    toDecimal (findText (buildLine currency line) ["Price", "PriceAmount"]) = line.unitPrice.map (quantized 2) := by
  simp only [buildLine, findText_branch, Xml.firstNamed_append, firstNamed_leafIf, firstNamed_quantityOf, firstNamed_amountIf,
    firstNamed_elementIf_branch, String.reduceEq, if_false, if_true, Option.none_or]
  cases line.unitPrice with
  | none => rfl
  | some price =>
    simp only [Option.isSome_some, if_true, findText_branch, firstNamed_amountIf]
    exact toDecimal_map_amount (some price)

theorem atPath_quantity :
    Xml.atPath ["InvoicedQuantity"] (buildLine currency line) =
      line.quantity.map (quantityLeaf nsCbc "InvoicedQuantity" ((truthy line.unitCode).getD defaultUnitCode)) := by
  simp only [buildLine, atPath_branch, Xml.firstNamed_append, firstNamed_leafIf, firstNamed_quantityOf, firstNamed_amountIf,
    firstNamed_elementIf_branch, String.reduceEq, if_false, if_true, Option.none_or, Option.or_none]

theorem parse_quantity :
    ((Xml.atPath ["InvoicedQuantity"] (buildLine currency line)).bind fun el => toDecimal el.text) =
      line.quantity.map (quantized 4) := by
  rw [atPath_quantity]
  exact toDecimal_map_quantity line.quantity

theorem parse_unitCode :
    (Xml.atPath ["InvoicedQuantity"] (buildLine currency line)).bind (Xml.get "unitCode") =
      line.quantity.map fun _ => (truthy line.unitCode).getD defaultUnitCode := by
  rw [atPath_quantity]
  exact get_map_quantity line.quantity

theorem atPath_lineTax :
    Xml.atPath ["TaxTotal"] (buildLine currency line) =
      if line.taxAmount.isSome || line.taxRate.isSome then some (cac "TaxTotal" (lineTaxOf line currency)) else none := by
  simp only [buildLine, atPath_branch, Xml.firstNamed_append, firstNamed_leafIf, firstNamed_quantityOf, firstNamed_amountIf,
    firstNamed_elementIf_branch, String.reduceEq, if_false, if_true, Option.none_or, Option.or_none]

theorem toDecimal_lineTax :
    toDecimal (findText (Xml.atPath ["TaxTotal"] (buildLine currency line)) ["TaxAmount"]) =
      line.taxAmount.map (quantized 2) := by
  rw [atPath_lineTax]
  cases present : line.taxAmount.isSome || line.taxRate.isSome with
  | false =>
    rw [Bool.or_eq_false_iff, Option.isSome_eq_false_iff, Option.isNone_iff_eq_none] at present
    rw [present.1]
    rfl
  | true =>
    simp only [if_true, findText_branch, lineTaxOf, Xml.firstNamed_append, firstNamed_amountIf, firstNamed_elementIf_branch,
      String.reduceEq, if_false, Option.or_none]
    exact toDecimal_map_amount line.taxAmount

theorem toDecimal_lineTaxRate :
    toDecimal (findText (Xml.atPath ["TaxTotal"] (buildLine currency line)) ["TaxSubtotal", "TaxCategory", "Percent"]) =
      line.taxRate.map (quantized 2) := by
  rw [atPath_lineTax]
  cases rate : line.taxRate with
  | none =>
    simp only [Option.isSome_none, Bool.or_false]
    cases line.taxAmount.isSome
    · rfl
    · simp only [if_true, findText_branch, lineTaxOf, rate, Xml.firstNamed_append, firstNamed_amountIf,
        firstNamed_elementIf_branch, String.reduceEq, if_false, Option.isSome_none, Bool.false_eq_true, Option.or_none]
      rfl
  | some rate' =>
    simp only [Option.isSome_some, Bool.or_true, if_true, findText_branch, lineTaxOf, rate, Xml.firstNamed_append,
      firstNamed_amountIf, firstNamed_elementIf_branch, firstNamed_branch, firstNamed_rateIf, String.reduceEq, if_false,
      Option.none_or]
    exact toDecimal_map_rate (some rate')

/-- What the item element of a line leads to, where the line has one. -/
theorem atPath_item (names : List String) :
    Xml.atPath ("Item" :: names) (buildLine currency line) =
      if (truthy line.description).isSome || (truthy line.itemCode).isSome || (truthy line.taxCategory).isSome ||
        line.taxRate.isSome then Xml.atPath names (cac "Item" (itemOf line)) else none := by
  rw [buildLine, Xml.atPath, children_branch]
  simp only [Xml.firstNamed_append, firstNamed_leafIf, firstNamed_quantityOf, firstNamed_amountIf,
    firstNamed_elementIf_branch, String.reduceEq, if_false, if_true, Option.none_or, Option.or_none]
  split
  · rfl
  · rfl

/-- A string of the item is read back, wherever the item holds it. -/
theorem findText_item {names : List String} {text : Option String}
    (absent : (truthy text).isSome → ((truthy line.description).isSome || (truthy line.itemCode).isSome ||
      (truthy line.taxCategory).isSome || line.taxRate.isSome) = true)
    (found : findText (cac "Item" (itemOf line)) names = stripped text) :
    findText (buildLine currency line) ("Item" :: names) = stripped text := by
  have below := @atPath_item currency line names
  unfold findText at found ⊢
  rw [Option.bind_some] at found ⊢
  rw [below]
  split
  · exact found
  · next missing =>
    rw [← bind_truthy]
    cases shown : truthy text with
    | none => rfl
    | some t => exact absurd (absent (by rw [shown]; rfl)) missing

theorem findText_description : findText (buildLine currency line) ["Item", "Name"] = stripped line.description := by
  refine findText_item ?_ ?_
  · intro present
    rw [present, Bool.true_or, Bool.true_or, Bool.true_or]
  · simp only [itemOf, findText_branch, Xml.firstNamed_append, firstNamed_leafIf, firstNamed_branchIf, String.reduceEq,
      if_false, if_true, Option.or_none]
    exact findText_map_leaf

theorem findText_itemDescription : findText (buildLine currency line) ["Item", "Description"] = none := by
  refine @findText_item currency line ["Description"] none ?_ ?_
  · intro present
    cases present
  · simp only [itemOf, findText_branch, Xml.firstNamed_append, firstNamed_leafIf, firstNamed_branchIf, String.reduceEq,
      if_false, Option.or_none, findText_none]
    rfl

theorem findText_itemCode :
    findText (buildLine currency line) ["Item", "SellersItemIdentification", "ID"] = stripped line.itemCode := by
  refine findText_item ?_ ?_
  · intro present
    rw [present, Bool.or_true, Bool.true_or, Bool.true_or]
  · simp only [itemOf, findText_branch, Xml.firstNamed_append, firstNamed_leafIf, firstNamed_branchIf, String.reduceEq,
      if_false, if_true, Option.none_or, Option.or_none]
    exact findText_map_branch fun _ => rfl

/-- The classified category of a line stands where the line has a category. -/
theorem atPath_classified :
    Xml.atPath ["Item", "ClassifiedTaxCategory"] (buildLine currency line) =
      (truthy line.taxCategory).map fun category =>
        cac "ClassifiedTaxCategory" ([cbc "ID" category] ++ rateIf nsCbc "Percent" line.taxRate ++ [vatScheme]) := by
  rw [atPath_item]
  simp only [atPath_branch, itemOf, Xml.firstNamed_append, firstNamed_leafIf, firstNamed_branchIf, String.reduceEq,
    if_false, if_true, Option.none_or]
  split
  · rfl
  · next missing =>
    cases category : truthy line.taxCategory with
    | none => rfl
    | some category' => simp [category] at missing

theorem findText_taxCategory :
    findText (Xml.atPath ["Item", "ClassifiedTaxCategory"] (buildLine currency line)) ["ID"] = stripped line.taxCategory := by
  rw [atPath_classified]
  exact findText_map_branch fun _ => rfl

/-- The rate of the classified category is the rate of the line, or there is no such category. -/
theorem toDecimal_classified :
    (toDecimal (findText (Xml.atPath ["Item", "ClassifiedTaxCategory"] (buildLine currency line)) ["Percent"])).or
      (line.taxRate.map (quantized 2)) = line.taxRate.map (quantized 2) := by
  rw [atPath_classified]
  cases truthy line.taxCategory with
  | none => rfl
  | some category =>
    simp only [Option.map_some, findText_branch, List.cons_append, List.nil_append, firstNamed_leaf, Xml.firstNamed_append,
      firstNamed_rateIf, vatScheme, firstNamed_branch, Xml.firstNamed_nil, String.reduceEq, if_false, if_true,
      Option.or_none]
    rw [toDecimal_map_rate]
    cases line.taxRate <;> rfl

/-- A line is read back as its texts round it, without the space around its strings. -/
theorem parseLine_buildLine : parseLine (buildLine currency line) = line.readBack := by
  have description : (findText (buildLine currency line) ["Item", "Name"]).or
      (findText (buildLine currency line) ["Item", "Description"]) = stripped line.description := by
    rw [findText_description, findText_itemDescription, Option.or_none]
  have rate : (toDecimal (findText (Xml.atPath ["Item", "ClassifiedTaxCategory"] (buildLine currency line)) ["Percent"])).or
      (toDecimal (findText (Xml.atPath ["TaxTotal"] (buildLine currency line)) ["TaxSubtotal", "TaxCategory", "Percent"])) =
        line.taxRate.map (quantized 2) := by
    rw [toDecimal_lineTaxRate, toDecimal_classified]
  simp only [parseLine, findText_lineId, description, findText_itemCode, toDecimal_lineTotal, parse_quantity, parse_unitCode,
    toDecimal_unitPrice, toDecimal_lineTax, findText_taxCategory, rate, EInvoiceLine.readBack]

end Lines

section Exactly

theorem EInvoiceTax.Exact.readBack_eq {tax : EInvoiceTax} (tidy : TidyText tax.category) (exactly : tax.Exact) :
    tax.readBack = tax := by
  rw [EInvoiceTax.readBack, tidy.stripped_eq, exactly.rate.map_quantized, exactly.taxableAmount.map_quantized,
    exactly.taxAmount.map_quantized]

theorem EInvoiceLine.Exact.readBack_eq {line : EInvoiceLine} (tidy : line.Tidy) (exactly : line.Exact) :
    line.readBack = line.held := by
  simp only [EInvoiceLine.readBack, EInvoiceLine.held, tidy.lineId.stripped_eq, tidy.itemCode.stripped_eq,
    tidy.description.stripped_eq, exactly.quantity.map_quantized, tidy.unitCode.truthy_eq, exactly.unitPrice.map_quantized,
    exactly.lineTotal.map_quantized, exactly.taxRate.map_quantized, exactly.taxAmount.map_quantized,
    tidy.taxCategory.stripped_eq]

end Exactly

/-- Every string of a document is trimmed and not empty. -/
structure EInvoiceDocument.Tidy (doc : EInvoiceDocument) : Prop where
  invoiceNumber : TidyText doc.invoiceNumber
  currency : TidyText doc.currency
  invoiceTypeCode : TidyText doc.invoiceTypeCode
  buyerReference : TidyText doc.buyerReference
  orderReference : TidyText doc.orderReference
  paymentTermsNote : TidyText doc.paymentTermsNote
  paymentMeansCode : TidyText doc.paymentMeansCode
  seller : doc.seller.Tidy
  buyer : doc.buyer.Tidy
  taxes : ∀ tax ∈ doc.taxes, TidyText tax.category
  lines : ∀ line ∈ doc.lines, line.Tidy

/-- Every amount and rate of a document has two places, and every quantity four. -/
structure EInvoiceDocument.Exact (doc : EInvoiceDocument) : Prop where
  lineExtensionAmount : HasPlaces 2 doc.lineExtensionAmount
  taxExclusiveAmount : HasPlaces 2 doc.taxExclusiveAmount
  taxInclusiveAmount : HasPlaces 2 doc.taxInclusiveAmount
  taxTotal : HasPlaces 2 doc.taxTotal
  allowanceTotal : HasPlaces 2 doc.allowanceTotal
  chargeTotal : HasPlaces 2 doc.chargeTotal
  payableAmount : HasPlaces 2 doc.payableAmount
  taxes : ∀ tax ∈ doc.taxes, tax.Exact
  lines : ∀ line ∈ doc.lines, line.Exact

/-- The document with the defaults that both dialects write and the marks of UBL. -/
def EInvoiceDocument.asUbl (doc : EInvoiceDocument) : EInvoiceDocument :=
  { doc with
    sourceFormat := .ubl
    rawXmlRootTag := some "Invoice"
    invoiceTypeCode := some (doc.invoiceTypeCode.getD defaultInvoiceTypeCode)
    lines := doc.lines.map EInvoiceLine.held }

/-- The document as the reader of UBL finds it. -/
def EInvoiceDocument.readBack (doc : EInvoiceDocument) : EInvoiceDocument where
  sourceFormat := .ubl
  invoiceNumber := stripped doc.invoiceNumber
  issueDate := doc.issueDate
  dueDate := doc.dueDate
  currency := stripped doc.currency
  invoiceTypeCode := stripped (some ((truthy doc.invoiceTypeCode).getD defaultInvoiceTypeCode))
  buyerReference := stripped doc.buyerReference
  orderReference := stripped doc.orderReference
  paymentTermsNote := stripped doc.paymentTermsNote
  paymentMeansCode := stripped doc.paymentMeansCode
  seller := doc.seller.readBack
  buyer := doc.buyer.readBack
  lineExtensionAmount := doc.lineExtensionAmount.map (quantized 2)
  taxExclusiveAmount := doc.taxExclusiveAmount.map (quantized 2)
  taxInclusiveAmount := doc.taxInclusiveAmount.map (quantized 2)
  taxTotal := doc.taxTotal.map (quantized 2)
  allowanceTotal := doc.allowanceTotal.map (quantized 2)
  chargeTotal := doc.chargeTotal.map (quantized 2)
  payableAmount := doc.payableAmount.map (quantized 2)
  taxes := doc.taxes.map EInvoiceTax.readBack
  lines := doc.lines.map EInvoiceLine.readBack
  rawXmlRootTag := some "Invoice"

section Document

variable {doc : EInvoiceDocument} {declared : Bool}

/-- No element below a party is a line. -/
theorem allNamed_buildParty (party : EInvoiceParty) : Xml.allNamed "InvoiceLine" [buildParty party] = [] := by
  have endpoint : Xml.allNamed "InvoiceLine" (endpointOf party) = [] := by
    unfold endpointOf
    split
    · exact Xml.allNamed_cons_other _ _ _ _ (by decide)
    · rfl
  have address : Xml.allNamed "InvoiceLine" (addressOf party) = [] := by
    have lines : Xml.allNamed "InvoiceLine" (taggedLines nsCbc lineTags party.addressLines) = [] :=
      allNamed_taggedLines (by decide) _
    simp [addressOf, lines, allNamed_leafIf, allNamed_branchIf, allNamed_leaf]
  have legal : Xml.allNamed "InvoiceLine" (legalEntityOf party) = [] := by
    simp [legalEntityOf, allNamed_leafIf]
  simp [buildParty, allNamed_branch, endpoint, allNamed_branchIf, allNamed_leaf, allNamed_elementIf_branch, address,
    legal, vatScheme]

theorem allNamed_headerOf : Xml.allNamed "InvoiceLine" (headerOf declared doc) = [] := by
  have dates (name : String) (differs : name ≠ "InvoiceLine") (date : Option CalendarDate) :
      Xml.allNamed "InvoiceLine" (dateIf name date) = [] :=
    allNamed_toList (fun _ => allNamed_leaf differs _ _) _
  simp [headerOf, allNamed_elementIf_leaf, allNamed_leafIf, dates, allNamed_leaf, allNamed_branchIf]

theorem allNamed_bodyOf : Xml.allNamed "InvoiceLine" (bodyOf doc) = [] := by
  have groups : Xml.allNamed "InvoiceLine" (doc.taxes.map (buildTaxSubtotal doc.currency)) = [] := by
    refine Xml.allNamed_eq_nil ?_
    intro group member
    obtain ⟨tax, _, rfl⟩ := List.mem_map.mp member
    simp [buildTaxSubtotal, allNamed_branch, allNamed_amountIf, allNamed_leafIf, allNamed_rateIf, allNamed_leaf, vatScheme]
  have total : Xml.allNamed "InvoiceLine" (amountEl "TaxAmount" doc.taxTotal doc.currency ++
      doc.taxes.map (buildTaxSubtotal doc.currency)) = [] := by
    rw [Xml.allNamed_append, allNamed_amountIf (by decide), groups, List.nil_append]
  simp [bodyOf, allNamed_branch, allNamed_buildParty, allNamed_branchIf, allNamed_leaf, allNamed_elementIf_branch,
    buildTaxTotal, total, buildMonetaryTotal, allNamed_amountIf]

/-- The lines of a document are the elements of their name, at any depth. -/
theorem allNamed_buildLine (currency : Option String) (line : EInvoiceLine) :
    Xml.allNamed "InvoiceLine" [buildLine currency line] = [buildLine currency line] := by
  have tax : Xml.allNamed "InvoiceLine" (lineTaxOf line currency) = [] := by
    simp [lineTaxOf, allNamed_amountIf, allNamed_elementIf_branch, allNamed_branch, allNamed_rateIf]
  have item : Xml.allNamed "InvoiceLine" (itemOf line) = [] := by
    simp [itemOf, allNamed_leafIf, allNamed_branchIf, allNamed_leaf, allNamed_rateIf, allNamed_branch, vatScheme]
  have below : Xml.allNamed "InvoiceLine" (buildLine currency line).children = [] := by
    simp [buildLine, allNamed_leafIf, quantityOf, allNamed_quantity, allNamed_amountIf, allNamed_elementIf_branch, tax, item]
  have alone := @Xml.allNamed_cons_same "InvoiceLine" [] ⟨nsCac, "InvoiceLine"⟩ [] none (buildLine currency line).children rfl
  rw [below, List.nil_append, Xml.allNamed_nil] at alone
  exact alone

theorem allNamed_root (isBis3Conformant : EInvoiceDocument → Bool) (declareProfile : Option Bool) :
    Xml.allNamed "InvoiceLine" [generateUbl isBis3Conformant declareProfile doc] = doc.lines.map (buildLine doc.currency) := by
  rw [generateUbl, allNamed_branch (by decide), Xml.allNamed_append, Xml.allNamed_append, allNamed_headerOf, allNamed_bodyOf,
    Xml.allNamed_map _ _ (allNamed_buildLine doc.currency), Xml.allNamed_nil, List.nil_append, List.nil_append, List.append_nil]

theorem firstNamed_lines {wanted : String} (differs : "InvoiceLine" ≠ wanted) :
    Xml.firstNamed wanted (doc.lines.map (buildLine doc.currency)) = none := by
  refine Xml.firstNamed_eq_none ?_
  intro node member
  obtain ⟨line, _, rfl⟩ := List.mem_map.mp member
  intro named
  exact differs (Option.some.inj named)

@[simp] theorem firstNamed_dateIf (name wanted : String) (date : Option CalendarDate) :
    Xml.firstNamed wanted (dateIf name date) =
      if name = wanted then date.map fun day => cbc name (isoformat day) else none :=
  firstNamed_toList (fun _ => rfl) _

theorem toDate_dateIf (otherForms : String → Option CalendarDate) (name : String) (date : Option CalendarDate) :
    toDate otherForms (findText (date.map fun day => cbc name (isoformat day)) []) = date := by
  cases date with
  | none => rfl
  | some day =>
    rw [Option.map_some, findText_leaf, (tidy_isoformat day).nonEmpty_strip]
    exact toDate_isoformat otherForms day

/-- The elements of the header, by name. -/
theorem firstNamed_headerOf (wanted : String) :
    Xml.firstNamed wanted (headerOf declared doc) =
      (((((((((if "CustomizationID" = wanted then
            (if declared then some (cbc "CustomizationID" bis3CustomizationId) else none) else none).or
          (if "ProfileID" = wanted then (if declared then some (cbc "ProfileID" bis3ProfileId) else none) else none)).or
        (if "ID" = wanted then (truthy doc.invoiceNumber).map (cbc "ID") else none)).or
        (if "IssueDate" = wanted then doc.issueDate.map fun day => cbc "IssueDate" (isoformat day) else none)).or
        (if "DueDate" = wanted then doc.dueDate.map fun day => cbc "DueDate" (isoformat day) else none)).or
        (if "InvoiceTypeCode" = wanted then
          some (cbc "InvoiceTypeCode" ((truthy doc.invoiceTypeCode).getD defaultInvoiceTypeCode)) else none)).or
        (if "DocumentCurrencyCode" = wanted then (truthy doc.currency).map (cbc "DocumentCurrencyCode") else none)).or
        (if "BuyerReference" = wanted then (truthy doc.buyerReference).map (cbc "BuyerReference") else none)).or
        (if "OrderReference" = wanted then
          (truthy doc.orderReference).map fun reference => cac "OrderReference" [cbc "ID" reference] else none)) := by
  simp only [headerOf, Xml.firstNamed_append, firstNamed_elementIf_leaf, firstNamed_leafIf, firstNamed_dateIf,
    firstNamed_leaf, Xml.firstNamed_nil, firstNamed_branchIf]

/-- The elements of the body, by name. -/
theorem firstNamed_bodyOf (wanted : String) :
    Xml.firstNamed wanted (bodyOf doc) =
      (((((if "AccountingSupplierParty" = wanted then some (cac "AccountingSupplierParty" [buildParty doc.seller])
          else if "AccountingCustomerParty" = wanted then some (cac "AccountingCustomerParty" [buildParty doc.buyer])
          else none).or
        (if "PaymentMeans" = wanted then
          (truthy doc.paymentMeansCode).map fun code => cac "PaymentMeans" [cbc "PaymentMeansCode" code] else none)).or
        (if "PaymentTerms" = wanted then
          (truthy doc.paymentTermsNote).map fun note => cac "PaymentTerms" [cbc "Note" note] else none)).or
        (if "TaxTotal" = wanted then
          (if doc.taxTotal.isSome || !doc.taxes.isEmpty then some (buildTaxTotal doc) else none) else none)).or
        (if "LegalMonetaryTotal" = wanted then some (buildMonetaryTotal doc) else none)) := by
  have taxTotal : Xml.firstNamed wanted (Xml.elementIf (doc.taxTotal.isSome || !doc.taxes.isEmpty) (buildTaxTotal doc)) =
      if "TaxTotal" = wanted then
        (if doc.taxTotal.isSome || !doc.taxes.isEmpty then some (buildTaxTotal doc) else none) else none :=
    firstNamed_elementIf_branch _ _
  have monetaryTotal : Xml.firstNamed wanted [buildMonetaryTotal doc] =
      if "LegalMonetaryTotal" = wanted then some (buildMonetaryTotal doc) else none :=
    firstNamed_branch _ _
  rw [bodyOf, Xml.firstNamed_append, Xml.firstNamed_append, Xml.firstNamed_append, Xml.firstNamed_append, taxTotal, monetaryTotal,
    firstNamed_branch, firstNamed_branch, Xml.firstNamed_nil, firstNamed_branchIf, firstNamed_branchIf]

section Root

variable (isBis3Conformant : EInvoiceDocument → Bool) (declareProfile : Option Bool)

/-- A name other than that of the lines is looked up in the header and in the body. -/
theorem firstNamed_root {wanted : String} (differs : "InvoiceLine" ≠ wanted) :
    Xml.firstNamed wanted (generateUbl isBis3Conformant declareProfile doc).children =
      (Xml.firstNamed wanted (headerOf (declareProfile.getD (isBis3Conformant doc)) doc)).or
        (Xml.firstNamed wanted (bodyOf doc)) := by
  rw [generateUbl, children_branch, Xml.firstNamed_append, Xml.firstNamed_append, firstNamed_lines differs, Option.or_none]

theorem findText_root {wanted : String} (differs : "InvoiceLine" ≠ wanted) (names : List String) :
    findText (generateUbl isBis3Conformant declareProfile doc) (wanted :: names) =
      findText ((Xml.firstNamed wanted (headerOf (declareProfile.getD (isBis3Conformant doc)) doc)).or
        (Xml.firstNamed wanted (bodyOf doc))) names := by
  rw [← firstNamed_root isBis3Conformant declareProfile differs, generateUbl, findText_branch, children_branch]

theorem atPath_root {wanted : String} (differs : "InvoiceLine" ≠ wanted) (names : List String) :
    Xml.atPath (wanted :: names) (generateUbl isBis3Conformant declareProfile doc) =
      ((Xml.firstNamed wanted (headerOf (declareProfile.getD (isBis3Conformant doc)) doc)).or
        (Xml.firstNamed wanted (bodyOf doc))).bind (Xml.atPath names) := by
  rw [← firstNamed_root isBis3Conformant declareProfile differs, Xml.atPath]

theorem findText_invoiceNumber :
    findText (generateUbl isBis3Conformant declareProfile doc) ["ID"] = stripped doc.invoiceNumber := by
  rw [findText_root _ _ (by decide)]
  simp only [firstNamed_headerOf, firstNamed_bodyOf, String.reduceEq, if_false, if_true, Option.none_or, Option.or_none]
  exact findText_map_leaf

theorem findText_currency :
    findText (generateUbl isBis3Conformant declareProfile doc) ["DocumentCurrencyCode"] = stripped doc.currency := by
  rw [findText_root _ _ (by decide)]
  simp only [firstNamed_headerOf, firstNamed_bodyOf, String.reduceEq, if_false, if_true, Option.none_or, Option.or_none]
  exact findText_map_leaf

theorem findText_buyerReference :
    findText (generateUbl isBis3Conformant declareProfile doc) ["BuyerReference"] = stripped doc.buyerReference := by
  rw [findText_root _ _ (by decide)]
  simp only [firstNamed_headerOf, firstNamed_bodyOf, String.reduceEq, if_false, if_true, Option.none_or, Option.or_none]
  exact findText_map_leaf

theorem findText_orderReference :
    findText (generateUbl isBis3Conformant declareProfile doc) ["OrderReference", "ID"] = stripped doc.orderReference := by
  rw [findText_root _ _ (by decide)]
  simp only [firstNamed_headerOf, firstNamed_bodyOf, String.reduceEq, if_false, if_true, Option.none_or, Option.or_none]
  exact findText_map_branch fun _ => rfl

theorem findText_paymentMeansCode :
    findText (generateUbl isBis3Conformant declareProfile doc) ["PaymentMeans", "PaymentMeansCode"] = stripped doc.paymentMeansCode := by
  rw [findText_root _ _ (by decide)]
  simp only [firstNamed_headerOf, firstNamed_bodyOf, String.reduceEq, if_false, if_true, Option.none_or, Option.or_none]
  exact findText_map_branch fun _ => rfl

theorem findText_paymentTermsNote :
    findText (generateUbl isBis3Conformant declareProfile doc) ["PaymentTerms", "Note"] = stripped doc.paymentTermsNote := by
  rw [findText_root _ _ (by decide)]
  simp only [firstNamed_headerOf, firstNamed_bodyOf, String.reduceEq, if_false, if_true, Option.none_or, Option.or_none]
  exact findText_map_branch fun _ => rfl

theorem findText_typeCode :
    findText (generateUbl isBis3Conformant declareProfile doc) ["InvoiceTypeCode"] =
      stripped (some ((truthy doc.invoiceTypeCode).getD defaultInvoiceTypeCode)) := by
  rw [findText_root _ _ (by decide)]
  simp only [firstNamed_headerOf, firstNamed_bodyOf, String.reduceEq, if_false, if_true, Option.none_or, Option.or_none]
  rw [stripped_some]
  exact findText_leaf _

theorem toDate_issueDate (otherForms : String → Option CalendarDate) :
    toDate otherForms (findText (generateUbl isBis3Conformant declareProfile doc) ["IssueDate"]) = doc.issueDate := by
  rw [findText_root _ _ (by decide)]
  simp only [firstNamed_headerOf, firstNamed_bodyOf, String.reduceEq, if_false, if_true, Option.none_or, Option.or_none]
  exact toDate_dateIf otherForms "IssueDate" doc.issueDate

theorem toDate_dueDate (otherForms : String → Option CalendarDate) :
    toDate otherForms (findText (generateUbl isBis3Conformant declareProfile doc) ["DueDate"]) = doc.dueDate := by
  rw [findText_root _ _ (by decide)]
  simp only [firstNamed_headerOf, firstNamed_bodyOf, String.reduceEq, if_false, if_true, Option.none_or, Option.or_none]
  exact toDate_dateIf otherForms "DueDate" doc.dueDate

theorem atPath_seller :
    Xml.atPath ["AccountingSupplierParty", "Party"] (generateUbl isBis3Conformant declareProfile doc) =
      some (buildParty doc.seller) := by
  rw [atPath_root _ _ (by decide)]
  simp only [firstNamed_headerOf, firstNamed_bodyOf, String.reduceEq, if_false, if_true, Option.none_or, Option.or_none,
    Option.bind_some, atPath_branch]
  rfl

theorem atPath_buyer :
    Xml.atPath ["AccountingCustomerParty", "Party"] (generateUbl isBis3Conformant declareProfile doc) =
      some (buildParty doc.buyer) := by
  rw [atPath_root _ _ (by decide)]
  simp only [firstNamed_headerOf, firstNamed_bodyOf, String.reduceEq, if_false, if_true, Option.none_or, Option.or_none,
    Option.bind_some, atPath_branch]
  rfl

theorem atPath_taxTotal :
    Xml.atPath ["TaxTotal"] (generateUbl isBis3Conformant declareProfile doc) =
      if doc.taxTotal.isSome || !doc.taxes.isEmpty then some (buildTaxTotal doc) else none := by
  rw [atPath_root _ _ (by decide)]
  simp only [firstNamed_headerOf, firstNamed_bodyOf, String.reduceEq, if_false, if_true, Option.none_or, Option.or_none]
  exact Option.bind_fun_some _

theorem toDecimal_taxTotal :
    toDecimal (findText (Xml.atPath ["TaxTotal"] (generateUbl isBis3Conformant declareProfile doc)) ["TaxAmount"]) =
      doc.taxTotal.map (quantized 2) := by
  rw [atPath_taxTotal]
  cases present : doc.taxTotal.isSome || !doc.taxes.isEmpty with
  | false =>
    rw [Bool.or_eq_false_iff, Option.isSome_eq_false_iff, Option.isNone_iff_eq_none] at present
    rw [present.1]
    rfl
  | true =>
    have groups : Xml.firstNamed "TaxAmount" (doc.taxes.map (buildTaxSubtotal doc.currency)) = none := by
      refine Xml.firstNamed_eq_none ?_
      intro node member
      obtain ⟨tax, _, rfl⟩ := List.mem_map.mp member
      show some "TaxSubtotal" ≠ some "TaxAmount"
      decide
    simp only [if_true, buildTaxTotal, findText_branch, Xml.firstNamed_append, firstNamed_amountIf, groups, Option.or_none]
    exact toDecimal_map_amount doc.taxTotal

theorem parse_taxes :
    parseTaxSubtotals (Xml.atPath ["TaxTotal"] (generateUbl isBis3Conformant declareProfile doc)) =
      doc.taxes.map EInvoiceTax.readBack := by
  rw [atPath_taxTotal]
  cases present : doc.taxTotal.isSome || !doc.taxes.isEmpty with
  | false =>
    rw [Bool.or_eq_false_iff, Bool.not_eq_false', List.isEmpty_iff] at present
    rw [present.2]
    rfl
  | true =>
    rw [if_pos rfl, parseTaxSubtotals, taxSubtotals_of_total, List.map_map]
    exact List.map_congr_left fun tax _ => parseTaxSubtotal_build

theorem toDecimal_monetaryTotal (doc : EInvoiceDocument) (wanted : String) {value : Option ℚ}
    (found : Xml.firstNamed wanted (buildMonetaryTotal doc).children = value.map (amountLeaf nsCbc wanted doc.currency)) :
    toDecimal (findText (Xml.atPath ["LegalMonetaryTotal"] (generateUbl isBis3Conformant declareProfile doc)) [wanted]) =
      value.map (quantized 2) := by
  rw [atPath_root _ _ (by decide)]
  simp only [firstNamed_headerOf, firstNamed_bodyOf, String.reduceEq, if_false, if_true, Option.none_or, Option.bind_some,
    Xml.atPath_nil]
  rw [buildMonetaryTotal, children_branch] at found
  rw [buildMonetaryTotal, findText_branch, found]
  exact toDecimal_map_amount value

theorem parse_lines :
    (Xml.allNamed "InvoiceLine" [generateUbl isBis3Conformant declareProfile doc]).map parseLine =
      doc.lines.map EInvoiceLine.readBack := by
  rw [allNamed_root, List.map_map]
  exact List.map_congr_left fun line _ => parseLine_buildLine

/-- Every document is read back as its texts round it, without the space around its strings. -/
theorem parseUbl_generateUbl_eq (otherForms : String → Option CalendarDate) :
    parseUbl otherForms (generateUbl isBis3Conformant declareProfile doc) = doc.readBack := by
  have lineExtension := toDecimal_monetaryTotal isBis3Conformant declareProfile doc "LineExtensionAmount"
    (by simp [buildMonetaryTotal] : _ = doc.lineExtensionAmount.map _)
  have taxExclusive := toDecimal_monetaryTotal isBis3Conformant declareProfile doc "TaxExclusiveAmount"
    (by simp [buildMonetaryTotal] : _ = doc.taxExclusiveAmount.map _)
  have taxInclusive := toDecimal_monetaryTotal isBis3Conformant declareProfile doc "TaxInclusiveAmount"
    (by simp [buildMonetaryTotal] : _ = doc.taxInclusiveAmount.map _)
  have allowance := toDecimal_monetaryTotal isBis3Conformant declareProfile doc "AllowanceTotalAmount"
    (by simp [buildMonetaryTotal] : _ = doc.allowanceTotal.map _)
  have charge := toDecimal_monetaryTotal isBis3Conformant declareProfile doc "ChargeTotalAmount"
    (by simp [buildMonetaryTotal] : _ = doc.chargeTotal.map _)
  have payable := toDecimal_monetaryTotal isBis3Conformant declareProfile doc "PayableAmount"
    (by simp [buildMonetaryTotal] : _ = doc.payableAmount.map _)
  have rootTag : (generateUbl isBis3Conformant declareProfile doc).localName? = some "Invoice" := rfl
  simp only [parseUbl, rootTag, findText_invoiceNumber, toDate_issueDate, toDate_dueDate, findText_currency,
    findText_typeCode, findText_buyerReference, findText_orderReference, atPath_seller, atPath_buyer, parseParty_buildParty,
    findText_paymentMeansCode, findText_paymentTermsNote, toDecimal_taxTotal, parse_taxes, lineExtension, taxExclusive,
    taxInclusive, allowance, charge, payable, parse_lines, EInvoiceDocument.readBack]

/-- The type code that is written is trimmed, the default included. -/
theorem tidy_typeCode (tidy : doc.Tidy) : TidyText (some (doc.invoiceTypeCode.getD defaultInvoiceTypeCode)) := by
  cases present : doc.invoiceTypeCode with
  | none =>
    intro t member
    cases Option.mem_some_iff.mp member
    decide
  | some code =>
    have tidyCode := tidy.invoiceTypeCode
    rw [present] at tidyCode
    exact tidyCode

/-- A document of trimmed strings and exact amounts comes back as UBL holds it: with the documented
defaults, and with the first three address lines of each party. -/
theorem parseUbl_generateUbl (otherForms : String → Option CalendarDate) (tidy : doc.Tidy) (exactly : doc.Exact) :
    parseUbl otherForms (generateUbl isBis3Conformant declareProfile doc) =
      { doc.asUbl with seller := doc.seller.held, buyer := doc.buyer.held } := by
  have taxes : doc.taxes.map EInvoiceTax.readBack = doc.taxes := by
    have each : ∀ tax ∈ doc.taxes, tax.readBack = tax :=
      fun tax member => (exactly.taxes tax member).readBack_eq (tidy.taxes tax member)
    rw [List.map_congr_left each, List.map_id']
  have lines : doc.lines.map EInvoiceLine.readBack = doc.lines.map EInvoiceLine.held :=
    List.map_congr_left fun line member => (exactly.lines line member).readBack_eq (tidy.lines line member)
  rw [parseUbl_generateUbl_eq]
  simp only [EInvoiceDocument.readBack, EInvoiceDocument.asUbl, tidy.invoiceNumber.stripped_eq, tidy.currency.stripped_eq,
    tidy.invoiceTypeCode.truthy_eq, (tidy_typeCode tidy).stripped_eq, tidy.buyerReference.stripped_eq,
    tidy.orderReference.stripped_eq, tidy.paymentTermsNote.stripped_eq, tidy.paymentMeansCode.stripped_eq,
    readBack_eq_held tidy.seller, readBack_eq_held tidy.buyer, exactly.lineExtensionAmount.map_quantized,
    exactly.taxExclusiveAmount.map_quantized, exactly.taxInclusiveAmount.map_quantized, exactly.taxTotal.map_quantized,
    exactly.allowanceTotal.map_quantized, exactly.chargeTotal.map_quantized, exactly.payableAmount.map_quantized, taxes, lines]

end Root

end Document

section Export

/-- The amounts of a mapped document have the scales of the columns they come from. -/
theorem exact_mapped (invoice : StoredInvoice) (lineItems : List StoredLine) (identity : BuyerIdentity) :
    (invoiceToEinvoiceDocument invoice lineItems identity).Exact where
  lineExtensionAmount := hasPlaces_value _
  taxExclusiveAmount := hasPlaces_taxExclusiveBase invoice
  taxInclusiveAmount := hasPlaces_value (some invoice.amount)
  taxTotal := hasPlaces_value _
  allowanceTotal := hasPlaces_value _
  chargeTotal := hasPlaces_value _
  payableAmount := hasPlaces_value (some invoice.amount)
  taxes := by
    intro tax member
    have groups : tax ∈ taxesOf invoice := member
    unfold taxesOf at groups
    split at groups
    · cases List.mem_singleton.mp groups
      exact ⟨hasPlaces_value _, hasPlaces_taxExclusiveBase invoice, hasPlaces_value _⟩
    · cases groups
  lines := by
    intro line member
    obtain ⟨item, _, rfl⟩ := List.mem_map.mp member
    exact ⟨hasPlaces_value _, hasPlaces_value _, hasPlaces_value _, hasPlaces_value _, hasPlaces_value _⟩

/-- The ids of the participants change no amount. -/
theorem EInvoiceDocument.Exact.stamped {doc : EInvoiceDocument} (exactly : doc.Exact)
    (participants : Option (ParticipantId × ParticipantId)) : (doc.stamped participants).Exact := by
  cases participants with
  | none => exact exactly
  | some participants =>
    exact ⟨exactly.lineExtensionAmount, exactly.taxExclusiveAmount, exactly.taxInclusiveAmount, exactly.taxTotal,
      exactly.allowanceTotal, exactly.chargeTotal, exactly.payableAmount, exactly.taxes, exactly.lines⟩

/-- A party with a whole electronic address, or none, is held as it is when its address lines have tags. -/
theorem held_eq_iff {party : EInvoiceParty} (whole : party.endpointId.isSome = party.endpointSchemeId.isSome) :
    party.held = party ↔ party.addressLines.length ≤ 3 := by
  have id : (party.endpointSchemeId.bind fun _ => party.endpointId) = party.endpointId := by
    cases id : party.endpointId with
    | none => cases party.endpointSchemeId <;> rfl
    | some id' =>
      rw [id, Option.isSome_some] at whole
      obtain ⟨scheme, present⟩ := Option.isSome_iff_exists.mp whole.symm
      rw [present, Option.bind_some]
  have scheme : (party.endpointId.bind fun _ => party.endpointSchemeId) = party.endpointSchemeId := by
    cases scheme : party.endpointSchemeId with
    | none => cases party.endpointId <;> rfl
    | some scheme' =>
      rw [scheme, Option.isSome_some] at whole
      obtain ⟨id, present⟩ := Option.isSome_iff_exists.mp whole
      rw [present, Option.bind_some]
  have taken : party.addressLines.take lineTags.length = party.addressLines ↔ party.addressLines.length ≤ 3 :=
    List.take_eq_self_iff _
  rw [← taken]
  constructor
  · intro same
    exact congrArg EInvoiceParty.addressLines same
  · intro same
    rw [EInvoiceParty.held, id, scheme, same]

theorem whole_stamped (invoice : StoredInvoice) (lineItems : List StoredLine) (identity : BuyerIdentity)
    (participants : Option (ParticipantId × ParticipantId)) :
    let doc := (invoiceToEinvoiceDocument invoice lineItems identity).stamped participants
    doc.seller.endpointId.isSome = doc.seller.endpointSchemeId.isSome ∧
      doc.buyer.endpointId.isSome = doc.buyer.endpointSchemeId.isSome := by
  cases participants <;> exact ⟨rfl, rfl⟩

theorem addressLines_stamped (invoice : StoredInvoice) (lineItems : List StoredLine) (identity : BuyerIdentity)
    (participants : Option (ParticipantId × ParticipantId)) :
    let doc := (invoiceToEinvoiceDocument invoice lineItems identity).stamped participants
    doc.seller.addressLines = splitAddress invoice.vendorAddress ∧ doc.buyer.addressLines = identity.addressLines := by
  cases participants <;> exact ⟨rfl, rfl⟩

/-- An exported invoice is read back as it was written, up to the documented defaults, when neither party
has more address lines than UBL has tags for them. -/
theorem exported_reads_back_iff (otherForms : String → Option CalendarDate) (isBis3Conformant : EInvoiceDocument → Bool)
    (declareProfile : Option Bool) (invoice : StoredInvoice) (lineItems : List StoredLine) (identity : BuyerIdentity)
    (participants : Option (ParticipantId × ParticipantId))
    (tidy : ((invoiceToEinvoiceDocument invoice lineItems identity).stamped participants).Tidy) :
    parseUbl otherForms (generateUbl isBis3Conformant declareProfile
        ((invoiceToEinvoiceDocument invoice lineItems identity).stamped participants)) =
      ((invoiceToEinvoiceDocument invoice lineItems identity).stamped participants).asUbl ↔
        (splitAddress invoice.vendorAddress).length ≤ 3 ∧ identity.addressLines.length ≤ 3 := by
  have exactly := (exact_mapped invoice lineItems identity).stamped participants
  have whole := whole_stamped invoice lineItems identity participants
  have lines := addressLines_stamped invoice lineItems identity participants
  generalize (invoiceToEinvoiceDocument invoice lineItems identity).stamped participants = doc at tidy exactly whole lines ⊢
  obtain ⟨sellerLines, buyerLines⟩ := lines
  rw [parseUbl_generateUbl _ _ otherForms tidy exactly, ← sellerLines, ← buyerLines, ← held_eq_iff whole.1,
    ← held_eq_iff whole.2]
  constructor
  · intro same
    exact ⟨congrArg EInvoiceDocument.seller same, congrArg EInvoiceDocument.buyer same⟩
  · rintro ⟨seller, buyer⟩
    rw [seller, buyer]
    rfl

/-- An invoice of a vendor with this address. -/
def invoiceOfVendorAt (address : String) : StoredInvoice where
  invoiceNumber := "INV-7"
  vendorName := "Muster GmbH"
  amount := ⟨-11900⟩
  currency := "EUR"
  invoiceDate := none
  dueDate := none
  paymentTerms := some "30 days net"
  poNumber := none
  subtotal := some ⟨-10000⟩
  taxAmount := some ⟨-1900⟩
  discountAmount := none
  shippingAmount := some ⟨0⟩
  vendorAddress := some address
  vendorTaxId := some "DE123456789"
  taxRate := some ⟨1900⟩
  paymentMethod := some "wire"
  referenceNumber := none

def lineOfTwo : StoredLine where
  lineNumber := some 1
  itemCode := none
  description := some "Credit"
  quantity := some ⟨-20000⟩
  unitPrice := some ⟨5000⟩
  tax := none
  total := some ⟨-10000⟩

def ourIdentity : BuyerIdentity where
  name := "Payer Inc"
  taxId := none
  registrationId := none
  addressLines := ["1 Main Street"]
  city := some "Dublin"
  postalCode := none
  countryCode := some "IE"
  email := none

/-- A text written out is tidy if its characters are. -/
theorem tidyText_some {text : String} {characters : List Char} (same : text.toList = characters)
    (stripped : pyStrip characters = characters) (shown : characters ≠ []) : TidyText (some text) := by
  intro t member
  cases member
  refine ⟨?_, fun empty => shown ?_⟩
  · rw [pyStripText, same, stripped, ← same, String.ofList_toList]
  · rw [← same, empty, String.toList_empty]

/-- The strings of these invoices are trimmed when the lines of their address are. -/
theorem tidy_invoiceOfVendorAt {address : String} (tidy : ∀ line ∈ splitAddress (some address), TidyText (some line)) :
    (invoiceToEinvoiceDocument (invoiceOfVendorAt address) [lineOfTwo] ourIdentity).Tidy where
  invoiceNumber := tidyText_some String.toList_ofList (by decide) (by decide)
  currency := tidyText_some String.toList_ofList (by decide) (by decide)
  invoiceTypeCode := tidyText_some String.toList_ofList (by decide) (by decide)
  buyerReference := tidy_none
  orderReference := tidy_none
  paymentTermsNote := tidyText_some String.toList_ofList (by decide) (by decide)
  paymentMeansCode := by show TidyText (methodToPaymentMeans (some "wire")); decide
  seller :=
    { name := tidyText_some String.toList_ofList (by decide) (by decide)
      taxId := tidyText_some String.toList_ofList (by decide) (by decide)
      registrationId := tidy_none
      addressLines := tidy
      city := tidy_none
      postalCode := tidy_none
      countryCode := by show TidyText (countryFromTaxId (some "DE123456789")); decide
      email := tidy_none
      endpointId := tidy_none
      endpointSchemeId := tidy_none }
  buyer :=
    { name := tidyText_some String.toList_ofList (by decide) (by decide)
      taxId := tidy_none
      registrationId := tidy_none
      addressLines := by
        intro line member
        cases List.mem_singleton.mp member
        exact tidyText_some String.toList_ofList (by decide) (by decide)
      city := tidyText_some String.toList_ofList (by decide) (by decide)
      postalCode := tidy_none
      countryCode := tidyText_some String.toList_ofList (by decide) (by decide)
      email := tidy_none
      endpointId := tidy_none
      endpointSchemeId := tidy_none }
  taxes := by
    intro tax member
    cases List.mem_singleton.mp member
    exact tidyText_some String.toList_ofList (by decide) (by decide)
  lines := by
    intro line member
    cases List.mem_singleton.mp member
    refine ⟨?_, tidy_none, ?_, tidy_none, ?_⟩
    · show TidyText (some (toString (1 : ℤ)))
      decide
    · exact tidyText_some String.toList_ofList (by decide) (by decide)
    · exact tidyText_some String.toList_ofList (by decide) (by decide)

/-- An address of three lines, one of them blank, comes back. -/
theorem exported_reads_back_twoLines :
    (invoiceToEinvoiceDocument (invoiceOfVendorAt "1 High Street\n\n Berlin ") [lineOfTwo] ourIdentity).Tidy ∧
      parseUbl (fun _ => none) (generateUbl (fun _ => false) none
          (invoiceToEinvoiceDocument (invoiceOfVendorAt "1 High Street\n\n Berlin ") [lineOfTwo] ourIdentity)) =
        (invoiceToEinvoiceDocument (invoiceOfVendorAt "1 High Street\n\n Berlin ") [lineOfTwo] ourIdentity).asUbl := by
  have tidy := @tidy_invoiceOfVendorAt "1 High Street\n\n Berlin " (by decide)
  exact ⟨tidy, (exported_reads_back_iff _ _ _ _ _ _ none tidy).mpr ⟨by decide, by decide⟩⟩

/-- The fourth line of an address is lost. -/
theorem fourth_address_line_lost :
    (invoiceToEinvoiceDocument (invoiceOfVendorAt "Unit 4\nMill House\n1 High Street\nBerlin") [lineOfTwo] ourIdentity).Tidy ∧
      parseUbl (fun _ => none) (generateUbl (fun _ => false) none
          (invoiceToEinvoiceDocument (invoiceOfVendorAt "Unit 4\nMill House\n1 High Street\nBerlin") [lineOfTwo] ourIdentity)) ≠
        (invoiceToEinvoiceDocument (invoiceOfVendorAt "Unit 4\nMill House\n1 High Street\nBerlin") [lineOfTwo] ourIdentity).asUbl := by
  have tidy := @tidy_invoiceOfVendorAt "Unit 4\nMill House\n1 High Street\nBerlin" (by decide)
  refine ⟨tidy, ?_⟩
  intro same
  rw [parseUbl_generateUbl _ _ _ tidy (exact_mapped _ _ _)] at same
  have lines := congrArg (fun doc => doc.seller.addressLines.length) same
  exact absurd lines (by decide)

end Export

end Payables.EInvoice
