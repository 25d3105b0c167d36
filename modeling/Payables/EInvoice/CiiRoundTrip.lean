import Payables.EInvoice.Cii
import Payables.EInvoice.RoundTrip

namespace Payables.EInvoice.Cii

open Lib

/-- The party as its CII element holds it: there is no place for an electronic address. -/
def heldParty (party : EInvoiceParty) : EInvoiceParty :=
  { party with
    addressLines := party.addressLines.take lineTags.length
    endpointId := none
    endpointSchemeId := none }

/-- The line as its CII element holds it: it has no category, and a price of zero is not read. -/
def heldLine (line : EInvoiceLine) : EInvoiceLine :=
  { line with
    unitCode := line.quantity.map fun _ => line.unitCode.getD defaultUnitCode
    unitPrice := line.unitPrice.filter (· != 0)
    taxCategory := none }

theorem firstNamed_datetimeString (day : CalendarDate) :
    Xml.firstNamed "DateTimeString" [datetimeString day] = some (datetimeString day) := rfl

@[simp] theorem firstNamed_dateTree (name wanted : String) (date : Option CalendarDate) :
    Xml.firstNamed wanted (dateTree name date) =
      if name = wanted then date.map fun day => ramTree name [datetimeString day] else none :=
  firstNamed_toList (fun _ => rfl) _

theorem toDate_dateTree (otherForms : String → Option CalendarDate) (name : String) (date : Option CalendarDate) :
    toDate otherForms (findText (date.map fun day => ramTree name [datetimeString day]) ["DateTimeString"]) = date := by
  cases date with
  | none => rfl
  | some day =>
    have text : findText (some (datetimeString day)) [] = nonEmpty (pyStripText (date102 day)) := by
      rw [findText, Option.bind_some, Xml.atPath_nil, Option.bind_some, datetimeString, Xml.text, Option.bind_some]
    rw [Option.map_some, findText_branch, firstNamed_datetimeString, text, (tidy_date102 day).nonEmpty_strip,
      toDate_date102 otherForms day]

section Party

variable {party : EInvoiceParty} {tag : String}

theorem findText_partyName (tidy : party.Tidy) : findText (buildParty tag party) ["Name"] = party.name := by
  simp only [buildParty, findText_branch, Xml.firstNamed_append, firstNamed_leafIf, firstNamed_branchIf,
    firstNamed_elementIf_branch, String.reduceEq, if_false, if_true, Option.or_none]
  exact findText_map_leaf.trans tidy.name.stripped_eq

theorem findText_registrationId (tidy : party.Tidy) :
    findText (buildParty tag party) ["SpecifiedLegalOrganization", "ID"] = party.registrationId := by
  simp only [buildParty, findText_branch, Xml.firstNamed_append, firstNamed_leafIf, firstNamed_branchIf,
    firstNamed_elementIf_branch, String.reduceEq, if_false, if_true, Option.none_or, Option.or_none]
  exact (findText_map_branch fun _ => rfl).trans tidy.registrationId.stripped_eq

theorem findText_email (tidy : party.Tidy) :
    findText (buildParty tag party) ["URIUniversalCommunication", "URIID"] = party.email := by
  simp only [buildParty, findText_branch, Xml.firstNamed_append, firstNamed_leafIf, firstNamed_branchIf,
    firstNamed_elementIf_branch, String.reduceEq, if_false, if_true, Option.none_or]
  exact (findText_map_branch fun _ => rfl).trans tidy.email.stripped_eq

/-- The only tax registration of a party is the one that its tax id gives. -/
theorem firstTaxId_buildParty (tidy : party.Tidy) : firstTaxId (buildParty tag party).children = party.taxId := by
  have leafs (name : String) (text : Option String) (differs : name ≠ "SpecifiedTaxRegistration") :
      (ramIf name text).filter (·.localName? == some "SpecifiedTaxRegistration") = [] := by
    unfold ramIf leafIf
    cases truthy text <;> simp [leaf, Xml.localName?, differs]
  have trees (name : String) (text : Option String) (children : String → List Xml) (differs : name ≠ "SpecifiedTaxRegistration") :
      (ramTreeIf name text children).filter (·.localName? == some "SpecifiedTaxRegistration") = [] := by
    unfold ramTreeIf branchIf
    cases truthy text <;> simp [branch, Xml.localName?, differs]
  have address : (Xml.elementIf (hasAddress party) (ramTree "PostalTradeAddress" (addressOf party))).filter
      (·.localName? == some "SpecifiedTaxRegistration") = [] := by
    cases hasAddress party <;> rfl
  have registrations : (ramTreeIf "SpecifiedTaxRegistration" party.taxId fun taxId => [taxRegistrationId taxId]).filter
      (·.localName? == some "SpecifiedTaxRegistration") =
        ramTreeIf "SpecifiedTaxRegistration" party.taxId fun taxId => [taxRegistrationId taxId] := by
    unfold ramTreeIf branchIf
    cases truthy party.taxId <;> rfl
  rw [firstTaxId, buildParty, children_branch]
  simp only [List.filter_append, leafs "Name" _ (by decide), trees "SpecifiedLegalOrganization" _ _ (by decide), address,
    registrations, trees "URIUniversalCommunication" _ _ (by decide), List.nil_append, List.append_nil]
  unfold ramTreeIf branchIf
  rw [tidy.taxId.truthy_eq]
  cases present : party.taxId with
  | none => rfl
  | some taxId =>
    have text := tidy.taxId
    rw [present] at text
    have read : findText (some (ramTree "SpecifiedTaxRegistration" [taxRegistrationId taxId])) ["ID"] = some taxId := by
      rw [findText_branch]
      exact text.nonEmpty_strip
    simp only [Option.map_some, Option.toList_some, List.findSome?_cons, read]

theorem atPath_address :
    Xml.atPath ["PostalTradeAddress"] (buildParty tag party) =
      if hasAddress party then some (ramTree "PostalTradeAddress" (addressOf party)) else none := by
  simp only [buildParty, atPath_branch, Xml.firstNamed_append, firstNamed_leafIf, firstNamed_branchIf,
    firstNamed_elementIf_branch, String.reduceEq, if_false, if_true, Option.none_or, Option.or_none]

theorem firstNamed_addressLines (wanted : String) (lines : List String) :
    Xml.firstNamed wanted (taggedLines nsRam lineTags lines) =
      if "LineOne" = wanted then (truthy lines[0]?).map (ram "LineOne")
      else if "LineTwo" = wanted then (truthy lines[1]?).map (ram "LineTwo")
      else if "LineThree" = wanted then (truthy lines[2]?).map (ram "LineThree")
      else none :=
  firstNamed_taggedLines (by decide) lines

/-- A trimmed string of the address is read back, wherever the address holds it. -/
theorem findText_address {wanted : String} {text : Option String} (tidy : TidyText text)
    (absent : hasAddress party = false → text = none)
    (found : Xml.firstNamed wanted (addressOf party) = (truthy text).map (ram wanted)) :
    findText (Xml.atPath ["PostalTradeAddress"] (buildParty tag party)) [wanted] = text := by
  rw [atPath_address]
  cases present : hasAddress party with
  | false => exact (absent present).symm
  | true =>
    rw [if_pos rfl, findText_branch, found]
    exact findText_map_leaf.trans tidy.stripped_eq

theorem findText_city (tidy : party.Tidy) :
    findText (Xml.atPath ["PostalTradeAddress"] (buildParty tag party)) ["CityName"] = party.city := by
  refine findText_address tidy.city (fun none => tidy.city.truthy_eq.symm.trans (noAddress none).2.1) ?_
  simp only [addressOf, Xml.firstNamed_append, firstNamed_addressLines, firstNamed_leafIf, String.reduceEq, if_false,
    if_true, Option.none_or, Option.or_none]

theorem findText_postalCode (tidy : party.Tidy) :
    findText (Xml.atPath ["PostalTradeAddress"] (buildParty tag party)) ["PostcodeCode"] = party.postalCode := by
  refine findText_address tidy.postalCode (fun none => tidy.postalCode.truthy_eq.symm.trans (noAddress none).2.2.1) ?_
  simp only [addressOf, Xml.firstNamed_append, firstNamed_addressLines, firstNamed_leafIf, String.reduceEq, if_false,
    if_true, Option.none_or, Option.or_none]

theorem findText_countryCode (tidy : party.Tidy) :
    findText (Xml.atPath ["PostalTradeAddress"] (buildParty tag party)) ["CountryID"] = party.countryCode := by
  refine findText_address tidy.countryCode (fun none => tidy.countryCode.truthy_eq.symm.trans (noAddress none).2.2.2) ?_
  simp only [addressOf, Xml.firstNamed_append, firstNamed_addressLines, firstNamed_leafIf, String.reduceEq, if_false,
    if_true, Option.none_or]

/-- The first three address lines come back in order, and no others. -/
theorem findText_addressLines (tidy : party.Tidy) :
    (lineTags.filterMap fun tag' => findText (Xml.atPath ["PostalTradeAddress"] (buildParty tag party)) [tag']) =
      party.addressLines.take lineTags.length := by
  have line (i : Nat) : TidyText party.addressLines[i]? := by
    intro t member
    exact tidy.addressLines t (List.mem_of_getElem? member) t rfl
  have none (i : Nat) (absent : hasAddress party = false) : party.addressLines[i]? = none := by
    rw [(noAddress absent).1]
    rfl
  have first : findText (Xml.atPath ["PostalTradeAddress"] (buildParty tag party)) ["LineOne"] = party.addressLines[0]? := by
    refine findText_address (line 0) (none 0) ?_
    simp only [addressOf, Xml.firstNamed_append, firstNamed_addressLines, firstNamed_leafIf, String.reduceEq, if_false,
      if_true, Option.or_none]
  have second : findText (Xml.atPath ["PostalTradeAddress"] (buildParty tag party)) ["LineTwo"] = party.addressLines[1]? := by
    refine findText_address (line 1) (none 1) ?_
    simp only [addressOf, Xml.firstNamed_append, firstNamed_addressLines, firstNamed_leafIf, String.reduceEq, if_false,
      if_true, Option.or_none]
  have third : findText (Xml.atPath ["PostalTradeAddress"] (buildParty tag party)) ["LineThree"] = party.addressLines[2]? := by
    refine findText_address (line 2) (none 2) ?_
    simp only [addressOf, Xml.firstNamed_append, firstNamed_addressLines, firstNamed_leafIf, String.reduceEq, if_false,
      if_true, Option.or_none]
  simp only [lineTags, List.filterMap_cons, List.filterMap_nil, first, second, third]
  rcases party.addressLines with _ | ⟨one, _ | ⟨two, _ | ⟨three, rest⟩⟩⟩
  all_goals rfl

theorem parseParty_buildParty (tidy : party.Tidy) : parseParty (buildParty tag party) = heldParty party := by
  simp only [parseParty, findText_partyName tidy, firstTaxId_buildParty tidy, findText_registrationId tidy,
    findText_addressLines tidy, findText_city tidy, findText_postalCode tidy, findText_countryCode tidy,
    findText_email tidy, heldParty]

end Party

section Taxes

variable {tax : EInvoiceTax}

theorem parseTax_buildTax (tidy : TidyText tax.category) (exactly : tax.Exact) : parseTax (buildTax tax) = tax := by
  have category : findText (buildTax tax) ["CategoryCode"] = tax.category := by
    simp only [buildTax, findText_branch, Xml.firstNamed_append, firstNamed_amountIf, firstNamed_leafIf, firstNamed_rateIf,
      String.reduceEq, if_false, if_true, Option.none_or, Option.or_none]
    exact findText_map_leaf.trans tidy.stripped_eq
  have rate : toDecimal (findText (buildTax tax) ["RateApplicablePercent"]) = tax.rate := by
    simp only [buildTax, findText_branch, Xml.firstNamed_append, firstNamed_amountIf, firstNamed_leafIf, firstNamed_rateIf,
      String.reduceEq, if_false, if_true, Option.none_or]
    exact (toDecimal_map_rate _).trans exactly.rate.map_quantized
  have taxable : toDecimal (findText (buildTax tax) ["BasisAmount"]) = tax.taxableAmount := by
    simp only [buildTax, findText_branch, Xml.firstNamed_append, firstNamed_amountIf, firstNamed_leafIf, firstNamed_rateIf,
      String.reduceEq, if_false, if_true, Option.none_or, Option.or_none]
    exact (toDecimal_map_amount _).trans exactly.taxableAmount.map_quantized
  have amount : toDecimal (findText (buildTax tax) ["CalculatedAmount"]) = tax.taxAmount := by
    simp only [buildTax, findText_branch, Xml.firstNamed_append, firstNamed_amountIf, firstNamed_leafIf, firstNamed_rateIf,
      String.reduceEq, if_false, if_true, Option.or_none]
    exact (toDecimal_map_amount _).trans exactly.taxAmount.map_quantized
  rw [parseTax, category, rate, taxable, amount]

end Taxes

section Lines

variable {line : EInvoiceLine}

theorem findText_lineId (tidy : line.Tidy) :
    findText (buildLine line) ["AssociatedDocumentLineDocument", "LineID"] = line.lineId := by
  simp only [buildLine, findText_branch, Xml.firstNamed_append, firstNamed_branchIf, firstNamed_elementIf_branch,
    String.reduceEq, if_false, if_true, Option.or_none]
  exact (findText_map_branch fun _ => rfl).trans tidy.lineId.stripped_eq

/-- A trimmed string of the product is read back, wherever the product holds it. -/
theorem findText_product {wanted : String} {text : Option String} (tidy : TidyText text)
    (absent : text.isSome → ((truthy line.description).isSome || (truthy line.itemCode).isSome) = true)
    (found : Xml.firstNamed wanted (productOf line) = (truthy text).map (ram wanted)) :
    findText (Xml.atPath ["SpecifiedTradeProduct"] (buildLine line)) [wanted] = text := by
  simp only [buildLine, atPath_branch, Xml.firstNamed_append, firstNamed_branchIf, firstNamed_elementIf_branch,
    String.reduceEq, if_false, if_true, Option.none_or, Option.or_none]
  split
  · rw [findText_branch, found]
    exact findText_map_leaf.trans tidy.stripped_eq
  · next missing =>
    cases text with
    | none => rfl
    | some t => exact absurd (absent rfl) missing

theorem findText_description (tidy : line.Tidy) :
    findText (Xml.atPath ["SpecifiedTradeProduct"] (buildLine line)) ["Name"] = line.description := by
  refine findText_product tidy.description ?_ ?_
  · intro present
    rw [tidy.description.truthy_eq, present, Bool.true_or]
  · simp only [productOf, Xml.firstNamed_append, firstNamed_leafIf, String.reduceEq, if_false, if_true, Option.none_or]

theorem findText_itemCode (tidy : line.Tidy) :
    findText (Xml.atPath ["SpecifiedTradeProduct"] (buildLine line)) ["SellerAssignedID"] = line.itemCode := by
  refine findText_product tidy.itemCode ?_ ?_
  · intro present
    rw [tidy.itemCode.truthy_eq, present, Bool.or_true]
  · simp only [productOf, Xml.firstNamed_append, firstNamed_leafIf, String.reduceEq, if_false, if_true, Option.or_none]

theorem findText_globalId : findText (Xml.atPath ["SpecifiedTradeProduct"] (buildLine line)) ["GlobalID"] = none := by
  refine findText_product tidy_none ?_ ?_
  · intro present
    cases present
  · simp only [productOf, Xml.firstNamed_append, firstNamed_leafIf, String.reduceEq, if_false, Option.or_none]
    rfl

theorem atPath_agreement :
    Xml.atPath ["SpecifiedLineTradeAgreement"] (buildLine line) =
      if line.unitPrice.isSome then some (ramTree "SpecifiedLineTradeAgreement"
        [ramTree "NetPriceProductTradePrice" (ramRate "ChargeAmount" line.unitPrice)]) else none := by
  simp only [buildLine, atPath_branch, Xml.firstNamed_append, firstNamed_branchIf, firstNamed_elementIf_branch,
    String.reduceEq, if_false, if_true, Option.none_or, Option.or_none]

theorem toDecimal_netPrice (exactly : line.Exact) :
    toDecimal (findText (Xml.atPath ["SpecifiedLineTradeAgreement"] (buildLine line))
      ["NetPriceProductTradePrice", "ChargeAmount"]) = line.unitPrice := by
  rw [atPath_agreement]
  cases price : line.unitPrice with
  | none => rfl
  | some price' =>
    have places := exactly.unitPrice
    rw [price] at places
    simp only [Option.isSome_some, if_true, findText_branch, firstNamed_branch, firstNamed_rateIf]
    exact (toDecimal_map_rate _).trans places.map_quantized

theorem findText_grossPrice :
    findText (Xml.atPath ["SpecifiedLineTradeAgreement"] (buildLine line))
      ["GrossPriceProductTradePrice", "ChargeAmount"] = none := by
  rw [atPath_agreement]
  split
  · simp only [findText_branch, firstNamed_branch, String.reduceEq, if_false, Xml.firstNamed_nil, findText_none]
  · rfl

/-- A price is read back unless it is zero. -/
theorem parse_unitPrice (exactly : line.Exact) :
    decimalOr (toDecimal (findText (Xml.atPath ["SpecifiedLineTradeAgreement"] (buildLine line))
        ["NetPriceProductTradePrice", "ChargeAmount"]))
      (toDecimal (findText (Xml.atPath ["SpecifiedLineTradeAgreement"] (buildLine line))
        ["GrossPriceProductTradePrice", "ChargeAmount"])) = line.unitPrice.filter (· != 0) := by
  have absent : toDecimal none = none := rfl
  rw [toDecimal_netPrice exactly, findText_grossPrice, absent, decimalOr, Option.or_none]

theorem atPath_quantity :
    Xml.atPath ["SpecifiedLineTradeDelivery", "BilledQuantity"] (buildLine line) =
      line.quantity.map (quantityLeaf nsRam "BilledQuantity" ((truthy line.unitCode).getD defaultUnitCode)) := by
  have found (quantity : Option ℚ) (unit : String) :
      Xml.firstNamed "BilledQuantity" (quantity.map (quantityLeaf nsRam "BilledQuantity" unit)).toList =
        quantity.map (quantityLeaf nsRam "BilledQuantity" unit) := by
    rw [firstNamed_toList fun _ => rfl]
    exact if_pos rfl
  rw [buildLine, Xml.atPath, children_branch]
  simp only [Xml.firstNamed_append, firstNamed_branchIf, firstNamed_elementIf_branch, String.reduceEq, if_false, if_true,
    Option.none_or, Option.or_none]
  cases line.quantity with
  | none => rfl
  | some quantity =>
    simp only [Option.isSome_some, if_true, Option.bind_some, atPath_branch]
    exact found (some quantity) _

theorem atPath_settlement :
    Xml.atPath ["SpecifiedLineTradeSettlement"] (buildLine line) =
      if line.taxRate.isSome || line.taxAmount.isSome || line.lineTotal.isSome then
        some (ramTree "SpecifiedLineTradeSettlement" (lineSettlementOf line)) else none := by
  simp only [buildLine, atPath_branch, Xml.firstNamed_append, firstNamed_branchIf, firstNamed_elementIf_branch,
    String.reduceEq, if_false, if_true, Option.none_or]

/-- An amount of the line's tax is read back. -/
theorem toDecimal_lineTax {wanted : String} {value : Option ℚ} (exactly : HasPlaces 2 value)
    (absent : value.isSome → (line.taxRate.isSome || line.taxAmount.isSome) = true)
    (found : Xml.firstNamed wanted (ramRate "CalculatedAmount" line.taxAmount ++ ramRate "RateApplicablePercent" line.taxRate) =
      value.map fun d => ram wanted (amountText d)) :
    toDecimal (findText (Xml.atPath ["SpecifiedLineTradeSettlement"] (buildLine line)) ["ApplicableTradeTax", wanted]) =
      value := by
  rw [atPath_settlement]
  cases present : line.taxRate.isSome || line.taxAmount.isSome with
  | true =>
    simp only [Bool.true_or, if_true, findText_branch, lineSettlementOf, present, Xml.firstNamed_append,
      firstNamed_elementIf_branch, String.reduceEq, if_false, Option.or_none]
    rw [← Xml.firstNamed_append, found]
    exact (toDecimal_map_rate _).trans exactly.map_quantized
  | false =>
    cases value with
    | some d => exact absurd (absent rfl) (by rw [present]; decide)
    | none =>
      cases line.lineTotal.isSome with
      | false => rfl
      | true =>
        simp only [Bool.false_or, if_true, findText_branch, lineSettlementOf, present, Xml.firstNamed_append,
          firstNamed_elementIf_branch, String.reduceEq, if_false, Bool.false_eq_true, Option.or_none, findText_none]
        rfl

theorem parse_lineTaxAmount (exactly : line.Exact) :
    toDecimal (findText (Xml.atPath ["SpecifiedLineTradeSettlement"] (buildLine line))
      ["ApplicableTradeTax", "CalculatedAmount"]) = line.taxAmount := by
  refine toDecimal_lineTax exactly.taxAmount ?_ ?_
  · intro present
    rw [present, Bool.or_true]
  · simp only [Xml.firstNamed_append, firstNamed_rateIf, String.reduceEq, if_false, if_true, Option.or_none]

theorem parse_lineTaxRate (exactly : line.Exact) :
    toDecimal (findText (Xml.atPath ["SpecifiedLineTradeSettlement"] (buildLine line))
      ["ApplicableTradeTax", "RateApplicablePercent"]) = line.taxRate := by
  refine toDecimal_lineTax exactly.taxRate ?_ ?_
  · intro present
    rw [present, Bool.true_or]
  · simp only [Xml.firstNamed_append, firstNamed_rateIf, String.reduceEq, if_false, if_true, Option.none_or]

theorem parse_lineTotal (exactly : line.Exact) :
    toDecimal (findText (Xml.atPath ["SpecifiedLineTradeSettlement"] (buildLine line))
      ["SpecifiedTradeSettlementLineMonetarySummation", "LineTotalAmount"]) = line.lineTotal := by
  rw [atPath_settlement]
  cases total : line.lineTotal with
  | none =>
    cases line.taxRate.isSome || line.taxAmount.isSome with
    | false => rfl
    | true =>
      simp only [Bool.true_or, if_true, findText_branch, lineSettlementOf, total, Option.isSome_none, Xml.firstNamed_append,
        firstNamed_elementIf_branch, String.reduceEq, if_false, Bool.false_eq_true, Option.or_none, findText_none]
      rfl
  | some total' =>
    have places := exactly.lineTotal
    rw [total] at places
    simp only [Option.isSome_some, Bool.or_true, if_true, findText_branch, lineSettlementOf, total, Xml.firstNamed_append,
      firstNamed_elementIf_branch, firstNamed_rateIf, String.reduceEq, if_false, Option.none_or]
    exact (toDecimal_map_rate _).trans places.map_quantized

/-- A line is read back as its element holds it. -/
theorem parseLine_buildLine (tidy : line.Tidy) (exactly : line.Exact) : parseLine (buildLine line) = heldLine line := by
  have quantity : ((Xml.atPath ["SpecifiedLineTradeDelivery", "BilledQuantity"] (buildLine line)).bind fun el =>
      toDecimal el.text) = line.quantity := by
    rw [atPath_quantity]
    exact (toDecimal_map_quantity _).trans exactly.quantity.map_quantized
  have unitCode : (Xml.atPath ["SpecifiedLineTradeDelivery", "BilledQuantity"] (buildLine line)).bind (Xml.get "unitCode") =
      line.quantity.map fun _ => line.unitCode.getD defaultUnitCode := by
    rw [atPath_quantity, tidy.unitCode.truthy_eq]
    exact get_map_quantity line.quantity
  have itemCode : (findText (Xml.atPath ["SpecifiedTradeProduct"] (buildLine line)) ["SellerAssignedID"]).or
      (findText (Xml.atPath ["SpecifiedTradeProduct"] (buildLine line)) ["GlobalID"]) = line.itemCode := by
    rw [findText_itemCode tidy, findText_globalId, Option.or_none]
  simp only [parseLine, findText_lineId tidy, findText_description tidy, itemCode, parse_unitPrice exactly, quantity,
    unitCode, parse_lineTaxRate exactly, parse_lineTaxAmount exactly, parse_lineTotal exactly, heldLine]

end Lines

section Document

variable {doc : EInvoiceDocument}

/-- No element below a party is a line. -/
theorem allNamed_buildParty {tag : String} (differs : tag ≠ "IncludedSupplyChainTradeLineItem") (party : EInvoiceParty) :
    Xml.allNamed "IncludedSupplyChainTradeLineItem" [buildParty tag party] = [] := by
  have address : Xml.allNamed "IncludedSupplyChainTradeLineItem" (addressOf party) = [] := by
    have lines : Xml.allNamed "IncludedSupplyChainTradeLineItem" (taggedLines nsRam lineTags party.addressLines) = [] :=
      allNamed_taggedLines (by decide) _
    simp [addressOf, lines, allNamed_leafIf]
  have registration (taxId : String) : Xml.allNamed "IncludedSupplyChainTradeLineItem" [taxRegistrationId taxId] = [] :=
    Xml.allNamed_cons_other _ _ _ _ (by decide)
  simp [buildParty, allNamed_branch, differs, allNamed_leafIf, allNamed_branchIf, allNamed_leaf, allNamed_elementIf_branch,
    address, registration]

theorem allNamed_dateTree {name : String} (differs : name ≠ "IncludedSupplyChainTradeLineItem") (date : Option CalendarDate) :
    Xml.allNamed "IncludedSupplyChainTradeLineItem" (dateTree name date) = [] := by
  refine allNamed_toList (fun day => ?_) _
  rw [allNamed_branch differs, datetimeString, Xml.allNamed_cons_other _ _ _ _ (by decide), Xml.allNamed_nil]
  rfl

theorem allNamed_buildAgreement : Xml.allNamed "IncludedSupplyChainTradeLineItem" [buildAgreement doc] = [] := by
  have parties : Xml.allNamed "IncludedSupplyChainTradeLineItem"
      [buildParty "SellerTradeParty" doc.seller, buildParty "BuyerTradeParty" doc.buyer] = [] := by
    refine Xml.allNamed_eq_nil ?_
    intro node member
    simp only [List.mem_cons, List.not_mem_nil, or_false] at member
    rcases member with rfl | rfl
    · exact allNamed_buildParty (by decide) _
    · exact allNamed_buildParty (by decide) _
  rw [buildAgreement, allNamed_branch (by decide), Xml.allNamed_append, Xml.allNamed_append, parties,
    allNamed_leafIf (by decide), allNamed_branchIf (by decide) fun _ => allNamed_leaf (by decide) _ _]
  rfl

theorem allNamed_buildSettlement : Xml.allNamed "IncludedSupplyChainTradeLineItem" [buildSettlement doc] = [] := by
  have taxes : Xml.allNamed "IncludedSupplyChainTradeLineItem" (doc.taxes.map buildTax) = [] := by
    refine Xml.allNamed_eq_nil ?_
    intro group member
    obtain ⟨tax, _, rfl⟩ := List.mem_map.mp member
    simp [buildTax, allNamed_branch, allNamed_amountIf, allNamed_leafIf, allNamed_rateIf]
  have summation : Xml.allNamed "IncludedSupplyChainTradeLineItem" (summationOf doc) = [] := by
    simp [summationOf, allNamed_amountIf]
  simp [buildSettlement, allNamed_branch, allNamed_leafIf, allNamed_branchIf, allNamed_leaf, taxes, allNamed_elementIf_branch,
    allNamed_dateTree, summation]

theorem allNamed_buildLine (line : EInvoiceLine) :
    Xml.allNamed "IncludedSupplyChainTradeLineItem" [buildLine line] = [buildLine line] := by
  have product : Xml.allNamed "IncludedSupplyChainTradeLineItem" (productOf line) = [] := by
    simp [productOf, allNamed_leafIf]
  have settlement : Xml.allNamed "IncludedSupplyChainTradeLineItem" (lineSettlementOf line) = [] := by
    simp [lineSettlementOf, allNamed_elementIf_branch, allNamed_rateIf]
  have below : Xml.allNamed "IncludedSupplyChainTradeLineItem" (buildLine line).children = [] := by
    simp [buildLine, allNamed_branchIf, allNamed_leaf, allNamed_elementIf_branch, product, allNamed_branch, allNamed_rateIf,
      allNamed_quantity, settlement]
  have alone := @Xml.allNamed_cons_same "IncludedSupplyChainTradeLineItem" [] ⟨nsRam, "IncludedSupplyChainTradeLineItem"⟩
    [] none (buildLine line).children rfl
  rw [below, List.nil_append, Xml.allNamed_nil] at alone
  exact alone

theorem allNamed_transaction :
    Xml.allNamed "IncludedSupplyChainTradeLineItem" [buildTransaction doc] = doc.lines.map buildLine := by
  have rest : Xml.allNamed "IncludedSupplyChainTradeLineItem"
      [buildAgreement doc, ramTree "ApplicableHeaderTradeDelivery" [], buildSettlement doc] = [] := by
    refine Xml.allNamed_eq_nil ?_
    intro node member
    simp only [List.mem_cons, List.not_mem_nil, or_false] at member
    rcases member with rfl | rfl | rfl
    · exact allNamed_buildAgreement
    · exact allNamed_branch (by decide) _ _
    · exact allNamed_buildSettlement
  rw [buildTransaction, allNamed_branch (by decide), Xml.allNamed_append, Xml.allNamed_map _ _ allNamed_buildLine, rest,
    Xml.allNamed_nil, List.append_nil, List.append_nil]

theorem firstNamed_lines {wanted : String} (differs : "IncludedSupplyChainTradeLineItem" ≠ wanted) :
    Xml.firstNamed wanted (doc.lines.map buildLine) = none := by
  refine Xml.firstNamed_eq_none ?_
  intro node member
  obtain ⟨line, _, rfl⟩ := List.mem_map.mp member
  intro named
  exact differs (Option.some.inj named)

theorem atPath_exchanged : Xml.atPath ["ExchangedDocument"] (generateCii doc) = some (exchangedDocument doc) := by
  rw [generateCii, atPath_branch, exchangedDocument, firstNamed_branch, if_pos rfl]

theorem atPath_transaction : Xml.atPath ["SupplyChainTradeTransaction"] (generateCii doc) = some (buildTransaction doc) := by
  rw [generateCii, atPath_branch, exchangedDocument, firstNamed_branch, if_neg (by decide), buildTransaction,
    firstNamed_branch, if_pos rfl]

theorem atPath_agreementOf : Xml.atPath ["ApplicableHeaderTradeAgreement"] (buildTransaction doc) = some (buildAgreement doc) := by
  rw [buildTransaction, atPath_branch, Xml.firstNamed_append, firstNamed_lines (by decide), Option.none_or, buildAgreement,
    firstNamed_branch, if_pos rfl]

theorem atPath_settlementOf : Xml.atPath ["ApplicableHeaderTradeSettlement"] (buildTransaction doc) = some (buildSettlement doc) := by
  rw [buildTransaction, atPath_branch, Xml.firstNamed_append, firstNamed_lines (by decide), Option.none_or, buildAgreement,
    firstNamed_branch, if_neg (by decide), firstNamed_branch, if_neg (by decide), buildSettlement, firstNamed_branch,
    if_pos rfl]

theorem findText_invoiceNumber (tidy : doc.Tidy) : findText (exchangedDocument doc) ["ID"] = doc.invoiceNumber := by
  simp only [exchangedDocument, findText_branch, Xml.firstNamed_append, firstNamed_leafIf, firstNamed_leaf,
    firstNamed_dateTree, String.reduceEq, if_false, if_true, Xml.firstNamed_nil, Option.or_none]
  exact findText_map_leaf.trans tidy.invoiceNumber.stripped_eq

theorem findText_typeCode (tidy : doc.Tidy) :
    findText (exchangedDocument doc) ["TypeCode"] = some (doc.invoiceTypeCode.getD defaultInvoiceTypeCode) := by
  simp only [exchangedDocument, findText_branch, Xml.firstNamed_append, firstNamed_leafIf, firstNamed_leaf,
    firstNamed_dateTree, String.reduceEq, if_false, if_true, Option.none_or, Option.or_none,
    tidy.invoiceTypeCode.truthy_eq, findText_leaf]
  exact (tidy_typeCode tidy).nonEmpty_strip

theorem toDate_issueDate (otherForms : String → Option CalendarDate) :
    toDate otherForms (findText (exchangedDocument doc) ["IssueDateTime", "DateTimeString"]) = doc.issueDate := by
  simp only [exchangedDocument, findText_branch, Xml.firstNamed_append, firstNamed_leafIf, firstNamed_leaf,
    firstNamed_dateTree, String.reduceEq, if_false, if_true, Xml.firstNamed_nil, Option.none_or]
  exact toDate_dateTree otherForms "IssueDateTime" doc.issueDate

/-- The elements of the agreement, by name. -/
theorem firstNamed_agreement (wanted : String) :
    Xml.firstNamed wanted (buildAgreement doc).children =
      ((if "BuyerReference" = wanted then (truthy doc.buyerReference).map (ram "BuyerReference") else none).or
        (if "SellerTradeParty" = wanted then some (buildParty "SellerTradeParty" doc.seller)
          else if "BuyerTradeParty" = wanted then some (buildParty "BuyerTradeParty" doc.buyer)
          else none)).or
      (if "BuyerOrderReferencedDocument" = wanted then
        (truthy doc.orderReference).map fun reference => ramTree "BuyerOrderReferencedDocument" [ram "IssuerAssignedID" reference]
        else none) := by
  have parties : Xml.firstNamed wanted [buildParty "SellerTradeParty" doc.seller, buildParty "BuyerTradeParty" doc.buyer] =
      if "SellerTradeParty" = wanted then some (buildParty "SellerTradeParty" doc.seller)
      else if "BuyerTradeParty" = wanted then some (buildParty "BuyerTradeParty" doc.buyer) else none := by
    unfold buildParty
    rw [firstNamed_branch, firstNamed_branch, Xml.firstNamed_nil]
  rw [buildAgreement, children_branch, Xml.firstNamed_append, Xml.firstNamed_append, parties, firstNamed_leafIf,
    firstNamed_branchIf]

theorem findText_agreement (wanted : String) (names : List String) :
    findText (buildAgreement doc) (wanted :: names) = findText (Xml.firstNamed wanted (buildAgreement doc).children) names := by
  rw [buildAgreement, findText_branch, children_branch]

theorem atPath_agreementParty (wanted : String) :
    Xml.atPath [wanted] (buildAgreement doc) = Xml.firstNamed wanted (buildAgreement doc).children := by
  rw [buildAgreement, atPath_branch, children_branch]

theorem findText_buyerReference (tidy : doc.Tidy) : findText (buildAgreement doc) ["BuyerReference"] = doc.buyerReference := by
  simp only [findText_agreement, firstNamed_agreement, String.reduceEq, if_false, if_true, Option.or_none]
  exact findText_map_leaf.trans tidy.buyerReference.stripped_eq

theorem findText_orderReference (tidy : doc.Tidy) :
    findText (buildAgreement doc) ["BuyerOrderReferencedDocument", "IssuerAssignedID"] = doc.orderReference := by
  simp only [findText_agreement, firstNamed_agreement, String.reduceEq, if_false, if_true, Option.none_or]
  exact (findText_map_branch fun _ => rfl).trans tidy.orderReference.stripped_eq

theorem atPath_seller :
    Xml.atPath ["SellerTradeParty"] (buildAgreement doc) = some (buildParty "SellerTradeParty" doc.seller) := by
  simp only [atPath_agreementParty, firstNamed_agreement, String.reduceEq, if_false, if_true, Option.none_or, Option.or_none]

theorem atPath_buyer : Xml.atPath ["BuyerTradeParty"] (buildAgreement doc) = some (buildParty "BuyerTradeParty" doc.buyer) := by
  simp only [atPath_agreementParty, firstNamed_agreement, String.reduceEq, if_false, if_true, Option.none_or, Option.or_none]

/-- The elements of the settlement other than the VAT groups, by name. -/
theorem firstNamed_settlement {wanted : String} (differs : "ApplicableTradeTax" ≠ wanted) :
    Xml.firstNamed wanted (buildSettlement doc).children =
      (((if "InvoiceCurrencyCode" = wanted then (truthy doc.currency).map (ram "InvoiceCurrencyCode") else none).or
        (if "SpecifiedTradeSettlementPaymentMeans" = wanted then
          (truthy doc.paymentMeansCode).map fun code => ramTree "SpecifiedTradeSettlementPaymentMeans" [ram "TypeCode" code]
          else none)).or
        (if "SpecifiedTradePaymentTerms" = wanted then
          (if (truthy doc.paymentTermsNote).isSome || doc.dueDate.isSome then
            some (ramTree "SpecifiedTradePaymentTerms"
              (ramIf "Description" doc.paymentTermsNote ++ dateTree "DueDateDateTime" doc.dueDate)) else none) else none)).or
        (if "SpecifiedTradeSettlementHeaderMonetarySummation" = wanted then
          (if hasSummation doc then
            some (ramTree "SpecifiedTradeSettlementHeaderMonetarySummation" (summationOf doc)) else none) else none) := by
  have taxes : Xml.firstNamed wanted (doc.taxes.map buildTax) = none := by
    refine Xml.firstNamed_eq_none ?_
    intro node member
    obtain ⟨tax, _, rfl⟩ := List.mem_map.mp member
    intro named
    exact differs (Option.some.inj named)
  rw [buildSettlement, children_branch, Xml.firstNamed_append, Xml.firstNamed_append, Xml.firstNamed_append,
    Xml.firstNamed_append, taxes, Option.or_none, firstNamed_leafIf, firstNamed_branchIf, firstNamed_elementIf_branch,
    firstNamed_elementIf_branch]

theorem findText_settlement (wanted : String) (names : List String) :
    findText (buildSettlement doc) (wanted :: names) = findText (Xml.firstNamed wanted (buildSettlement doc).children) names := by
  rw [buildSettlement, findText_branch, children_branch]

theorem findText_currency (tidy : doc.Tidy) : findText (buildSettlement doc) ["InvoiceCurrencyCode"] = doc.currency := by
  rw [findText_settlement, firstNamed_settlement (by decide)]
  simp only [String.reduceEq, if_false, if_true, Option.or_none]
  exact findText_map_leaf.trans tidy.currency.stripped_eq

theorem findText_paymentMeansCode (tidy : doc.Tidy) :
    findText (buildSettlement doc) ["SpecifiedTradeSettlementPaymentMeans", "TypeCode"] = doc.paymentMeansCode := by
  rw [findText_settlement, firstNamed_settlement (by decide)]
  simp only [String.reduceEq, if_false, if_true, Option.none_or, Option.or_none]
  exact (findText_map_branch fun _ => rfl).trans tidy.paymentMeansCode.stripped_eq

theorem findText_paymentTermsNote (tidy : doc.Tidy) :
    findText (buildSettlement doc) ["SpecifiedTradePaymentTerms", "Description"] = doc.paymentTermsNote := by
  rw [findText_settlement, firstNamed_settlement (by decide)]
  simp only [String.reduceEq, if_false, if_true, Option.none_or, Option.or_none, tidy.paymentTermsNote.truthy_eq]
  cases present : doc.paymentTermsNote.isSome || doc.dueDate.isSome with
  | false =>
    rw [Bool.or_eq_false_iff, Option.isSome_eq_false_iff, Option.isNone_iff_eq_none] at present
    rw [present.1]
    rfl
  | true =>
    simp only [if_true, findText_branch, Xml.firstNamed_append, firstNamed_leafIf, firstNamed_dateTree, String.reduceEq,
      if_false, Option.or_none]
    exact findText_map_leaf.trans tidy.paymentTermsNote.stripped_eq

theorem toDate_dueDate (tidy : doc.Tidy) (otherForms : String → Option CalendarDate) :
    toDate otherForms (findText (buildSettlement doc) ["SpecifiedTradePaymentTerms", "DueDateDateTime", "DateTimeString"]) =
      doc.dueDate := by
  rw [findText_settlement, firstNamed_settlement (by decide)]
  simp only [String.reduceEq, if_false, if_true, Option.none_or, Option.or_none, tidy.paymentTermsNote.truthy_eq]
  cases present : doc.paymentTermsNote.isSome || doc.dueDate.isSome with
  | false =>
    have absent : doc.dueDate = none := by
      rw [Bool.or_eq_false_iff] at present
      exact Option.isNone_iff_eq_none.mp (Option.isSome_eq_false_iff.mp present.2)
    rw [absent]
    rfl
  | true =>
    simp only [if_true, findText_branch, Xml.firstNamed_append, firstNamed_leafIf, firstNamed_dateTree, String.reduceEq,
      if_false, Option.none_or]
    exact toDate_dateTree otherForms "DueDateDateTime" doc.dueDate

theorem parse_taxes (tidy : doc.Tidy) (exactly : doc.Exact) : parseTaxes (buildSettlement doc) = doc.taxes := by
  have leafs : (ramIf "InvoiceCurrencyCode" doc.currency).filter (·.localName? == some "ApplicableTradeTax") = [] := by
    unfold ramIf leafIf
    cases truthy doc.currency <;> rfl
  have means : (ramTreeIf "SpecifiedTradeSettlementPaymentMeans" doc.paymentMeansCode fun code => [ram "TypeCode" code]).filter
      (·.localName? == some "ApplicableTradeTax") = [] := by
    unfold ramTreeIf branchIf
    cases truthy doc.paymentMeansCode <;> rfl
  have others (present : Bool) (name : String) (children : List Xml) (differs : name ≠ "ApplicableTradeTax") :
      (Xml.elementIf present (ramTree name children)).filter (·.localName? == some "ApplicableTradeTax") = [] := by
    cases present
    · rfl
    · simp [Xml.elementIf, branch, Xml.localName?, differs]
  have groups : (doc.taxes.map buildTax).filter (·.localName? == some "ApplicableTradeTax") = doc.taxes.map buildTax := by
    rw [List.filter_eq_self]
    intro group member
    obtain ⟨tax, _, rfl⟩ := List.mem_map.mp member
    rfl
  have each : ∀ tax ∈ doc.taxes, (parseTax ∘ buildTax) tax = tax :=
    fun tax member => parseTax_buildTax (tidy.taxes tax member) (exactly.taxes tax member)
  rw [parseTaxes, buildSettlement, children_branch]
  simp only [List.filter_append, leafs, means, groups, others _ "SpecifiedTradePaymentTerms" _ (by decide),
    others _ "SpecifiedTradeSettlementHeaderMonetarySummation" _ (by decide), List.nil_append, List.append_nil, List.map_map]
  rw [List.map_congr_left each, List.map_id']

theorem atPath_summation :
    Xml.atPath ["SpecifiedTradeSettlementHeaderMonetarySummation"] (buildSettlement doc) =
      if hasSummation doc then some (ramTree "SpecifiedTradeSettlementHeaderMonetarySummation" (summationOf doc)) else none := by
  have found := @firstNamed_settlement doc "SpecifiedTradeSettlementHeaderMonetarySummation" (by decide)
  rw [buildSettlement, children_branch] at found
  rw [buildSettlement, atPath_branch, found]
  simp only [String.reduceEq, if_false, if_true, Option.none_or]

/-- An amount of the summation is read back, and its absence too. -/
theorem toDecimal_summation (wanted : String) (currency : Option String) {value : Option ℚ} (exactly : HasPlaces 2 value)
    (absent : value.isSome → hasSummation doc = true)
    (found : Xml.firstNamed wanted (summationOf doc) = value.map (amountLeaf nsRam wanted currency)) :
    toDecimal (findText (Xml.atPath ["SpecifiedTradeSettlementHeaderMonetarySummation"] (buildSettlement doc)) [wanted]) =
      value := by
  rw [atPath_summation]
  split
  · rw [findText_branch, found]
    exact (toDecimal_map_amount _).trans exactly.map_quantized
  · next missing =>
    cases value with
    | none => rfl
    | some d => exact absurd (absent rfl) missing

theorem parse_lines (tidy : doc.Tidy) (exactly : doc.Exact) :
    (Xml.allNamed "IncludedSupplyChainTradeLineItem" [buildTransaction doc]).map parseLine = doc.lines.map heldLine := by
  rw [allNamed_transaction, List.map_map]
  exact List.map_congr_left fun line member => parseLine_buildLine (tidy.lines line member) (exactly.lines line member)

/-- A document of trimmed strings and exact amounts comes back as CII holds it. -/
theorem parseCii_generateCii (otherForms : String → Option CalendarDate) (tidy : doc.Tidy) (exactly : doc.Exact) :
    parseCii otherForms (generateCii doc) =
      { doc with
        sourceFormat := .cii
        rawXmlRootTag := some "CrossIndustryInvoice"
        invoiceTypeCode := some (doc.invoiceTypeCode.getD defaultInvoiceTypeCode)
        seller := heldParty doc.seller
        buyer := heldParty doc.buyer
        taxTotal := doc.taxTotal.filter (· != 0)
        lines := doc.lines.map heldLine } := by
  have lineTotal : toDecimal (findText (Xml.atPath ["SpecifiedTradeSettlementHeaderMonetarySummation"] (buildSettlement doc))
      ["LineTotalAmount"]) = doc.lineExtensionAmount :=
    toDecimal_summation "LineTotalAmount" none exactly.lineExtensionAmount (fun present => by simp [hasSummation, present])
      (by simp [summationOf])
  have taxBasis : toDecimal (findText (Xml.atPath ["SpecifiedTradeSettlementHeaderMonetarySummation"] (buildSettlement doc))
      ["TaxBasisTotalAmount"]) = doc.taxExclusiveAmount :=
    toDecimal_summation "TaxBasisTotalAmount" none exactly.taxExclusiveAmount (fun present => by simp [hasSummation, present])
      (by simp [summationOf])
  have taxTotal : toDecimal (findText (Xml.atPath ["SpecifiedTradeSettlementHeaderMonetarySummation"] (buildSettlement doc))
      ["TaxTotalAmount"]) = doc.taxTotal :=
    toDecimal_summation "TaxTotalAmount" doc.currency exactly.taxTotal (fun present => by simp [hasSummation, present])
      (by simp [summationOf])
  have allowance : toDecimal (findText (Xml.atPath ["SpecifiedTradeSettlementHeaderMonetarySummation"] (buildSettlement doc))
      ["AllowanceTotalAmount"]) = doc.allowanceTotal :=
    toDecimal_summation "AllowanceTotalAmount" none exactly.allowanceTotal (fun present => by simp [hasSummation, present])
      (by simp [summationOf])
  have charge : toDecimal (findText (Xml.atPath ["SpecifiedTradeSettlementHeaderMonetarySummation"] (buildSettlement doc))
      ["ChargeTotalAmount"]) = doc.chargeTotal :=
    toDecimal_summation "ChargeTotalAmount" none exactly.chargeTotal (fun present => by simp [hasSummation, present])
      (by simp [summationOf])
  have grandTotal : toDecimal (findText (Xml.atPath ["SpecifiedTradeSettlementHeaderMonetarySummation"] (buildSettlement doc))
      ["GrandTotalAmount"]) = doc.taxInclusiveAmount :=
    toDecimal_summation "GrandTotalAmount" none exactly.taxInclusiveAmount (fun present => by simp [hasSummation, present])
      (by simp [summationOf])
  have payable : toDecimal (findText (Xml.atPath ["SpecifiedTradeSettlementHeaderMonetarySummation"] (buildSettlement doc))
      ["DuePayableAmount"]) = doc.payableAmount :=
    toDecimal_summation "DuePayableAmount" none exactly.payableAmount (fun present => by simp [hasSummation, present])
      (by simp [summationOf])
  have rootTag : (generateCii doc).localName? = some "CrossIndustryInvoice" := rfl
  simp only [parseCii, rootTag, atPath_exchanged, atPath_transaction, Option.bind_some, atPath_agreementOf,
    atPath_settlementOf, findText_invoiceNumber tidy, findText_typeCode tidy, toDate_issueDate, findText_buyerReference tidy,
    atPath_seller, atPath_buyer, parseParty_buildParty tidy.seller, parseParty_buildParty tidy.buyer,
    findText_orderReference tidy, findText_currency tidy, findText_paymentTermsNote tidy, toDate_dueDate tidy,
    findText_paymentMeansCode tidy, parse_taxes tidy exactly, Option.toList_some, parse_lines tidy exactly,
    lineTotal, taxBasis, taxTotal, allowance, charge, grandTotal, payable, decimalOr, Option.or_none]

end Document

end Payables.EInvoice.Cii
