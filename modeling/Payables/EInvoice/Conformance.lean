import Payables.EInvoice.Bis3
import Payables.EInvoice.RoundTrip

namespace Payables.EInvoice

open Lib

/-- A string that shows something: it has a character other than a space. -/
def Visible (text : Option String) : Prop := (stripped text).isSome = true

def EInvoiceTax.rounded (tax : EInvoiceTax) : EInvoiceTax :=
  { tax with
    rate := tax.rate.map (quantized 2)
    taxableAmount := tax.taxableAmount.map (quantized 2)
    taxAmount := tax.taxAmount.map (quantized 2) }

def EInvoiceLine.rounded (line : EInvoiceLine) : EInvoiceLine :=
  { line with
    quantity := line.quantity.map (quantized 4)
    unitPrice := line.unitPrice.map (quantized 2)
    lineTotal := line.lineTotal.map (quantized 2)
    taxRate := line.taxRate.map (quantized 2)
    taxAmount := line.taxAmount.map (quantized 2) }

/-- The document with its figures at the scales of their texts, and its strings as they are. -/
def EInvoiceDocument.rounded (doc : EInvoiceDocument) : EInvoiceDocument :=
  { doc with
    lineExtensionAmount := doc.lineExtensionAmount.map (quantized 2)
    taxExclusiveAmount := doc.taxExclusiveAmount.map (quantized 2)
    taxInclusiveAmount := doc.taxInclusiveAmount.map (quantized 2)
    taxTotal := doc.taxTotal.map (quantized 2)
    allowanceTotal := doc.allowanceTotal.map (quantized 2)
    chargeTotal := doc.chargeTotal.map (quantized 2)
    payableAmount := doc.payableAmount.map (quantized 2)
    taxes := doc.taxes.map EInvoiceTax.rounded
    lines := doc.lines.map EInvoiceLine.rounded }

/-- The strings that the profile requires of a party show something. -/
structure EInvoiceParty.RequiredVisible (party : EInvoiceParty) : Prop where
  name : Visible party.name
  endpointId : Visible party.endpointId
  countryCode : Visible party.countryCode

/-- The strings that the profile requires show something. -/
structure EInvoiceDocument.RequiredVisible (doc : EInvoiceDocument) : Prop where
  invoiceNumber : Visible doc.invoiceNumber
  currency : Visible doc.currency
  seller : doc.seller.RequiredVisible
  buyer : doc.buyer.RequiredVisible
  sellerId : Visible doc.seller.taxId ∨ Visible doc.seller.registrationId
  taxes : ∀ tax ∈ doc.taxes, Visible tax.category
  lines : ∀ line ∈ doc.lines, Visible line.lineId ∧ Visible line.description ∧ Visible line.taxCategory

/-- The rules of arithmetic hold of the figures as their texts round them. -/
structure EInvoiceDocument.FiguresAgree (doc : EInvoiceDocument) : Prop where
  lineAmounts : lineAmountErrors doc.rounded = []
  documentTotals : documentTotalErrors doc.rounded = []
  vatBreakdown : vatBreakdownErrors doc.rounded = []

section Reports

@[simp] theorem report_eq_nil {bad : Bool} {error : FieldError} : report bad error = [] ↔ bad = false := by
  cases bad <;> simp [report]

/-- A loop reports nothing when no round of it does. -/
theorem eachIndexed_eq_nil {α : Type} {items : List α} {errors : Nat → α → List FieldError} :
    eachIndexed items errors = [] ↔ ∀ i item, items[i]? = some item → errors i item = [] := by
  unfold eachIndexed
  rw [List.flatMap_eq_nil_iff]
  constructor
  · intro none i item at_
    exact none (item, i) (List.mk_mem_zipIdx_iff_getElem?.mpr at_)
  · rintro none ⟨item, i⟩ member
    exact none i item (List.mk_mem_zipIdx_iff_getElem?.mp member)

/-- Two loops whose rounds report the same report the same. -/
theorem eachIndexed_map_congr {α β : Type} {one other : α → β} {items : List α} {errors errors' : Nat → β → List FieldError}
    (same : ∀ i item, errors i (one item) = errors' i (other item)) :
    eachIndexed (items.map one) errors = eachIndexed (items.map other) errors' := by
  unfold eachIndexed
  rw [List.zipIdx_map, List.zipIdx_map, List.flatMap_map, List.flatMap_map]
  exact congrArg (fun round => items.zipIdx.flatMap round) (funext fun entry => same entry.2 entry.1)

/-- What no round that looks at an item alone reports can be told from the items. -/
theorem eachIndexed_eq_nil_of {α : Type} {items : List α} {errors : Nat → α → List FieldError} {good : α → Prop}
    (judged : ∀ i item, errors i item = [] ↔ good item) : eachIndexed items errors = [] ↔ ∀ item ∈ items, good item := by
  rw [eachIndexed_eq_nil]
  constructor
  · intro none item member
    obtain ⟨i, at_⟩ := List.getElem?_of_mem member
    exact (judged i item).mp (none i item at_)
  · intro good i item at_
    exact (judged i item).mpr (good item (List.mem_of_getElem? at_))

end Reports

section Strings

variable {text : Option String}

/-- A stripped string is empty or shows something. -/
theorem truthy_stripped (text : Option String) : truthy (stripped text) = stripped text := by
  cases text with
  | none => rfl
  | some t =>
    unfold stripped truthy nonEmpty
    rw [Option.bind_some]
    split
    · rfl
    · next present => rw [Option.bind_some, if_neg present]

theorem isMissing_stripped : isMissing (stripped text) = false ↔ Visible text := by
  rw [isMissing, truthy_stripped, Visible, Option.isNone_eq_false_iff]

theorem stripped_stripped (text : Option String) : stripped (stripped text) = stripped text := by
  cases text with
  | none => rfl
  | some t =>
    unfold stripped nonEmpty
    rw [Option.bind_some]
    split
    · rfl
    · next present => rw [Option.bind_some, pyStripText_pyStripText, if_neg present]

theorem pyStripText_getD_stripped (text : Option String) :
    pyStripText ((stripped text).getD "") = pyStripText (text.getD "") := by
  have empty : pyStripText "" = "" := by decide
  cases text with
  | none => rfl
  | some t =>
    unfold stripped nonEmpty
    rw [Option.bind_some, Option.getD_some]
    split
    · next blank => rw [Option.getD_none, empty, blank]
    · rw [Option.getD_some, pyStripText_pyStripText]

theorem categoryOf_stripped (text : Option String) : categoryOf (stripped text) = categoryOf text := by
  rw [categoryOf, pyStripText_getD_stripped, categoryOf]

end Strings

section Figures

variable {doc : EInvoiceDocument}

theorem lineAmountErrors_readBack : lineAmountErrors doc.readBack = lineAmountErrors doc.rounded :=
  eachIndexed_map_congr fun _ _ => rfl

theorem documentTotalErrors_readBack : documentTotalErrors doc.readBack = documentTotalErrors doc.rounded := by
  have lineTotals : doc.readBack.lines.map EInvoiceLine.lineTotal = doc.rounded.lines.map EInvoiceLine.lineTotal := by
    show (doc.lines.map EInvoiceLine.readBack).map EInvoiceLine.lineTotal =
      (doc.lines.map EInvoiceLine.rounded).map EInvoiceLine.lineTotal
    rw [List.map_map, List.map_map]
    rfl
  have taxAmounts : doc.readBack.taxes.map EInvoiceTax.taxAmount = doc.rounded.taxes.map EInvoiceTax.taxAmount := by
    show (doc.taxes.map EInvoiceTax.readBack).map EInvoiceTax.taxAmount =
      (doc.taxes.map EInvoiceTax.rounded).map EInvoiceTax.taxAmount
    rw [List.map_map, List.map_map]
    rfl
  unfold documentTotalErrors
  rw [lineTotals, taxAmounts]
  rfl

theorem lineRateErrors_readBack (i : Nat) (line : EInvoiceLine) :
    lineRateErrors i line.readBack = lineRateErrors i line.rounded := by
  have category : categoryOf line.readBack.taxCategory = categoryOf line.rounded.taxCategory := categoryOf_stripped _
  unfold lineRateErrors
  rw [category]
  rfl

/-- The categories are named by the same letters after the space around them is gone. -/
theorem namedCategories_congr {α : Type} {one other : α → Option String} (items : List α)
    (same : ∀ item, categoryOf (one item) = categoryOf (other item)) :
    namedCategories (items.map one) = namedCategories (items.map other) := by
  unfold namedCategories
  rw [List.map_map, List.map_map]
  have both : categoryOf ∘ one = categoryOf ∘ other := funext same
  rw [both]

theorem uncoveredErrors_readBack : uncoveredErrors doc.readBack = uncoveredErrors doc.rounded := by
  have taxes : namedCategories (doc.readBack.taxes.map EInvoiceTax.category) =
      namedCategories (doc.rounded.taxes.map EInvoiceTax.category) := by
    show namedCategories ((doc.taxes.map EInvoiceTax.readBack).map EInvoiceTax.category) =
      namedCategories ((doc.taxes.map EInvoiceTax.rounded).map EInvoiceTax.category)
    rw [List.map_map, List.map_map]
    exact namedCategories_congr doc.taxes fun tax => categoryOf_stripped tax.category
  have lines : namedCategories (doc.readBack.lines.map EInvoiceLine.taxCategory) =
      namedCategories (doc.rounded.lines.map EInvoiceLine.taxCategory) := by
    show namedCategories ((doc.lines.map EInvoiceLine.readBack).map EInvoiceLine.taxCategory) =
      namedCategories ((doc.lines.map EInvoiceLine.rounded).map EInvoiceLine.taxCategory)
    rw [List.map_map, List.map_map]
    exact namedCategories_congr doc.lines fun line => categoryOf_stripped line.taxCategory
  unfold uncoveredErrors
  rw [taxes, lines]

theorem perCategory_readBack (lines : List EInvoiceLine) (category : String) :
    perCategory (lines.map EInvoiceLine.readBack) category = perCategory (lines.map EInvoiceLine.rounded) category := by
  have chosen : ((fun line : EInvoiceLine => categoryOf line.taxCategory == category) ∘ EInvoiceLine.readBack) =
      ((fun line : EInvoiceLine => categoryOf line.taxCategory == category) ∘ EInvoiceLine.rounded) :=
    funext fun line => congrArg (· == category) (categoryOf_stripped line.taxCategory)
  unfold perCategory
  rw [List.filter_map, List.filter_map, chosen, List.map_map, List.map_map]
  rfl

theorem taxableAmountErrors_readBack (lines : List EInvoiceLine) (i : Nat) (tax : EInvoiceTax) :
    taxableAmountErrors (lines.map EInvoiceLine.readBack) i tax.readBack =
      taxableAmountErrors (lines.map EInvoiceLine.rounded) i tax.rounded := by
  have category : categoryOf tax.readBack.category = categoryOf tax.rounded.category := categoryOf_stripped _
  have amounts : perCategory (lines.map EInvoiceLine.readBack) = perCategory (lines.map EInvoiceLine.rounded) :=
    funext (perCategory_readBack lines)
  unfold taxableAmountErrors
  rw [category, amounts]
  rfl

theorem breakdownCoverageErrors_readBack : breakdownCoverageErrors doc.readBack = breakdownCoverageErrors doc.rounded := by
  have linesEmpty : doc.readBack.lines.isEmpty = doc.rounded.lines.isEmpty := by
    show (doc.lines.map EInvoiceLine.readBack).isEmpty = (doc.lines.map EInvoiceLine.rounded).isEmpty
    rw [List.isEmpty_map, List.isEmpty_map]
  have taxesEmpty : doc.readBack.taxes.isEmpty = doc.rounded.taxes.isEmpty := by
    show (doc.taxes.map EInvoiceTax.readBack).isEmpty = (doc.taxes.map EInvoiceTax.rounded).isEmpty
    rw [List.isEmpty_map, List.isEmpty_map]
  have gaps : (doc.readBack.lines.any fun line => line.lineTotal.isNone || categoryOf line.taxCategory == "") =
      doc.rounded.lines.any fun line => line.lineTotal.isNone || categoryOf line.taxCategory == "" := by
    show ((doc.lines.map EInvoiceLine.readBack).any fun line => line.lineTotal.isNone || categoryOf line.taxCategory == "") =
      (doc.lines.map EInvoiceLine.rounded).any fun line => line.lineTotal.isNone || categoryOf line.taxCategory == ""
    rw [List.any_map, List.any_map]
    refine congrArg doc.lines.any (funext fun line => ?_)
    exact congrArg (fun category => (line.lineTotal.map (quantized 2)).isNone || category == "")
      (categoryOf_stripped line.taxCategory)
  have groups : eachIndexed doc.readBack.taxes (taxableAmountErrors doc.readBack.lines) =
      eachIndexed doc.rounded.taxes (taxableAmountErrors doc.rounded.lines) :=
    eachIndexed_map_congr (taxableAmountErrors_readBack doc.lines)
  unfold breakdownCoverageErrors
  rw [linesEmpty, taxesEmpty, gaps, groups, uncoveredErrors_readBack]
  rfl

theorem vatBreakdownErrors_readBack : vatBreakdownErrors doc.readBack = vatBreakdownErrors doc.rounded := by
  have amounts : eachIndexed doc.readBack.taxes taxAmountErrors = eachIndexed doc.rounded.taxes taxAmountErrors :=
    eachIndexed_map_congr fun _ _ => rfl
  have rates : eachIndexed doc.readBack.lines lineRateErrors = eachIndexed doc.rounded.lines lineRateErrors :=
    eachIndexed_map_congr lineRateErrors_readBack
  rw [vatBreakdownErrors, amounts, rates, breakdownCoverageErrors_readBack, vatBreakdownErrors]

end Figures

section Presence

variable {doc : EInvoiceDocument}

theorem codeListErrors_eq_nil :
    codeListErrors doc = [] ↔
      isValidCurrency doc.currency = true ∧ isValidDocumentType doc.invoiceTypeCode = true ∧
      isPlausiblePaymentMeans doc.paymentMeansCode = true ∧
      (∀ party ∈ [doc.seller, doc.buyer], isValidCountry party.countryCode = true ∧
        ∀ taxId ∈ truthy party.taxId, hasCountryPrefix taxId = true) ∧
      (∀ tax ∈ doc.taxes, isValidVatCategory tax.category = true) ∧
      ∀ line ∈ doc.lines, isValidVatCategory line.taxCategory = true ∧ isPlausibleUnitCode line.unitCode = true := by
  have party (side : String) (party : EInvoiceParty) : partyCodeListErrors side party = [] ↔
      isValidCountry party.countryCode = true ∧ ∀ taxId ∈ truthy party.taxId, hasCountryPrefix taxId = true := by
    unfold partyCodeListErrors
    rw [List.append_eq_nil_iff, report_eq_nil, report_eq_nil, Bool.not_eq_false']
    cases truthy party.taxId <;> simp
  have taxes : eachIndexed doc.taxes (fun i tax => report (!isValidVatCategory tax.category)
      ⟨s!"taxes[{i}].category", "BR-CL-17", "VAT category code must be a member of the UNCL5305 EN 16931 subset"⟩) = [] ↔
        ∀ tax ∈ doc.taxes, isValidVatCategory tax.category = true :=
    eachIndexed_eq_nil_of fun _ _ => by rw [report_eq_nil, Bool.not_eq_false']
  have lines : eachIndexed doc.lines (fun i line =>
      report (!isValidVatCategory line.taxCategory)
          ⟨s!"lines[{i}].tax_category", "BR-CL-18",
            "Invoiced item VAT category must be a member of the UNCL5305 EN 16931 subset"⟩ ++
        report (!isPlausibleUnitCode line.unitCode)
          ⟨s!"lines[{i}].unit_code", "BR-CL-23", "Unit of measure is not shaped like a UN/ECE Rec 20 code"⟩) = [] ↔
        ∀ line ∈ doc.lines, isValidVatCategory line.taxCategory = true ∧ isPlausibleUnitCode line.unitCode = true :=
    eachIndexed_eq_nil_of fun _ _ => by
      rw [List.append_eq_nil_iff, report_eq_nil, report_eq_nil, Bool.not_eq_false', Bool.not_eq_false']
  unfold codeListErrors
  simp only [List.append_eq_nil_iff, report_eq_nil, Bool.not_eq_false', party, taxes, lines, List.mem_cons, List.not_mem_nil,
    or_false, forall_eq_or_imp, forall_eq, and_assoc]

/-- A VAT identifier starts with the same letters without the space around it. -/
theorem hasCountryPrefix_pyStripText (taxId : String) : hasCountryPrefix (pyStripText taxId) = hasCountryPrefix taxId := by
  rw [hasCountryPrefix, prefixLetters, pyStripText_pyStripText, hasCountryPrefix, prefixLetters]

/-- What the reader finds of an identifier is an identifier that was written, stripped. -/
theorem mem_stripped {text : Option String} {t : String} (found : t ∈ stripped text) :
    ∃ written ∈ truthy text, t = pyStripText written := by
  rw [← bind_truthy] at found
  obtain ⟨written, shown, read⟩ := Option.mem_bind_iff.mp found
  refine ⟨written, shown, ?_⟩
  unfold nonEmpty at read
  split at read
  · cases read
  · exact (Option.mem_some_iff.mp read).symm

theorem isPlausibleUnitCode_readBack {line : EInvoiceLine} (shaped : isPlausibleUnitCode line.unitCode = true) :
    isPlausibleUnitCode line.readBack.unitCode = true := by
  have default : isPlausibleUnitCode (some defaultUnitCode) = true := by decide
  show isPlausibleUnitCode (line.quantity.map fun _ => (truthy line.unitCode).getD defaultUnitCode) = true
  cases line.quantity with
  | none => rfl
  | some quantity =>
    rw [Option.map_some]
    cases unit : line.unitCode with
    | none => exact default
    | some code =>
      rw [unit] at shaped
      by_cases empty : code = ""
      · subst empty
        exact default
      · rw [truthy, Option.bind_some, nonEmpty, if_neg empty]
        exact shaped

/-- Without the space around it a code is in its list as before. -/
theorem isAbsentOrIn_stripped (list : List String) (text : Option String) :
    isAbsentOrIn list (stripped text) = isAbsentOrIn list text := by
  rw [isAbsentOrIn, norm_stripped, isAbsentOrIn]

theorem isValidDocumentType_readBack (valid : isValidDocumentType doc.invoiceTypeCode = true) :
    isValidDocumentType doc.readBack.invoiceTypeCode = true := by
  have default : isAbsentOrIn untdid1001DocumentTypes (some defaultInvoiceTypeCode) = true := by decide
  have written : isAbsentOrIn untdid1001DocumentTypes (some ((truthy doc.invoiceTypeCode).getD defaultInvoiceTypeCode)) = true := by
    cases shown : truthy doc.invoiceTypeCode with
    | none =>
      rw [Option.getD_none]
      exact default
    | some code =>
      rw [Option.getD_some, ← (truthy_eq_some shown).1]
      exact valid
  have read : doc.readBack.invoiceTypeCode = stripped (some ((truthy doc.invoiceTypeCode).getD defaultInvoiceTypeCode)) := by
    rw [EInvoiceDocument.readBack]
  rw [isValidDocumentType, read, isAbsentOrIn_stripped, written]

/-- No code leaves its list on the way. -/
theorem codeListErrors_readBack (listed : codeListErrors doc = []) : codeListErrors doc.readBack = [] := by
  obtain ⟨currency, typeCode, means, parties, taxes, lines⟩ := codeListErrors_eq_nil.mp listed
  have partyListed (party : EInvoiceParty) (member : party ∈ [doc.seller, doc.buyer]) :
      isValidCountry party.readBack.countryCode = true ∧
        ∀ taxId ∈ truthy party.readBack.taxId, hasCountryPrefix taxId = true := by
    obtain ⟨country, taxIds⟩ := parties party member
    refine ⟨(isAbsentOrIn_stripped _ _).trans country, ?_⟩
    intro taxId found
    have read : taxId ∈ stripped party.taxId := (truthy_stripped party.taxId) ▸ found
    obtain ⟨written, shown, rfl⟩ := mem_stripped read
    rw [hasCountryPrefix_pyStripText]
    exact taxIds written shown
  refine codeListErrors_eq_nil.mpr ⟨(isAbsentOrIn_stripped _ _).trans currency, isValidDocumentType_readBack typeCode, ?_, ?_, ?_, ?_⟩
  · show isPlausiblePaymentMeans (stripped doc.paymentMeansCode) = true
    rw [isPlausiblePaymentMeans, norm_stripped]
    exact means
  · intro party member
    have sides : party = doc.seller.readBack ∨ party = doc.buyer.readBack := by
      simpa only [EInvoiceDocument.readBack, List.mem_cons, List.not_mem_nil, or_false] using member
    rcases sides with rfl | rfl
    · exact partyListed doc.seller (by simp)
    · exact partyListed doc.buyer (by simp)
  · intro tax member
    obtain ⟨written, group, rfl⟩ := List.mem_map.mp member
    exact (isAbsentOrIn_stripped _ _).trans (taxes written group)
  · intro line member
    obtain ⟨written, item, rfl⟩ := List.mem_map.mp member
    exact ⟨(isAbsentOrIn_stripped _ _).trans (lines written item).1, isPlausibleUnitCode_readBack (lines written item).2⟩

theorem pos_of_quantized_pos {places : Nat} {d : ℚ} (positive : 0 < quantized places d) : 0 < d := by
  by_contra negative
  have power : (0 : ℚ) < 10 ^ places := by positivity
  have below : roundHalfEven (d * 10 ^ places) ≤ 0 := by
    refine roundHalfEven_le ?_
    rw [Int.cast_zero]
    exact mul_nonpos_of_nonpos_of_nonneg (not_lt.mp negative) power.le
  have rounded : quantized places d ≤ 0 := by
    unfold quantized
    exact div_nonpos_of_nonpos_of_nonneg (by exact_mod_cast below) power.le
  exact absurd positive (not_lt.mpr rounded)

/-- Nothing new falls due on the way, and the seller is known when an id of it shows. -/
theorem documentCompletenessErrors_readBack (complete : documentCompletenessErrors doc = []) :
    documentCompletenessErrors doc.readBack = [] ↔ Visible doc.seller.taxId ∨ Visible doc.seller.registrationId := by
  unfold documentCompletenessErrors at complete ⊢
  rw [List.append_eq_nil_iff, report_eq_nil, report_eq_nil] at complete ⊢
  have due : (doc.readBack.payableAmount.any (0 < ·) && doc.readBack.dueDate.isNone &&
      pyStripText (doc.readBack.paymentTermsNote.getD "") == "") = false := by
    have note : pyStripText (doc.readBack.paymentTermsNote.getD "") = pyStripText (doc.paymentTermsNote.getD "") :=
      pyStripText_getD_stripped _
    rw [note]
    cases payable : doc.payableAmount with
    | none =>
      have absent : doc.readBack.payableAmount = none := by
        show doc.payableAmount.map (quantized 2) = none
        rw [payable, Option.map_none]
      rw [absent]
      rfl
    | some amount =>
      have written : doc.readBack.payableAmount = some (quantized 2 amount) := by
        show doc.payableAmount.map (quantized 2) = some (quantized 2 amount)
        rw [payable, Option.map_some]
      rw [written, Option.any_some]
      by_cases positive : 0 < quantized 2 amount
      · have before := complete.1
        rw [payable, Option.any_some, decide_eq_true (pos_of_quantized_pos positive)] at before
        rw [decide_eq_true positive]
        exact before
      · rw [decide_eq_false positive]
        rfl
  have ids : (isMissing doc.readBack.seller.taxId && isMissing doc.readBack.seller.registrationId) = false ↔
      Visible doc.seller.taxId ∨ Visible doc.seller.registrationId := by
    rw [Bool.and_eq_false_iff]
    exact or_congr isMissing_stripped isMissing_stripped
  rw [ids]
  exact ⟨fun both => both.2, fun shown => ⟨due, shown⟩⟩

theorem partyErrors_eq_nil {side : String} {party : EInvoiceParty} :
    partyErrors side party = [] ↔
      isMissing party.name = false ∧ isMissing party.endpointId = false ∧ isMissing party.endpointSchemeId = false ∧
        isMissing party.countryCode = false := by
  unfold partyErrors
  rw [List.append_eq_nil_iff, List.append_eq_nil_iff, report_eq_nil, report_eq_nil]
  cases isMissing party.endpointId with
  | true => simp
  | false => simp [and_assoc]

theorem partyErrors_readBack {side : String} {party : EInvoiceParty} (complete : partyErrors side party = []) :
    partyErrors side party.readBack = [] ↔ party.RequiredVisible := by
  obtain ⟨_, id, scheme, _⟩ := partyErrors_eq_nil.mp complete
  rw [isMissing, Option.isNone_eq_false_iff] at id scheme
  obtain ⟨id', idShown⟩ := Option.isSome_iff_exists.mp id
  obtain ⟨scheme', schemeShown⟩ := Option.isSome_iff_exists.mp scheme
  have endpointId : party.readBack.endpointId = stripped party.endpointId := by
    show ((truthy party.endpointSchemeId).bind fun _ => stripped party.endpointId) = stripped party.endpointId
    rw [schemeShown, Option.bind_some]
  have endpointScheme : isMissing party.readBack.endpointSchemeId = false := by
    show isMissing ((truthy party.endpointId).bind fun _ => truthy party.endpointSchemeId) = false
    have nonempty := (truthy_eq_some schemeShown).2
    rw [idShown, Option.bind_some, schemeShown, isMissing, truthy, Option.bind_some, nonEmpty, if_neg nonempty]
    rfl
  rw [partyErrors_eq_nil, endpointId]
  constructor
  · rintro ⟨name, endpoint, _, country⟩
    exact ⟨isMissing_stripped.mp name, isMissing_stripped.mp endpoint, isMissing_stripped.mp country⟩
  · intro shown
    exact ⟨isMissing_stripped.mpr shown.name, isMissing_stripped.mpr shown.endpointId, endpointScheme,
      isMissing_stripped.mpr shown.countryCode⟩

/-- The figures and the lists that the profile requires are there. -/
def FiguresPresent (doc : EInvoiceDocument) : Prop :=
  doc.issueDate.isNone = false ∧
    (∀ total ∈ [doc.lineExtensionAmount, doc.taxExclusiveAmount, doc.taxInclusiveAmount, doc.payableAmount, doc.taxTotal],
      total.isNone = false) ∧
    doc.taxes.isEmpty = false ∧ (∀ tax ∈ doc.taxes, tax.taxableAmount.isNone = false ∧ tax.taxAmount.isNone = false) ∧
    doc.lines.isEmpty = false ∧
    ∀ line ∈ doc.lines, line.quantity.isNone = false ∧ line.lineTotal.isNone = false ∧ line.unitPrice.isNone = false ∧
      line.taxRate.isNone = false

/-- The strings that the profile requires, other than those of the parties, are there. -/
def TextsPresent (doc : EInvoiceDocument) : Prop :=
  isMissing doc.invoiceNumber = false ∧ isMissing doc.currency = false ∧
    (∀ tax ∈ doc.taxes, isMissing tax.category = false) ∧
    ∀ line ∈ doc.lines, isMissing line.lineId = false ∧ isMissing line.description = false ∧
      isMissing line.taxCategory = false

theorem mandatoryElementErrors_eq_nil :
    mandatoryElementErrors doc = [] ↔
      FiguresPresent doc ∧ TextsPresent doc ∧ partyErrors "seller" doc.seller = [] ∧ partyErrors "buyer" doc.buyer = [] := by
  have taxes : eachIndexed doc.taxes taxMissing = [] ↔
      ∀ tax ∈ doc.taxes, tax.taxableAmount.isNone = false ∧ tax.taxAmount.isNone = false ∧ isMissing tax.category = false :=
    eachIndexed_eq_nil_of fun _ _ => by simp only [taxMissing, List.append_eq_nil_iff, report_eq_nil, and_assoc]
  have lines : eachIndexed doc.lines lineMissing = [] ↔
      ∀ line ∈ doc.lines, isMissing line.lineId = false ∧ line.quantity.isNone = false ∧ line.lineTotal.isNone = false ∧
        line.unitPrice.isNone = false ∧ isMissing line.description = false ∧ isMissing line.taxCategory = false ∧
        line.taxRate.isNone = false :=
    eachIndexed_eq_nil_of fun _ _ => by simp only [lineMissing, List.append_eq_nil_iff, report_eq_nil, and_assoc]
  simp only [mandatoryElementErrors, List.append_eq_nil_iff, report_eq_nil, totalMissing, taxes, lines, FiguresPresent,
    TextsPresent, List.mem_cons, List.not_mem_nil, or_false, forall_eq_or_imp, forall_eq]
  constructor
  · rintro ⟨⟨⟨⟨⟨⟨⟨⟨⟨⟨⟨⟨⟨number, issued⟩, currency⟩, seller⟩, buyer⟩, lineTotal⟩, exclusive⟩, inclusive⟩, payable⟩, taxTotal⟩,
      someTax⟩, taxes⟩, someLine⟩, lines⟩
    exact ⟨⟨issued, ⟨lineTotal, exclusive, inclusive, payable, taxTotal⟩, someTax,
        fun tax member => ⟨(taxes tax member).1, (taxes tax member).2.1⟩, someLine, fun line member => by
          obtain ⟨_, quantity, total, price, _, _, rate⟩ := lines line member
          exact ⟨quantity, total, price, rate⟩⟩,
      ⟨number, currency, fun tax member => (taxes tax member).2.2, fun line member => by
        obtain ⟨id, _, _, _, description, category, _⟩ := lines line member
        exact ⟨id, description, category⟩⟩, seller, buyer⟩
  · rintro ⟨⟨issued, ⟨lineTotal, exclusive, inclusive, payable, taxTotal⟩, someTax, taxFigures, someLine, lineFigures⟩,
      ⟨number, currency, taxTexts, lineTexts⟩, seller, buyer⟩
    refine ⟨⟨⟨⟨⟨⟨⟨⟨⟨⟨⟨⟨⟨number, issued⟩, currency⟩, seller⟩, buyer⟩, lineTotal⟩, exclusive⟩, inclusive⟩, payable⟩, taxTotal⟩,
      someTax⟩, ?_⟩, someLine⟩, ?_⟩
    · intro tax member
      exact ⟨(taxFigures tax member).1, (taxFigures tax member).2, taxTexts tax member⟩
    · intro line member
      obtain ⟨quantity, total, price, rate⟩ := lineFigures line member
      obtain ⟨id, description, category⟩ := lineTexts line member
      exact ⟨id, quantity, total, price, description, category, rate⟩

/-- No figure gets lost on the way. -/
theorem FiguresPresent.readBack (present : FiguresPresent doc) : FiguresPresent doc.readBack := by
  obtain ⟨issued, totals, someTax, taxes, someLine, lines⟩ := present
  refine ⟨issued, ?_, ?_, ?_, ?_, ?_⟩
  · simpa only [EInvoiceDocument.readBack, List.mem_cons, List.not_mem_nil, or_false, forall_eq_or_imp, forall_eq,
      Option.isNone_map] using totals
  · show (doc.taxes.map EInvoiceTax.readBack).isEmpty = false
    rw [List.isEmpty_map, someTax]
  · intro tax member
    obtain ⟨written, group, rfl⟩ := List.mem_map.mp member
    simpa only [EInvoiceTax.readBack, Option.isNone_map] using taxes written group
  · show (doc.lines.map EInvoiceLine.readBack).isEmpty = false
    rw [List.isEmpty_map, someLine]
  · intro line member
    obtain ⟨written, item, rfl⟩ := List.mem_map.mp member
    simpa only [EInvoiceLine.readBack, Option.isNone_map] using lines written item

theorem textsPresent_readBack :
    TextsPresent doc.readBack ↔
      Visible doc.invoiceNumber ∧ Visible doc.currency ∧ (∀ tax ∈ doc.taxes, Visible tax.category) ∧
        ∀ line ∈ doc.lines, Visible line.lineId ∧ Visible line.description ∧ Visible line.taxCategory := by
  simp only [TextsPresent, EInvoiceDocument.readBack, List.forall_mem_map, EInvoiceTax.readBack, EInvoiceLine.readBack,
    isMissing_stripped]

end Presence

/-- A document that conforms still does when it is read back, if what the profile requires shows and the
figures agree as their texts round them. -/
theorem conforms_readBack_iff {doc : EInvoiceDocument} (conforms : bis3ConformanceErrors doc = []) :
    bis3ConformanceErrors doc.readBack = [] ↔ doc.RequiredVisible ∧ doc.FiguresAgree := by
  unfold bis3ConformanceErrors calculationErrors at conforms ⊢
  simp only [List.append_eq_nil_iff] at conforms ⊢
  obtain ⟨⟨mandatory, listed⟩, ⟨⟨_, _⟩, _⟩, complete⟩ := conforms
  obtain ⟨figures, _, seller, buyer⟩ := mandatoryElementErrors_eq_nil.mp mandatory
  have sellerBack : partyErrors "seller" doc.readBack.seller = [] ↔ doc.seller.RequiredVisible := partyErrors_readBack seller
  have buyerBack : partyErrors "buyer" doc.readBack.buyer = [] ↔ doc.buyer.RequiredVisible := partyErrors_readBack buyer
  rw [mandatoryElementErrors_eq_nil, textsPresent_readBack, sellerBack, buyerBack, lineAmountErrors_readBack,
    documentTotalErrors_readBack, vatBreakdownErrors_readBack, documentCompletenessErrors_readBack complete]
  constructor
  · rintro ⟨⟨⟨_, ⟨number, currency, taxes, lines⟩, seller, buyer⟩, _⟩, ⟨⟨amounts, totals⟩, breakdown⟩, ids⟩
    exact ⟨⟨number, currency, seller, buyer, ids, taxes, lines⟩, ⟨amounts, totals, breakdown⟩⟩
  · rintro ⟨⟨number, currency, seller, buyer, ids, taxes, lines⟩, ⟨amounts, totals, breakdown⟩⟩
    exact ⟨⟨⟨figures.readBack, ⟨number, currency, taxes, lines⟩, seller, buyer⟩, codeListErrors_readBack listed⟩,
      ⟨⟨amounts, totals⟩, breakdown⟩, ids⟩

/-- The identifiers of the profile that a document carries. -/
def carriesProfile (root : Xml) : Bool :=
  (Xml.atPath ["CustomizationID"] root).isSome || (Xml.atPath ["ProfileID"] root).isSome

/-- With the default, a document carries the identifiers when it conforms. -/
theorem carriesProfile_default (doc : EInvoiceDocument) :
    carriesProfile (generateUbl isBis3Conformant none doc) = isBis3Conformant doc := by
  have customization : Xml.atPath ["CustomizationID"] (generateUbl isBis3Conformant none doc) =
      if isBis3Conformant doc then some (cbc "CustomizationID" bis3CustomizationId) else none := by
    rw [atPath_root _ _ (by decide)]
    simp only [firstNamed_headerOf, firstNamed_bodyOf, String.reduceEq, if_false, if_true, Option.or_none, Option.getD_none]
    exact Option.bind_fun_some _
  have profile : Xml.atPath ["ProfileID"] (generateUbl isBis3Conformant none doc) =
      if isBis3Conformant doc then some (cbc "ProfileID" bis3ProfileId) else none := by
    rw [atPath_root _ _ (by decide)]
    simp only [firstNamed_headerOf, firstNamed_bodyOf, String.reduceEq, if_false, if_true, Option.none_or, Option.or_none,
      Option.getD_none]
    exact Option.bind_fun_some _
  rw [carriesProfile, customization, profile]
  cases isBis3Conformant doc <;> rfl

/-- A declared profile is true of what is read back, and a document with an error declares none, exactly
when a conforming document keeps what shows and what agrees. -/
theorem declared_profile_true_iff (otherForms : String → Option CalendarDate) (doc : EInvoiceDocument) :
    ((carriesProfile (generateUbl isBis3Conformant none doc) = true →
        bis3ConformanceErrors (parseUbl otherForms (generateUbl isBis3Conformant none doc)) = []) ∧
      (bis3ConformanceErrors doc ≠ [] → carriesProfile (generateUbl isBis3Conformant none doc) = false)) ↔
      (bis3ConformanceErrors doc = [] → doc.RequiredVisible ∧ doc.FiguresAgree) := by
  have conforms : isBis3Conformant doc = true ↔ bis3ConformanceErrors doc = [] := List.isEmpty_iff
  rw [carriesProfile_default, parseUbl_generateUbl_eq, conforms]
  constructor
  · rintro ⟨declared, _⟩ none
    exact (conforms_readBack_iff none).mp (declared none)
  · intro keeps
    refine ⟨fun none => (conforms_readBack_iff none).mpr (keeps none), ?_⟩
    intro errors
    exact Bool.eq_false_iff.mpr fun conforming => errors (conforms.mp conforming)

section Sale

/-- A party in Germany that can be reached on the network. -/
def registeredParty (name : String) : EInvoiceParty :=
  { name := some name, taxId := some "DE123456789", countryCode := some "DE", endpointId := some "DE123456789",
    endpointSchemeId := some "9930" }

/-- Three pieces sold at a price, with VAT of a fifth. -/
def threePiecesAt (description : String) (price : ℚ) : EInvoiceDocument :=
  { sourceFormat := .ubl, invoiceNumber := some "INV-1", issueDate := some ⟨2026, 1, 9, by decide, by decide, by decide⟩,
    dueDate := some ⟨2026, 1, 30, by decide, by decide, by decide⟩, currency := some "EUR", invoiceTypeCode := some "380", buyerReference := none,
    orderReference := none, paymentTermsNote := none, paymentMeansCode := none, seller := registeredParty "Acme GmbH",
    buyer := registeredParty "Buyer AG", lineExtensionAmount := some (3002 / 100), taxExclusiveAmount := some (3002 / 100),
    taxInclusiveAmount := some (3602 / 100), taxTotal := some 6, allowanceTotal := none, chargeTotal := none,
    payableAmount := some (3602 / 100),
    taxes := [{ category := some "S", rate := some 20, taxableAmount := some (3002 / 100), taxAmount := some 6 }],
    lines :=
      [{ lineId := some "1", description := some description, quantity := some 3, unitPrice := some price,
         lineTotal := some (3002 / 100), taxRate := some 20, taxCategory := some "S" }] }

/-- A description of one space is declared and then missing, and a price of 10.005 is declared and then does
not multiply to the amount of its line. -/
theorem declared_profile_untrue :
    (carriesProfile (generateUbl isBis3Conformant none (threePiecesAt " " (1001 / 100))) = true ∧
      bis3ConformanceErrors (parseUbl (fun _ => none) (generateUbl isBis3Conformant none (threePiecesAt " " (1001 / 100)))) ≠
        []) ∧
    carriesProfile (generateUbl isBis3Conformant none (threePiecesAt "Toner" (10005 / 1000))) = true ∧
      bis3ConformanceErrors
        (parseUbl (fun _ => none) (generateUbl isBis3Conformant none (threePiecesAt "Toner" (10005 / 1000)))) ≠ [] := by
  have blank : bis3ConformanceErrors (threePiecesAt " " (1001 / 100)) = [] := by decide +kernel
  have priced : bis3ConformanceErrors (threePiecesAt "Toner" (10005 / 1000)) = [] := by decide +kernel
  refine ⟨⟨?_, ?_⟩, ?_, ?_⟩
  · rw [carriesProfile_default]
    exact List.isEmpty_iff.mpr blank
  · rw [parseUbl_generateUbl_eq]
    intro none
    have visible := ((conforms_readBack_iff blank).mp none).1
    have shown := (visible.lines _ (List.mem_singleton.mpr rfl)).2.1
    unfold Visible at shown
    exact absurd shown (by decide)
  · rw [carriesProfile_default]
    exact List.isEmpty_iff.mpr priced
  · rw [parseUbl_generateUbl_eq]
    intro none
    have agree := ((conforms_readBack_iff priced).mp none).2.lineAmounts
    exact absurd agree (by decide +kernel)

end Sale

end Payables.EInvoice
