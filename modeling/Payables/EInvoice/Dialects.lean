import Payables.EInvoice.CiiRoundTrip

namespace Payables.EInvoice

open Lib

/-- A document without the marks of the dialect it was read from. -/
def EInvoiceDocument.content (doc : EInvoiceDocument) : EInvoiceDocument :=
  { doc with sourceFormat := .ubl, rawXmlRootTag := none }

/-- Both dialects hold the same of a party that has no whole electronic address. -/
theorem heldParty_eq_held_iff {party : EInvoiceParty} :
    Cii.heldParty party = party.held ↔ party.endpointId = none ∨ party.endpointSchemeId = none := by
  have lines : Cii.lineTags.length = lineTags.length := rfl
  constructor
  · intro same
    have id : none = party.endpointSchemeId.bind fun _ => party.endpointId := congrArg EInvoiceParty.endpointId same
    cases scheme : party.endpointSchemeId with
    | none => exact Or.inr rfl
    | some scheme' =>
      rw [scheme, Option.bind_some] at id
      exact Or.inl id.symm
  · rintro (absent | absent)
    · simp only [Cii.heldParty, EInvoiceParty.held, absent, lines, Option.bind_none, Option.bind_fun_none]
    · simp only [Cii.heldParty, EInvoiceParty.held, absent, lines, Option.bind_none, Option.bind_fun_none]

theorem filter_ne_zero_iff {value : Option ℚ} : value.filter (· != 0) = value ↔ value ≠ some 0 := by
  cases value with
  | none => simp
  | some d =>
    by_cases zero : d = 0
    · simp [zero]
    · simp [zero]

/-- Both dialects hold the same of a line that has no category and no price of zero. -/
theorem heldLine_eq_held_iff {line : EInvoiceLine} :
    Cii.heldLine line = line.held ↔ line.taxCategory = none ∧ line.unitPrice ≠ some 0 := by
  rw [← filter_ne_zero_iff]
  constructor
  · intro same
    have category : none = line.taxCategory := congrArg EInvoiceLine.taxCategory same
    have price : line.unitPrice.filter (· != 0) = line.unitPrice := congrArg EInvoiceLine.unitPrice same
    exact ⟨category.symm, price⟩
  · rintro ⟨category, price⟩
    simp only [Cii.heldLine, EInvoiceLine.held, category, price]

/-- The two dialects carry the same document when it has nothing that CII has no place for and no
amount that the reader of CII takes for absent. -/
theorem dialects_agree_iff (otherForms : String → Option CalendarDate) (isBis3Conformant : EInvoiceDocument → Bool)
    (declareProfile : Option Bool) {doc : EInvoiceDocument} (tidy : doc.Tidy) (exactly : doc.Exact) :
    (Cii.parseCii otherForms (Cii.generateCii doc)).content =
        (parseUbl otherForms (generateUbl isBis3Conformant declareProfile doc)).content ↔
      (∀ party ∈ [doc.seller, doc.buyer], party.endpointId = none ∨ party.endpointSchemeId = none) ∧
        doc.taxTotal ≠ some 0 ∧ ∀ line ∈ doc.lines, line.taxCategory = none ∧ line.unitPrice ≠ some 0 := by
  have parties : (∀ party ∈ [doc.seller, doc.buyer], party.endpointId = none ∨ party.endpointSchemeId = none) ↔
      Cii.heldParty doc.seller = doc.seller.held ∧ Cii.heldParty doc.buyer = doc.buyer.held := by
    simp only [List.mem_cons, List.not_mem_nil, or_false, forall_eq_or_imp, forall_eq, heldParty_eq_held_iff]
  have lines : (∀ line ∈ doc.lines, line.taxCategory = none ∧ line.unitPrice ≠ some 0) ↔
      doc.lines.map Cii.heldLine = doc.lines.map EInvoiceLine.held := by
    simp only [List.map_inj_left, heldLine_eq_held_iff]
  rw [Cii.parseCii_generateCii otherForms tidy exactly, parseUbl_generateUbl _ _ otherForms tidy exactly, parties, lines,
    ← filter_ne_zero_iff]
  constructor
  · intro same
    exact ⟨⟨congrArg EInvoiceDocument.seller same, congrArg EInvoiceDocument.buyer same⟩,
      congrArg EInvoiceDocument.taxTotal same, congrArg EInvoiceDocument.lines same⟩
  · rintro ⟨⟨seller, buyer⟩, taxTotal, lines⟩
    simp only [EInvoiceDocument.content, EInvoiceDocument.asUbl, seller, buyer, taxTotal, lines]

/-- A document of one line at a price of so many cents. -/
def onePricedLine (cents : ℤ) : EInvoiceDocument where
  sourceFormat := .ubl
  invoiceNumber := some "INV-12"
  issueDate := none
  dueDate := none
  currency := some "EUR"
  invoiceTypeCode := none
  buyerReference := none
  orderReference := none
  paymentTermsNote := none
  paymentMeansCode := none
  seller := { name := some "Muster GmbH" }
  buyer := { name := some "Payer Inc" }
  lineExtensionAmount := none
  taxExclusiveAmount := none
  taxInclusiveAmount := none
  taxTotal := none
  allowanceTotal := none
  chargeTotal := none
  payableAmount := none
  taxes := []
  lines := [{ lineId := some "1", description := some "Sample", unitPrice := some (cents / 10 ^ 2) }]

theorem tidy_named {name : String} (tidy : TidyText (some name)) : EInvoiceParty.Tidy { name := some name } where
  name := tidy
  taxId := tidy_none
  registrationId := tidy_none
  addressLines := by
    intro line member
    cases member
  city := tidy_none
  postalCode := tidy_none
  countryCode := tidy_none
  email := tidy_none
  endpointId := tidy_none
  endpointSchemeId := tidy_none

theorem tidy_onePricedLine (cents : ℤ) : (onePricedLine cents).Tidy where
  invoiceNumber := by show TidyText (some "INV-12"); decide
  currency := by show TidyText (some "EUR"); decide
  invoiceTypeCode := tidy_none
  buyerReference := tidy_none
  orderReference := tidy_none
  paymentTermsNote := tidy_none
  paymentMeansCode := tidy_none
  seller := tidy_named (by decide)
  buyer := tidy_named (by decide)
  taxes := by
    intro tax member
    cases member
  lines := by
    intro line member
    cases List.mem_singleton.mp member
    refine ⟨?_, tidy_none, ?_, tidy_none, tidy_none⟩
    · show TidyText (some "1")
      decide
    · show TidyText (some "Sample")
      decide

theorem exact_onePricedLine (cents : ℤ) : (onePricedLine cents).Exact where
  lineExtensionAmount := hasPlaces_none 2
  taxExclusiveAmount := hasPlaces_none 2
  taxInclusiveAmount := hasPlaces_none 2
  taxTotal := hasPlaces_none 2
  allowanceTotal := hasPlaces_none 2
  chargeTotal := hasPlaces_none 2
  payableAmount := hasPlaces_none 2
  taxes := by
    intro tax member
    cases member
  lines := by
    intro line member
    cases List.mem_singleton.mp member
    refine ⟨hasPlaces_none 4, ?_, hasPlaces_none 2, hasPlaces_none 2, hasPlaces_none 2⟩
    intro d price
    exact ⟨cents, (Option.mem_some_iff.mp price).symm⟩

theorem dialects_agree_onePricedLine :
    (onePricedLine 250).Tidy ∧ (onePricedLine 250).Exact ∧
      (Cii.parseCii (fun _ => none) (Cii.generateCii (onePricedLine 250))).content =
        (parseUbl (fun _ => none) (generateUbl (fun _ => false) none (onePricedLine 250))).content := by
  refine ⟨tidy_onePricedLine 250, exact_onePricedLine 250, ?_⟩
  refine (dialects_agree_iff _ _ _ (tidy_onePricedLine 250) (exact_onePricedLine 250)).mpr ⟨?_, ?_, ?_⟩
  · intro party member
    simp only [onePricedLine, List.mem_cons, List.not_mem_nil, or_false] at member
    rcases member with rfl | rfl
    · exact Or.inl rfl
    · exact Or.inl rfl
  · show (none : Option ℚ) ≠ some 0
    intro same
    cases same
  · intro line member
    cases List.mem_singleton.mp member
    refine ⟨rfl, ?_⟩
    intro free
    have price : ((250 : ℤ) : ℚ) / 10 ^ 2 = 0 := Option.some.inj free
    norm_num at price

/-- A price of zero is present on one side and absent on the other. -/
theorem zero_price_differs :
    (onePricedLine 0).Tidy ∧ (onePricedLine 0).Exact ∧
      (Cii.parseCii (fun _ => none) (Cii.generateCii (onePricedLine 0))).content ≠
        (parseUbl (fun _ => none) (generateUbl (fun _ => false) none (onePricedLine 0))).content := by
  have tidy := tidy_onePricedLine 0
  have exactly := exact_onePricedLine 0
  refine ⟨tidy, exactly, ?_⟩
  rw [Cii.parseCii_generateCii _ tidy exactly, parseUbl_generateUbl _ _ _ tidy exactly]
  intro same
  have lines : [Cii.heldLine _] = [EInvoiceLine.held _] := congrArg EInvoiceDocument.lines same
  have line := (heldLine_eq_held_iff.mp (List.head_eq_of_cons_eq lines)).2
  refine line ?_
  norm_num

end Payables.EInvoice
