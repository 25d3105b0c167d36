import Payables.Lib.Numerals
import Payables.Lib.Markup
import Payables.Workflow.Reporting

namespace Payables.EInvoice

open Lib

inductive EInvoiceFormat
  | ubl
  | cii
  deriving DecidableEq

structure EInvoiceParty where
  name : Option String := none
  taxId : Option String := none
  registrationId : Option String := none
  addressLines : List String := []
  city : Option String := none
  postalCode : Option String := none
  countryCode : Option String := none
  email : Option String := none
  endpointId : Option String := none
  endpointSchemeId : Option String := none
  deriving DecidableEq

structure EInvoiceTax where
  category : Option String
  rate : Option ℚ
  taxableAmount : Option ℚ
  taxAmount : Option ℚ
  deriving DecidableEq

structure EInvoiceLine where
  lineId : Option String := none
  itemCode : Option String := none
  description : Option String := none
  quantity : Option ℚ := none
  unitCode : Option String := none
  unitPrice : Option ℚ := none
  lineTotal : Option ℚ := none
  taxRate : Option ℚ := none
  taxAmount : Option ℚ := none
  taxCategory : Option String := none
  deriving DecidableEq

structure EInvoiceDocument where
  sourceFormat : EInvoiceFormat
  invoiceNumber : Option String
  issueDate : Option CalendarDate
  dueDate : Option CalendarDate
  currency : Option String
  invoiceTypeCode : Option String
  buyerReference : Option String
  orderReference : Option String
  paymentTermsNote : Option String
  paymentMeansCode : Option String
  seller : EInvoiceParty
  buyer : EInvoiceParty
  lineExtensionAmount : Option ℚ
  taxExclusiveAmount : Option ℚ
  taxInclusiveAmount : Option ℚ
  taxTotal : Option ℚ
  allowanceTotal : Option ℚ
  chargeTotal : Option ℚ
  payableAmount : Option ℚ
  taxes : List EInvoiceTax
  lines : List EInvoiceLine
  rawXmlRootTag : Option String := none
  deriving DecidableEq

/-- `table.get(key)`. -/
def tableGet (table : List (String × String)) (key : String) : Option String :=
  (table.find? (·.1 == key)).map (·.2)

/-- `text or None`, for a string. -/
def nonEmpty (text : String) : Option String := if text = "" then none else some text

/-- The text of an optional string where `if text` holds. -/
def truthy (text : Option String) : Option String := text.bind nonEmpty

/-- `find_text`. -/
def findText (root : Option Xml) (names : List String) : Option String :=
  ((root.bind (Xml.atPath names)).bind Xml.text).bind fun text => nonEmpty (pyStripText text)

/-- `to_decimal`. -/
def toDecimal (value : Option String) : Option ℚ :=
  value.bind fun text => decimal? ((pyStripText text).toList.filter (· != '_'))

/-- `to_date`. `otherForms` are the other forms of a date or of a date with a time that ISO 8601 has. -/
def toDate (otherForms : String → Option CalendarDate) (value : Option String) : Option CalendarDate :=
  value.bind fun text =>
    let s := pyStripText text
    if s = "" then none
    else ((isoDate? s.toList).or (basicDate? s.toList)).or (otherForms s)

/-- `str(d.quantize(…))`, with that many places. -/
def quantizedText (places : Nat) (d : ℚ) : String :=
  String.ofList (fixedPoint places (decide (d < 0)) (roundHalfEven (d * 10 ^ places)).natAbs)

/-- The value of that text. -/
def quantized (places : Nat) (d : ℚ) : ℚ := roundHalfEven (d * 10 ^ places) / 10 ^ places

/-- An optional string as a text of an element gives it back. -/
def stripped (text : Option String) : Option String := text.bind fun t => nonEmpty (pyStripText t)

theorem stripped_some (t : String) : stripped (some t) = nonEmpty (pyStripText t) := by rw [stripped, Option.bind_some]

/-- `issue_date.isoformat()`. -/
def isoformat (date : CalendarDate) : String := String.ofList (isoDate date)

/-- `d.strftime("%Y%m%d")`, with the four-digit year that the documentation gives. -/
def date102 (date : CalendarDate) : String := String.ofList (basicDate date)

/-- A string that is present is not empty and has no space around it. -/
def TidyText (text : Option String) : Prop := ∀ t ∈ text, pyStripText t = t ∧ t ≠ ""

instance (text : Option String) : Decidable (TidyText text) :=
  inferInstanceAs (Decidable (∀ t ∈ text, pyStripText t = t ∧ t ≠ ""))

/-- An amount that is present is a whole number of units of its scale. -/
def HasPlaces (places : Nat) (value : Option ℚ) : Prop := ∀ d ∈ value, ∃ units : ℤ, d = units / 10 ^ places

section Texts

theorem tidy_none : TidyText none := by
  intro t member
  cases member

theorem hasPlaces_none (places : Nat) : HasPlaces places none := by
  intro d member
  cases member

theorem TidyText.strip {t : String} (tidy : TidyText (some t)) : pyStripText t = t := (tidy t rfl).1

theorem TidyText.ne {t : String} (tidy : TidyText (some t)) : t ≠ "" := (tidy t rfl).2

theorem TidyText.truthy_eq {text : Option String} (tidy : TidyText text) : truthy text = text := by
  cases text with
  | none => rfl
  | some t =>
    have present := tidy.ne
    rw [truthy, Option.bind_some, nonEmpty, if_neg present]

theorem TidyText.nonEmpty_strip {t : String} (tidy : TidyText (some t)) : nonEmpty (pyStripText t) = some t := by
  rw [tidy.strip, nonEmpty, if_neg tidy.ne]

theorem not_isPySpace_of_isNumeralChar {c : Char} (numeral : isNumeralChar c = true) : isPySpace c = false := by
  have code : c.toNat = 45 ∨ c.toNat = 46 ∨ 48 ≤ c.toNat ∧ c.toNat ≤ 57 := by
    simp only [isNumeralChar, Bool.or_eq_true, beq_iff_eq] at numeral
    rcases numeral with (digit | rfl) | rfl
    · have range := Char.isDigit_iff_toNat.mp digit
      exact Or.inr (Or.inr range)
    · exact Or.inl rfl
    · exact Or.inr (Or.inl rfl)
  simp only [isPySpace, Bool.or_eq_false_iff, Bool.and_eq_false_iff, decide_eq_false_iff_not, beq_eq_false_iff_ne]
  omega

/-- Nothing is stripped from a numeral. -/
theorem pyStripText_numeral {text : List Char} (numeral : ∀ c ∈ text, isNumeralChar c = true) :
    pyStripText (String.ofList text) = String.ofList text := by
  have solid : ∀ c ∈ text, isPySpace c = false := fun c member => not_isPySpace_of_isNumeralChar (numeral c member)
  have front : text.dropWhile isPySpace = text := by
    cases text with
    | nil => rfl
    | cons c rest => rw [List.dropWhile_cons_of_neg (by rw [solid c List.mem_cons_self]; decide)]
  have back : text.rdropWhile isPySpace = text := by
    rw [List.rdropWhile_eq_self_iff]
    intro nonempty
    rw [solid _ (List.getLast_mem nonempty)]
    decide
  rw [pyStripText, String.toList_ofList, pyStrip, front, back]

theorem tidy_numeral {text : List Char} (numeral : ∀ c ∈ text, isNumeralChar c = true) (nonempty : text ≠ []) :
    TidyText (some (String.ofList text)) := by
  intro t member
  cases Option.mem_some_iff.mp member
  refine ⟨pyStripText_numeral numeral, ?_⟩
  intro empty
  apply nonempty
  rw [← String.toList_ofList (l := text), empty]
  rfl

theorem tidy_quantizedText (places : Nat) (d : ℚ) : TidyText (some (quantizedText places d)) :=
  tidy_numeral (fun _ member => isNumeralChar_of_mem_fixedPoint member) fixedPoint_ne_nil

theorem tidy_isoformat (date : CalendarDate) : TidyText (some (isoformat date)) := by
  refine tidy_numeral (fun _ member => isNumeralChar_of_mem_isoDate member) ?_
  intro empty
  have length := congrArg List.length empty
  simp only [isoDate, List.length_append, List.length_cons, List.length_nil] at length
  omega

theorem tidy_date102 (date : CalendarDate) : TidyText (some (date102 date)) := by
  refine tidy_numeral (fun _ member => isNumeralChar_of_mem_basicDate member) ?_
  intro empty
  have length := congrArg List.length empty
  simp only [basicDate, List.length_append, padded_length, List.length_nil] at length
  omega

/-- The sign of a text is the sign of the number it was written for. -/
theorem signed_natAbs_roundHalfEven (d : ℚ) :
    (if decide (d < 0) = true then -(((roundHalfEven d).natAbs : ℕ) : ℚ) else ((roundHalfEven d).natAbs : ℕ)) =
      roundHalfEven d := by
  by_cases negative : d < 0
  · have below : roundHalfEven d ≤ 0 := roundHalfEven_le (by rw [Int.cast_zero]; exact negative.le)
    have magnitude : (((roundHalfEven d).natAbs : ℕ) : ℤ) = -roundHalfEven d := by omega
    rw [decide_eq_true negative, if_pos rfl, ← Int.cast_natCast, magnitude, Int.cast_neg, neg_neg]
  · have above : 0 ≤ roundHalfEven d := le_roundHalfEven (by rw [Int.cast_zero]; exact not_lt.mp negative)
    have magnitude : (((roundHalfEven d).natAbs : ℕ) : ℤ) = roundHalfEven d := by omega
    rw [decide_eq_false negative, if_neg Bool.false_ne_true, ← Int.cast_natCast, magnitude]

/-- The text of a number is read back as the number it rounds to. -/
theorem toDecimal_quantizedText (places : Nat) (d : ℚ) :
    toDecimal (some (quantizedText places d)) = some (quantized places d) := by
  have power : (0 : ℚ) < 10 ^ places := by positivity
  have sign : decide (d < 0) = decide (d * 10 ^ places < 0) := by
    rw [decide_eq_decide, mul_neg_iff]
    constructor
    · intro negative
      exact Or.inr ⟨negative, power⟩
    · rintro (⟨_, wrong⟩ | ⟨negative, _⟩)
      · exact absurd wrong (not_lt.mpr power.le)
      · exact negative
  have solid : ∀ c ∈ fixedPoint places (decide (d < 0)) (roundHalfEven (d * 10 ^ places)).natAbs, (c != '_') = true := by
    intro c member
    have numeral := isNumeralChar_of_mem_fixedPoint member
    refine bne_iff_ne.mpr ?_
    rintro rfl
    exact absurd numeral (by decide)
  rw [toDecimal, Option.bind_some, (tidy_quantizedText places d).strip, quantizedText, String.toList_ofList,
    List.filter_eq_self.mpr solid, decimal?_fixedPoint, sign, signed_natAbs_roundHalfEven, quantized]

/-- A number at the scale of its text rounds to itself. -/
theorem quantized_eq {places : Nat} {d : ℚ} {units : ℤ} (scaled : d = units / 10 ^ places) : quantized places d = d := by
  have power : (10 : ℚ) ^ places ≠ 0 := by positivity
  have whole : d * 10 ^ places = units := by rw [scaled, div_mul_cancel₀ _ power]
  rw [quantized, whole, roundHalfEven_intCast, scaled]

theorem HasPlaces.map_quantized {places : Nat} {value : Option ℚ} (exactly : HasPlaces places value) :
    value.map (quantized places) = value := by
  cases value with
  | none => rfl
  | some d =>
    obtain ⟨units, scaled⟩ := exactly d rfl
    rw [Option.map_some, quantized_eq scaled]

theorem TidyText.stripped_eq {text : Option String} (tidy : TidyText text) : stripped text = text := by
  cases text with
  | none => rfl
  | some t =>
    rw [stripped_some]
    exact tidy.nonEmpty_strip

theorem truthy_eq_some {text : Option String} {t : String} (shown : truthy text = some t) : text = some t ∧ t ≠ "" := by
  obtain ⟨t', present, nonempty⟩ := Option.bind_eq_some_iff.mp shown
  unfold nonEmpty at nonempty
  split at nonempty
  · cases nonempty
  · next ne =>
    have same := Option.some.inj nonempty
    subst same
    exact ⟨present, ne⟩

theorem bind_truthy (text : Option String) : ((truthy text).bind fun t => nonEmpty (pyStripText t)) = stripped text := by
  cases text with
  | none => rfl
  | some t =>
    by_cases empty : t = ""
    · subst empty
      decide
    · rw [truthy, Option.bind_some, nonEmpty, if_neg empty]
      rfl

theorem truthy_of_stripped {text : Option String} (present : (stripped text).isSome = true) : (truthy text).isSome = true := by
  rw [← bind_truthy] at present
  exact Option.isSome_of_isSome_bind present

theorem toDate_isoformat (otherForms : String → Option CalendarDate) (date : CalendarDate) :
    toDate otherForms (some (isoformat date)) = some date := by
  have tidy := tidy_isoformat date
  simp only [toDate, Option.bind_some, tidy.strip, if_neg tidy.ne]
  rw [isoformat, String.toList_ofList, isoDate?_isoDate, Option.some_or, Option.some_or]

theorem toDate_date102 (otherForms : String → Option CalendarDate) (date : CalendarDate) :
    toDate otherForms (some (date102 date)) = some date := by
  have tidy := tidy_date102 date
  have read := basicDate?_basicDate date
  simp only [toDate, Option.bind_some, tidy.strip, if_neg tidy.ne]
  rw [date102, String.toList_ofList, read.1, read.2, Option.none_or, Option.some_or]

end Texts

end Payables.EInvoice
