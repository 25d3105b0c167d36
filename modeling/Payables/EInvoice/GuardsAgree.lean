import Payables.EInvoice.Guards
import Payables.Money

namespace Payables.EInvoice.Guards
open Lib

section Gaps

/-- What is between the total and the sum of its parts, as `validate_document` sees it. -/
def rawGap (inclusive exclusive tax : ℚ) : ℚ := |contextRound (inclusive - contextRound (exclusive + tax))|

/-- The same between the figures in cents. -/
def roundedGap (inclusive exclusive tax : ℚ) : ℚ := |quantizeMoney inclusive - quantizeMoney (contextRound (exclusive + tax))|

theorem abs_roundHalfAway_sub_le (value : ℚ) : |(roundHalfAway value : ℚ) - value| ≤ 1 / 2 := by
  have nonneg : ∀ x : ℚ, 0 ≤ x → |(roundHalfAway x : ℚ) - x| ≤ 1 / 2 := by
    intro x positive
    have low := Int.floor_le (x + 1 / 2)
    have high := Int.lt_floor_add_one (x + 1 / 2)
    rw [roundHalfAway_of_nonneg positive, abs_le]
    constructor <;> linarith
  rcases le_total 0 value with positive | negative
  · exact nonneg value positive
  · have mirrored := nonneg (-value) (by linarith)
    rw [roundHalfAway_neg, Int.cast_neg, ← neg_sub', abs_neg] at mirrored
    exact mirrored

theorem abs_quantizeMoney_sub_le (value : ℚ) : |quantizeMoney value - value| ≤ 1 / 200 := by
  have near := abs_roundHalfAway_sub_le (value * 100)
  have scaled : quantizeMoney value - value = ((roundHalfAway (value * 100) : ℚ) - value * 100) / 100 := by
    rw [quantizeMoney_eq]
    ring
  rw [scaled, abs_div, abs_of_pos (by norm_num : (0 : ℚ) < 100)]
  linarith

theorem contextRound_le_cent {value : ℚ} (within : |value| ≤ cent) : |contextRound value| ≤ cent := by
  have power : cent = (10 : ℚ) ^ (-2 : ℤ) := by norm_num [cent]
  rw [power] at within ⊢
  exact abs_contextRound_le_zpow within

theorem cent_lt_contextRound {value : ℚ} (wide : 2 * cent ≤ |value|) : cent < |contextRound value| := by
  have near := abs_contextRound_sub_le value
  have apart := abs_sub_abs_le_abs_sub value (contextRound value)
  rw [abs_sub_comm value] at apart
  have small : |value| / 10 ^ 27 ≤ |value| / 10 := div_le_div_of_nonneg_left (abs_nonneg value) (by norm_num) (by norm_num)
  norm_num [cent] at wide ⊢
  linarith

/-- Two figures in cents agree when they are one cent apart at most. -/
theorem quantized_agree_iff {a b : ℚ} :
    |contextRound (quantizeMoney a - quantizeMoney b)| ≤ cent ↔ |quantizeMoney a - quantizeMoney b| ≤ cent := by
  constructor
  · intro near
    by_contra wide
    obtain ⟨n, cents⟩ := ((quantizeMoney_onCents a).sub (quantizeMoney_onCents b)).abs
    have most : (1 : ℚ) < n := by
      rw [cents, cent] at wide
      linarith
    have two : (2 : ℚ) ≤ n := by
      have : (1 : ℤ) < n := by exact_mod_cast most
      exact_mod_cast this
    have far : 2 * cent ≤ |quantizeMoney a - quantizeMoney b| := by
      rw [cents, cent]
      linarith
    exact absurd (cent_lt_contextRound far) (not_lt.mpr near)
  · exact contextRound_le_cent

/-- The gaps differ by a cent at most. -/
theorem gaps_near {a b : ℚ} : |a - b| ≤ |quantizeMoney a - quantizeMoney b| + cent ∧
    |quantizeMoney a - quantizeMoney b| ≤ |a - b| + cent := by
  have left := abs_quantizeMoney_sub_le a
  have right := abs_quantizeMoney_sub_le b
  have split : quantizeMoney a - quantizeMoney b = (quantizeMoney a - a) - (quantizeMoney b - b) + (a - b) := by ring
  have off : |(quantizeMoney a - a) - (quantizeMoney b - b)| ≤ cent := by
    refine (abs_sub _ _).trans ?_
    rw [cent]
    linarith
  constructor
  · have back : a - b = (quantizeMoney a - quantizeMoney b) - ((quantizeMoney a - a) - (quantizeMoney b - b)) := by ring
    calc |a - b| ≤ |quantizeMoney a - quantizeMoney b| + |(quantizeMoney a - a) - (quantizeMoney b - b)| := by
          rw [back]
          exact abs_sub _ _
      _ ≤ |quantizeMoney a - quantizeMoney b| + cent := by linarith
  · calc |quantizeMoney a - quantizeMoney b|
        ≤ |(quantizeMoney a - a) - (quantizeMoney b - b)| + |a - b| := by
          rw [split]
          exact abs_add_le _ _
      _ ≤ |a - b| + cent := by linarith

/-- The two gaps are judged alike unless the figures in cents are one or two cents apart. -/
theorem gaps_judged_alike_iff {inclusive exclusive tax : ℚ} :
    (cent < rawGap inclusive exclusive tax ↔ cent < roundedGap inclusive exclusive tax) ↔
      (roundedGap inclusive exclusive tax = cent → rawGap inclusive exclusive tax ≤ cent) ∧
        (roundedGap inclusive exclusive tax = 2 * cent → cent < rawGap inclusive exclusive tax) := by
  obtain ⟨n, cents⟩ := ((quantizeMoney_onCents inclusive).sub
    (quantizeMoney_onCents (contextRound (exclusive + tax)))).abs
  have gap : roundedGap inclusive exclusive tax = n / 100 := cents
  have nonneg : (0 : ℚ) ≤ n := by
    have := abs_nonneg (quantizeMoney inclusive - quantizeMoney (contextRound (exclusive + tax)))
    rw [cents] at this
    linarith
  obtain ⟨most, least⟩ := gaps_near (a := inclusive) (b := contextRound (exclusive + tax))
  rw [cents] at most least
  have small : n = 0 → rawGap inclusive exclusive tax ≤ cent := by
    rintro rfl
    exact contextRound_le_cent (by simpa using most)
  have large : 3 ≤ n → cent < rawGap inclusive exclusive tax := by
    intro far
    have wide : (3 : ℚ) ≤ n := by exact_mod_cast far
    refine cent_lt_contextRound ?_
    rw [cent] at least ⊢
    linarith
  have count : 0 ≤ n := by exact_mod_cast nonneg
  have one : roundedGap inclusive exclusive tax = cent ↔ n = 1 := by
    rw [gap, cent, div_left_inj' (by norm_num)]
    exact_mod_cast Iff.rfl
  have two : roundedGap inclusive exclusive tax = 2 * cent ↔ n = 2 := by
    rw [gap, cent, mul_one_div, div_left_inj' (by norm_num)]
    exact_mod_cast Iff.rfl
  have more : cent < roundedGap inclusive exclusive tax ↔ 1 < n := by
    rw [gap, cent, div_lt_div_iff_of_pos_right (by norm_num)]
    exact_mod_cast Iff.rfl
  rw [one, two, more]
  constructor
  · intro alike
    constructor
    · rintro rfl
      exact not_lt.mp fun wide => absurd (alike.mp wide) (lt_irrefl 1)
    · rintro rfl
      exact alike.mpr (by norm_num)
  · rintro ⟨atOne, atTwo⟩
    constructor
    · intro wide
      by_contra few
      have zeroOrOne : n = 0 ∨ n = 1 := by omega
      rcases zeroOrOne with zero | one
      · exact absurd wide (not_lt.mpr (small zero))
      · exact absurd wide (not_lt.mpr (atOne one))
    · intro many
      have twoOrMore : n = 2 ∨ 3 ≤ n := by omega
      rcases twoOrMore with two | three
      · exact atTwo two
      · exact large three

end Gaps

section Reports

def Comparison.Quantizable (comparison : Comparison) : Prop :=
  |quantizeMoney comparison.actual| < 10 ^ 26 ∧ |quantizeMoney comparison.expected| < 10 ^ 26

/-- What a comparison reports, where it can be made. -/
def Comparison.reported (comparison : Comparison) : List FieldError :=
  report (!decide (|contextRound (quantizeMoney comparison.actual - quantizeMoney comparison.expected)| ≤ comparison.tolerance))
    comparison.error

/-- Every figure that a rule compares can be rounded to cents. -/
def Quantizable (doc : EInvoiceDocument) : Prop :=
  ∀ comparison ∈ lineComparisons doc ++ totalComparisons doc ++ taxAmountComparisons doc ++ taxableAmountComparisons doc,
    comparison.Quantizable

theorem quantizeCents_eq_ok {value cents : ℚ} :
    quantizeCents value = .ok cents ↔ |quantizeMoney value| < 10 ^ 26 ∧ cents = quantizeMoney value := by
  rw [quantizeCents]
  by_cases fits : |quantizeMoney value| < 10 ^ 26
  · rw [if_pos fits]
    exact ⟨fun ok => ⟨fits, (Except.ok.inj ok).symm⟩, fun same => congrArg Except.ok same.2.symm⟩
  · rw [if_neg fits]
    constructor
    · intro error
      cases error
    · exact fun same => absurd same.1 fits

theorem agrees_eq_ok {actual expected tolerance : ℚ} {same : Bool} : agrees actual expected tolerance = .ok same ↔
    (|quantizeMoney actual| < 10 ^ 26 ∧ |quantizeMoney expected| < 10 ^ 26) ∧
      same = decide (|contextRound (quantizeMoney actual - quantizeMoney expected)| ≤ tolerance) := by
  simp only [agrees, bind_eq_ok, quantizeCents_eq_ok]
  constructor
  · rintro ⟨a, ⟨one, rfl⟩, b, ⟨two, rfl⟩, ok⟩
    exact ⟨⟨one, two⟩, (Except.ok.inj ok).symm⟩
  · rintro ⟨⟨one, two⟩, rfl⟩
    exact ⟨_, ⟨one, rfl⟩, _, ⟨two, rfl⟩, rfl⟩

theorem Comparison.errors_eq_ok {comparison : Comparison} {errors : List FieldError} :
    comparison.errors = .ok errors ↔ comparison.Quantizable ∧ errors = comparison.reported := by
  simp only [Comparison.errors, bind_eq_ok, agrees_eq_ok]
  constructor
  · rintro ⟨same, ⟨both, rfl⟩, ok⟩
    exact ⟨both, (Except.ok.inj ok).symm⟩
  · rintro ⟨both, rfl⟩
    exact ⟨_, ⟨both, rfl⟩, rfl⟩

theorem mapM_errors_eq_ok {comparisons : List Comparison} {each : List (List FieldError)} :
    comparisons.mapM Comparison.errors = .ok each ↔
      (∀ comparison ∈ comparisons, comparison.Quantizable) ∧ each = comparisons.map Comparison.reported := by
  induction comparisons generalizing each with
  | nil =>
    rw [List.mapM_nil, pure_eq_ok]
    exact ⟨fun same => ⟨fun _ member => absurd member List.not_mem_nil, same.symm⟩, fun same => same.2.symm⟩
  | cons comparison rest ih =>
    rw [List.mapM_cons, List.forall_mem_cons]
    simp only [bind_eq_ok, pure_eq_ok, Comparison.errors_eq_ok, ih]
    constructor
    · rintro ⟨first, ⟨one, rfl⟩, others, ⟨all, rfl⟩, rfl⟩
      exact ⟨⟨one, all⟩, rfl⟩
    · rintro ⟨⟨one, all⟩, rfl⟩
      exact ⟨_, ⟨one, rfl⟩, _, ⟨all, rfl⟩, rfl⟩

theorem comparisonErrors_eq_ok {comparisons : List Comparison} {errors : List FieldError} :
    comparisonErrors comparisons = .ok errors ↔
      (∀ comparison ∈ comparisons, comparison.Quantizable) ∧ errors = comparisons.flatMap Comparison.reported := by
  rw [comparisonErrors, bind_eq_ok]
  simp only [mapM_errors_eq_ok]
  constructor
  · rintro ⟨each, ⟨all, rfl⟩, ok⟩
    exact ⟨all, (Except.ok.inj ok).symm⟩
  · rintro ⟨all, rfl⟩
    exact ⟨_, ⟨all, rfl⟩, rfl⟩

/-- The rules return where all their figures can be rounded to cents. -/
theorem calculationErrors_eq_ok {doc : EInvoiceDocument} {errors : List FieldError} :
    calculationErrors doc = .ok errors ↔ Quantizable doc ∧ errors =
      (lineComparisons doc).flatMap Comparison.reported ++ (totalComparisons doc).flatMap Comparison.reported ++
        ((taxAmountComparisons doc).flatMap Comparison.reported ++ eachIndexed doc.lines lineRateErrors ++
          (coverageErrors doc ++ (taxableAmountComparisons doc).flatMap Comparison.reported)) ++
        documentCompletenessErrors doc := by
  simp only [calculationErrors, bind_eq_ok, comparisonErrors_eq_ok, Quantizable, List.forall_mem_append]
  constructor
  · rintro ⟨lines, ⟨one, rfl⟩, totals, ⟨two, rfl⟩, amounts, ⟨three, rfl⟩, taxables, ⟨four, rfl⟩, ok⟩
    exact ⟨⟨⟨⟨one, two⟩, three⟩, four⟩, (Except.ok.inj ok).symm⟩
  · rintro ⟨⟨⟨⟨one, two⟩, three⟩, four⟩, rfl⟩
    exact ⟨_, ⟨one, rfl⟩, _, ⟨two, rfl⟩, _, ⟨three, rfl⟩, _, ⟨four, rfl⟩, rfl⟩

end Reports

section Codes

variable {doc : EInvoiceDocument}

theorem mem_report {bad : Bool} {error e : FieldError} : e ∈ report bad error ↔ bad = true ∧ e = error := by
  rw [report]
  cases bad with
  | true => simp
  | false => simp

theorem mem_comparing {actual expected : Option ℚ} {tolerance : ℚ} {error : FieldError} {comparison : Comparison} :
    comparison ∈ comparing actual expected tolerance error ↔
      ∃ a ∈ actual, ∃ b ∈ expected, comparison = ⟨a, b, tolerance, error⟩ := by
  cases actual with
  | none => simp [comparing]
  | some a => cases expected with
    | none => simp [comparing]
    | some b => simp [comparing]

theorem error_of_mem_comparing {actual expected : Option ℚ} {tolerance : ℚ} {error : FieldError} {comparison : Comparison}
    (member : comparison ∈ comparing actual expected tolerance error) : comparison.error = error := by
  obtain ⟨a, -, b, -, rfl⟩ := mem_comparing.mp member
  rfl

theorem mem_reported {comparison : Comparison} {e : FieldError} (member : e ∈ comparison.reported) : e = comparison.error :=
  (mem_report.mp member).2

theorem mem_eachIndexed {α : Type} {items : List α} {errors : Nat → α → List FieldError} {e : FieldError}
    (member : e ∈ eachIndexed items errors) : ∃ i, ∃ item ∈ items, e ∈ errors i item := by
  obtain ⟨entry, listed, here⟩ := List.mem_flatMap.mp member
  obtain ⟨-, -, same⟩ := List.mem_zipIdx listed
  exact ⟨entry.2, entry.1, same ▸ List.getElem_mem _, here⟩

/-- The rule of a VAT category is not the one on the total with VAT. -/
theorem vatCategoryRule_ne {category : Option String} {suffix : String} (given : suffix ∈ ["01", "05", "08"]) :
    vatCategoryRule category suffix ≠ "BR-CO-15" := by
  have families : ∀ family ∈ vatCategoryRuleInfix.map Prod.snd, ∀ suffix ∈ ["01", "05", "08"],
      "BR-" ++ family ++ "-" ++ suffix ≠ "BR-CO-15" := by decide
  rw [vatCategoryRule]
  split
  next family found =>
    obtain ⟨entry, listed, rfl⟩ := Option.map_eq_some_iff.mp found
    exact families _ (List.mem_map_of_mem (List.mem_of_find?_eq_some listed)) suffix given
  next => decide

/-- The error of the rule on the total with VAT. -/
def totalError : FieldError :=
  ⟨"tax_inclusive_amount", "BR-CO-15", "Total with VAT must equal the total without VAT plus the total VAT"⟩

/-- The document breaks a rule on its totals: the figures that the rule compares do not agree. -/
def Violates (doc : EInvoiceDocument) (rule : String) : Prop :=
  ∃ comparison ∈ totalComparisons doc, comparison.error.code = rule ∧
    agrees comparison.actual comparison.expected comparison.tolerance = .ok false

/-- Each rule on the totals reports under its own code. -/
theorem rule_of_mem {comparison : Comparison} (member : comparison ∈ totalComparisons doc) :
    (comparison ∈ brCo10 doc ∧ comparison.error.code = "BR-CO-10") ∨
      (comparison ∈ brCo13 doc ∧ comparison.error.code = "BR-CO-13") ∨
      (comparison ∈ brCo14 doc ∧ comparison.error.code = "BR-CO-14") ∨
      (comparison ∈ brCo15 doc ∧ comparison.error.code = "BR-CO-15") ∨
      (comparison ∈ brCo16 doc ∧ comparison.error.code = "BR-CO-16") := by
  rw [totalComparisons] at member
  simp only [List.mem_append] at member
  rcases member with (((lines | base) | tax) | total) | payable
  · exact .inl ⟨lines, by rw [error_of_mem_comparing lines]⟩
  · exact .inr (.inl ⟨base, by rw [error_of_mem_comparing base]⟩)
  · exact .inr (.inr (.inl ⟨tax, by rw [error_of_mem_comparing tax]⟩))
  · exact .inr (.inr (.inr (.inl ⟨total, by rw [error_of_mem_comparing total]⟩)))
  · exact .inr (.inr (.inr (.inr ⟨payable, by rw [error_of_mem_comparing payable]⟩)))

theorem mem_brCo15 {comparison : Comparison} : comparison ∈ brCo15 doc ↔
    ∃ inclusive ∈ doc.taxInclusiveAmount, ∃ exclusive ∈ doc.taxExclusiveAmount, ∃ tax ∈ doc.taxTotal,
      comparison = ⟨inclusive, contextRound (exclusive + tax), cent, totalError⟩ := by
  have parts : ∀ expected, expected ∈ (doc.taxExclusiveAmount.bind fun exclusive =>
      doc.taxTotal.map fun tax => contextRound (exclusive + tax)) ↔
        ∃ exclusive ∈ doc.taxExclusiveAmount, ∃ tax ∈ doc.taxTotal, contextRound (exclusive + tax) = expected := by
    intro expected
    simp only [Option.mem_def, Option.bind_eq_some_iff, Option.map_eq_some_iff]
  rw [brCo15, mem_comparing]
  constructor
  · rintro ⟨inclusive, given, expected, sum, rfl⟩
    obtain ⟨exclusive, base, tax, due, rfl⟩ := (parts expected).mp sum
    exact ⟨inclusive, given, exclusive, base, tax, due, rfl⟩
  · rintro ⟨inclusive, given, exclusive, base, tax, due, rfl⟩
    exact ⟨inclusive, given, _, (parts _).mpr ⟨exclusive, base, tax, due, rfl⟩, rfl⟩

theorem mem_totalComparisons_iff {comparison : Comparison} :
    comparison ∈ totalComparisons doc ∧ comparison.error.code = "BR-CO-15" ↔
      ∃ inclusive ∈ doc.taxInclusiveAmount, ∃ exclusive ∈ doc.taxExclusiveAmount, ∃ tax ∈ doc.taxTotal,
        comparison = ⟨inclusive, contextRound (exclusive + tax), cent, totalError⟩ := by
  rw [← mem_brCo15]
  constructor
  · rintro ⟨member, code⟩
    rcases rule_of_mem member with ⟨-, own⟩ | ⟨-, own⟩ | ⟨-, own⟩ | ⟨here, -⟩ | ⟨-, own⟩
    · exact absurd (own.symm.trans code) (by decide)
    · exact absurd (own.symm.trans code) (by decide)
    · exact absurd (own.symm.trans code) (by decide)
    · exact here
    · exact absurd (own.symm.trans code) (by decide)
  · intro here
    exact ⟨List.mem_append_left _ (List.mem_append_right _ here), by rw [error_of_mem_comparing here]⟩

theorem code_ne_of_mem_flatMap {comparisons : List Comparison} {e : FieldError}
    (codes : ∀ comparison ∈ comparisons, comparison.error.code ≠ "BR-CO-15")
    (member : e ∈ comparisons.flatMap Comparison.reported) : e.code ≠ "BR-CO-15" := by
  obtain ⟨comparison, listed, here⟩ := List.mem_flatMap.mp member
  rw [mem_reported here]
  exact codes comparison listed

theorem lineComparisons_code {comparison : Comparison} (member : comparison ∈ lineComparisons doc) :
    comparison.error.code ≠ "BR-CO-15" := by
  obtain ⟨entry, -, here⟩ := List.mem_flatMap.mp member
  rw [error_of_mem_comparing here]
  exact (by decide : "PEPPOL-EN16931-R120" ≠ "BR-CO-15")

theorem taxAmountComparisons_code {comparison : Comparison} (member : comparison ∈ taxAmountComparisons doc) :
    comparison.error.code ≠ "BR-CO-15" := by
  obtain ⟨entry, -, here⟩ := List.mem_flatMap.mp member
  rw [error_of_mem_comparing here]
  exact (by decide : "BR-CO-17" ≠ "BR-CO-15")

theorem taxableAmountComparisons_code {comparison : Comparison} (member : comparison ∈ taxableAmountComparisons doc) :
    comparison.error.code ≠ "BR-CO-15" := by
  rw [taxableAmountComparisons] at member
  split at member
  · cases member
  split at member
  · cases member
  split at member
  · cases member
  obtain ⟨entry, -, here⟩ := List.mem_flatMap.mp member
  by_cases blank : categoryOf entry.1.category = ""
  · rw [if_pos blank] at here
    cases here
  · rw [if_neg blank] at here
    have rule : vatCategoryRule (some (categoryOf entry.1.category)) "08" ≠ "BR-CO-15" := vatCategoryRule_ne (by decide)
    rw [error_of_mem_comparing here]
    simpa only using rule

theorem lineRateErrors_code {i : Nat} {line : EInvoiceLine} {e : FieldError} (member : e ∈ lineRateErrors i line) :
    e.code ≠ "BR-CO-15" := by
  rw [lineRateErrors] at member
  split at member
  · cases member
  next rate _ =>
    simp only at member
    split at member
    · cases member
    split at member
    · have rule : vatCategoryRule (some (categoryOf line.taxCategory)) "05" ≠ "BR-CO-15" := vatCategoryRule_ne (by decide)
      rw [List.mem_singleton.mp member]
      simpa only using rule
    · rw [(mem_report.mp member).2]
      exact (by decide : "BR-S-05" ≠ "BR-CO-15")

theorem coverageErrors_code {e : FieldError} (member : e ∈ coverageErrors doc) : e.code ≠ "BR-CO-15" := by
  rw [coverageErrors] at member
  split at member
  · cases member
  · obtain ⟨category, -, rfl⟩ := List.mem_map.mp member
    have rule : vatCategoryRule (some category) "01" ≠ "BR-CO-15" := vatCategoryRule_ne (by decide)
    simpa only using rule

theorem documentCompletenessErrors_code {e : FieldError} (member : e ∈ documentCompletenessErrors doc) : e.code ≠ "BR-CO-15" := by
  rw [documentCompletenessErrors, List.mem_append] at member
  rcases member with member | member
  · rw [(mem_report.mp member).2]
    exact (by decide : "BR-CO-25" ≠ "BR-CO-15")
  · rw [(mem_report.mp member).2]
    exact (by decide : "BR-CO-26" ≠ "BR-CO-15")

/-- Only the rule on the total with VAT reports under its code. -/
theorem reports_total_iff : (∃ errors, calculationErrors doc = .ok errors ∧ ∃ e ∈ errors, e.code = "BR-CO-15") ↔
    Quantizable doc ∧ ∃ inclusive ∈ doc.taxInclusiveAmount, ∃ exclusive ∈ doc.taxExclusiveAmount, ∃ tax ∈ doc.taxTotal,
      cent < roundedGap inclusive exclusive tax := by
  constructor
  · rintro ⟨errors, ok, e, member, code⟩
    obtain ⟨all, rfl⟩ := calculationErrors_eq_ok.mp ok
    refine ⟨all, ?_⟩
    have total : e ∈ (totalComparisons doc).flatMap Comparison.reported := by
      simp only [List.mem_append] at member
      rcases member with ((lines | totals) | (amounts | rates) | coverage | taxables) | complete
      · exact absurd code (code_ne_of_mem_flatMap (fun _ => lineComparisons_code) lines)
      · exact totals
      · exact absurd code (code_ne_of_mem_flatMap (fun _ => taxAmountComparisons_code) amounts)
      · obtain ⟨i, line, -, here⟩ := mem_eachIndexed rates
        exact absurd code (lineRateErrors_code here)
      · exact absurd code (coverageErrors_code coverage)
      · exact absurd code (code_ne_of_mem_flatMap (fun _ => taxableAmountComparisons_code) taxables)
      · exact absurd code (documentCompletenessErrors_code complete)
    obtain ⟨comparison, listed, here⟩ := List.mem_flatMap.mp total
    rw [mem_reported here] at code
    obtain ⟨inclusive, given, exclusive, base, tax, due, rfl⟩ := mem_totalComparisons_iff.mp ⟨listed, code⟩
    refine ⟨inclusive, given, exclusive, base, tax, due, ?_⟩
    have apart := (mem_report.mp here).1
    rw [Bool.not_eq_true', decide_eq_false_iff_not, quantized_agree_iff] at apart
    exact not_le.mp apart
  · rintro ⟨all, inclusive, given, exclusive, base, tax, due, apart⟩
    refine ⟨_, calculationErrors_eq_ok.mpr ⟨all, rfl⟩, totalError, ?_, rfl⟩
    have listed := (mem_totalComparisons_iff.mpr ⟨inclusive, given, exclusive, base, tax, due, rfl⟩).1
    have reported : totalError ∈ (totalComparisons doc).flatMap Comparison.reported := by
      refine List.mem_flatMap.mpr ⟨_, listed, mem_report.mpr ⟨?_, rfl⟩⟩
      rw [Bool.not_eq_true', decide_eq_false_iff_not, quantized_agree_iff]
      exact not_le.mpr apart
    exact List.mem_append_left _ (List.mem_append_left _ (List.mem_append_right _ reported))

end Codes

section Identity

variable {rules : CountryRules} {doc : EInvoiceDocument}

/-- The error of the monetary identity. -/
def identityError : FieldError :=
  ⟨"tax_inclusive_amount", "inconsistent", "Tax-inclusive total does not equal tax-exclusive total plus tax"⟩

theorem mem_identityErrors {e : FieldError} : e ∈ identityErrors doc ↔
    ∃ inclusive ∈ doc.taxInclusiveAmount, ∃ exclusive ∈ doc.taxExclusiveAmount, ∃ tax ∈ doc.taxTotal,
      cent < rawGap inclusive exclusive tax ∧ e = identityError := by
  rw [identityErrors]
  cases doc.taxInclusiveAmount with
  | none => simp
  | some inclusive => cases doc.taxExclusiveAmount with
    | none => simp
    | some exclusive => cases doc.taxTotal with
      | none => simp
      | some tax => simp [mem_report, rawGap, identityError]

theorem rate_field_ne (i : Nat) : s!"taxes[{i}].rate" ≠ "tax_inclusive_amount" := by
  intro same
  have whole : "taxes[" ++ (toString i ++ "].rate") = "tax_inclusive_amount" := by
    rw [← String.append_assoc]
    exact same
  have fourth : ("taxes[" ++ (toString i ++ "].rate")).toList[3]? = "tax_inclusive_amount".toList[3]? := by rw [whole]
  rw [String.toList_append, show "taxes[".toList = _ from String.toList_ofList,
    show "tax_inclusive_amount".toList = _ from String.toList_ofList, List.getElem?_append_left (by decide)] at fourth
  exact absurd fourth (by decide)

theorem refused_field {field message : String} {reason : Option String} {e : FieldError}
    (member : e ∈ refused field message reason) : e.field = field := by
  rw [refused] at member
  split at member
  · rw [List.mem_singleton.mp member]
  · cases member

theorem validateTaxDocument_field {e : FieldError} (member : e ∈ validateTaxDocument rules doc) :
    e.field ≠ "tax_inclusive_amount" := by
  simp only [validateTaxDocument, List.mem_append] at member
  rcases member with (seller | buyer) | rates
  · rw [refused_field seller]
    decide
  · rw [refused_field buyer]
    decide
  · obtain ⟨i, tax, -, here⟩ := mem_eachIndexed rates
    rw [refused_field here]
    exact rate_field_ne i

theorem currencyErrors_field {e : FieldError} (member : e ∈ currencyErrors rules doc) : e.field = "currency" := by
  rw [currencyErrors] at member
  split at member
  · rw [List.mem_singleton.mp member]
  · rw [(mem_report.mp member).2]

/-- Only the check of the identity reports the total with VAT. -/
theorem reports_identity_iff {checkTax : Bool} :
    (∃ e ∈ validateDocument rules doc checkTax, e.field = "tax_inclusive_amount" ∧ e.code = "inconsistent") ↔
      ∃ inclusive ∈ doc.taxInclusiveAmount, ∃ exclusive ∈ doc.taxExclusiveAmount, ∃ tax ∈ doc.taxTotal,
        cent < rawGap inclusive exclusive tax := by
  constructor
  · rintro ⟨e, member, field, -⟩
    simp only [validateDocument, List.mem_append] at member
    rcases member with (((((((number | date) | currency) | seller) | buyer) | lines) | payable) | identity) | taxes
    · rw [(mem_report.mp number).2] at field
      exact absurd field (by decide)
    · rw [(mem_report.mp date).2] at field
      exact absurd field (by decide)
    · rw [currencyErrors_field currency] at field
      exact absurd field (by decide)
    · rw [(mem_report.mp seller).2] at field
      exact absurd field (by decide)
    · rw [(mem_report.mp buyer).2] at field
      exact absurd field (by decide)
    · rw [(mem_report.mp lines).2] at field
      exact absurd field (by decide)
    · rw [(mem_report.mp payable).2] at field
      exact absurd field (by decide)
    · obtain ⟨inclusive, given, exclusive, base, tax, due, apart, -⟩ := mem_identityErrors.mp identity
      exact ⟨inclusive, given, exclusive, base, tax, due, apart⟩
    · cases checkTax with
      | false => cases taxes
      | true => exact absurd field (validateTaxDocument_field taxes)
  · rintro ⟨inclusive, given, exclusive, base, tax, due, apart⟩
    refine ⟨identityError, ?_, rfl, rfl⟩
    have identity : identityError ∈ identityErrors doc :=
      mem_identityErrors.mpr ⟨inclusive, given, exclusive, base, tax, due, apart, rfl⟩
    exact List.mem_append_left _ (List.mem_append_right _ identity)

/-- The two guards of the total with VAT say the same of a document. -/
def GuardsAgree (rules : CountryRules) (checkTax : Bool) (doc : EInvoiceDocument) : Prop :=
  (∃ e ∈ validateDocument rules doc checkTax, e.field = "tax_inclusive_amount" ∧ e.code = "inconsistent") ↔
    ∃ errors, calculationErrors doc = .ok errors ∧ ∃ e ∈ errors, e.code = "BR-CO-15"

/-- The total with VAT and the sum of its parts are a cent apart at most where they are one cent apart when rounded or
where a figure cannot be rounded, and more than a cent apart where they are two cents apart when rounded. -/
def Concordant (doc : EInvoiceDocument) : Prop :=
  ∀ inclusive ∈ doc.taxInclusiveAmount, ∀ exclusive ∈ doc.taxExclusiveAmount, ∀ tax ∈ doc.taxTotal,
    (roundedGap inclusive exclusive tax = cent ∨ ¬Quantizable doc → rawGap inclusive exclusive tax ≤ cent) ∧
      (roundedGap inclusive exclusive tax = 2 * cent → Quantizable doc → cent < rawGap inclusive exclusive tax)

theorem guardsAgree_iff {checkTax : Bool} : GuardsAgree rules checkTax doc ↔ Concordant doc := by
  rw [GuardsAgree, reports_identity_iff, reports_total_iff]
  cases inclusive : doc.taxInclusiveAmount with
  | none => simp [Concordant, inclusive]
  | some total => cases exclusive : doc.taxExclusiveAmount with
    | none => simp [Concordant, exclusive]
    | some base => cases tax : doc.taxTotal with
      | none => simp [Concordant, tax]
      | some due =>
        have one : Concordant doc ↔ (roundedGap total base due = cent ∨ ¬Quantizable doc → rawGap total base due ≤ cent) ∧
            (roundedGap total base due = 2 * cent → Quantizable doc → cent < rawGap total base due) := by
          simp [Concordant, inclusive, exclusive, tax]
        have raw : (∃ inclusive ∈ some total, ∃ exclusive ∈ some base, ∃ tax ∈ some due, cent < rawGap inclusive exclusive tax) ↔
            cent < rawGap total base due := by simp
        have rounded : (∃ inclusive ∈ some total, ∃ exclusive ∈ some base, ∃ tax ∈ some due,
            cent < roundedGap inclusive exclusive tax) ↔ cent < roundedGap total base due := by simp
        rw [one, raw, rounded]
        by_cases all : Quantizable doc
        · simp only [all, not_true_eq_false, or_false, true_and, true_implies]
          exact gaps_judged_alike_iff
        · simp only [all, not_false_eq_true, or_true, false_and, iff_false, not_lt, true_implies, false_implies, implies_true,
            and_true]

end Identity

section Exact

/-- A document whose figures are in cents and far from the limit of the context. -/
structure InCents (doc : EInvoiceDocument) : Prop where
  totals : ∀ figure ∈ [doc.lineExtensionAmount, doc.taxExclusiveAmount, doc.taxInclusiveAmount, doc.taxTotal,
    doc.allowanceTotal, doc.chargeTotal, doc.payableAmount].reduceOption, OnCents figure ∧ |figure| < 10 ^ 25
  lines : ∀ line ∈ doc.lines, OnCents (line.lineTotal.getD 0)
  linesSmall : (doc.lines.map fun line => |line.lineTotal.getD 0|).sum < 10 ^ 26
  taxes : ∀ tax ∈ doc.taxes, OnCents (tax.taxAmount.getD 0)
  taxesSmall : (doc.taxes.map fun tax => |tax.taxAmount.getD 0|).sum < 10 ^ 26

theorem contextRound_cents {units : ℤ} (digits : |units| < 10 ^ 28) : contextRound (units / 100) = units / 100 := by
  have place : (units : ℚ) / 100 = units * (10 : ℚ) ^ (-2 : ℤ) := by
    rw [zpow_neg, div_eq_mul_inv]
    norm_num
  rw [place]
  exact contextRound_of_units digits

theorem contextRound_onCents {value : ℚ} (cents : OnCents value) (small : |value| < 10 ^ 26) : contextRound value = value := by
  obtain ⟨n, rfl⟩ := cents
  refine contextRound_cents ?_
  rw [abs_div, abs_of_pos (by norm_num : (0 : ℚ) < 100), div_lt_iff₀ (by norm_num)] at small
  have cast : |(n : ℚ)| < 10 ^ 28 := small.trans_eq (by norm_num)
  exact_mod_cast cast

/-- A sum of cents is exact. -/
theorem contextSum_eq {terms : List ℚ} (cents : ∀ term ∈ terms, OnCents term) (small : (terms.map (|·|)).sum < 10 ^ 26) :
    contextSum terms = terms.sum := by
  have folds : ∀ total, OnCents total → |total| + (terms.map (|·|)).sum < 10 ^ 26 →
      terms.foldl (fun total term => contextRound (total + term)) total = total + terms.sum := by
    clear small
    induction terms with
    | nil =>
      intro total _ _
      rw [List.foldl_nil, List.sum_nil, add_zero]
    | cons term rest ih =>
      intro total first small
      obtain ⟨second, others⟩ := List.forall_mem_cons.mp cents
      rw [List.map_cons, List.sum_cons] at small
      have nonneg : 0 ≤ (rest.map (|·|)).sum := List.sum_nonneg (by simp)
      have both := abs_add_le total term
      have exact : contextRound (total + term) = total + term := contextRound_onCents (first.add second) (by linarith)
      rw [List.foldl_cons, exact, ih others _ (first.add second) (by linarith), List.sum_cons, add_assoc]
  rw [contextSum, folds 0 .zero (by rwa [abs_zero, zero_add]), zero_add]

theorem contextSumIfAll_eq {terms : List (Option ℚ)} (cents : ∀ term ∈ terms, OnCents (term.getD 0))
    (small : (terms.map fun term => |term.getD 0|).sum < 10 ^ 26) : contextSumIfAll terms = sumIfAll terms := by
  rw [contextSumIfAll, sumIfAll, contextSum_eq]
  · intro value member
    obtain ⟨term, listed, rfl⟩ := List.mem_map.mp member
    exact cents term listed
  · rw [List.map_map]
    exact small

theorem reported_comparing {actual expected : Option ℚ} {error : FieldError} :
    (comparing actual expected cent error).flatMap Comparison.reported = figuresAgree actual expected error := by
  have alike : ∀ a b : ℚ, decide (|contextRound (quantizeMoney a - quantizeMoney b)| ≤ cent) = EInvoice.agrees a b cent :=
    fun a b => decide_eq_decide.mpr quantized_agree_iff
  cases actual with
  | none => rfl
  | some a => cases expected with
    | none => rfl
    | some b =>
      rw [comparing, List.flatMap_singleton, Comparison.reported, figuresAgree]
      simp only [alike]

theorem quantizable_of_cents {actual expected : Option ℚ} {error : FieldError}
    (left : ∀ a ∈ actual, OnCents a ∧ |a| < 10 ^ 26) (right : ∀ b ∈ expected, OnCents b ∧ |b| < 10 ^ 26) :
    ∀ comparison ∈ comparing actual expected cent error, comparison.Quantizable := by
  intro comparison member
  obtain ⟨a, given, b, due, rfl⟩ := mem_comparing.mp member
  obtain ⟨one, small⟩ := left a given
  obtain ⟨two, small'⟩ := right b due
  refine ⟨?_, ?_⟩
  · rw [one.quantizeMoney_eq]
    exact small
  · rw [two.quantizeMoney_eq]
    exact small'

theorem sumIfAll_small {terms : List (Option ℚ)} (cents : ∀ term ∈ terms, OnCents (term.getD 0))
    (small : (terms.map fun term => |term.getD 0|).sum < 10 ^ 26) :
    ∀ sum ∈ sumIfAll terms, OnCents sum ∧ |sum| < 10 ^ 26 := by
  intro sum member
  rw [sumIfAll] at member
  split at member
  · cases Option.some.inj member
    refine ⟨OnCents.sum fun value listed => ?_, ?_⟩
    · obtain ⟨term, present, rfl⟩ := List.mem_map.mp listed
      exact cents term present
    · have bound := List.le_sum_of_subadditive (abs : ℚ → ℚ) abs_zero.le abs_add_le (terms.map fun term => term.getD 0)
      rw [List.map_map] at bound
      exact bound.trans_lt small
  · cases member

namespace InCents

variable {doc : EInvoiceDocument} (plain : InCents doc)

include plain in
theorem total {figure : ℚ} {column : Option ℚ} (listed : column ∈ [doc.lineExtensionAmount, doc.taxExclusiveAmount,
    doc.taxInclusiveAmount, doc.taxTotal, doc.allowanceTotal, doc.chargeTotal, doc.payableAmount])
    (given : figure ∈ column) : OnCents figure ∧ |figure| < 10 ^ 25 := by
  rw [Option.mem_def] at given
  subst given
  exact plain.totals figure (List.reduceOption_mem_iff.mpr listed)

include plain in
theorem orZero {column : Option ℚ} (listed : column ∈ [doc.lineExtensionAmount, doc.taxExclusiveAmount,
    doc.taxInclusiveAmount, doc.taxTotal, doc.allowanceTotal, doc.chargeTotal, doc.payableAmount]) :
    OnCents (column.getD 0) ∧ |column.getD 0| < 10 ^ 25 := by
  cases column with
  | none => exact ⟨.zero, by norm_num⟩
  | some figure => exact plain.total listed rfl

include plain in
/-- What the rule on the total without VAT expects. -/
theorem base {lines : ℚ} (given : lines ∈ doc.lineExtensionAmount) :
    (OnCents (lines - doc.allowanceTotal.getD 0 + doc.chargeTotal.getD 0) ∧
      |lines - doc.allowanceTotal.getD 0 + doc.chargeTotal.getD 0| < 10 ^ 26) ∧
    contextRound (contextRound (lines - doc.allowanceTotal.getD 0) + doc.chargeTotal.getD 0) =
      lines - doc.allowanceTotal.getD 0 + doc.chargeTotal.getD 0 := by
  obtain ⟨linesCents, linesSmall⟩ := plain.total (by simp) given
  obtain ⟨lessCents, lessSmall⟩ : OnCents (doc.allowanceTotal.getD 0) ∧ |doc.allowanceTotal.getD 0| < 10 ^ 25 :=
    plain.orZero (by simp)
  obtain ⟨moreCents, moreSmall⟩ : OnCents (doc.chargeTotal.getD 0) ∧ |doc.chargeTotal.getD 0| < 10 ^ 25 :=
    plain.orZero (by simp)
  have difference := abs_sub lines (doc.allowanceTotal.getD 0)
  have sum := abs_add_le (lines - doc.allowanceTotal.getD 0) (doc.chargeTotal.getD 0)
  have cents := (linesCents.sub lessCents).add moreCents
  have small : |lines - doc.allowanceTotal.getD 0 + doc.chargeTotal.getD 0| < 10 ^ 26 := by linarith
  rw [contextRound_onCents (linesCents.sub lessCents) (by linarith), contextRound_onCents cents small]
  exact ⟨⟨cents, small⟩, rfl⟩

include plain in
/-- What the rule on the total with VAT expects. -/
theorem inclusive {exclusive tax : ℚ} (given : exclusive ∈ doc.taxExclusiveAmount) (due : tax ∈ doc.taxTotal) :
    (OnCents (exclusive + tax) ∧ |exclusive + tax| < 10 ^ 26) ∧ contextRound (exclusive + tax) = exclusive + tax := by
  obtain ⟨baseCents, baseSmall⟩ := plain.total (by simp) given
  obtain ⟨taxCents, taxSmall⟩ := plain.total (by simp) due
  have sum := abs_add_le exclusive tax
  have small : |exclusive + tax| < 10 ^ 26 := by linarith
  exact ⟨⟨baseCents.add taxCents, small⟩, contextRound_onCents (baseCents.add taxCents) small⟩

end InCents

/-- On figures in cents, the rules on the totals compute exactly. -/
theorem documentTotalErrors_in_context {doc : EInvoiceDocument} (plain : InCents doc) :
    comparisonErrors (totalComparisons doc) = .ok (documentTotalErrors doc) := by
  have lineTerms : ∀ term ∈ doc.lines.map EInvoiceLine.lineTotal, OnCents (term.getD 0) := by
    intro term member
    obtain ⟨line, listed, rfl⟩ := List.mem_map.mp member
    exact plain.lines line listed
  have taxTerms : ∀ term ∈ doc.taxes.map EInvoiceTax.taxAmount, OnCents (term.getD 0) := by
    intro term member
    obtain ⟨tax, listed, rfl⟩ := List.mem_map.mp member
    exact plain.taxes tax listed
  have linesSmall : ((doc.lines.map EInvoiceLine.lineTotal).map fun term => |term.getD 0|).sum < 10 ^ 26 := by
    rw [List.map_map]
    exact plain.linesSmall
  have taxesSmall : ((doc.taxes.map EInvoiceTax.taxAmount).map fun term => |term.getD 0|).sum < 10 ^ 26 := by
    rw [List.map_map]
    exact plain.taxesSmall
  have total : ∀ {column : Option ℚ}, column ∈ [doc.lineExtensionAmount, doc.taxExclusiveAmount, doc.taxInclusiveAmount,
      doc.taxTotal, doc.allowanceTotal, doc.chargeTotal, doc.payableAmount] →
        ∀ figure ∈ column, OnCents figure ∧ |figure| < 10 ^ 26 := by
    intro column listed figure given
    obtain ⟨cents, small⟩ := plain.total listed given
    exact ⟨cents, small.trans (by norm_num)⟩
  have base : (doc.lineExtensionAmount.map fun lines =>
      contextRound (contextRound (lines - doc.allowanceTotal.getD 0) + doc.chargeTotal.getD 0)) =
        doc.lineExtensionAmount.map fun lines => lines - doc.allowanceTotal.getD 0 + doc.chargeTotal.getD 0 :=
    Option.map_congr fun lines given => (plain.base given).2
  have inclusive : (doc.taxExclusiveAmount.bind fun exclusive => doc.taxTotal.map fun tax => contextRound (exclusive + tax)) =
      doc.taxExclusiveAmount.bind fun exclusive => doc.taxTotal.map fun tax => exclusive + tax :=
    Option.bind_congr fun exclusive given => Option.map_congr fun tax due => (plain.inclusive given due).2
  rw [comparisonErrors_eq_ok]
  rw [totalComparisons, brCo10, brCo13, brCo14, brCo15, brCo16, contextSumIfAll_eq lineTerms linesSmall,
    contextSumIfAll_eq taxTerms taxesSmall, base, inclusive]
  constructor
  · simp only [List.forall_mem_append]
    refine ⟨⟨⟨⟨?_, ?_⟩, ?_⟩, ?_⟩, ?_⟩
    · exact quantizable_of_cents (total (by simp)) (sumIfAll_small lineTerms linesSmall)
    · refine quantizable_of_cents (total (by simp)) fun expected summed => ?_
      obtain ⟨lines, given, rfl⟩ := Option.map_eq_some_iff.mp summed
      exact (plain.base given).1
    · exact quantizable_of_cents (total (by simp)) (sumIfAll_small taxTerms taxesSmall)
    · refine quantizable_of_cents (total (by simp)) fun expected summed => ?_
      obtain ⟨exclusive, given, summed⟩ := Option.bind_eq_some_iff.mp summed
      obtain ⟨tax, due, rfl⟩ := Option.map_eq_some_iff.mp summed
      exact (plain.inclusive given due).1
    · exact quantizable_of_cents (total (by simp)) (total (by simp))
  · simp only [List.flatMap_append, reported_comparing]
    rfl

end Exact

section Stored

/-- A stored invoice, whose money columns are `NUMERIC(15, 2)`. -/
structure FittingInvoice extends StoredInvoice where
  amountFits : |amount.units| < 10 ^ 15
  subtotalFits : ∀ stored ∈ subtotal, |stored.units| < 10 ^ 15
  taxFits : ∀ stored ∈ taxAmount, |stored.units| < 10 ^ 15
  discountFits : ∀ stored ∈ discountAmount, |stored.units| < 10 ^ 15
  shippingFits : ∀ stored ∈ shippingAmount, |stored.units| < 10 ^ 15

/-- The document of a stored invoice keeps the rules on its totals, but for the one on the total with VAT, which it breaks
where the stored amount is more than a cent off the sum of the stored parts. -/
structure MapperSound (invoice : FittingInvoice) (lineItems : List StoredLine) (buyer : BuyerIdentity) : Prop where
  base : ¬Violates (invoiceToEinvoiceDocument invoice.toStoredInvoice lineItems buyer) "BR-CO-13"
  tax : ¬Violates (invoiceToEinvoiceDocument invoice.toStoredInvoice lineItems buyer) "BR-CO-14"
  payable : ¬Violates (invoiceToEinvoiceDocument invoice.toStoredInvoice lineItems buyer) "BR-CO-16"
  total : Violates (invoiceToEinvoiceDocument invoice.toStoredInvoice lineItems buyer) "BR-CO-15" ↔
    ∃ subtotal ∈ invoice.subtotal, ∃ tax ∈ invoice.taxAmount, cent < |invoice.amount.value -
      (subtotal.value - (invoice.discountAmount.map Numeric.value).getD 0 +
        (invoice.shippingAmount.map Numeric.value).getD 0 + tax.value)|

/-- A figure agrees with itself. -/
theorem agrees_self {value : ℚ} : agrees value value cent ≠ .ok false := by
  intro disagree
  obtain ⟨-, same⟩ := agrees_eq_ok.mp disagree
  have near := of_decide_eq_false same.symm
  rw [sub_self, contextRound_zero, abs_zero, cent] at near
  norm_num at near

/-- Figures in cents are compared as they are. -/
theorem agrees_cents_iff {m n : ℤ} (left : |m| < 10 ^ 28) (right : |n| < 10 ^ 28) :
    agrees ((m : ℚ) / 100) (n / 100) cent = .ok false ↔ cent < |(m : ℚ) / 100 - n / 100| := by
  have fits : ∀ {k : ℤ}, |k| < 10 ^ 28 → |(k : ℚ) / 100| < 10 ^ 26 := by
    intro k small
    have cast : |(k : ℚ)| < 10 ^ 28 := by exact_mod_cast small
    rw [abs_div, abs_of_pos (by norm_num : (0 : ℚ) < 100), div_lt_iff₀ (by norm_num)]
    linarith
  have one : quantizeMoney ((m : ℚ) / 100) = m / 100 := OnCents.quantizeMoney_eq ⟨m, rfl⟩
  have two : quantizeMoney ((n : ℚ) / 100) = n / 100 := OnCents.quantizeMoney_eq ⟨n, rfl⟩
  rw [agrees_eq_ok, eq_comm, decide_eq_false_iff_not, quantized_agree_iff, one, two, not_le]
  exact ⟨fun both => both.2, fun apart => ⟨⟨fits left, fits right⟩, apart⟩⟩

theorem value_eq_cents (amount : Numeric 2) : amount.value = amount.units / 100 := by
  rw [Numeric.value]
  norm_num

/-- A column of money, `NULL` being zero. -/
theorem column_cents {column : Option (Numeric 2)} (fits : ∀ stored ∈ column, |stored.units| < 10 ^ 15) :
    ∃ n : ℤ, |n| < 10 ^ 15 ∧ (column.map Numeric.value).getD 0 = n / 100 := by
  cases column with
  | none => exact ⟨0, by norm_num, by simp⟩
  | some amount => exact ⟨amount.units, fits amount rfl, value_eq_cents amount⟩

/-- The base of the tax, as the mapper and the rule add it up. -/
theorem base_cents (invoice : FittingInvoice) {subtotal : Numeric 2} (stored : invoice.subtotal = some subtotal) :
    ∃ n : ℤ, |n| < 4 * 10 ^ 15 ∧
      subtotal.value - (invoice.discountAmount.map Numeric.value).getD 0 + (invoice.shippingAmount.map Numeric.value).getD 0 =
        n / 100 ∧
      contextRound (contextRound (subtotal.value - (invoice.discountAmount.map Numeric.value).getD 0) +
        (invoice.shippingAmount.map Numeric.value).getD 0) = n / 100 := by
  have fits := invoice.subtotalFits subtotal stored
  obtain ⟨less, lessFits, discounted⟩ := column_cents invoice.discountFits
  obtain ⟨more, moreFits, shipped⟩ := column_cents invoice.shippingFits
  rw [abs_lt] at fits lessFits moreFits
  have difference : (subtotal.units : ℚ) / 100 - less / 100 = ((subtotal.units - less : ℤ) : ℚ) / 100 := by
    push_cast
    ring
  have sum : ((subtotal.units - less : ℤ) : ℚ) / 100 + more / 100 = ((subtotal.units - less + more : ℤ) : ℚ) / 100 := by
    push_cast
    ring
  have small : |subtotal.units - less| < 10 ^ 28 := by
    rw [abs_lt]
    omega
  have within : |subtotal.units - less + more| < 10 ^ 28 := by
    rw [abs_lt]
    omega
  refine ⟨subtotal.units - less + more, by rw [abs_lt]; omega, ?_, ?_⟩
  · rw [value_eq_cents, discounted, shipped, difference, sum]
  · rw [value_eq_cents, discounted, shipped, difference, contextRound_cents small, sum, contextRound_cents within]

theorem mapperSound (invoice : FittingInvoice) (lineItems : List StoredLine) (buyer : BuyerIdentity) :
    MapperSound invoice lineItems buyer where
  base := by
    rintro ⟨comparison, member, code, disagree⟩
    rcases rule_of_mem member with ⟨-, own⟩ | ⟨here, -⟩ | ⟨-, own⟩ | ⟨-, own⟩ | ⟨-, own⟩
    · exact absurd (own.symm.trans code) (by decide)
    · obtain ⟨base, mapped, expected, summed, rfl⟩ := mem_comparing.mp here
      obtain ⟨subtotal, stored, rfl⟩ := Option.map_eq_some_iff.mp mapped
      obtain ⟨lines, same, rfl⟩ := Option.map_eq_some_iff.mp summed
      obtain ⟨again, stored', rfl⟩ := Option.map_eq_some_iff.mp same
      cases Option.some.inj (stored.symm.trans stored')
      obtain ⟨n, -, left, right⟩ := base_cents invoice stored
      simp only [invoiceToEinvoiceDocument] at disagree
      rw [left, right] at disagree
      exact agrees_self disagree
    · exact absurd (own.symm.trans code) (by decide)
    · exact absurd (own.symm.trans code) (by decide)
    · exact absurd (own.symm.trans code) (by decide)
  tax := by
    rintro ⟨comparison, member, code, disagree⟩
    rcases rule_of_mem member with ⟨-, own⟩ | ⟨-, own⟩ | ⟨here, -⟩ | ⟨-, own⟩ | ⟨-, own⟩
    · exact absurd (own.symm.trans code) (by decide)
    · exact absurd (own.symm.trans code) (by decide)
    · obtain ⟨total, mapped, expected, summed, rfl⟩ := mem_comparing.mp here
      obtain ⟨tax, stored, rfl⟩ := Option.map_eq_some_iff.mp mapped
      have group : taxesOf invoice.toStoredInvoice = [⟨defaultTaxCategory, invoice.taxRate.map Numeric.value,
          taxExclusiveBase invoice.toStoredInvoice, invoice.taxAmount.map Numeric.value⟩] := by
        rw [taxesOf, if_pos (by rw [stored]; rfl)]
      have sum : expected = contextRound (0 + tax.value) := by
        simp only [invoiceToEinvoiceDocument, group, stored, contextSumIfAll, contextSum, List.map_cons, List.map_nil,
          Option.map_some] at summed
        exact (Option.some.inj summed).symm
      have digits : |tax.units| < 10 ^ 28 := (invoice.taxFits tax stored).trans (by norm_num)
      simp only at disagree
      rw [sum, zero_add, value_eq_cents, contextRound_cents digits] at disagree
      exact agrees_self disagree
    · exact absurd (own.symm.trans code) (by decide)
    · exact absurd (own.symm.trans code) (by decide)
  payable := by
    rintro ⟨comparison, member, code, disagree⟩
    rcases rule_of_mem member with ⟨-, own⟩ | ⟨-, own⟩ | ⟨-, own⟩ | ⟨-, own⟩ | ⟨here, -⟩
    · exact absurd (own.symm.trans code) (by decide)
    · exact absurd (own.symm.trans code) (by decide)
    · exact absurd (own.symm.trans code) (by decide)
    · exact absurd (own.symm.trans code) (by decide)
    · obtain ⟨payable, due, total, charged, rfl⟩ := mem_comparing.mp here
      cases Option.some.inj due
      cases Option.some.inj charged
      exact agrees_self disagree
  total := by
    have amount : |invoice.amount.units| < 10 ^ 28 := invoice.amountFits.trans (by norm_num)
    have judged : ∀ {subtotal tax : Numeric 2}, invoice.subtotal = some subtotal → invoice.taxAmount = some tax →
        (agrees invoice.amount.value (contextRound (subtotal.value - (invoice.discountAmount.map Numeric.value).getD 0 +
          (invoice.shippingAmount.map Numeric.value).getD 0 + tax.value)) cent = .ok false ↔
            cent < |invoice.amount.value - (subtotal.value - (invoice.discountAmount.map Numeric.value).getD 0 +
              (invoice.shippingAmount.map Numeric.value).getD 0 + tax.value)|) := by
      intro subtotal tax stored due
      obtain ⟨n, small, base, -⟩ := base_cents invoice stored
      have fits := invoice.taxFits tax due
      rw [abs_lt] at small fits
      have digits : |n + tax.units| < 10 ^ 28 := by
        rw [abs_lt]
        omega
      have sum : (n : ℚ) / 100 + tax.units / 100 = ((n + tax.units : ℤ) : ℚ) / 100 := by
        push_cast
        ring
      rw [base, value_eq_cents tax, value_eq_cents invoice.amount, sum, contextRound_cents digits]
      exact agrees_cents_iff amount digits
    constructor
    · rintro ⟨comparison, member, code, disagree⟩
      obtain ⟨inclusive, given, exclusive, based, tax, due, rfl⟩ := mem_totalComparisons_iff.mp ⟨member, code⟩
      cases Option.some.inj given
      obtain ⟨subtotal, stored, rfl⟩ := Option.map_eq_some_iff.mp based
      obtain ⟨column, taxed, rfl⟩ := Option.map_eq_some_iff.mp due
      exact ⟨subtotal, stored, column, taxed, (judged stored taxed).mp disagree⟩
    · rintro ⟨subtotal, stored, tax, due, apart⟩
      have based : taxExclusiveBase invoice.toStoredInvoice = some (subtotal.value -
          (invoice.discountAmount.map Numeric.value).getD 0 + (invoice.shippingAmount.map Numeric.value).getD 0) :=
        Option.map_eq_some_iff.mpr ⟨subtotal, stored, rfl⟩
      have listed : (⟨invoice.amount.value, contextRound (subtotal.value - (invoice.discountAmount.map Numeric.value).getD 0 +
          (invoice.shippingAmount.map Numeric.value).getD 0 + tax.value), cent, totalError⟩ : Comparison) ∈
            totalComparisons (invoiceToEinvoiceDocument invoice.toStoredInvoice lineItems buyer) ∧
          totalError.code = "BR-CO-15" :=
        mem_totalComparisons_iff.mpr ⟨_, rfl, _, based, _, Option.map_eq_some_iff.mpr ⟨tax, due, rfl⟩, rfl⟩
      exact ⟨_, listed.1, listed.2, (judged stored due).mpr apart⟩

/-- The guards of the totals agree about a document exactly when it is concordant, and with the mapper always. -/
theorem guards_and_mapper_iff (rules : CountryRules) (checkTax : Bool) (doc : EInvoiceDocument) (invoice : FittingInvoice)
    (lineItems : List StoredLine) (buyer : BuyerIdentity) :
    (GuardsAgree rules checkTax doc ∧ MapperSound invoice lineItems buyer) ↔ Concordant doc := by
  rw [guardsAgree_iff]
  exact ⟨fun both => both.1, fun concordant => ⟨concordant, mapperSound invoice lineItems buyer⟩⟩

/-- A document of which only the totals are given. -/
def totalsOnly (inclusive exclusive tax : ℚ) : EInvoiceDocument :=
  ⟨.ubl, none, none, none, none, none, none, none, none, none, {}, {}, none, some exclusive, some inclusive, some tax, none, none,
    none, [], [], none⟩

def bareInvoice : FittingInvoice where
  toStoredInvoice := ⟨"", "", ⟨0⟩, "USD", none, none, none, none, none, none, none, none, none, none, none, none, none⟩
  amountFits := by norm_num
  subtotalFits := by simp
  taxFits := by simp
  discountFits := by simp
  shippingFits := by simp

/-- A total of 100.014 against 100 without VAT is a cent off when rounded, and more than that as it is. -/
theorem sub_cent_disagreement : ¬∀ (rules : CountryRules) (checkTax : Bool) (doc : EInvoiceDocument) (invoice : FittingInvoice)
    (lineItems : List StoredLine) (buyer : BuyerIdentity),
    GuardsAgree rules checkTax doc ∧ MapperSound invoice lineItems buyer := by
  intro agree
  have both := agree ⟨fun _ => true, fun _ _ => none, fun _ _ _ => none⟩ true (totalsOnly (50007 / 500) 100 0) bareInvoice []
    ⟨"", none, none, [], none, none, none, none⟩
  have concordant := (guardsAgree_iff.mp both.1 _ rfl _ rfl _ rfl).1
  have base : contextRound (100 + 0) = 100 := by
    have units : contextRound ((1 : ℤ) * (10 : ℚ) ^ (2 : ℤ)) = (1 : ℤ) * (10 : ℚ) ^ (2 : ℤ) :=
      contextRound_of_units (by norm_num)
    norm_num at units ⊢
    exact units
  have gap : contextRound (50007 / 500 - 100) = 14 / 1000 := by
    have units : contextRound ((14 : ℤ) * (10 : ℚ) ^ (-3 : ℤ)) = (14 : ℤ) * (10 : ℚ) ^ (-3 : ℤ) :=
      contextRound_of_units (by norm_num)
    norm_num at units ⊢
    exact units
  have whole : quantizeMoney 100 = 100 := OnCents.quantizeMoney_eq ⟨10000, by norm_num⟩
  have down : quantizeMoney (50007 / 500) = 10001 / 100 := by
    have cents : roundHalfAway ((50007 / 500 : ℚ) * 100) = 10001 := roundHalfAway_eq_of_near (by norm_num [abs_lt])
    rw [quantizeMoney_eq, cents]
    norm_num
  have oneCent : roundedGap (50007 / 500) 100 0 = cent := by
    rw [roundedGap, base, whole, down]
    norm_num [cent]
  have near := concordant (.inl oneCent)
  rw [rawGap, base, gap] at near
  norm_num [cent] at near

end Stored

end Payables.EInvoice.Guards
