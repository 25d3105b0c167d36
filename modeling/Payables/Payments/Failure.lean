import Payables.Payments.Model

namespace Payables

/-- Whether a failed payment may be sent again under a fresh idempotency key. -/
inductive FailureClass
  | retrySafe
  | inDoubt
  deriving DecidableEq

/-- `_RETRY_SAFE_FAILURE_PREFIXES`. -/
def retrySafeFailurePrefixes : List String :=
  ["compliance_refusal:", "compliance_dismissed", "international_payment_error:", "card_issuance_conflict",
    "card_issuance_failed", "cards_not_enabled", "method '", "net_amount_changed", "invoice_not_payable",
    "invoice_blocked:", "invoice_has_live_card"]

/-- `_RETRY_SAFE_FAILURE_SUFFIXES`. -/
def retrySafeFailureSuffixes : List String :=
  ["_not_configured", "_no_counterparty", "_no_external_account", "_no_destination_funding_source",
    "_missing_mailing_address", "_idempotency_unavailable"]

/-- `classify_payment_failure`. A processor handle outranks the reason: it exists only once the
processor has an order. -/
def classifyPaymentFailure (failureReason providerPaymentId : Option String) : FailureClass :=
  if providerPaymentId.getD "" ≠ "" then .inDoubt
  else
    let reason := pyStrip (failureReason.getD "").toList
    if reason = [] then .inDoubt
    else if retrySafeFailurePrefixes.any (·.toList.isPrefixOf reason) then .retrySafe
    else if retrySafeFailureSuffixes.any (·.toList.isSuffixOf reason) then .retrySafe
    else .inDoubt

def Payment.isRetrySafe (payment : Payment) : Bool :=
  classifyPaymentFailure payment.failureReason payment.providerPaymentId == .retrySafe

/-- The text neither starts nor ends with a blank. -/
def isSolid (text : List Char) : Bool :=
  text.head?.map isPySpace == some false && text.getLast?.map isPySpace == some false

theorem retrySafeFailurePrefixes_solid : ∀ start ∈ retrySafeFailurePrefixes, isSolid start.toList = true := by
  intro start listed
  simp only [retrySafeFailurePrefixes, List.mem_cons, List.not_mem_nil, or_false] at listed
  rcases listed with rfl | rfl | rfl | rfl | rfl | rfl | rfl | rfl | rfl | rfl | rfl <;>
    exact (congrArg isSolid String.toList_ofList).trans (by decide)

/-- Stripping leaves a solid prefix in place. -/
theorem prefix_pyStrip {start : List Char} (solid : isSolid start = true) (rest : List Char) :
    start <+: pyStrip (start ++ rest) := by
  simp only [isSolid, Bool.and_eq_true, beq_iff_eq, Option.map_eq_some_iff] at solid
  obtain ⟨⟨first, atHead, solidFirst⟩, last, atLast, solidLast⟩ := solid
  obtain ⟨tail, fromHead⟩ := List.head?_eq_some_iff.mp atHead
  obtain ⟨init, toLast⟩ := List.getLast?_eq_some_iff.mp atLast
  have kept (rest : List Char) : (start ++ rest).dropWhile isPySpace = start ++ rest := by
    rw [fromHead]
    exact List.dropWhile_cons_of_neg (by simp only [solidFirst, Bool.false_eq_true, not_false_eq_true])
  rw [pyStrip, kept]
  induction rest using List.reverseRecOn with
  | nil =>
    have whole : start.rdropWhile isPySpace = start := by
      rw [toLast]
      exact List.rdropWhile_concat_neg isPySpace _ last (by simp only [solidLast, Bool.false_eq_true, not_false_eq_true])
    rewrite [List.append_nil, whole]
    exact List.prefix_rfl
  | append_singleton rest c ih =>
    rw [← List.append_assoc]
    by_cases blank : isPySpace c = true
    · rw [List.rdropWhile_concat_pos isPySpace _ c blank]
      exact ih
    · rw [List.rdropWhile_concat_neg isPySpace _ c blank]
      exact ⟨rest ++ [c], (List.append_assoc start rest [c]).symm⟩

/-- A reason that opens with one of the listed prefixes is retry-safe as long as no processor
handle is on the row. -/
theorem classifyPaymentFailure_of_prefix {start : String} (listed : start ∈ retrySafeFailurePrefixes)
    (rest : String) {providerPaymentId : Option String} (unsent : providerPaymentId.getD "" = "") :
    classifyPaymentFailure (some (start ++ rest)) providerPaymentId = .retrySafe := by
  have solid := retrySafeFailurePrefixes_solid start listed
  have opens := prefix_pyStrip solid rest.toList
  have nonempty : pyStrip (start.toList ++ rest.toList) ≠ [] := by
    intro empty
    rw [empty] at opens
    rw [List.prefix_nil.mp opens] at solid
    cases solid
  have found : retrySafeFailurePrefixes.any (·.toList.isPrefixOf (pyStrip (start.toList ++ rest.toList))) = true :=
    List.any_eq_true.mpr ⟨start, listed, List.isPrefixOf_iff_prefix.mpr opens⟩
  simp only [classifyPaymentFailure, unsent, ne_eq, not_true_eq_false, if_false, Option.getD_some, String.toList_append,
    nonempty, found, if_true]

end Payables
