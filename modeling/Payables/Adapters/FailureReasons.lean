import Payables.Adapters.Providers
import Payables.Lib.Raising
import Payables.Payments.Failure

namespace Payables
open Lib

/-- The value as a column takes it: nothing, or a text. -/
def columnText (value : Json) : Option String := if value.truthy then some (String.ofList value.toText) else none

/-- What the executor of a payment hears of the call. -/
def Attempt.answer (attempt : Attempt) : Except String AdapterAnswer :=
  match attempt.outcome with
  | .error error => .error error.className
  | .ok result =>
    .ok ⟨result.status, columnText result.providerPaymentId, columnText result.reference, result.failureReason⟩

/-- How the failure the call ends in is classified, if it does not hand the payment over: by the reason
the executor records. -/
def Attempt.failureClass (attempt : Attempt) : Option FailureClass :=
  match attempt.answer with
  | .error cls => some (classifyPaymentFailure (some ("unexpected_error:" ++ cls)) none)
  | .ok answer =>
    if answer.status ∈ [.completed, .submitted, .processing] then none
    else some (classifyPaymentFailure answer.failureReason answer.providerPaymentId)

/-- The failure, if the call ends in one, is in doubt. -/
def Attempt.FailsInDoubt (attempt : Attempt) : Prop := ∀ failure, attempt.failureClass = some failure → failure = .inDoubt

/-- The text an adapter quotes from an error response: the message Modern Treasury sends or the start of
its body, the error code of the others, or else the status code. -/
def quotedValue : Provider → Response → Except AdapterError Json
  | .mock, _ => .ok .null
  | .modernTreasury, response => ModernTreasury.errorValue response
  | .dwolla, response => Dwolla.errorFormat.code response
  | .checkeeper, response => Checkeeper.errorFormat.code response
  | .column, response => Column.errorFormat.code response
  | .increase, response => Increase.errorFormat.code response
  | .stripeTreasury, response => StripeTreasury.errorFormat.code response

/-- The text ends, blanks aside, like one of the refusals made before a request. -/
def endsLikeRefusal (text : List Char) : Bool :=
  retrySafeFailureSuffixes.any fun ending => ending.toList.isSuffixOf (text.rdropWhile isPySpace)

/-- The quoted value is such a text. -/
def mimicsRefusal : Except AdapterError Json → Bool
  | .ok (.str text) => endsLikeRefusal text.toList
  | _ => false

/-- The answer to the request is an error response that makes the adapter quote such a text. -/
def Provider.isMimickedBy (provider : Provider) (exchange : Exchange) : Bool :=
  match exchange with
  | .ok response => 400 ≤ response.statusCode && mimicsRefusal (quotedValue provider response)
  | .error _ => false

theorem retrySafeFailureSuffixes_plain : ∀ ending ∈ retrySafeFailureSuffixes,
    ':' ∉ ending.toList ∧ ' ' ∉ ending.toList ∧ '_' ∈ ending.toList ∧ ending.toList.getLast? ≠ some ']' ∧
      ending.toList.getLast? ≠ some (Char.ofNat 125) := by
  intro ending listed
  simp only [retrySafeFailureSuffixes, List.mem_cons, List.not_mem_nil, or_false] at listed
  rcases listed with rfl | rfl | rfl | rfl | rfl | rfl <;>
    exact of_characters (fun text => ':' ∉ text ∧ ' ' ∉ text ∧ '_' ∈ text ∧ text.getLast? ≠ some ']' ∧
      text.getLast? ≠ some (Char.ofNat 125)) String.toList_ofList (by decide)

theorem endsLikeRefusal_iff {text : List Char} : endsLikeRefusal text = true ↔
    ∃ ending ∈ retrySafeFailureSuffixes, ending.toList <:+ text.rdropWhile isPySpace := by
  simp only [endsLikeRefusal, List.any_eq_true, List.isSuffixOf_iff_suffix]

theorem endsLikeRefusal_after_colon (head text : List Char) :
    endsLikeRefusal (head ++ ':' :: text) = endsLikeRefusal text := by
  rw [Bool.eq_iff_iff, endsLikeRefusal_iff, endsLikeRefusal_iff, rdropWhile_after (by decide)]
  refine exists_congr fun ending => and_congr_right fun listed => ?_
  exact suffix_after (retrySafeFailureSuffixes_plain ending listed).1

theorem endsLikeRefusal_after_blank (text : List Char) : endsLikeRefusal (' ' :: text) = endsLikeRefusal text := by
  rw [Bool.eq_iff_iff, endsLikeRefusal_iff, endsLikeRefusal_iff]
  refine exists_congr fun ending => and_congr_right fun listed => ?_
  obtain ⟨_, free, marked, _⟩ := retrySafeFailureSuffixes_plain ending listed
  rcases rdropWhile_cons_cases isPySpace ' ' text with ⟨gone, same⟩ | same
  · rw [same, gone]
  · rw [same]
    have alone : ending.toList <:+ [] ++ ' ' :: text.rdropWhile isPySpace ↔ _ := suffix_after free
    exact alone

/-- How the reasons worded after a request begin. -/
def reasonOpenings : List String :=
  ["unexpected_error", "Modern Treasury ", "dwolla_transport_error", "dwolla_api_error", "checkeeper_transport_error",
    "checkeeper_api_error", "column_transport_error", "column_api_error", "increase_transport_error", "increase_api_error",
    "stripe_transport_error", "stripe_api_error"]

theorem reasonOpenings_begin {opening : String} (listed : opening ∈ reasonOpenings) : opening.toList.take 3 ∈
    [['u', 'n', 'e'], ['M', 'o', 'd'], ['d', 'w', 'o'], ['c', 'h', 'e'], ['c', 'o', 'l'], ['i', 'n', 'c'], ['s', 't', 'r']] := by
  simp only [reasonOpenings, List.mem_cons, List.not_mem_nil, or_false] at listed
  rcases listed with rfl | rfl | rfl | rfl | rfl | rfl | rfl | rfl | rfl | rfl | rfl | rfl <;>
    exact of_characters (fun text => text.take 3 ∈ _) String.toList_ofList (by decide)

theorem retrySafeFailurePrefixes_begin {start : String} (listed : start ∈ retrySafeFailurePrefixes) : start.toList.take 3 ∈
    [['c', 'o', 'm'], ['i', 'n', 't'], ['c', 'a', 'r'], ['m', 'e', 't'], ['n', 'e', 't'], ['i', 'n', 'v']] := by
  simp only [retrySafeFailurePrefixes, List.mem_cons, List.not_mem_nil, or_false] at listed
  rcases listed with rfl | rfl | rfl | rfl | rfl | rfl | rfl | rfl | rfl | rfl | rfl <;>
    exact of_characters (fun text => text.take 3 ∈ _) String.toList_ofList (by decide)

/-- A text that begins like no refusal is none, whatever follows. -/
theorem prefixes_foreign {text : List Char} (foreign : text.take 3 ∉
    [['c', 'o', 'm'], ['i', 'n', 't'], ['c', 'a', 'r'], ['m', 'e', 't'], ['n', 'e', 't'], ['i', 'n', 'v']]) :
    retrySafeFailurePrefixes.any (·.toList.isPrefixOf text) = false := by
  rw [List.any_eq_false]
  intro start refusal opens
  obtain ⟨tail, rfl⟩ := List.isPrefixOf_iff_prefix.mp opens
  have theirs := retrySafeFailurePrefixes_begin refusal
  have long : (start.toList.take 3).length = 3 := by
    simp only [List.mem_cons, List.not_mem_nil, or_false] at theirs
    rcases theirs with begins | begins | begins | begins | begins | begins <;> rw [begins] <;> rfl
  rw [List.length_take] at long
  rw [List.take_append_of_le_length (by omega)] at foreign
  exact foreign theirs

/-- None of them is a refusal, whatever follows. -/
theorem reasonOpenings_foreign {opening : String} (listed : opening ∈ reasonOpenings) (rest : List Char) :
    retrySafeFailurePrefixes.any (·.toList.isPrefixOf (opening.toList ++ rest)) = false := by
  have ours := reasonOpenings_begin listed
  simp only [List.mem_cons, List.not_mem_nil, or_false] at ours
  have long : (opening.toList.take 3).length = 3 := by
    rcases ours with begins | begins | begins | begins | begins | begins | begins <;> rw [begins] <;> rfl
  rw [List.length_take] at long
  refine prefixes_foreign ?_
  rw [List.take_append_of_le_length (by omega)]
  rcases ours with begins | begins | begins | begins | begins | begins | begins <;> rw [begins] <;> decide

theorem reasonOpenings_solid : ∀ opening ∈ reasonOpenings, opening.toList.head?.map isPySpace = some false := by
  intro opening listed
  simp only [reasonOpenings, List.mem_cons, List.not_mem_nil, or_false] at listed
  rcases listed with rfl | rfl | rfl | rfl | rfl | rfl | rfl | rfl | rfl | rfl | rfl | rfl <;>
    exact of_characters (fun text => text.head?.map isPySpace = some false) String.toList_ofList (by decide)

/-- The classification of a reason that a colon divides into words of the adapter and quoted text. -/
theorem classifyPaymentFailure_worded {opening : String} (listed : opening ∈ reasonOpenings) {middle text : List Char}
    {reason : String} (worded : reason.toList = opening.toList ++ middle ++ ':' :: text) :
    classifyPaymentFailure (some reason) none = if endsLikeRefusal text then .retrySafe else .inDoubt := by
  have stripped : pyStrip reason.toList = opening.toList ++ (middle ++ ':' :: text.rdropWhile isPySpace) := by
    obtain ⟨first, atHead, kept⟩ := Option.map_eq_some_iff.mp (reasonOpenings_solid opening listed)
    obtain ⟨rest, opens⟩ := List.head?_eq_some_iff.mp atHead
    rw [worded, opens, pyStrip, List.cons_append, List.cons_append, List.dropWhile_cons_of_neg (by simp [kept]),
      ← List.cons_append, ← List.cons_append, rdropWhile_after (by decide), List.append_assoc]
  have nonempty : opening.toList ++ (middle ++ ':' :: text.rdropWhile isPySpace) ≠ [] := by simp
  have endings : (retrySafeFailureSuffixes.any fun ending =>
      ending.toList.isSuffixOf (opening.toList ++ (middle ++ ':' :: text.rdropWhile isPySpace))) = endsLikeRefusal text := by
    rw [← endsLikeRefusal_after_colon (opening.toList ++ middle) text, endsLikeRefusal, rdropWhile_after (by decide),
      List.append_assoc]
  simp only [classifyPaymentFailure, Option.getD_none, Option.getD_some, ne_eq, not_true_eq_false, if_false, stripped,
    nonempty, reasonOpenings_foreign listed, Bool.false_eq_true, endings]

/-- Nor does a text without the mark end like one. -/
theorem suffixes_foreign {text : List Char} (unmarked : '_' ∉ text) :
    (retrySafeFailureSuffixes.any fun ending => ending.toList.isSuffixOf text) = false := by
  rw [List.any_eq_false]
  intro ending listed ends
  obtain ⟨-, -, marked, -⟩ := retrySafeFailureSuffixes_plain ending listed
  exact unmarked ((List.isSuffixOf_iff_suffix.mp ends).subset marked)

theorem underscore_not_mem_className (error : AdapterError) : '_' ∉ error.className.toList := by
  cases error with
  | request error => cases error <;> exact of_characters ('_' ∉ ·) String.toList_ofList (by decide)
  | json error => cases error <;> exact of_characters ('_' ∉ ·) String.toList_ofList (by decide)
  | _ => exact of_characters ('_' ∉ ·) String.toList_ofList (by decide)

theorem className_not_refusal (error : AdapterError) : endsLikeRefusal error.className.toList = false := by
  refine suffixes_foreign fun marked => ?_
  exact underscore_not_mem_className error ((List.rdropWhile_prefix isPySpace _).subset marked)

/-- The reason of a call that got no answer from Modern Treasury. -/
theorem networkError_inDoubt : classifyPaymentFailure (some "Network error contacting Modern Treasury") none = .inDoubt := by
  have begins : (pyStrip "Network error contacting Modern Treasury".toList).take 3 = ['N', 'e', 't'] :=
    of_characters (fun text => (pyStrip text).take 3 = _) String.toList_ofList (by decide)
  have unmarked : '_' ∉ pyStrip "Network error contacting Modern Treasury".toList :=
    of_characters (fun text => '_' ∉ pyStrip text) String.toList_ofList (by decide)
  have some' : pyStrip "Network error contacting Modern Treasury".toList ≠ [] := by
    intro empty
    rw [empty] at begins
    cases begins
  simp only [classifyPaymentFailure, Option.getD_none, Option.getD_some, ne_eq, not_true_eq_false, if_false, some',
    prefixes_foreign (show _ ∉ _ by rw [begins]; decide), suffixes_foreign unmarked, Bool.false_eq_true]

theorem classify_className {opening reason : String} (listed : opening ∈ reasonOpenings) (error : AdapterError)
    (worded : reason.toList = opening.toList ++ [] ++ ':' :: error.className.toList) :
    classifyPaymentFailure (some reason) none = .inDoubt := by
  rw [classifyPaymentFailure_worded listed worded, className_not_refusal]
  rfl

/-- Only a string ends like a refusal. -/
theorem endsLikeRefusal_toText (value : Json) : endsLikeRefusal value.toText = mimicsRefusal (.ok value) := by
  by_cases ends : endsLikeRefusal value.toText = true
  · obtain ⟨ending, listed, tail⟩ := endsLikeRefusal_iff.mp ends
    obtain ⟨_, _, marked, unlisted, unkeyed⟩ := retrySafeFailureSuffixes_plain ending listed
    obtain ⟨text, rfl⟩ := Json.str_of_suffix_toText marked unlisted unkeyed (by decide) tail
    rfl
  · cases value with
    | str text => rfl
    | _ => exact Bool.eq_false_iff.mpr ends

theorem failsInDoubt_of_error {attempt : Attempt} {error : AdapterError} (raised : attempt.outcome = .error error) :
    attempt.FailsInDoubt := by
  intro failure classified
  simp only [Attempt.failureClass, Attempt.answer, raised, Option.some.injEq] at classified
  have worded : ("unexpected_error:" ++ error.className).toList =
      "unexpected_error".toList ++ [] ++ ':' :: error.className.toList := String.toList_append
  rw [← classified]
  exact classify_className List.mem_cons_self error worded

theorem failsInDoubt_of_unexplained {attempt : Attempt} {result : PaymentResult} (returned : attempt.outcome = .ok result)
    (unexplained : result.failureReason = none) : attempt.FailsInDoubt := by
  intro failure classified
  simp only [Attempt.failureClass, Attempt.answer, returned, unexplained] at classified
  split at classified
  · cases classified
  · rw [← Option.some.inj classified]
    unfold classifyPaymentFailure
    split
    · rfl
    · rfl

theorem failureClass_failed {sent : Bool} {reason : String} {raw : Json} :
    (Attempt.mk sent (.ok (.failed reason raw))).failureClass = some (classifyPaymentFailure (some reason) none) := by
  simp [Attempt.failureClass, Attempt.answer, PaymentResult.failed, columnText, Json.truthy]

theorem failsInDoubt_failed {sent : Bool} {reason : String} {raw : Json} :
    (Attempt.mk sent (.ok (.failed reason raw))).FailsInDoubt ↔ classifyPaymentFailure (some reason) none = .inDoubt := by
  simp only [Attempt.FailsInDoubt, failureClass_failed, Option.some.injEq, forall_eq']

theorem quoted_inDoubt_iff {opening : String} (listed : opening ∈ reasonOpenings) {middle : List Char} {value : Json}
    {reason : String} (worded : reason.toList = opening.toList ++ middle ++ ':' :: value.toText) :
    classifyPaymentFailure (some reason) none = .inDoubt ↔ mimicsRefusal (.ok value) = false := by
  rw [classifyPaymentFailure_worded listed worded, endsLikeRefusal_toText]
  cases mimicsRefusal (.ok value) <;> simp

theorem sendUnlessRefused_of_sent {gates : List (Bool × String)} {send : Except AdapterError PaymentResult}
    (sent : (sendUnlessRefused gates send).sent = true) : sendUnlessRefused gates send = ⟨true, send⟩ := by
  unfold sendUnlessRefused at sent ⊢
  split
  · next refused =>
    simp only [refused] at sent
    cases sent
  · rfl

theorem acceptBody_unexplained {statusMap : List (String × AdapterStatus)} {defaultStatus : String} {defaultId : Json}
    {referenceKey : String} {response : Response} {result : PaymentResult}
    (accepted : acceptBody statusMap defaultStatus defaultId referenceKey response = .ok result) :
    result.failureReason = none := by
  simp only [acceptBody, bind_eq_ok] at accepted
  obtain ⟨_, _, _, _, _, _, _, _, _, _, _, _, returned⟩ := accepted
  rw [pure_eq_ok] at returned
  rw [← returned]

/-- The call of an adapter that words its errors with a code. -/
theorem ErrorFormat.conclude_failsInDoubt_iff {format : ErrorFormat} {exchange : Exchange}
    {accept : Response → Except AdapterError PaymentResult}
    (transport : format.provider ++ "_transport_error" ∈ reasonOpenings) (api : format.provider ++ "_api_error" ∈ reasonOpenings)
    (unexplained : ∀ response result, accept response = .ok result → result.failureReason = none) :
    (Attempt.mk true (format.conclude exchange accept)).FailsInDoubt ↔
      ∀ response, exchange = .ok response → 400 ≤ response.statusCode → mimicsRefusal (format.code response) = false := by
  cases exchange with
  | error error =>
    have worded : (format.provider ++ "_transport_error:" ++ error.className).toList =
        (format.provider ++ "_transport_error").toList ++ [] ++ ':' :: (AdapterError.request error).className.toList := by
      simp [String.toList_append, AdapterError.className]
    exact iff_of_true (failsInDoubt_failed.mpr (classify_className transport _ worded)) nofun
  | ok response =>
    simp only [Except.ok.injEq, forall_eq']
    by_cases refused : 400 ≤ response.statusCode
    · simp only [ErrorFormat.conclude, refused, if_true, forall_const]
      cases quoted : format.code response with
      | error error => exact iff_of_true (failsInDoubt_of_error rfl) rfl
      | ok value =>
        have worded : (format.provider ++ "_api_error:" ++ String.ofList value.toText).toList =
            (format.provider ++ "_api_error").toList ++ [] ++ ':' :: value.toText := by
          simp [String.toList_append]
        exact failsInDoubt_failed.trans (quoted_inDoubt_iff api worded)
    · simp only [ErrorFormat.conclude, refused, if_false, false_implies, iff_true]
      cases accepted : accept response with
      | error error => exact failsInDoubt_of_error rfl
      | ok result => exact failsInDoubt_of_unexplained rfl (unexplained response result accepted)

theorem ModernTreasury.parsed_of_errorValue {response : Response} {value : Json}
    (quoted : ModernTreasury.errorValue response = .ok value) : ∃ body, response.bodyOr .null = .ok body := by
  obtain ⟨body, parsed, _⟩ := bind_eq_ok.mp quoted
  exact ⟨body, parsed⟩

theorem ModernTreasury.conclude_failsInDoubt_iff {exchange : Exchange} :
    (Attempt.mk true (ModernTreasury.conclude exchange)).FailsInDoubt ↔
      ∀ response, exchange = .ok response → 400 ≤ response.statusCode →
        mimicsRefusal (ModernTreasury.errorValue response) = false := by
  cases exchange with
  | error error => exact iff_of_true (failsInDoubt_failed.mpr networkError_inDoubt) nofun
  | ok response =>
    simp only [Except.ok.injEq, forall_eq']
    by_cases refused : 400 ≤ response.statusCode
    · simp only [ModernTreasury.conclude, refused, if_true, forall_const]
      cases quoted : ModernTreasury.errorValue response with
      | error error => exact iff_of_true (failsInDoubt_of_error rfl) rfl
      | ok value =>
        have worded : ("Modern Treasury " ++ toString response.statusCode ++ ": " ++ String.ofList value.toText).toList =
            "Modern Treasury ".toList ++ (toString response.statusCode).toList ++ ':' :: ' ' :: value.toText := by
          simp [String.toList_append]
        obtain ⟨raw, parsed⟩ := ModernTreasury.parsed_of_errorValue quoted
        simp only [parsed]
        refine failsInDoubt_failed.trans ?_
        rw [classifyPaymentFailure_worded (by simp [reasonOpenings]) worded, endsLikeRefusal_after_blank,
          endsLikeRefusal_toText]
        cases mimicsRefusal (.ok value) <;> simp
    · simp only [ModernTreasury.conclude, refused, if_false, false_implies, iff_true]
      cases accepted : acceptBody ModernTreasury.statusMap "pending" .null "reference_number" response with
      | error error => exact failsInDoubt_of_error rfl
      | ok result => exact failsInDoubt_of_unexplained rfl (acceptBody_unexplained accepted)

/-- A call whose request was sent ends in nothing but a failure in doubt, if in one, exactly when the
answer is no error response that makes the adapter quote a text ending like a refusal. -/
theorem createPayment_failsInDoubt_iff (provider : Provider) (config : AdapterConfig) (payload : PaymentPayload)
    (answers : RailAnswers) (sent : (createPaymentVia provider config payload answers).sent = true) :
    (createPaymentVia provider config payload answers).FailsInDoubt ↔ provider.isMimickedBy answers.exchange = false := by
  have unmimicked : provider.isMimickedBy answers.exchange = false ↔ ∀ response, answers.exchange = .ok response →
      400 ≤ response.statusCode → mimicsRefusal (quotedValue provider response) = false := by
    unfold Provider.isMimickedBy
    cases answers.exchange <;> simp
  rw [unmimicked]
  cases provider with
  | mock => cases sent
  | modernTreasury =>
    rw [show createPaymentVia .modernTreasury config payload answers = _ from sendUnlessRefused_of_sent sent]
    exact ModernTreasury.conclude_failsInDoubt_iff
  | dwolla =>
    cases token : Dwolla.getToken config answers with
    | error error =>
      simp only [createPaymentVia, Dwolla.createPayment, token] at sent
      cases sent
    | ok value =>
      simp only [createPaymentVia, Dwolla.createPayment, token] at sent ⊢
      rw [sendUnlessRefused_of_sent sent]
      exact ErrorFormat.conclude_failsInDoubt_iff (by decide) (by decide) fun _ _ returned => by cases returned; rfl
  | checkeeper =>
    rw [show createPaymentVia .checkeeper config payload answers = _ from sendUnlessRefused_of_sent sent]
    exact ErrorFormat.conclude_failsInDoubt_iff (by decide) (by decide) fun _ _ => acceptBody_unexplained
  | column =>
    rw [show createPaymentVia .column config payload answers = _ from sendUnlessRefused_of_sent sent]
    exact ErrorFormat.conclude_failsInDoubt_iff (by decide) (by decide) fun _ _ => acceptBody_unexplained
  | increase =>
    rw [show createPaymentVia .increase config payload answers = _ from sendUnlessRefused_of_sent sent]
    exact ErrorFormat.conclude_failsInDoubt_iff (by decide) (by decide) fun _ _ => acceptBody_unexplained
  | stripeTreasury =>
    rw [show createPaymentVia .stripeTreasury config payload answers = _ from sendUnlessRefused_of_sent sent]
    exact ErrorFormat.conclude_failsInDoubt_iff (by decide) (by decide) fun _ _ => acceptBody_unexplained

/-- An ACH payment to a counterparty, under a key and a token that are there. -/
def achPayload : PaymentPayload := ⟨"corr-1", "ach", "cp_1", ⟨"", "", "", ""⟩⟩

def keyedConfig : AdapterConfig := ⟨"key", "client", "secret"⟩

def RailAnswers.hearing (exchange : Exchange) : RailAnswers := ⟨some "token", .error .connectError, none, .ok true, exchange⟩

theorem createPayment_failsInDoubt_timeout :
    (createPaymentVia .dwolla keyedConfig achPayload (.hearing (.error .readTimeout))).FailsInDoubt :=
  (createPayment_failsInDoubt_iff .dwolla keyedConfig achPayload (.hearing (.error .readTimeout)) rfl).mpr rfl

/-- Stripe answers 400 with an error code of its own that ends like the refusal of an adapter without a key. -/
theorem mimicked_refusal_retry_safe :
    ∃ provider config payload answers, (createPaymentVia provider config payload answers).sent = true ∧
      (createPaymentVia provider config payload answers).failureClass = some .retrySafe := by
  have quoted : endsLikeRefusal "financial_account_not_configured".toList = true := by
    refine endsLikeRefusal_iff.mpr ⟨"_not_configured", List.mem_cons_self, ?_⟩
    exact of_characters (fun text => _ <:+ text.rdropWhile isPySpace) String.toList_ofList
      (of_characters (fun ending => ending <:+ _) String.toList_ofList (by decide))
  refine ⟨.stripeTreasury, keyedConfig, achPayload, .hearing (.ok (.replying 400 (.object [("error",
    .object [("code", .str "financial_account_not_configured")])]))), rfl, ?_⟩
  have worded : ("stripe" ++ "_api_error:" ++ String.ofList (Json.str "financial_account_not_configured").toText).toList =
      "stripe_api_error".toList ++ [] ++ ':' :: "financial_account_not_configured".toList := by
    rw [String.toList_append, String.toList_append, String.toList_ofList, String.toList_ofList, String.toList_ofList,
      show "stripe_api_error".toList = _ from String.toList_ofList]
    rfl
  have refused : createPaymentVia .stripeTreasury keyedConfig achPayload (.hearing (.ok (.replying 400 (.object [("error",
      .object [("code", .str "financial_account_not_configured")])])))) =
      ⟨true, .ok (.failed ("stripe" ++ "_api_error:" ++ String.ofList (Json.str "financial_account_not_configured").toText) .null)⟩ :=
    rfl
  rw [refused, failureClass_failed, classifyPaymentFailure_worded (by simp [reasonOpenings]) worded, quoted]
  rfl

end Payables
