import Payables.Adapters.Http

namespace Payables
open Lib

/-- The registered adapters. -/
inductive Provider
  | mock
  | modernTreasury
  | dwolla
  | checkeeper
  | column
  | increase
  | stripeTreasury
  deriving DecidableEq

/-- The first gate that refuses, in order; else the request is sent. -/
def sendUnlessRefused (gates : List (Bool × String)) (send : Except AdapterError PaymentResult) : Attempt :=
  match gates.find? (·.1) with
  | some (_, reason) => .refuse reason
  | none => ⟨true, send⟩

/-- The refusal of a method outside the list of an adapter. -/
def unsupportedMethod (method adapter supported : String) : String :=
  s!"method \x27{method}\x27 is not supported by {adapter} ({supported})"

/-- How an adapter words what goes wrong with a request: under its own name, with the code it finds in
the error of the body. -/
structure ErrorFormat where
  provider : String
  error : Json → Except AdapterError Json
  codeKey : String

/-- `err.get(key) or response.status_code`. -/
def ErrorFormat.code (format : ErrorFormat) (response : Response) : Except AdapterError Json := do
  let error ← match response.json with
    | .ok body => format.error body
    | .error error => if error.isValueError then .ok .null else .error (.json error)
  let code ← pyGet format.codeKey .null (error.orElse (.object []))
  return code.orElse (.int response.statusCode)

/-- What follows the request in `create_payment`. -/
def ErrorFormat.conclude (format : ErrorFormat) (exchange : Exchange)
    (accept : Response → Except AdapterError PaymentResult) : Except AdapterError PaymentResult :=
  match exchange with
  | .error error => .ok (.failed (format.provider ++ "_transport_error:" ++ error.className) .null)
  | .ok response =>
    if 400 ≤ response.statusCode then do
      let code ← format.code response
      return .failed (format.provider ++ "_api_error:" ++ String.ofList code.toText) .null
    else accept response

/-- An accepted payment, whose body names its status, its id and its reference. -/
def acceptBody (statusMap : List (String × AdapterStatus)) (defaultStatus : String) (defaultId : Json)
    (referenceKey : String) (response : Response) : Except AdapterError PaymentResult := do
  let data ← response.body
  let status ← lookupStatus statusMap (← pyGet "status" (.str defaultStatus) data)
  let id ← pyGet "id" defaultId data
  let reference ← pyGet referenceKey .null data
  return ⟨true, status, id, reference.orElse (← pyGet "id" .null data), none, data⟩

/-- The status a poll reads off a body. -/
def readStatus (statusMap : List (String × AdapterStatus)) (defaultStatus : String) (response : Response) :
    Except AdapterError AdapterStatus := do
  let data ← response.body
  lookupStatus statusMap (← pyGet "status" (.str defaultStatus) data)

/-- `get_payment_status` of the adapters that answer `failed` to an error response. -/
def pollStatus (statusMap : List (String × AdapterStatus)) (exchange : Exchange) : Except AdapterError AdapterStatus :=
  match exchange with
  | .error error => .error (.request error)
  | .ok response => if 400 ≤ response.statusCode then .ok .failed else readStatus statusMap "" response

/-- The same behind the check of the API key. -/
def pollWithKey (config : AdapterConfig) (statusMap : List (String × AdapterStatus)) (exchange : Exchange) :
    Except AdapterError AdapterStatus :=
  if config.apiKey = "" then .ok .failed else pollStatus statusMap exchange

namespace ModernTreasury

/-- `_STATUS_MAP`. -/
def statusMap : List (String × AdapterStatus) :=
  [("needs_approval", .submitted), ("pending", .submitted), ("approved", .submitted), ("denied", .failed),
    ("sent", .processing), ("processing", .processing), ("completed", .completed), ("returned", .failed),
    ("failed", .failed), ("cancelled", .cancelled)]

def supportedMethods : List String := ["ach", "wire", "rtp", "check"]

/-- The first 200 characters. -/
def shortText (response : Response) : Json := .str (String.ofList (response.text.toList.take 200))

/-- The value `_extract_error` words. -/
def errorValue (response : Response) : Except AdapterError Json := do
  let body ← response.bodyOr .null
  match body.orElse (.object []) with
  | .object fields =>
    let message := ((Json.object fields).field? "message").getD .null
    let nested := ((((Json.object fields).field? "errors").getD .null).field? "message").getD .null
    return nested.orElse (message.orElse (shortText response))
  | _ => return shortText response

def conclude (exchange : Exchange) : Except AdapterError PaymentResult :=
  match exchange with
  | .error _ => .ok (.failed "Network error contacting Modern Treasury" .null)
  | .ok response =>
    if 400 ≤ response.statusCode then do
      let detail ← errorValue response
      let raw ← response.bodyOr .null
      return .failed ("Modern Treasury " ++ toString response.statusCode ++ ": " ++ String.ofList detail.toText) raw
    else acceptBody statusMap "pending" .null "reference_number" response

def createPayment (payload : PaymentPayload) (answers : RailAnswers) : Attempt :=
  sendUnlessRefused
    [(payload.method ∉ supportedMethods, unsupportedMethod payload.method "Modern Treasury" "supports: ach, wire, rtp, check"),
      (payload.counterpartyId = "", "modern_treasury_no_counterparty")]
    (conclude answers.exchange)

/-- A lookup that fails leaves the payment in flight. -/
def getPaymentStatus (answers : RailAnswers) : Except AdapterError AdapterStatus :=
  match answers.exchange with
  | .error error => .error (.request error)
  | .ok response => if 400 ≤ response.statusCode then .ok .submitted else readStatus statusMap "pending" response

end ModernTreasury

namespace Dwolla

def statusMap : List (String × AdapterStatus) :=
  [("pending", .submitted), ("processed", .completed), ("failed", .failed), ("cancelled", .cancelled), ("reclaimed", .failed)]

/-- `_get_token`. -/
def getToken (config : AdapterConfig) (answers : RailAnswers) : Except AdapterError Json :=
  match answers.cachedToken with
  | some token => .ok (.str token)
  | none =>
    if config.clientId = "" ∨ config.clientSecret = "" then .ok .null
    else
      match answers.tokenExchange with
      | .error error => .error (.request error)
      | .ok response =>
        if 400 ≤ response.statusCode then .ok .null
        else do
          let token ← pyGet "access_token" .null (← response.body)
          match answers.expiryError with
          | some error => .error error
          | none => return token

def errorFormat : ErrorFormat := ⟨"dwolla", .ok, "code"⟩

/-- `location.rstrip("/").rsplit("/", 1)[-1]`. -/
def transferId (location : String) : String :=
  String.ofList ((location.toList.rdropWhile (· == '/')).reverse.takeWhile (· != '/')).reverse

def accept (response : Response) : Except AdapterError PaymentResult :=
  let location := response.location.getD ""
  let id := Json.str (transferId location)
  .ok ⟨true, .submitted, id, id, none, .object [("location", .str location)]⟩

def createPayment (config : AdapterConfig) (payload : PaymentPayload) (answers : RailAnswers) : Attempt :=
  match getToken config answers with
  | .error error => ⟨false, .error error⟩
  | .ok token =>
    sendUnlessRefused
      [(!token.truthy, "dwolla_not_configured"),
        (payload.method ≠ "ach", unsupportedMethod payload.method "Dwolla" "ach only"),
        (payload.counterpartyId = "", "dwolla_no_destination_funding_source")]
      (errorFormat.conclude answers.exchange accept)

def getPaymentStatus (config : AdapterConfig) (answers : RailAnswers) : Except AdapterError AdapterStatus :=
  match getToken config answers with
  | .error error => .error error
  | .ok token => if token.truthy then pollStatus statusMap answers.exchange else .ok .failed

end Dwolla

namespace Checkeeper

def statusMap : List (String × AdapterStatus) :=
  [("queued", .submitted), ("printing", .submitted), ("printed", .processing), ("shipped", .processing),
    ("delivered", .completed), ("cleared", .completed), ("voided", .cancelled), ("failed", .failed), ("returned", .failed)]

def errorFormat : ErrorFormat := ⟨"checkeeper", .ok, "code"⟩

/-- The idempotency slot is claimed last: Redis may be down, or an earlier call hold it. -/
def createPayment (config : AdapterConfig) (payload : PaymentPayload) (answers : RailAnswers) : Attempt :=
  sendUnlessRefused
    [(config.apiKey = "", "checkeeper_not_configured"),
      (payload.method ≠ "check", unsupportedMethod payload.method "Checkeeper" "check only"),
      (!payload.mailingAddress.isComplete, "checkeeper_missing_mailing_address"),
      (!answers.slot.toBool, "checkeeper_idempotency_unavailable"),
      (!answers.slot.toOption.getD true, "checkeeper_duplicate_suppressed")]
    (errorFormat.conclude answers.exchange (acceptBody statusMap "" (.str "") "check_number"))

def getPaymentStatus (config : AdapterConfig) (answers : RailAnswers) : Except AdapterError AdapterStatus :=
  pollWithKey config statusMap answers.exchange

end Checkeeper

/-- The three adapters that check an API key, the method and the counterparty. -/
def createWithKey (config : AdapterConfig) (payload : PaymentPayload) (unconfigured adapter supported missing : String)
    (methods : List String) (send : Except AdapterError PaymentResult) : Attempt :=
  sendUnlessRefused
    [(config.apiKey = "", unconfigured),
      (payload.method ∉ methods, unsupportedMethod payload.method adapter supported),
      (payload.counterpartyId = "", missing)]
    send

namespace Column

def statusMap : List (String × AdapterStatus) :=
  [("initiated", .submitted), ("pending_review", .submitted), ("manual_review", .submitted), ("approved", .processing),
    ("submitted", .processing), ("settled", .completed), ("completed", .completed), ("returned", .failed),
    ("rejected", .failed), ("canceled", .cancelled)]

def errorFormat : ErrorFormat := ⟨"column", .ok, "code"⟩

def createPayment (config : AdapterConfig) (payload : PaymentPayload) (answers : RailAnswers) : Attempt :=
  createWithKey config payload "column_not_configured" "Column" "supports: ach, wire" "column_no_counterparty" ["ach", "wire"]
    (errorFormat.conclude answers.exchange (acceptBody statusMap "" (.str "") "trace_number"))

def getPaymentStatus (config : AdapterConfig) (answers : RailAnswers) : Except AdapterError AdapterStatus :=
  pollWithKey config statusMap answers.exchange

end Column

namespace Increase

def statusMap : List (String × AdapterStatus) :=
  [("pending_approval", .submitted), ("pending_submission", .submitted), ("pending_reviewing", .submitted),
    ("submitted", .processing), ("complete", .completed), ("completed", .completed), ("canceled", .cancelled),
    ("returned", .failed), ("rejected", .failed), ("requires_attention", .failed)]

def errorFormat : ErrorFormat := ⟨"increase", .ok, "type"⟩

def createPayment (config : AdapterConfig) (payload : PaymentPayload) (answers : RailAnswers) : Attempt :=
  createWithKey config payload "increase_not_configured" "Increase" "supports: ach, wire, check" "increase_no_external_account"
    ["ach", "wire", "check"] (errorFormat.conclude answers.exchange (acceptBody statusMap "" (.str "") "transaction_id"))

def getPaymentStatus (config : AdapterConfig) (answers : RailAnswers) : Except AdapterError AdapterStatus :=
  pollWithKey config statusMap answers.exchange

end Increase

namespace StripeTreasury

def statusMap : List (String × AdapterStatus) :=
  [("processing", .processing), ("posted", .completed), ("returned", .failed), ("failed", .failed), ("canceled", .cancelled)]

/-- Stripe nests its code under `error`. -/
def errorFormat : ErrorFormat := ⟨"stripe", pyGet "error" (.object []), "code"⟩

def createPayment (config : AdapterConfig) (payload : PaymentPayload) (answers : RailAnswers) : Attempt :=
  createWithKey config payload "stripe_treasury_not_configured" "Stripe Treasury" "supports: ach, wire"
    "stripe_treasury_no_external_account" ["ach", "wire"]
    (errorFormat.conclude answers.exchange (acceptBody statusMap "processing" (.str "") "transaction"))

def getPaymentStatus (config : AdapterConfig) (answers : RailAnswers) : Except AdapterError AdapterStatus :=
  pollWithKey config statusMap answers.exchange

end StripeTreasury

/-- The mock settles at once and asks nobody. -/
def Mock.createPayment (payload : PaymentPayload) : Attempt :=
  ⟨false, .ok ⟨true, .completed, .str "mock_pmt", .str ("MOCK-" ++ payload.method.toUpper), none,
    .object [("mock", .bool true), ("correlation_id", .str payload.correlationId)]⟩⟩

/-- `adapter.create_payment`. -/
def createPaymentVia : Provider → AdapterConfig → PaymentPayload → RailAnswers → Attempt
  | .mock, _, payload, _ => Mock.createPayment payload
  | .modernTreasury, _, payload, answers => ModernTreasury.createPayment payload answers
  | .dwolla, config, payload, answers => Dwolla.createPayment config payload answers
  | .checkeeper, config, payload, answers => Checkeeper.createPayment config payload answers
  | .column, config, payload, answers => Column.createPayment config payload answers
  | .increase, config, payload, answers => Increase.createPayment config payload answers
  | .stripeTreasury, config, payload, answers => StripeTreasury.createPayment config payload answers

/-- `adapter.get_payment_status`. -/
def getPaymentStatusVia : Provider → AdapterConfig → RailAnswers → Except AdapterError AdapterStatus
  | .mock, _, _ => .ok .completed
  | .modernTreasury, _, answers => ModernTreasury.getPaymentStatus answers
  | .dwolla, config, answers => Dwolla.getPaymentStatus config answers
  | .checkeeper, config, answers => Checkeeper.getPaymentStatus config answers
  | .column, config, answers => Column.getPaymentStatus config answers
  | .increase, config, answers => Increase.getPaymentStatus config answers
  | .stripeTreasury, config, answers => StripeTreasury.getPaymentStatus config answers

end Payables
