import Payables.Lib.Json
import Payables.Payments.Dispatch

namespace Payables
open Lib

/-- `httpx.RequestError` and its subclasses. -/
inductive RequestError
  | requestError
  | transportError
  | timeoutException
  | connectTimeout
  | readTimeout
  | writeTimeout
  | poolTimeout
  | networkError
  | connectError
  | readError
  | writeError
  | closeError
  | proxyError
  | unsupportedProtocol
  | protocolError
  | localProtocolError
  | remoteProtocolError
  | decodingError
  | tooManyRedirects
  deriving DecidableEq

/-- `exc.__class__.__name__`. -/
def RequestError.className : RequestError → String
  | requestError => "RequestError"
  | transportError => "TransportError"
  | timeoutException => "TimeoutException"
  | connectTimeout => "ConnectTimeout"
  | readTimeout => "ReadTimeout"
  | writeTimeout => "WriteTimeout"
  | poolTimeout => "PoolTimeout"
  | networkError => "NetworkError"
  | connectError => "ConnectError"
  | readError => "ReadError"
  | writeError => "WriteError"
  | closeError => "CloseError"
  | proxyError => "ProxyError"
  | unsupportedProtocol => "UnsupportedProtocol"
  | protocolError => "ProtocolError"
  | localProtocolError => "LocalProtocolError"
  | remoteProtocolError => "RemoteProtocolError"
  | decodingError => "DecodingError"
  | tooManyRedirects => "TooManyRedirects"

/-- Why a body does not parse. -/
inductive JsonError
  | decode
  | unicode
  | recursion
  deriving DecidableEq

/-- What an adapter can raise. -/
inductive AdapterError
  | request (error : RequestError)
  | json (error : JsonError)
  | attributeError
  | typeError
  | valueError
  | overflowError
  deriving DecidableEq

def AdapterError.className : AdapterError → String
  | request error => error.className
  | json .decode => "JSONDecodeError"
  | json .unicode => "UnicodeDecodeError"
  | json .recursion => "RecursionError"
  | attributeError => "AttributeError"
  | typeError => "TypeError"
  | valueError => "ValueError"
  | overflowError => "OverflowError"

/-- What `except ValueError` catches of the errors of a body. -/
def JsonError.isValueError : JsonError → Bool
  | decode => true
  | unicode => true
  | recursion => false

/-- An `httpx.Response`: its text, its `json()` and its `Location` header. -/
structure Response where
  statusCode : Nat
  text : String
  json : Except JsonError Json
  location : Option String

/-- What comes back for a request that was sent. -/
abbrev Exchange := Except RequestError Response

namespace Response

/-- `response.json()`. -/
def body (response : Response) : Except AdapterError Json :=
  match response.json with
  | .ok body => .ok body
  | .error error => .error (.json error)

/-- `try: response.json() except ValueError: default`. -/
def bodyOr (response : Response) (default : Json) : Except AdapterError Json :=
  match response.json with
  | .ok body => .ok body
  | .error error => if error.isValueError then .ok default else .error (.json error)

/-- An answer with a JSON body. -/
def replying (statusCode : Nat) (body : Json) : Response := ⟨statusCode, "", .ok body, none⟩

end Response

/-- `value.get(key, default)`: what is no object has no such method. -/
def pyGet (key : String) (default : Json) : Json → Except AdapterError Json
  | .object fields => .ok ((fields.lookup key).getD default)
  | _ => .error .attributeError

/-- `status_map.get(status, PaymentStatus.submitted)`. A list or an object cannot be looked up. -/
def lookupStatus (statusMap : List (String × AdapterStatus)) : Json → Except AdapterError AdapterStatus
  | .str status => .ok ((statusMap.lookup status).getD .submitted)
  | .list _ => .error .typeError
  | .object _ => .error .typeError
  | _ => .ok .submitted

/-- `PaymentResult`. -/
structure PaymentResult where
  success : Bool
  status : AdapterStatus
  providerPaymentId : Json
  reference : Json
  failureReason : Option String
  rawResponse : Json

def PaymentResult.failed (reason : String) (rawResponse : Json) : PaymentResult :=
  ⟨false, .failed, .null, .null, some reason, rawResponse⟩

/-- A call of `create_payment`: whether its request left, and what it returns or raises. -/
structure Attempt where
  sent : Bool
  outcome : Except AdapterError PaymentResult

/-- A refusal before anything was sent. -/
def Attempt.refuse (reason : String) : Attempt := ⟨false, .ok (.failed reason .null)⟩

structure MailingAddress where
  street : String
  city : String
  state : String
  postal : String
  deriving DecidableEq

def MailingAddress.isComplete (address : MailingAddress) : Bool :=
  address.street ≠ "" && address.city ≠ "" && address.state ≠ "" && address.postal ≠ ""

/-- What the adapters check of a payment and of the vendor's bank details, a missing one being empty. -/
structure PaymentPayload where
  correlationId : String
  method : String
  counterpartyId : String
  mailingAddress : MailingAddress
  deriving DecidableEq

/-- `settings.payments` of the organisation, as far as the adapters check it. -/
structure AdapterConfig where
  apiKey : String
  clientId : String
  clientSecret : String
  deriving DecidableEq

/-- What one call of an adapter hears: a token it still holds, the answer to a token request and what
reading its expiry raises, the claim of the idempotency slot, and the answer to its own request. -/
structure RailAnswers where
  cachedToken : Option String
  tokenExchange : Exchange
  expiryError : Option AdapterError
  slot : Except String Bool
  exchange : Exchange

end Payables
