import Payables.Lib.Base64
import Payables.Lib.JsonText
import Payables.Lib.Uuid
import Payables.Signing.Hmac

namespace Payables.Signing

open Lib

/-- What the standard library makes of texts that no token holds: floats, numbers in texts, bytes beyond ASCII
and other spellings of hexadecimal digits. -/
structure Runtime where
  floatOf : List Char → FloatText
  intOfFloat : FloatText → Except Raised Int
  intOfText : String → Option Int
  decodeOther : List Nat → Option (List Char)
  otherDigits : List Char → Option Uuid

/-- The verified, still-valid facts decoded from a token. -/
structure ActionToken where
  tenantSlug : String
  invoiceId : Uuid
  actorId : Uuid
  action : String
  jti : String
  exp : Int
  channel : String
  deriving DecidableEq

/-- The verified, still-valid facts decoded from a link code. -/
structure PartnerLinkToken where
  childOrgId : Uuid
  jti : String
  exp : Int
  deriving DecidableEq

/-- `action in _VALID_ACTIONS`. -/
def isValidAction (action : String) : Bool := action == "approve" || action == "reject"

/-- `int(issued)`. -/
def truncated (issued : ℚ) : Int := if 0 ≤ issued then ⌊issued⌋ else ⌈issued⌉

/-- What `build_action_token` is called with, and the random `jti` it draws. -/
structure ActionMint where
  tenantSlug : String
  invoiceId : Uuid
  actorId : Uuid
  action : String
  ttlHours : Int
  channel : String
  issued : ℚ
  jti : String

/-- What `build_link_code` is called with, and the random `jti` it draws. -/
structure LinkMint where
  childOrgId : Uuid
  ttlMinutes : Int
  issued : ℚ
  jti : String

def ActionMint.exp (mint : ActionMint) : Int := truncated mint.issued + mint.ttlHours * 3600

def LinkMint.exp (mint : LinkMint) : Int := truncated mint.issued + mint.ttlMinutes * 60

def uuidJson (id : Uuid) : Json := .str (String.ofList id.text)

def ActionMint.payload (mint : ActionMint) : List (String × Json) :=
  [("t", .str mint.tenantSlug), ("i", uuidJson mint.invoiceId), ("a", uuidJson mint.actorId), ("act", .str mint.action),
    ("ch", .str mint.channel), ("exp", .int mint.exp), ("jti", .str mint.jti)]

def LinkMint.payload (mint : LinkMint) : List (String × Json) :=
  [("p", .str "partner_link"), ("c", uuidJson mint.childOrgId), ("exp", .int mint.exp), ("jti", .str mint.jti)]

/-- `_b64url_encode(json.dumps(payload, sort_keys=True, separators=(",", ":")).encode("utf-8"))`. -/
def encodeBody (payload : List (String × Json)) : List Char :=
  (Base64.encode ((Json.dumps (.object (Json.sortKeys payload))).map Char.toNat)).rdropWhile (· == '=')

/-- `_sign`. -/
def sign (mac : Hmac) (body : List Char) (signingKey : String) : Except Raised (List Char) :=
  if body.all isAscii then .ok (mac.digest signingKey body) else .error (.uncaught "UnicodeEncodeError")

/-- The token of a payload. -/
def signedToken (mac : Hmac) (signingKey : String) (payload : List (String × Json)) : Except Raised (List Char) := do
  let sig ← sign mac (encodeBody payload) signingKey
  return encodeBody payload ++ '.' :: sig

/-- `build_action_token`. -/
def buildActionToken (mac : Hmac) (signingKey : String) (mint : ActionMint) : Except Raised (Option (List Char)) :=
  if signingKey = "" || !isValidAction mint.action then .ok none
  else some <$> signedToken mac signingKey mint.payload

/-- `build_link_code`. -/
def buildLinkCode (mac : Hmac) (signingKey : String) (mint : LinkMint) : Except Raised (Option (List Char)) :=
  if signingKey = "" then .ok none else some <$> signedToken mac signingKey mint.payload

/-- The parts of a token before and after its last dot. -/
def splitToken (token : List Char) : Option (List Char × List Char) :=
  if '.' ∈ token then
    some (((token.reverse.dropWhile (· != '.')).drop 1).reverse, (token.reverse.takeWhile (· != '.')).reverse)
  else none

def raising {α : Type} (kind : String) : Option α → Except Raised α
  | some value => .ok value
  | none => .error (.uncaught kind)

/-- `_b64url_decode` and `json.loads`, whose errors are all `ValueError`s. -/
def loadsBody (runtime : Runtime) (body : List Char) : Except Raised Json := do
  let bytes ← raising "ValueError" (Base64.decode (body ++ Base64.padding body.length))
  let text ← raising "ValueError" <|
    if bytes.all fun byte => 0 < byte && byte < 128 then some (bytes.map Char.ofNat) else runtime.decodeOther bytes
  raising "ValueError" (Json.loads runtime.floatOf text)

/-- `data[key]`. -/
def getItem (data : Json) (key : String) : Except Raised Json :=
  match data with
  | .object fields => raising "KeyError" (fields.lookup key)
  | _ => .error (.uncaught "TypeError")

/-- `data.get(key)`. -/
def getField (data : Json) (key : String) : Except Raised (Option Json) :=
  match data with
  | .object fields => .ok (fields.lookup key)
  | _ => .error (.uncaught "AttributeError")

/-- `str`. -/
def textOf (value : Json) : String := String.ofList value.toText

/-- `int`. -/
def intOf (runtime : Runtime) : Json → Except Raised Int
  | .int value => .ok value
  | .bool value => .ok (if value then 1 else 0)
  | .float value => runtime.intOfFloat value
  | .str value => raising "ValueError" (runtime.intOfText value)
  | _ => .error (.uncaught "TypeError")

/-- `uuid.UUID(str(value))`. -/
def uuidOf (runtime : Runtime) (value : Json) : Except Raised Uuid :=
  raising "ValueError" (Uuid.parse runtime.otherDigits value.toText)

/-- `action in _VALID_ACTIONS`, for what stands in the payload. -/
def actionAllowed : Json → Except Raised Bool
  | .str action => .ok (isValidAction action)
  | .list _ => .error (.uncaught "TypeError")
  | .object _ => .error (.uncaught "TypeError")
  | _ => .ok false

/-- The facts in the payload of an action token. -/
def actionFacts (runtime : Runtime) (data action : Json) (channel : String) : Except Raised ActionToken := do
  let exp ← getItem data "exp" >>= intOf runtime
  let tenant ← getItem data "t"
  let invoice ← getItem data "i" >>= uuidOf runtime
  let actor ← getItem data "a" >>= uuidOf runtime
  let jti ← getItem data "jti"
  return ⟨textOf tenant, invoice, actor, textOf action, textOf jti, exp, channel⟩

/-- What the payload of an action token says, for a channel. -/
def decodeAction (runtime : Runtime) (expectedChannel : String) (body : List Char) : Except Raised (Option ActionToken) := do
  let data ← loadsBody runtime body
  let action ← getItem data "act"
  let allowed ← actionAllowed action
  let channel ← getField data "ch"
  if !allowed || textOf (channel.getD (.str "email")) ≠ expectedChannel then return none
  else some <$> actionFacts runtime data action (textOf (channel.getD (.str "email")))

/-- The facts in the payload of a link code. -/
def linkFacts (runtime : Runtime) (data : Json) : Except Raised PartnerLinkToken := do
  let exp ← getItem data "exp" >>= intOf runtime
  let child ← getItem data "c" >>= uuidOf runtime
  let jti ← getItem data "jti"
  return ⟨child, textOf jti, exp⟩

/-- `value == text`. -/
def isText (text : String) : Option Json → Bool
  | some (.str other) => other == text
  | _ => false

/-- What the payload of a link code says. -/
def decodeLink (runtime : Runtime) (body : List Char) : Except Raised (Option PartnerLinkToken) := do
  let data ← loadsBody runtime body
  let purpose ← getField data "p"
  if !isText "partner_link" purpose then return none
  else some <$> linkFacts runtime data

/-- `except (KeyError, ValueError, TypeError, json.JSONDecodeError): return None`. -/
def rejecting {α : Type} : Except Raised (Option α) → Except Raised (Option α)
  | .error (.uncaught kind) =>
    if kind = "KeyError" ∨ kind = "ValueError" ∨ kind = "TypeError" then .ok none else .error (.uncaught kind)
  | result => result

/-- What both verifications do. Only the decoding is inside the `try`. -/
def verifyToken {α : Type} (mac : Hmac) (signingKey : String) (now : ℚ) (decode : List Char → Except Raised (Option α))
    (exp : α → Int) (token : Option String) : Except Raised (Option α) :=
  if signingKey = "" then .ok none
  else
    match splitToken (token.getD "").toList with
    | none => .ok none
    | some (body, sig) =>
      if body = [] ∨ sig = [] then .ok none
      else do
        let expected ← sign mac body signingKey
        let same ← compareDigest expected sig
        if !same then return none
        else do
          let decoded ← rejecting (decode body)
          return decoded.filter fun facts => !decide ((exp facts : ℚ) < now)

/-- `verify_action_token`. -/
def verifyActionToken (runtime : Runtime) (mac : Hmac) (token : Option String) (signingKey expectedChannel : String) (now : ℚ) :
    Except Raised (Option ActionToken) :=
  verifyToken mac signingKey now (decodeAction runtime expectedChannel) ActionToken.exp token

/-- `verify_link_code`. -/
def verifyLinkCode (runtime : Runtime) (mac : Hmac) (code : Option String) (signingKey : String) (now : ℚ) :
    Except Raised (Option PartnerLinkToken) :=
  verifyToken mac signingKey now (decodeLink runtime) PartnerLinkToken.exp code

end Payables.Signing
