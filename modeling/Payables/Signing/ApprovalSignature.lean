import Payables.Lib.JsonText
import Payables.Lib.Timestamps
import Payables.Lib.Uuid
import Payables.Signing.Hmac

namespace Payables.Signing

open Lib

/-- The facts an approval signature is about. The amount is that of a `Numeric(15, 2)` column, in cents. -/
structure ApprovalFacts where
  invoiceId : Uuid
  amountCents : Int
  actorId : Uuid
  decision : String
  timestamp : Timestamp
  deriving DecidableEq

/-- `_canonical_amount`. More than 28 digits do not quantize. -/
def canonicalAmount (cents : Int) : Except Raised (List Char) :=
  if cents.natAbs < 10 ^ 28 then .ok (fixedPoint 2 (cents < 0) cents.natAbs) else .error (.uncaught "InvalidOperation")

/-- The payload of some facts, with the amount as it is written. -/
def payloadFields (facts : ApprovalFacts) (amount : List Char) : List (String × Json) :=
  [("invoice_id", .str (String.ofList facts.invoiceId.text)), ("amount", .str (String.ofList amount)),
    ("actor_id", .str (String.ofList facts.actorId.text)), ("decision", .str facts.decision),
    ("timestamp", .str (String.ofList facts.timestamp.isoformat))]

/-- `_canonical_payload`. -/
def canonicalPayload (facts : ApprovalFacts) : Except Raised (List Char) := do
  let amount ← canonicalAmount facts.amountCents
  return Json.dumps (.object (Json.sortKeys (payloadFields facts amount)))

/-- `sign_approval`. -/
def signApproval (mac : Hmac) (facts : ApprovalFacts) (signingKey : String) : Except Raised (List Char) :=
  if signingKey = "" then .ok []
  else do
    let msg ← canonicalPayload facts
    return mac.digest signingKey msg

/-- `verify_approval`. -/
def verifyApproval (mac : Hmac) (facts : ApprovalFacts) (signature : Option Json) (signingKey : String) : Except Raised Bool :=
  if signingKey = "" then .ok false
  else
    match signature with
    | some (.str value) =>
      if value = "" || !value.toList.all isAscii then .ok false
      else
        match signApproval mac facts signingKey with
        | .ok expected => compareDigest expected value.toList
        | .error _ => .ok false
    | _ => .ok false

/-- The block that is stored with a digest. -/
def signatureBlockOf (facts : ApprovalFacts) (value : List Char) : Json :=
  .object [("alg", .str "HMAC-SHA256"), ("value", .str (String.ofList value)),
    ("signed_fields", .list [.str "invoice_id", .str "amount", .str "actor_id", .str "decision", .str "timestamp"]),
    ("signed_at", .str (String.ofList facts.timestamp.isoformat))]

/-- `build_signature_detail`. -/
def buildSignatureDetail (mac : Hmac) (facts : ApprovalFacts) (signingKey : String) : Except Raised (Option Json) := do
  let value ← signApproval mac facts signingKey
  if value = [] then return none else return some (signatureBlockOf facts value)

/-- The `audit_details` of `approve_invoice`. -/
def auditDetails (mac : Hmac) (facts : ApprovalFacts) (signingKey : String) (fieldDiff : Option Json) :
    Except Raised (List (String × Json)) := do
  let signature ← buildSignatureDetail mac facts signingKey
  return fieldDiff.toList.map (("changes", ·)) ++ signature.toList.map (("signature", ·))

/-- The `details` that `transition_invoice` writes on the audit row. -/
def transitionDetails (details : List (String × Json)) (oldStatus newStatus : String) : Json :=
  .object (details ++ [("old_status", .str oldStatus), ("new_status", .str newStatus)])

/-- The `details` of the row that `approve_invoice` writes. -/
def approvalDetails (mac : Hmac) (facts : ApprovalFacts) (signingKey : String) (fieldDiff : Option Json) (oldStatus : String) :
    Except Raised Json := do
  let details ← auditDetails mac facts signingKey fieldDiff
  return transitionDetails details oldStatus "approved"

inductive Verdict
  | valid
  | invalid
  | unsigned
  deriving DecidableEq

structure SignatureCheck where
  verdict : Verdict
  signedAt : Option String
  deriving DecidableEq

/-- What a check is given: the row's details and actor, the invoice with its current amount, and the key in use. -/
structure ApprovalRow where
  details : Json
  invoiceId : Uuid
  amountCents : Int
  actorId : Option Uuid
  signingKey : String
  decision : String := "approved"

/-- `details.get("signature")`, where it is an object. -/
def signatureBlock (details : Json) : Option (List (String × Json)) :=
  match details.field? "signature" with
  | some (.object block) => some block
  | _ => none

/-- `sig.get("signed_at")`, where it is a string. -/
def signedAtRaw (block : List (String × Json)) : Option String :=
  match block.lookup "signed_at" with
  | some (.str raw) => some raw
  | _ => none

/-- `datetime.fromisoformat`, where it raises no `ValueError`. What it reads that `isoformat` does not write is a
parameter. -/
def fromIsoformat (otherForms : String → Option Timestamp) (raw : String) : Option Timestamp :=
  (Timestamp.isoMoment? raw.toList).or (otherForms raw)

/-- The verdict on a signature that could be checked, and on one whose check raised. -/
def verdictOf (raw : String) : Except Raised Bool → Except Raised SignatureCheck
  | .ok ok => .ok ⟨if ok then .valid else .invalid, some raw⟩
  | .error (.uncaught kind) =>
    if kind = "InvalidOperation" ∨ kind = "ValueError" then .ok ⟨.invalid, some raw⟩ else .error (.uncaught kind)
  | .error raised => .error raised

/-- `check_approval_row`. -/
def checkApprovalRow (mac : Hmac) (otherForms : String → Option Timestamp) (row : ApprovalRow) : Except Raised SignatureCheck :=
  match signatureBlock row.details with
  | none => .ok ⟨.unsigned, none⟩
  | some block =>
    match signedAtRaw block with
    | none => .ok ⟨.invalid, none⟩
    | some raw =>
      match fromIsoformat otherForms raw, row.actorId with
      | some signedAt, some actorId =>
        verdictOf raw (verifyApproval mac ⟨row.invoiceId, row.amountCents, actorId, row.decision, signedAt⟩ (block.lookup "value")
          row.signingKey)
      | _, _ => .ok ⟨.invalid, some raw⟩

end Payables.Signing
