import Mathlib
import Payables.Lib.Raising
import Payables.Signing.ApprovalSignature

namespace Payables.Signing

open Lib

section Payload

variable {facts other : ApprovalFacts} {amount message : List Char}

theorem payloadFields_plain : ∀ field ∈ payloadFields facts amount, Json.IsPlain field.2 := by
  intro field member
  simp only [payloadFields, List.mem_cons, List.not_mem_nil, or_false] at member
  rcases member with rfl | rfl | rfl | rfl | rfl <;> simp [Json.IsPlain]

theorem payloadFields_sorted : Json.sortKeys (payloadFields facts amount) =
    [("actor_id", .str (String.ofList facts.actorId.text)), ("amount", .str (String.ofList amount)),
      ("decision", .str facts.decision), ("invoice_id", .str (String.ofList facts.invoiceId.text)),
      ("timestamp", .str (String.ofList facts.timestamp.isoformat))] := by
  simp [Json.sortKeys, payloadFields]

theorem loads_payload (floatOf : List Char → FloatText) :
    Json.loads floatOf (Json.dumps (.object (Json.sortKeys (payloadFields facts amount)))) =
      some (.object (Json.sortKeys (payloadFields facts amount))) := by
  have perm : (Json.sortKeys (payloadFields facts amount)).Perm (payloadFields facts amount) := List.perm_insertionSort _ _
  have plain : ∀ field ∈ Json.sortKeys (payloadFields facts amount), Json.IsPlain field.2 :=
    fun field member => payloadFields_plain field (perm.mem_iff.mp member)
  have keys : (Json.sortKeys (payloadFields facts amount)).map Prod.fst =
      ["actor_id", "amount", "decision", "invoice_id", "timestamp"] := by
    rw [payloadFields_sorted]
    rfl
  have distinct : ((Json.sortKeys (payloadFields facts amount)).map Prod.fst).Nodup := by
    rw [keys]
    decide
  exact Json.loads_dumps floatOf plain distinct

theorem canonicalPayload_eq_ok : canonicalPayload facts = .ok message ↔ facts.amountCents.natAbs < 10 ^ 28 ∧
    Json.dumps (.object (Json.sortKeys (payloadFields facts
      (fixedPoint 2 (facts.amountCents < 0) facts.amountCents.natAbs)))) = message := by
  unfold canonicalPayload canonicalAmount
  by_cases fits : facts.amountCents.natAbs < 10 ^ 28
  · rw [if_pos fits]
    constructor
    · intro ok
      exact ⟨fits, Except.ok.inj ok⟩
    · rintro ⟨-, same⟩
      exact congrArg Except.ok same
  · rw [if_neg fits]
    constructor
    · intro ok
      cases ok
    · rintro ⟨fits', -⟩
      exact absurd fits' fits

/-- An amount is known from its text. -/
theorem cents_of_text {cents cents' : Int}
    (same : fixedPoint 2 (cents < 0) cents.natAbs = fixedPoint 2 (cents' < 0) cents'.natAbs) : cents = cents' := by
  have signed : ∀ value : Int, (if decide (value < 0) = true then -(value.natAbs : ℚ) else value.natAbs) = (value : ℚ) := by
    intro value
    by_cases negative : value < 0
    · have whole : -(value.natAbs : Int) = value := by omega
      rw [if_pos (decide_eq_true negative), ← Int.cast_natCast, ← Int.cast_neg, whole]
    · have whole : (value.natAbs : Int) = value := by omega
      rw [if_neg (by simpa using negative), ← Int.cast_natCast, whole]
  have read := @decimal?_fixedPoint 2 cents.natAbs (cents < 0)
  rw [same, decimal?_fixedPoint, signed, signed] at read
  have values := Option.some.inj read
  have scale : ((10 : ℚ) ^ 2) ≠ 0 := by norm_num
  rw [div_left_inj' scale] at values
  exact (Int.cast_injective values).symm

theorem text_of_ofList {one other : List Char} (same : String.ofList one = String.ofList other) : one = other := by
  have lists := congrArg String.toList same
  rwa [String.toList_ofList, String.toList_ofList] at lists

theorem zero_isFloat : "0.0".toList.all isFloatChar = true := (congrArg (List.all · _) String.toList_ofList).trans (by decide)

/-- No float is in a payload. -/
def noFloats : List Char → FloatText := fun _ => ⟨"0.0", zero_isFloat⟩

/-- A payload stands for one approval. -/
theorem canonicalPayload_injective (one : canonicalPayload facts = .ok message) (two : canonicalPayload other = .ok message) :
    facts = other := by
  obtain ⟨-, text⟩ := canonicalPayload_eq_ok.mp one
  obtain ⟨-, text'⟩ := canonicalPayload_eq_ok.mp two
  have read := @loads_payload facts (fixedPoint 2 (facts.amountCents < 0) facts.amountCents.natAbs) noFloats
  rw [text, ← text', loads_payload, payloadFields_sorted, payloadFields_sorted] at read
  simp only [Option.some.injEq, Json.object.injEq, List.cons.injEq, Prod.mk.injEq, Json.str.injEq, true_and, and_true] at read
  obtain ⟨actor, amount, decision, invoice, timestamp⟩ := read
  have actors := Uuid.text_injective (text_of_ofList actor)
  have amounts := cents_of_text (text_of_ofList amount)
  have invoices := Uuid.text_injective (text_of_ofList invoice)
  have moments := Timestamp.isoformat_injective (text_of_ofList timestamp)
  obtain ⟨invoiceId, amountCents, actorId, decision', moment⟩ := facts
  rw [ApprovalFacts.mk.injEq]
  exact ⟨invoices.symm, amounts.symm, actors.symm, decision.symm, moments.symm⟩

end Payload

variable (mac : Hmac) (otherForms : String → Option Timestamp)

/-- An approval that was signed, at an aware moment and under a key. -/
structure SignedApproval where
  facts : ApprovalFacts
  key : String
  digest : List Char
  aware : facts.timestamp.offset.isSome = true
  keyed : key ≠ ""
  signed : signApproval mac facts key = .ok digest

/-- `sig.get("value")`, where it is a string. -/
def valueText (block : List (String × Json)) : Option String :=
  match block.lookup "value" with
  | some (.str value) => some value
  | _ => none

/-- The approval that a row shows, with its digest. -/
def ApprovalRow.shown (row : ApprovalRow) : Option (ApprovalFacts × List Char) := do
  let block ← signatureBlock row.details
  let raw ← signedAtRaw block
  let signedAt ← fromIsoformat otherForms raw
  let actorId ← row.actorId
  let value ← valueText block
  return (⟨row.invoiceId, row.amountCents, actorId, row.decision, signedAt⟩, value.toList)

variable {mac}

/-- The facts and the key are those that were signed. -/
structure SignedApproval.Kept (A : SignedApproval mac) (facts : ApprovalFacts) (key : String) : Prop where
  amount : facts.amountCents = A.facts.amountCents
  invoice : facts.invoiceId = A.facts.invoiceId
  actor : facts.actorId = A.facts.actorId
  decision : facts.decision = A.facts.decision
  instant : facts.timestamp.instant = A.facts.timestamp.instant
  offset : facts.timestamp.offset = A.facts.timestamp.offset
  key : key = A.key

/-- The row shows what was signed. -/
def SignedApproval.Untouched (A : SignedApproval mac) (row : ApprovalRow) : Prop :=
  ∃ facts value, row.shown otherForms = some (facts, value) ∧ value = A.digest ∧ A.Kept facts row.signingKey

variable (mac) (log : List (SignedApproval mac)) (row : ApprovalRow)

/-- The digest that a row shows was signed, if it is one of what the row shows. -/
def Genuine : Prop :=
  ∀ facts value message, row.shown otherForms = some (facts, value) → canonicalPayload facts = .ok message →
    mac.digest row.signingKey message = value → ∃ A ∈ log, A.digest = value

/-- What the row shows has the digest of no other approval. -/
def Collisionless : Prop :=
  ∀ facts value message, row.shown otherForms = some (facts, value) → canonicalPayload facts = .ok message →
    ∀ A ∈ log, mac.digest row.signingKey message = A.digest → A.key = row.signingKey ∧ canonicalPayload A.facts = .ok message

/-- The row's digest is that of what the row shows. -/
def Verifies : Prop :=
  ∃ facts value, row.shown otherForms = some (facts, value) ∧ row.signingKey ≠ "" ∧
    signApproval mac facts row.signingKey = .ok value

section Signing

variable {mac} {facts : ApprovalFacts} {value : List Char} {key : String}

theorem signApproval_eq_ok (keyed : key ≠ "") : signApproval mac facts key = .ok value ↔
    ∃ message, canonicalPayload facts = .ok message ∧ mac.digest key message = value := by
  rw [signApproval, if_neg keyed]
  constructor
  · intro ok
    obtain ⟨message, payload, done⟩ := bind_eq_ok.mp ok
    exact ⟨message, payload, pure_eq_ok.mp done⟩
  · rintro ⟨message, payload, rfl⟩
    exact bind_eq_ok.mpr ⟨message, payload, rfl⟩

theorem signed_ne_nil (keyed : key ≠ "") (signed : signApproval mac facts key = .ok value) : value ≠ [] := by
  obtain ⟨message, -, rfl⟩ := (signApproval_eq_ok keyed).mp signed
  exact mac.digest_ne_nil key message

theorem signed_ascii (keyed : key ≠ "") (signed : signApproval mac facts key = .ok value) : value.all isAscii = true := by
  obtain ⟨message, -, rfl⟩ := (signApproval_eq_ok keyed).mp signed
  exact mac.digest_ascii key message

/-- A check answers, whatever is in the place of the digest. -/
theorem verifyApproval_eq (facts : ApprovalFacts) (signature : Option Json) (key : String) :
    ∃ answer, verifyApproval mac facts signature key = .ok answer ∧ (answer = true ↔ key ≠ "" ∧
      ∃ value, signature = some (.str value) ∧ signApproval mac facts key = .ok value.toList) := by
  unfold verifyApproval
  by_cases keyed : key = ""
  · rw [if_pos keyed]
    exact ⟨false, rfl, by simp [keyed]⟩
  · rw [if_neg keyed]
    split
    case h_2 other =>
      refine ⟨false, rfl, by simp, ?_⟩
      rintro ⟨-, value, text, -⟩
      exact absurd text (other value)
    case h_1 value =>
      by_cases malformed : (value = "" || !value.toList.all isAscii) = true
      · rw [if_pos malformed]
        refine ⟨false, rfl, by simp, ?_⟩
        rintro ⟨-, text, same, signed⟩
        cases same
        have ascii := signed_ascii keyed signed
        have some' := signed_ne_nil keyed signed
        rw [ascii, Bool.not_true, Bool.or_false, decide_eq_true_eq] at malformed
        rw [malformed] at some'
        exact absurd rfl some'
      · rw [if_neg malformed]
        have ascii : value.toList.all isAscii = true := by
          simp only [Bool.or_eq_true, not_or, Bool.not_eq_true, Bool.not_eq_false'] at malformed
          exact malformed.2
        cases signed : signApproval mac facts key with
        | error raised => exact ⟨false, rfl, by simp⟩
        | ok expected =>
          refine ⟨expected == value.toList, compareDigest_eq_ok (signed_ascii keyed signed) ascii, ?_⟩
          rw [beq_iff_eq]
          constructor
          · intro same
            exact ⟨keyed, value, rfl, by rw [same]⟩
          · rintro ⟨-, text, same, ok⟩
            cases same
            exact Except.ok.inj ok

end Signing

section Checking

variable {mac otherForms log row}

theorem shown_of_parts {block : List (String × Json)} {raw value : String} {signedAt : Timestamp} {actorId : Uuid}
    (present : signatureBlock row.details = some block) (stamp : signedAtRaw block = some raw)
    (moment : fromIsoformat otherForms raw = some signedAt) (actor : row.actorId = some actorId)
    (text : valueText block = some value) : row.shown otherForms =
      some (⟨row.invoiceId, row.amountCents, actorId, row.decision, signedAt⟩, value.toList) := by
  simp only [ApprovalRow.shown, present, stamp, moment, actor, text, Option.bind_eq_bind, Option.bind_some, Option.pure_def]

theorem check_unsigned (absent : signatureBlock row.details = none) :
    checkApprovalRow mac otherForms row = .ok ⟨.unsigned, none⟩ := by
  rw [checkApprovalRow, absent]

/-- A row with a signature object is valid or invalid. -/
theorem check_signed {block : List (String × Json)} (present : signatureBlock row.details = some block) :
    ∃ raw, (checkApprovalRow mac otherForms row = .ok ⟨.valid, raw⟩ ∧ Verifies mac otherForms row) ∨
      (checkApprovalRow mac otherForms row = .ok ⟨.invalid, raw⟩ ∧ ¬Verifies mac otherForms row) := by
  have hidden : row.shown otherForms = none → ¬Verifies mac otherForms row := by
    rintro hidden ⟨facts, value, shown, -⟩
    rw [hidden] at shown
    cases shown
  cases stamp : signedAtRaw block with
  | none =>
    refine ⟨none, .inr ⟨?_, hidden ?_⟩⟩
    · simp only [checkApprovalRow, present, stamp]
    · simp only [ApprovalRow.shown, present, stamp, Option.bind_eq_bind, Option.bind_some, Option.bind_none]
  | some raw =>
    refine ⟨some raw, ?_⟩
    cases moment : fromIsoformat otherForms raw with
    | none =>
      refine .inr ⟨?_, hidden ?_⟩
      · simp only [checkApprovalRow, present, stamp, moment]
      · simp only [ApprovalRow.shown, present, stamp, moment, Option.bind_eq_bind, Option.bind_some, Option.bind_none]
    | some signedAt =>
      cases actor : row.actorId with
      | none =>
        refine .inr ⟨?_, hidden ?_⟩
        · simp only [checkApprovalRow, present, stamp, moment, actor]
        · simp only [ApprovalRow.shown, present, stamp, moment, actor, Option.bind_eq_bind, Option.bind_some, Option.bind_none]
      | some actorId =>
        obtain ⟨answer, ok, true'⟩ := @verifyApproval_eq mac ⟨row.invoiceId, row.amountCents, actorId, row.decision, signedAt⟩
          (block.lookup "value") row.signingKey
        have verdict : checkApprovalRow mac otherForms row = .ok ⟨if answer then .valid else .invalid, some raw⟩ := by
          simp only [checkApprovalRow, present, stamp, moment, actor, ok, verdictOf]
        have shown := fun value => @shown_of_parts otherForms row block raw value signedAt actorId present stamp moment actor
        have text : ∀ value, valueText block = some value ↔ block.lookup "value" = some (.str value) := by
          intro value
          unfold valueText
          split
          case h_1 known => simp [known]
          case h_2 other => simpa using other value
        have verifies : Verifies mac otherForms row ↔ answer = true := by
          rw [true']
          constructor
          · rintro ⟨facts, digest, seen, keyed, signed⟩
            cases known : valueText block with
            | none =>
              simp only [ApprovalRow.shown, present, stamp, moment, actor, known, Option.bind_eq_bind, Option.bind_some,
                Option.bind_none, reduceCtorEq] at seen
            | some value =>
              rw [shown value known, Option.some.injEq, Prod.mk.injEq] at seen
              obtain ⟨rfl, rfl⟩ := seen
              exact ⟨keyed, value, (text value).mp known, signed⟩
          · rintro ⟨keyed, value, known, signed⟩
            exact ⟨_, _, shown value ((text value).mpr known), keyed, signed⟩
        cases answer with
        | true => exact .inl ⟨verdict, verifies.mpr rfl⟩
        | false => exact .inr ⟨verdict, fun holds => absurd (verifies.mp holds) Bool.false_ne_true⟩

theorem SignedApproval.Kept.facts_eq {A : SignedApproval mac} {facts : ApprovalFacts} {key : String} (kept : A.Kept facts key) :
    facts = A.facts := by
  obtain ⟨amount, invoice, actor, decision, instant, offset, -⟩ := kept
  have moment := Timestamp.eq_of_instant instant offset
  obtain ⟨invoiceId, amountCents, actorId, decision', timestamp⟩ := facts
  simp only at amount invoice actor decision moment
  rw [amount, invoice, actor, decision, moment]

theorem SignedApproval.kept_self (A : SignedApproval mac) : A.Kept A.facts A.key := ⟨rfl, rfl, rfl, rfl, rfl, rfl, rfl⟩

theorem verifies_of_untouched {A : SignedApproval mac} (untouched : A.Untouched otherForms row) : Verifies mac otherForms row := by
  obtain ⟨facts, value, shown, digest, kept⟩ := untouched
  refine ⟨facts, value, shown, ?_, ?_⟩
  · rw [kept.key]
    exact A.keyed
  · rw [kept.facts_eq, kept.key, digest]
    exact A.signed

/-- Where the digest is that of a signed approval, what the row shows is this approval. -/
theorem untouched_of_verifies (collisionless : Collisionless mac otherForms log row) {A : SignedApproval mac} (logged : A ∈ log)
    {facts : ApprovalFacts} {value : List Char} (shown : row.shown otherForms = some (facts, value))
    (keyed : row.signingKey ≠ "") (signed : signApproval mac facts row.signingKey = .ok value) (same : A.digest = value) :
    A.Untouched otherForms row := by
  obtain ⟨message, payload, digest⟩ := (signApproval_eq_ok keyed).mp signed
  obtain ⟨key, text⟩ := collisionless facts value message shown payload A logged (by rw [digest, same])
  have one := canonicalPayload_injective payload text
  refine ⟨facts, value, shown, same.symm, ?_⟩
  rw [one, ← key]
  exact A.kept_self

theorem verifies_iff_untouched (genuine : Genuine mac otherForms log row) (collisionless : Collisionless mac otherForms log row) :
    Verifies mac otherForms row ↔ ∃ A ∈ log, A.Untouched otherForms row := by
  constructor
  · rintro ⟨facts, value, shown, keyed, signed⟩
    obtain ⟨message, payload, digest⟩ := (signApproval_eq_ok keyed).mp signed
    obtain ⟨A, logged, same⟩ := genuine facts value message shown payload digest
    exact ⟨A, logged, untouched_of_verifies collisionless logged shown keyed signed same⟩
  · rintro ⟨A, -, untouched⟩
    exact verifies_of_untouched untouched

/-- The row that `approve_invoice` writes, with nothing changed since. -/
def SignedApproval.rowWith (A : SignedApproval mac) (details : Json) : ApprovalRow where
  details := details
  invoiceId := A.facts.invoiceId
  amountCents := A.facts.amountCents
  actorId := some A.facts.actorId
  signingKey := A.key
  decision := A.facts.decision

theorem SignedApproval.stored (A : SignedApproval mac) (fieldDiff : Option Json) (oldStatus : String) :
    ∃ details, approvalDetails mac A.facts A.key fieldDiff oldStatus = .ok details ∧
      A.Untouched otherForms (A.rowWith details) := by
  refine ⟨transitionDetails (fieldDiff.toList.map (("changes", ·)) ++ [("signature", signatureBlockOf A.facts A.digest)]) oldStatus
    "approved", ?_, A.facts, A.digest, ?_, rfl, A.kept_self⟩
  · have block : buildSignatureDetail mac A.facts A.key = .ok (some (signatureBlockOf A.facts A.digest)) := by
      rw [buildSignatureDetail, A.signed]
      exact if_neg (signed_ne_nil A.keyed A.signed)
    rw [approvalDetails, auditDetails, block]
    rfl
  · have present : signatureBlock (A.rowWith (transitionDetails (fieldDiff.toList.map (("changes", ·)) ++
        [("signature", signatureBlockOf A.facts A.digest)]) oldStatus "approved")).details =
          some [("alg", .str "HMAC-SHA256"), ("value", .str (String.ofList A.digest)),
            ("signed_fields", .list [.str "invoice_id", .str "amount", .str "actor_id", .str "decision", .str "timestamp"]),
            ("signed_at", .str (String.ofList A.facts.timestamp.isoformat))] := by
      cases fieldDiff <;> rfl
    have moment : fromIsoformat otherForms (String.ofList A.facts.timestamp.isoformat) = some A.facts.timestamp := by
      rw [fromIsoformat, String.toList_ofList, Timestamp.isoMoment?_isoformat]
      rfl
    have value : valueText [("alg", .str "HMAC-SHA256"), ("value", .str (String.ofList A.digest)),
        ("signed_fields", .list [.str "invoice_id", .str "amount", .str "actor_id", .str "decision", .str "timestamp"]),
        ("signed_at", .str (String.ofList A.facts.timestamp.isoformat))] = some (String.ofList A.digest) := rfl
    rw [shown_of_parts present rfl moment rfl value, String.toList_ofList]
    rfl

end Checking

/-- What a check answers. -/
structure SignaturesSound : Prop where
  total : ∃ check, checkApprovalRow mac otherForms row = .ok check
  unsigned : signatureBlock row.details = none → checkApprovalRow mac otherForms row = .ok ⟨.unsigned, none⟩
  valid : (∃ A ∈ log, A.Untouched otherForms row) → ∃ raw, checkApprovalRow mac otherForms row = .ok ⟨.valid, raw⟩
  invalid : signatureBlock row.details ≠ none → (¬∃ A ∈ log, A.Untouched otherForms row) →
    ∃ raw, checkApprovalRow mac otherForms row = .ok ⟨.invalid, raw⟩
  altered : ∀ A ∈ log, ∀ facts value, row.shown otherForms = some (facts, value) → ¬A.Untouched otherForms row →
    value = A.digest ∨ A.Kept facts row.signingKey → ∃ raw, checkApprovalRow mac otherForms row = .ok ⟨.invalid, raw⟩
  incomplete : ∀ block, signatureBlock row.details = some block → signedAtRaw block = none ∨ valueText block = none →
    ∃ raw, checkApprovalRow mac otherForms row = .ok ⟨.invalid, raw⟩
  stored : ∀ A ∈ log, ∀ fieldDiff oldStatus, ∃ details raw, approvalDetails mac A.facts A.key fieldDiff oldStatus = .ok details ∧
    A.Untouched otherForms (A.rowWith details) ∧ checkApprovalRow mac otherForms (A.rowWith details) = .ok ⟨.valid, raw⟩

variable {mac otherForms log row}

theorem check_of_verifies (verifies : Verifies mac otherForms row) :
    ∃ raw, checkApprovalRow mac otherForms row = .ok ⟨.valid, raw⟩ := by
  cases present : signatureBlock row.details with
  | none =>
    obtain ⟨facts, value, shown, -⟩ := verifies
    simp only [ApprovalRow.shown, present, Option.bind_eq_bind, Option.bind_none, reduceCtorEq] at shown
  | some block =>
    obtain ⟨raw, ⟨valid, -⟩ | ⟨-, fails⟩⟩ := @check_signed mac otherForms row _ present
    · exact ⟨raw, valid⟩
    · exact absurd verifies fails

theorem check_of_fails (present : signatureBlock row.details ≠ none) (fails : ¬Verifies mac otherForms row) :
    ∃ raw, checkApprovalRow mac otherForms row = .ok ⟨.invalid, raw⟩ := by
  obtain ⟨block, found⟩ := Option.ne_none_iff_exists'.mp present
  obtain ⟨raw, ⟨-, verifies⟩ | ⟨invalid, -⟩⟩ := @check_signed mac otherForms row _ found
  · exact absurd verifies fails
  · exact ⟨raw, invalid⟩

theorem present_of_shown {shown : ApprovalFacts × List Char} (some' : row.shown otherForms = some shown) :
    signatureBlock row.details ≠ none := by
  intro absent
  simp only [ApprovalRow.shown, absent, Option.bind_eq_bind, Option.bind_none, reduceCtorEq] at some'

theorem shown_of_incomplete {block : List (String × Json)} (present : signatureBlock row.details = some block)
    (incomplete : signedAtRaw block = none ∨ valueText block = none) : row.shown otherForms = none := by
  rcases incomplete with stamp | value
  · simp only [ApprovalRow.shown, present, stamp, Option.bind_eq_bind, Option.bind_some, Option.bind_none]
  · simp only [ApprovalRow.shown, present, value, Option.bind_eq_bind, Option.bind_some, Option.bind_none, Option.bind_fun_none]

/-- An approval row verifies exactly while it shows what was signed. -/
theorem signatures_sound (genuine : Genuine mac otherForms log row) (collisionless : Collisionless mac otherForms log row) :
    SignaturesSound mac otherForms log row := by
  have verifies := verifies_iff_untouched genuine collisionless
  refine ⟨?total, check_unsigned, ?valid, ?invalid, ?altered, ?incomplete, ?stored⟩
  case total =>
    cases present : signatureBlock row.details with
    | none => exact ⟨_, check_unsigned present⟩
    | some block =>
      obtain ⟨raw, ⟨valid, -⟩ | ⟨invalid, -⟩⟩ := @check_signed mac otherForms row _ present
      · exact ⟨_, valid⟩
      · exact ⟨_, invalid⟩
  case valid =>
    intro untouched
    exact check_of_verifies (verifies.mpr untouched)
  case invalid =>
    intro present touched
    exact check_of_fails present fun holds => touched (verifies.mp holds)
  case altered =>
    intro A logged facts value shown touched kept
    refine check_of_fails (present_of_shown shown) ?_
    rintro ⟨facts', value', shown', keyed, signed⟩
    rw [shown, Option.some.injEq, Prod.mk.injEq] at shown'
    obtain ⟨rfl, rfl⟩ := shown'
    rcases kept with digest | kept
    · exact touched (untouched_of_verifies collisionless logged shown keyed signed digest.symm)
    · have same := A.signed
      rw [← kept.facts_eq, ← kept.key, signed] at same
      exact touched ⟨facts, value, shown, Except.ok.inj same, kept⟩
  case incomplete =>
    intro block present incomplete
    refine check_of_fails (by rw [present]; exact Option.some_ne_none block) ?_
    rintro ⟨facts, value, shown, -⟩
    rw [shown_of_incomplete present incomplete] at shown
    cases shown
  case stored =>
    intro A _ fieldDiff oldStatus
    obtain ⟨details, written, untouched⟩ := @SignedApproval.stored mac otherForms A fieldDiff oldStatus
    obtain ⟨raw, valid⟩ := check_of_verifies (verifies_of_untouched untouched)
    exact ⟨details, raw, written, untouched, valid⟩

def approvedInvoice : List (Fin 16) :=
  [3, 15, 2, 5, 0, 4, 14, 0, 4, 15, 8, 9, 4, 1, 13, 3, 9, 10, 0, 12, 0, 3, 0, 5, 14, 8, 2, 12, 3, 3, 0, 1]

def approvingActor : List (Fin 16) :=
  [9, 11, 2, 13, 1, 12, 4, 14, 0, 10, 3, 7, 4, 11, 8, 14, 8, 13, 5, 5, 7, 15, 6, 10, 9, 0, 12, 1, 14, 2, 11, 4]

theorem approvedInvoice_length : approvedInvoice.length = 32 := rfl

theorem approvingActor_length : approvingActor.length = 32 := rfl

theorem newYear_year : 1 ≤ 2026 ∧ 2026 ≤ 9999 := by decide

theorem newYear_month : 1 ≤ 1 ∧ 1 ≤ 12 := by decide

theorem newYear_day : 1 ≤ 1 ∧ 1 ≤ daysInMonth 2026 1 := by decide

theorem midnight : 0 < microsPerDay := by decide

theorem utc_range : (0 : Int).natAbs < microsPerDay := by decide

/-- 1250.00, approved at the start of 2026. -/
def newYearApproval : ApprovalFacts where
  invoiceId := ⟨approvedInvoice, approvedInvoice_length⟩
  amountCents := 125000
  actorId := ⟨approvingActor, approvingActor_length⟩
  decision := "approved"
  timestamp := ⟨⟨⟨2026, 1, 1, newYear_year, newYear_month, newYear_day⟩, 0, midnight⟩, some ⟨0, utc_range⟩⟩

/-- The digest of `newYearApproval` under the key `signing-key`. -/
def approvalDigest : List Char := "16e161c5b4002c8fd9be10c17aced2463f5c1956b20187c8079c18fd1c800f37".toList

theorem approvalDigest_length : approvalDigest.length = 64 := (congrArg List.length String.toList_ofList).trans rfl

theorem approvalDigest_hex : ∀ c ∈ approvalDigest, c ∈ "0123456789abcdef".toList := by
  have digits : "0123456789abcdef".toList =
      ['0', '1', '2', '3', '4', '5', '6', '7', '8', '9', 'a', 'b', 'c', 'd', 'e', 'f'] := String.toList_ofList
  have all : (approvalDigest.all fun c => "0123456789abcdef".toList.contains c) = true := by
    rw [digits]
    exact (congrArg (List.all · _) String.toList_ofList).trans rfl
  intro c member
  exact List.contains_iff_mem.mp (List.all_eq_true.mp all c member)

def approvalHmac : Hmac where
  digest := fun _ _ => approvalDigest
  length := fun _ _ => approvalDigest_length
  hex := fun _ _ => approvalDigest_hex

theorem newYear_keyed : "signing-key" ≠ "" := by decide

theorem newYear_signed : signApproval approvalHmac newYearApproval "signing-key" = .ok approvalDigest :=
  (signApproval_eq_ok newYear_keyed).mpr ⟨_, canonicalPayload_eq_ok.mpr ⟨by decide, rfl⟩, rfl⟩

def newYearSigned : SignedApproval approvalHmac where
  facts := newYearApproval
  key := "signing-key"
  digest := approvalDigest
  aware := rfl
  keyed := newYear_keyed
  signed := newYear_signed

theorem new_year_verifies : ∃ details, approvalDetails approvalHmac newYearApproval "signing-key" none "pending_approval" = .ok details ∧
    SignaturesSound approvalHmac (fun _ => none) [newYearSigned] (newYearSigned.rowWith details) := by
  obtain ⟨details, written, facts, value, shown, digest, kept⟩ :=
    @SignedApproval.stored approvalHmac (fun _ => none) newYearSigned none "pending_approval"
  have same : ∀ facts' value', (newYearSigned.rowWith details).shown (fun _ => none) = some (facts', value') →
      facts' = newYearSigned.facts ∧ value' = newYearSigned.digest := by
    intro facts' value' other
    rw [shown, Option.some.injEq, Prod.mk.injEq] at other
    exact ⟨by rw [← other.1, kept.facts_eq], by rw [← other.2, digest]⟩
  refine ⟨details, written, signatures_sound ?_ ?_⟩
  · intro facts' value' message other _ _
    exact ⟨newYearSigned, List.mem_singleton_self _, (same facts' value' other).2.symm⟩
  · intro facts' value' message other payload A logged _
    rw [List.mem_singleton.mp logged, ← (same facts' value' other).1]
    exact ⟨rfl, payload⟩

end Payables.Signing
