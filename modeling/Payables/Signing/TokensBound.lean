import Payables.Lib.Raising
import Payables.Signing.Tokens

namespace Payables.Signing

open Lib

section Body

variable {payload : List (String × Json)}

theorem sortKeys_perm (payload : List (String × Json)) : (Json.sortKeys payload).Perm payload := List.perm_insertionSort _ _

theorem chars_map (text : List Char) : (text.map Char.toNat).map Char.ofNat = text := by
  rw [List.map_map]
  exact List.map_id'' (fun c => Char.ofNat_toNat c) text

theorem bytes_small (plain : ∀ field ∈ payload, Json.IsPlain field.2) :
    ∀ byte ∈ (Json.dumps (.object payload)).map Char.toNat, 0 < byte ∧ byte < 128 := by
  intro byte member
  obtain ⟨c, inside, rfl⟩ := List.mem_map.mp member
  have shown := Json.isTextChar_object plain c inside
  rw [Json.IsTextChar] at shown
  omega

theorem sorted_plain (plain : ∀ field ∈ payload, Json.IsPlain field.2) : ∀ field ∈ Json.sortKeys payload, Json.IsPlain field.2 :=
  fun field member => plain field ((sortKeys_perm payload).mem_iff.mp member)

theorem encodeBody_eq (plain : ∀ field ∈ payload, Json.IsPlain field.2) :
    encodeBody payload = Base64.digits ((Json.dumps (.object (Json.sortKeys payload))).map Char.toNat) :=
  Base64.rstrip_encode fun byte member => by
    have small := bytes_small (sorted_plain plain) byte member
    omega

/-- The body of a token reads back as its payload. -/
theorem loadsBody_encodeBody (runtime : Runtime) (plain : ∀ field ∈ payload, Json.IsPlain field.2)
    (distinct : (payload.map Prod.fst).Nodup) :
    loadsBody runtime (encodeBody payload) = .ok (.object (Json.sortKeys payload)) := by
  have small := bytes_small (sorted_plain plain)
  have keys : ((Json.sortKeys payload).map Prod.fst).Nodup := (((sortKeys_perm payload).map _).nodup_iff).mpr distinct
  have bytes : Base64.decode (encodeBody payload ++ Base64.padding (encodeBody payload).length) =
      some ((Json.dumps (.object (Json.sortKeys payload))).map Char.toNat) := by
    rw [encodeBody_eq plain]
    exact Base64.read_digits fun byte member => lt_trans (small byte member).2 (by omega)
  have ascii : ((Json.dumps (.object (Json.sortKeys payload))).map Char.toNat).all (fun byte => 0 < byte && byte < 128) = true := by
    refine List.all_eq_true.mpr fun byte member => ?_
    have bounds := small byte member
    simp [bounds]
  have loaded := Json.loads_dumps runtime.floatOf (sorted_plain plain) keys
  simp only [loadsBody, bytes, raising, bind, Except.bind, if_pos ascii, chars_map, loaded]

theorem encodeBody_ascii (plain : ∀ field ∈ payload, Json.IsPlain field.2) : (encodeBody payload).all isAscii = true := by
  refine List.all_eq_true.mpr fun c member => ?_
  rw [encodeBody_eq plain] at member
  obtain ⟨n, bound, rfl⟩ := Base64.mem_digits (fun byte inside => lt_trans (bytes_small (sorted_plain plain) byte inside).2 (by omega))
    member
  exact decide_eq_true (Base64.encodeSextet_ascii n bound)

theorem encodeBody_ne_nil (plain : ∀ field ∈ payload, Json.IsPlain field.2) : encodeBody payload ≠ [] := by
  rw [encodeBody_eq plain, Json.dumps, List.map_cons]
  generalize (Json.joined (Json.dumpsFields (Json.sortKeys payload)) ++ [Char.ofNat 125]).map Char.toNat = rest
  cases rest with
  | nil => exact List.cons_ne_nil _ _
  | cons b rest =>
    cases rest with
    | nil => exact List.cons_ne_nil _ _
    | cons c rest => exact List.cons_ne_nil _ _

end Body

section Split

variable {token body sig : List Char}

theorem splitToken_none : splitToken token = none ↔ '.' ∉ token := by
  unfold splitToken
  split
  next dotted => simp [dotted]
  next plain => simp [plain]

/-- The last dot of a token is the one behind which there is none. -/
theorem splitToken_eq_some : splitToken token = some (body, sig) ↔ token = body ++ '.' :: sig ∧ '.' ∉ sig := by
  have taken : ∀ rest front : List Char, '.' ∉ rest → (rest ++ '.' :: front).takeWhile (· != '.') = rest := by
    intro rest front free
    have all : ∀ c ∈ rest, (c != '.') = true := fun c member => bne_iff_ne.mpr fun same => free (same ▸ member)
    rw [List.takeWhile_append_of_pos all, List.takeWhile_cons_of_neg (by simp), List.append_nil]
  have dropped : ∀ rest front : List Char, '.' ∉ rest → (rest ++ '.' :: front).dropWhile (· != '.') = '.' :: front := by
    intro rest front free
    have all : ∀ c ∈ rest, (c != '.') = true := fun c member => bne_iff_ne.mpr fun same => free (same ▸ member)
    rw [List.dropWhile_append_of_pos all, List.dropWhile_cons_of_neg (by simp)]
  have made : ∀ {body sig : List Char}, '.' ∉ sig → splitToken (body ++ '.' :: sig) = some (body, sig) := by
    intro body sig free
    have free' : '.' ∉ sig.reverse := by rwa [List.mem_reverse]
    have turned : (body ++ '.' :: sig).reverse = sig.reverse ++ '.' :: body.reverse := by simp
    rw [splitToken, if_pos (by simp), turned, taken _ _ free', dropped _ _ free', List.drop_succ_cons, List.drop_zero,
      List.reverse_reverse, List.reverse_reverse]
  constructor
  · intro split
    have dotted : '.' ∈ token := by
      by_contra plain
      rw [splitToken_none.mpr plain] at split
      cases split
    -- the last dot is the first one from the end
    obtain ⟨rest, front, parts, free⟩ := List.eq_append_cons_of_mem (List.mem_reverse.mpr dotted)
    have whole : token = front.reverse ++ '.' :: rest.reverse := by
      rw [← List.reverse_reverse token, parts]
      simp
    have free' : '.' ∉ rest.reverse := by rwa [List.mem_reverse]
    rw [whole, made free', Option.some.injEq, Prod.mk.injEq] at split
    obtain ⟨rfl, rfl⟩ := split
    exact ⟨whole, free'⟩
  · rintro ⟨rfl, free⟩
    exact made free

end Split

section Payloads

theorem actionPayload_plain (mint : ActionMint) : ∀ field ∈ mint.payload, Json.IsPlain field.2 := by
  intro field member
  simp only [ActionMint.payload, List.mem_cons, List.not_mem_nil, or_false] at member
  rcases member with rfl | rfl | rfl | rfl | rfl | rfl | rfl <;> trivial

theorem linkPayload_plain (mint : LinkMint) : ∀ field ∈ mint.payload, Json.IsPlain field.2 := by
  intro field member
  simp only [LinkMint.payload, List.mem_cons, List.not_mem_nil, or_false] at member
  rcases member with rfl | rfl | rfl | rfl <;> trivial

theorem actionPayload_distinct (mint : ActionMint) : (mint.payload.map Prod.fst).Nodup := by
  have keys : mint.payload.map Prod.fst = ["t", "i", "a", "act", "ch", "exp", "jti"] := rfl
  rw [keys]
  decide

theorem linkPayload_distinct (mint : LinkMint) : (mint.payload.map Prod.fst).Nodup := by
  have keys : mint.payload.map Prod.fst = ["p", "c", "exp", "jti"] := rfl
  rw [keys]
  decide

theorem actionPayload_sorted (mint : ActionMint) : Json.sortKeys mint.payload =
    [("a", uuidJson mint.actorId), ("act", .str mint.action), ("ch", .str mint.channel), ("exp", .int mint.exp),
      ("i", uuidJson mint.invoiceId), ("jti", .str mint.jti), ("t", .str mint.tenantSlug)] := by
  simp [Json.sortKeys, ActionMint.payload]

theorem linkPayload_sorted (mint : LinkMint) : Json.sortKeys mint.payload =
    [("c", uuidJson mint.childOrgId), ("exp", .int mint.exp), ("jti", .str mint.jti), ("p", .str "partner_link")] := by
  simp [Json.sortKeys, LinkMint.payload]

variable (runtime : Runtime)

theorem uuidOf_uuidJson (id : Uuid) : uuidOf runtime (uuidJson id) = .ok id := by
  rw [uuidOf, uuidJson, Json.toText, String.toList_ofList, Uuid.parse_text]
  rfl

theorem textOf_str (text : String) : textOf (.str text) = text := String.ofList_toList

/-- The facts that an action token signs. -/
def ActionMint.facts (mint : ActionMint) : ActionToken :=
  ⟨mint.tenantSlug, mint.invoiceId, mint.actorId, mint.action, mint.jti, mint.exp, mint.channel⟩

def LinkMint.facts (mint : LinkMint) : PartnerLinkToken := ⟨mint.childOrgId, mint.jti, mint.exp⟩

/-- The payload of an action token, as it is read back. -/
def ActionMint.signed (mint : ActionMint) : Json :=
  .object [("a", uuidJson mint.actorId), ("act", .str mint.action), ("ch", .str mint.channel), ("exp", .int mint.exp),
    ("i", uuidJson mint.invoiceId), ("jti", .str mint.jti), ("t", .str mint.tenantSlug)]

def LinkMint.signed (mint : LinkMint) : Json :=
  .object [("c", uuidJson mint.childOrgId), ("exp", .int mint.exp), ("jti", .str mint.jti), ("p", .str "partner_link")]

theorem loadsBody_action (mint : ActionMint) : loadsBody runtime (encodeBody mint.payload) = .ok mint.signed := by
  rw [loadsBody_encodeBody runtime (actionPayload_plain mint) (actionPayload_distinct mint), actionPayload_sorted, ActionMint.signed]

theorem loadsBody_link (mint : LinkMint) : loadsBody runtime (encodeBody mint.payload) = .ok mint.signed := by
  rw [loadsBody_encodeBody runtime (linkPayload_plain mint) (linkPayload_distinct mint), linkPayload_sorted, LinkMint.signed]

theorem actionFacts_signed (mint : ActionMint) (channel : String) :
    actionFacts runtime mint.signed (.str mint.action) channel = .ok { mint.facts with channel } := by
  have exp : getItem mint.signed "exp" = .ok (.int mint.exp) := rfl
  have tenant : getItem mint.signed "t" = .ok (.str mint.tenantSlug) := rfl
  have invoice : getItem mint.signed "i" = .ok (uuidJson mint.invoiceId) := rfl
  have actor : getItem mint.signed "a" = .ok (uuidJson mint.actorId) := rfl
  have jti : getItem mint.signed "jti" = .ok (.str mint.jti) := rfl
  simp only [actionFacts, exp, tenant, invoice, actor, jti, bind, Except.bind, intOf, uuidOf_uuidJson, textOf_str]
  rfl

theorem decodeAction_action (mint : ActionMint) (channel : String) :
    decodeAction runtime channel (encodeBody mint.payload) =
      .ok (if isValidAction mint.action = true ∧ mint.channel = channel then some mint.facts else none) := by
  have action : getItem mint.signed "act" = .ok (.str mint.action) := rfl
  have surface : getField mint.signed "ch" = .ok (some (.str mint.channel)) := rfl
  have facts := actionFacts_signed runtime mint mint.channel
  simp only [decodeAction, loadsBody_action, action, surface, bind, Except.bind, actionAllowed, Option.getD_some, textOf_str, facts]
  by_cases valid : isValidAction mint.action = true
  · by_cases same : mint.channel = channel
    · simp only [valid, same, and_self, if_true, Bool.not_true, ne_eq, not_true_eq_false, decide_false, Bool.or_self,
        Bool.false_eq_true, if_false]
      rw [← same]
      rfl
    · simp only [valid, same, and_false, if_false, Bool.not_true, ne_eq, not_false_eq_true, decide_true, Bool.or_true, if_true]
      rfl
  · simp only [valid, Bool.not_false, Bool.true_or, if_true]
    rfl

/-- A link code has no action. -/
theorem decodeAction_link (mint : LinkMint) (channel : String) :
    decodeAction runtime channel (encodeBody mint.payload) = .error (.uncaught "KeyError") := by
  have action : getItem mint.signed "act" = .error (.uncaught "KeyError") := rfl
  simp only [decodeAction, loadsBody_link, action, bind, Except.bind]

theorem decodeLink_link (mint : LinkMint) : decodeLink runtime (encodeBody mint.payload) = .ok (some mint.facts) := by
  have purpose : getField mint.signed "p" = .ok (some (.str "partner_link")) := rfl
  have exp : getItem mint.signed "exp" = .ok (.int mint.exp) := rfl
  have child : getItem mint.signed "c" = .ok (uuidJson mint.childOrgId) := rfl
  have jti : getItem mint.signed "jti" = .ok (.str mint.jti) := rfl
  have facts : linkFacts runtime mint.signed = .ok mint.facts := by
    simp only [linkFacts, exp, child, jti, bind, Except.bind, intOf, uuidOf_uuidJson, textOf_str]
    rfl
  simp only [decodeLink, loadsBody_link, purpose, bind, Except.bind, isText, beq_self_eq_true, Bool.not_true, Bool.false_eq_true,
    if_false, facts]
  rfl

/-- An action token has no purpose. -/
theorem decodeLink_action (mint : ActionMint) : decodeLink runtime (encodeBody mint.payload) = .ok none := by
  have purpose : getField mint.signed "p" = .ok none := rfl
  simp only [decodeLink, loadsBody_action, purpose, bind, Except.bind, isText, Bool.not_false, if_true]
  rfl

end Payloads

section Verification

variable {α : Type} (mac : Hmac) (signingKey : String) (now : ℚ) (decode : List Char → Except Raised (Option α)) (exp : α → Int)

/-- What a token is split into and checked for before its signature is. -/
def Parts (token : Option String) (body sig : List Char) : Prop :=
  splitToken (token.getD "").toList = some (body, sig) ∧ body ≠ [] ∧ sig ≠ []

theorem verifyToken_unsplit {token : Option String} (none' : ∀ body sig, ¬Parts token body sig) :
    verifyToken mac signingKey now decode exp token = .ok none := by
  rw [verifyToken]
  by_cases keyless : signingKey = ""
  · rw [if_pos keyless]
  · rw [if_neg keyless]
    cases parts : splitToken (token.getD "").toList with
    | none => rfl
    | some pair =>
      obtain ⟨body, sig⟩ := pair
      have empty : body = [] ∨ sig = [] := by
        by_contra both
        exact none' body sig ⟨parts, not_or.mp both⟩
      simp only [if_pos empty]

theorem verifyToken_parts {token : Option String} {body sig : List Char} (keyed : signingKey ≠ "") (parts : Parts token body sig) :
    verifyToken mac signingKey now decode exp token = (do
      let expected ← sign mac body signingKey
      let same ← compareDigest expected sig
      if !same then return none
      else do
        let decoded ← rejecting (decode body)
        return decoded.filter fun facts => !decide ((exp facts : ℚ) < now)) := by
  obtain ⟨split, some', some''⟩ := parts
  rw [verifyToken, if_neg keyed, split]
  exact if_neg (not_or.mpr ⟨some', some''⟩)

/-- A token with a character beyond ASCII in either part raises. -/
theorem verifyToken_raises {token : Option String} {body sig : List Char} (keyed : signingKey ≠ "") (parts : Parts token body sig)
    (foreign : (body ++ sig).all isAscii = false) : ∃ kind, verifyToken mac signingKey now decode exp token = .error (.uncaught kind) := by
  rw [verifyToken_parts mac signingKey now decode exp keyed parts]
  by_cases ascii : body.all isAscii = true
  · rw [List.all_append, ascii, Bool.true_and] at foreign
    have signed : sign mac body signingKey = .ok (mac.digest signingKey body) := if_pos ascii
    have raises : compareDigest (mac.digest signingKey body) sig = .error (.uncaught "TypeError") := compareDigest_raises foreign
    refine ⟨"TypeError", ?_⟩
    simp only [signed, raises, bind, Except.bind]
  · have raises : sign mac body signingKey = .error (.uncaught "UnicodeEncodeError") := if_neg ascii
    refine ⟨"UnicodeEncodeError", ?_⟩
    simp only [raises, bind, Except.bind]

theorem verifyToken_ascii {token : Option String} {body sig : List Char} (keyed : signingKey ≠ "") (parts : Parts token body sig)
    (ascii : (body ++ sig).all isAscii = true) :
    verifyToken mac signingKey now decode exp token =
      if mac.digest signingKey body = sig then do
        let decoded ← rejecting (decode body)
        return decoded.filter fun facts => !decide ((exp facts : ℚ) < now)
      else .ok none := by
  rw [List.all_append, Bool.and_eq_true] at ascii
  have signed : sign mac body signingKey = .ok (mac.digest signingKey body) := if_pos ascii.1
  have compared := compareDigest_eq_ok (mac.digest_ascii signingKey body) ascii.2
  rw [verifyToken_parts mac signingKey now decode exp keyed parts]
  simp only [signed, compared, bind, Except.bind]
  by_cases same : mac.digest signingKey body = sig
  · simp only [same, beq_self_eq_true, Bool.not_true, Bool.false_eq_true, if_false, if_true]
  · have apart : (mac.digest signingKey body == sig) = false := beq_eq_false_iff_ne.mpr same
    simp only [apart, if_neg same, Bool.not_false, if_true]
    rfl

end Verification

/-- What has been signed with a key. -/
structure Log where
  actions : List ActionMint
  links : List LinkMint

/-- A body that was signed: of an action token that was minted, or of a link code. -/
def Log.Signed (log : Log) (body : List Char) : Prop :=
  (∃ mint ∈ log.actions, isValidAction mint.action = true ∧ encodeBody mint.payload = body) ∨
    ∃ mint ∈ log.links, encodeBody mint.payload = body

/-- Whoever presents the token has no signature of a body that was not signed. -/
def Unforged (mac : Hmac) (signingKey : String) (log : Log) (token : Option String) : Prop :=
  ∀ body sig, Parts token body sig → mac.digest signingKey body = sig → log.Signed body

/-- The token has no signature, or is written in ASCII. -/
def Readable (token : Option String) : Prop := ∀ body sig, Parts token body sig → (body ++ sig).all isAscii = true

variable (runtime : Runtime) (mac : Hmac) (signingKey : String) (log : Log) (token : Option String) (channel : String) (now : ℚ)

/-- Verification is total, and binds what it returns to what was signed. -/
structure Binding : Prop where
  action : ∃ result, verifyActionToken runtime mac token signingKey channel now = .ok result ∧
    ∀ decoded, result = some decoded → ∃ mint ∈ log.actions, ∃ body sig, Parts token body sig ∧
      encodeBody mint.payload = body ∧ mac.digest signingKey body = sig ∧ decoded = mint.facts ∧
      decoded.channel = channel ∧ isValidAction decoded.action = true ∧ now ≤ decoded.exp
  link : ∃ result, verifyLinkCode runtime mac token signingKey now = .ok result ∧
    ∀ decoded, result = some decoded → ∃ mint ∈ log.links, ∃ body sig, Parts token body sig ∧
      encodeBody mint.payload = body ∧ mac.digest signingKey body = sig ∧ decoded = mint.facts ∧ now ≤ decoded.exp
  mintedAction : ∀ mint : ActionMint, isValidAction mint.action = true →
    ∃ minted, buildActionToken mac signingKey mint = .ok (some minted) ∧ ∀ surface time,
      verifyActionToken runtime mac (some (String.ofList minted)) signingKey surface time =
        .ok (if mint.channel = surface ∧ time ≤ mint.exp then some mint.facts else none)
  mintedLink : ∀ mint : LinkMint, ∃ minted, buildLinkCode mac signingKey mint = .ok (some minted) ∧ ∀ time,
    verifyLinkCode runtime mac (some (String.ofList minted)) signingKey time =
      .ok (if time ≤ mint.exp then some mint.facts else none)

variable {runtime mac signingKey log token channel now}

theorem rejecting_ok {α : Type} (result : Option α) : rejecting (Except.ok result) = .ok result := rfl

theorem rejecting_keyError {α : Type} : rejecting (Except.error (.uncaught "KeyError") : Except Raised (Option α)) = .ok none := by
  simp [rejecting]

theorem filter_unexpired {α : Type} (exp : α → Int) (decoded : Option α) (facts : α) :
    (decoded.filter fun facts => !decide ((exp facts : ℚ) < now)) = some facts ↔ decoded = some facts ∧ now ≤ exp facts := by
  rw [Option.filter_eq_some_iff, Bool.not_eq_true', decide_eq_false_iff_not, not_lt]

theorem filter_facts {α : Type} (exp : α → Int) (facts : α) :
    ((some facts).filter fun facts => !decide ((exp facts : ℚ) < now)) = if now ≤ exp facts then some facts else none := by
  by_cases expired : (exp facts : ℚ) < now
  · rw [if_neg (not_le.mpr expired)]
    refine Option.filter_some_neg ?_
    rw [Bool.not_eq_false', decide_eq_true_eq]
    exact expired
  · rw [if_pos (not_lt.mp expired)]
    refine Option.filter_some_pos ?_
    rw [Bool.not_eq_true', decide_eq_false_iff_not]
    exact expired

/-- The token of a payload, split again. -/
theorem parts_signed {payload : List (String × Json)} (plain : ∀ field ∈ payload, Json.IsPlain field.2) :
    Parts (some (String.ofList (encodeBody payload ++ '.' :: mac.digest signingKey (encodeBody payload)))) (encodeBody payload)
      (mac.digest signingKey (encodeBody payload)) := by
  refine ⟨?_, encodeBody_ne_nil plain, mac.digest_ne_nil _ _⟩
  rw [Option.getD_some, String.toList_ofList]
  exact splitToken_eq_some.mpr ⟨rfl, mac.dot_not_mem_digest _ _⟩

theorem signedToken_ok {payload : List (String × Json)} (plain : ∀ field ∈ payload, Json.IsPlain field.2) :
    signedToken mac signingKey payload = .ok (encodeBody payload ++ '.' :: mac.digest signingKey (encodeBody payload)) := by
  have signed : sign mac (encodeBody payload) signingKey = .ok (mac.digest signingKey (encodeBody payload)) :=
    if_pos (encodeBody_ascii plain)
  rw [signedToken, signed]
  rfl

/-- A token as it was minted passes its signature. -/
theorem verifyToken_signed {α : Type} (decode : List Char → Except Raised (Option α)) (exp : α → Int) (keyed : signingKey ≠ "")
    {payload : List (String × Json)} (plain : ∀ field ∈ payload, Json.IsPlain field.2) {decoded : Option α}
    (decodes : decode (encodeBody payload) = .ok decoded) :
    verifyToken mac signingKey now decode exp
      (some (String.ofList (encodeBody payload ++ '.' :: mac.digest signingKey (encodeBody payload)))) =
      .ok (decoded.filter fun facts => !decide ((exp facts : ℚ) < now)) := by
  have ascii : (encodeBody payload ++ mac.digest signingKey (encodeBody payload)).all isAscii = true := by
    rw [List.all_append, encodeBody_ascii plain, mac.digest_ascii, Bool.and_self]
  rw [verifyToken_ascii mac signingKey now decode exp keyed (parts_signed plain) ascii, if_pos rfl, decodes, rejecting_ok]
  rfl

theorem minted_action (keyed : signingKey ≠ "") (mint : ActionMint) (valid : isValidAction mint.action = true) :
    ∃ minted, buildActionToken mac signingKey mint = .ok (some minted) ∧ ∀ surface time,
      verifyActionToken runtime mac (some (String.ofList minted)) signingKey surface time =
        .ok (if mint.channel = surface ∧ time ≤ mint.exp then some mint.facts else none) := by
  have plain := actionPayload_plain mint
  refine ⟨encodeBody mint.payload ++ '.' :: mac.digest signingKey (encodeBody mint.payload), ?_, fun surface time => ?_⟩
  · rw [buildActionToken, if_neg (by simp [keyed, valid]), signedToken_ok plain]
    rfl
  · rw [verifyActionToken, verifyToken_signed _ _ keyed plain (decodeAction_action runtime mint surface)]
    by_cases same : mint.channel = surface
    · rw [if_pos ⟨valid, same⟩, filter_facts]
      simp only [same, true_and]
      rfl
    · rw [if_neg fun both => same both.2, if_neg fun both => same both.1, Option.filter_none]

theorem minted_link (keyed : signingKey ≠ "") (mint : LinkMint) :
    ∃ minted, buildLinkCode mac signingKey mint = .ok (some minted) ∧ ∀ time,
      verifyLinkCode runtime mac (some (String.ofList minted)) signingKey time =
        .ok (if time ≤ mint.exp then some mint.facts else none) := by
  have plain := linkPayload_plain mint
  refine ⟨encodeBody mint.payload ++ '.' :: mac.digest signingKey (encodeBody mint.payload), ?_, fun time => ?_⟩
  · rw [buildLinkCode, if_neg keyed, signedToken_ok plain]
    rfl
  · rw [verifyLinkCode, verifyToken_signed _ _ keyed plain (decodeLink_link runtime mint), filter_facts]
    rfl

theorem binding_iff (keyed : signingKey ≠ "") (unforged : Unforged mac signingKey log token) :
    Binding runtime mac signingKey log token channel now ↔ Readable token := by
  constructor
  · rintro ⟨⟨result, ok, -⟩, -, -, -⟩ body sig parts
    by_contra foreign
    obtain ⟨kind, raised⟩ := verifyToken_raises mac signingKey now (decodeAction runtime channel) ActionToken.exp keyed parts
      (Bool.of_not_eq_true foreign)
    rw [verifyActionToken, raised] at ok
    cases ok
  · intro readable
    refine ⟨?_, ?_, fun mint valid => minted_action keyed mint valid, fun mint => minted_link keyed mint⟩
    · by_cases split : ∃ body sig, Parts token body sig
      · obtain ⟨body, sig, parts⟩ := split
        have evaluated := verifyToken_ascii mac signingKey now (decodeAction runtime channel) ActionToken.exp keyed parts
          (readable body sig parts)
        rw [verifyActionToken, evaluated]
        by_cases signed : mac.digest signingKey body = sig
        · rw [if_pos signed]
          rcases unforged body sig parts signed with ⟨mint, minted, valid, rfl⟩ | ⟨mint, minted, rfl⟩
          · rw [decodeAction_action, rejecting_ok]
            refine ⟨_, rfl, fun decoded found => ?_⟩
            obtain ⟨here, unexpired⟩ := (filter_unexpired ActionToken.exp _ decoded).mp found
            by_cases same : mint.channel = channel
            · rw [if_pos ⟨valid, same⟩, Option.some.injEq] at here
              subst here
              exact ⟨mint, minted, _, sig, parts, rfl, signed, rfl, same, valid, unexpired⟩
            · rw [if_neg fun both => same both.2] at here
              cases here
          · rw [decodeAction_link, rejecting_keyError]
            exact ⟨none, rfl, fun decoded found => by cases found⟩
        · rw [if_neg signed]
          exact ⟨none, rfl, fun decoded found => by cases found⟩
      · have unsplit : ∀ body sig, ¬Parts token body sig := fun body sig parts => split ⟨body, sig, parts⟩
        rw [verifyActionToken, verifyToken_unsplit _ _ _ _ _ unsplit]
        exact ⟨none, rfl, fun decoded found => by cases found⟩
    · by_cases split : ∃ body sig, Parts token body sig
      · obtain ⟨body, sig, parts⟩ := split
        have evaluated := verifyToken_ascii mac signingKey now (decodeLink runtime) PartnerLinkToken.exp keyed parts
          (readable body sig parts)
        rw [verifyLinkCode, evaluated]
        by_cases signed : mac.digest signingKey body = sig
        · rw [if_pos signed]
          rcases unforged body sig parts signed with ⟨mint, minted, valid, rfl⟩ | ⟨mint, minted, rfl⟩
          · rw [decodeLink_action, rejecting_ok]
            exact ⟨none, rfl, fun decoded found => by cases found⟩
          · rw [decodeLink_link, rejecting_ok]
            refine ⟨_, rfl, fun decoded found => ?_⟩
            obtain ⟨here, unexpired⟩ := (filter_unexpired PartnerLinkToken.exp _ decoded).mp found
            rw [Option.some.injEq] at here
            subst here
            exact ⟨mint, minted, _, sig, parts, rfl, signed, rfl, unexpired⟩
        · rw [if_neg signed]
          exact ⟨none, rfl, fun decoded found => by cases found⟩
      · have unsplit : ∀ body sig, ¬Parts token body sig := fun body sig parts => split ⟨body, sig, parts⟩
        rw [verifyLinkCode, verifyToken_unsplit _ _ _ _ _ unsplit]
        exact ⟨none, rfl, fun decoded found => by cases found⟩

theorem parts_unique {body sig body' sig' : List Char} (one : Parts token body sig) (other : Parts token body' sig') :
    body = body' ∧ sig = sig' := by
  have same := Option.some.inj (one.1.symm.trans other.1)
  exact ⟨congrArg Prod.fst same, congrArg Prod.snd same⟩

def emailInvoice : List (Fin 16) :=
  [3, 15, 2, 5, 0, 4, 14, 0, 4, 15, 8, 9, 4, 1, 13, 3, 9, 10, 0, 12, 0, 3, 0, 5, 14, 8, 2, 12, 3, 3, 0, 1]

def emailActor : List (Fin 16) :=
  [9, 11, 2, 13, 1, 12, 4, 14, 0, 10, 3, 7, 4, 11, 8, 14, 8, 13, 5, 5, 7, 15, 6, 10, 9, 0, 12, 1, 14, 2, 11, 4]

theorem emailInvoice_length : emailInvoice.length = 32 := rfl

theorem emailActor_length : emailActor.length = 32 := rfl

/-- An approval link for three days. -/
def emailMint : ActionMint where
  tenantSlug := "acme"
  invoiceId := ⟨emailInvoice, emailInvoice_length⟩
  actorId := ⟨emailActor, emailActor_length⟩
  action := "approve"
  ttlHours := 72
  channel := "email"
  issued := 1767225600
  jti := "q0Xw3mZ-81bK"

/-- The digest of the body of `emailMint` under the key `signing-key`. -/
def emailDigest : List Char := "95d8a0c7219872a4994b6b838666e114c1b582b35cbadb0c4c8c3122b6786e55".toList

theorem emailDigest_length : emailDigest.length = 64 := (congrArg List.length String.toList_ofList).trans rfl

theorem emailDigest_hex : ∀ c ∈ emailDigest, c ∈ "0123456789abcdef".toList := by
  have digits : "0123456789abcdef".toList =
      ['0', '1', '2', '3', '4', '5', '6', '7', '8', '9', 'a', 'b', 'c', 'd', 'e', 'f'] := String.toList_ofList
  have all : (emailDigest.all fun c => "0123456789abcdef".toList.contains c) = true := by
    rw [digits]
    exact (congrArg (List.all · _) String.toList_ofList).trans rfl
  intro c member
  exact List.contains_iff_mem.mp (List.all_eq_true.mp all c member)

def emailHmac : Hmac where
  digest := fun _ _ => emailDigest
  length := fun _ _ => emailDigest_length
  hex := fun _ _ => emailDigest_hex

/-- Without floats, bytes beyond ASCII and numbers in texts. -/
def plainRuntime : Runtime where
  floatOf := fun _ => ⟨"0.0", by decide⟩
  intOfFloat := fun _ => .ok 0
  intOfText := fun _ => none
  decodeOther := fun _ => none
  otherDigits := fun _ => none

theorem email_token_binds : Binding plainRuntime emailHmac "signing-key" ⟨[emailMint], []⟩
    (some (String.ofList (encodeBody emailMint.payload ++ '.' :: emailDigest))) "email" 1767225601 := by
  have plain := actionPayload_plain emailMint
  have parts : Parts (some (String.ofList (encodeBody emailMint.payload ++ '.' :: emailDigest))) (encodeBody emailMint.payload)
      emailDigest := @parts_signed emailHmac "signing-key" _ plain
  refine (binding_iff (by decide) fun body sig other _ => ?_).mpr fun body sig other => ?_
  · obtain ⟨front, -⟩ := parts_unique parts other
    exact .inl ⟨emailMint, List.mem_singleton_self _, by decide, front⟩
  · obtain ⟨front, back⟩ := parts_unique parts other
    rw [← front, ← back, List.all_append, encodeBody_ascii plain, Bool.true_and]
    exact emailHmac.digest_ascii "signing-key" []

/-- An accent in front of the dot. -/
theorem accented_token_raises : Unforged emailHmac "signing-key" ⟨[], []⟩ (some "é.abc") ∧
    ¬Binding plainRuntime emailHmac "signing-key" ⟨[], []⟩ (some "é.abc") "email" 0 := by
  have split : splitToken "é.abc".toList = some (['é'], ['a', 'b', 'c']) := splitToken_eq_some.mpr ⟨rfl, by decide⟩
  have parts : Parts (some "é.abc") ['é'] ['a', 'b', 'c'] := ⟨split, by decide, by decide⟩
  constructor
  · intro body sig other signed
    have short : sig.length = 3 := by rw [← (parts_unique parts other).2]; rfl
    rw [← signed, emailHmac.length] at short
    cases short
  · rintro ⟨⟨result, ok, -⟩, -, -, -⟩
    obtain ⟨kind, raised⟩ := verifyToken_raises emailHmac "signing-key" 0 (decodeAction plainRuntime "email") ActionToken.exp
      (by decide) parts (by decide)
    rw [verifyActionToken, raised] at ok
    cases ok

end Payables.Signing
