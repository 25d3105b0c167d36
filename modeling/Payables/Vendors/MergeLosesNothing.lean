import Payables.Vendors.Merge

namespace Payables.VendorMerge
open Lib

section Claim

variable {κ : VendorFkChild → Type} (timestamp : Int → ℚ) (canonicalVendorId : Nat) (ids : List Nat)

/-- A child row and what a merge leaves of it. -/
structure KeptRow {columns : Type} (row left : ChildRow columns) : Prop where
  id : left.id = row.id
  vendorId : left.vendorId = if row.vendorId.any (ids.contains ·) then some canonicalVendorId else row.vendorId
  columns : left.columns = row.columns
  updatedAt : row.vendorId.any (ids.contains ·) = false → left.updatedAt = row.updatedAt

/-- The same, with the time of the last update. -/
structure WholeRow {columns : Type} (row left : ChildRow columns) : Prop extends KeptRow canonicalVendorId ids row left where
  stamp : left.updatedAt = row.updatedAt

/-- The prior that stays for its field: the one of the canonical vendor, or else the first one of the duplicates. -/
structure StayingPrior (priors : List Prior) (prior : Prior) : Prop where
  stored : prior ∈ priors
  best : prior.vendorId = canonicalVendorId ∨ prior.vendorId ∈ ids ∧ ∀ other ∈ priors, other.fieldName = prior.fieldName →
    other.vendorId ≠ canonicalVendorId ∧ (other.vendorId ∈ ids → priorPrecedence timestamp prior ≤ priorPrecedence timestamp other)

/-- A prior and what a merge leaves of it. -/
structure KeptPrior (prior left : Prior) : Prop where
  id : left.id = prior.id
  fieldName : left.fieldName = prior.fieldName
  value : left.value = prior.value
  correctionCount : left.correctionCount = prior.correctionCount
  lastAppliedAt : left.lastAppliedAt = prior.lastAppliedAt

/-- What a merge that is accepted does, where `Kept` tells what is left of a child row. -/
structure MergesInto (Kept : ∀ {columns : Type}, ChildRow columns → ChildRow columns → Prop) (before after : Tables κ) :
    Prop where
  children : ∀ table, ∀ row ∈ after.children table, ∀ d ∈ ids, row.vendorId ≠ some d
  priors : ∀ prior ∈ after.priors, prior.vendorId ∉ ids
  kept : ∀ table, ∀ row ∈ before.children table, ∃ left ∈ after.children table, Kept row left
  onePrior : ∀ prior ∈ after.priors, ∀ other ∈ after.priors, prior.vendorId = canonicalVendorId →
    other.vendorId = canonicalVendorId → prior.fieldName = other.fieldName → prior = other
  origin : ∀ left ∈ after.priors, left.vendorId = canonicalVendorId →
    ∃ prior, StayingPrior timestamp canonicalVendorId ids before.priors prior ∧ KeptPrior prior left
  stays : ∀ prior, StayingPrior timestamp canonicalVendorId ids before.priors prior →
    ∃ left ∈ after.priors, left.vendorId = canonicalVendorId ∧ KeptPrior prior left
  again : ∀ later, mergeVendors timestamp canonicalVendorId later after ids =
    (after, .ok ⟨canonicalVendorId, distinctIds ids, [], []⟩)
  blocked : ∀ invoice ∈ before.children .invoice, ∀ vendor ∈ before.vendors, invoice.vendorId = some vendor.id →
    vendor.paymentsBlocked = true → ∀ left ∈ after.children .invoice, left.id = invoice.id →
      ∀ payee ∈ after.vendors, left.vendorId = some payee.id → payee.paymentsBlocked = true

/-- A merge either does all of it or is refused and changes nothing. -/
structure MergeSound (Kept : ∀ {columns : Type}, ChildRow columns → ChildRow columns → Prop) (now : Int) (tables : Tables κ) :
    Prop where
  accepted : ∀ result, (mergeVendors timestamp canonicalVendorId now tables ids).2 = .ok result →
    MergesInto timestamp canonicalVendorId ids Kept tables (mergeVendors timestamp canonicalVendorId now tables ids).1
  refused : ∀ raised, (mergeVendors timestamp canonicalVendorId now tables ids).2 = .error raised →
    (mergeVendors timestamp canonicalVendorId now tables ids).1 = tables

end Claim

section Requests

variable {vendors : List Vendor} {canonicalVendorId : Nat} {ids : List Nat}

theorem mem_distinctIds {d : Nat} : d ∈ distinctIds ids ↔ d ∈ ids := by
  have grows : ∀ seen : List Nat, d ∈ ids.foldl (fun seen d => if d ∈ seen then seen else seen ++ [d]) seen ↔
      d ∈ seen ∨ d ∈ ids := by
    induction ids with
    | nil => simp
    | cons first rest ih =>
      intro seen
      rw [List.foldl_cons, ih]
      by_cases known : first ∈ seen
      · rw [if_pos known, List.mem_cons]
        constructor
        · rintro (old | later)
          · exact .inl old
          · exact .inr (.inr later)
        · rintro (old | rfl | later)
          · exact .inl old
          · exact .inl known
          · exact .inr later
      · rw [if_neg known, List.mem_append, List.mem_singleton, List.mem_cons, or_assoc]
  have all := grows []
  rwa [List.mem_nil_iff, false_or] at all

/-- What a request that is not refused meets. -/
structure Accepted (vendors : List Vendor) (canonicalVendorId : Nat) (ids : List Nat) : Prop where
  apart : canonicalVendorId ∉ ids
  given : ids ≠ []
  found : ∃ canonical, vendorOf vendors canonicalVendorId = some canonical ∧ ∀ d ∈ ids, ∃ duplicate,
    vendorOf vendors d = some duplicate ∧ duplicate.entityId = canonical.entityId ∧
      (duplicate.paymentsBlocked = true → canonical.paymentsBlocked = true)

theorem mem_found {d : Nat} {vendor : Vendor} (given : d ∈ ids) (known : vendorOf vendors d = some vendor) :
    vendor ∈ ((distinctIds ids).map (vendorOf vendors)).reduceOption :=
  List.reduceOption_mem_iff.mpr (List.mem_map.mpr ⟨d, (mem_distinctIds).mpr given, known⟩)

theorem mergeRefusal_eq_none : mergeRefusal vendors canonicalVendorId ids = none ↔ Accepted vendors canonicalVendorId ids := by
  rw [mergeRefusal]
  by_cases itself : canonicalVendorId ∈ ids
  · rw [if_pos itself]
    exact ⟨fun none => absurd none (Option.some_ne_none _), fun accepted => absurd itself accepted.apart⟩
  rw [if_neg itself]
  by_cases empty : ids = []
  · rw [if_pos (by rw [empty]; rfl)]
    exact ⟨fun none => absurd none (Option.some_ne_none _), fun accepted => absurd empty accepted.given⟩
  have someIds : ¬((distinctIds ids).map (vendorOf vendors)).isEmpty = true := by
    intro nothing
    rw [List.isEmpty_iff, List.map_eq_nil_iff] at nothing
    exact empty (List.eq_nil_iff_forall_not_mem.mpr fun d given => List.not_mem_nil (nothing ▸ (mem_distinctIds).mpr given))
  rw [if_neg someIds]
  cases known : vendorOf vendors canonicalVendorId with
  | none =>
    constructor
    · exact fun none => absurd none (Option.some_ne_none _)
    · rintro ⟨-, -, canonical, found, -⟩
      cases known.symm.trans found
  | some canonical =>
    simp only
    constructor
    · intro passed
      split at passed
      · cases passed
      next present =>
      split at passed
      · cases passed
      next together =>
      split at passed
      · cases passed
      next clean =>
      refine ⟨itself, empty, canonical, known, fun d given => ?_⟩
      cases found : vendorOf vendors d with
      | none =>
        have missing : ((distinctIds ids).map (vendorOf vendors)).any Option.isNone = true :=
          List.any_eq_true.mpr ⟨none, List.mem_map.mpr ⟨d, (mem_distinctIds).mpr given, found⟩, rfl⟩
        exact absurd missing present
      | some duplicate =>
        have listed := mem_found given found
        refine ⟨duplicate, rfl, ?_, fun blocked => ?_⟩
        · by_contra other
          exact together (List.any_eq_true.mpr ⟨duplicate, listed, decide_eq_true other⟩)
        · by_contra unblocked
          rw [Bool.not_eq_true] at unblocked
          exact clean (Bool.and_eq_true_iff.mpr ⟨by rw [unblocked]; rfl, List.any_eq_true.mpr ⟨duplicate, listed, blocked⟩⟩)
    · rintro ⟨-, -, canonical', same, found⟩
      cases Option.some.inj (known.symm.trans same)
      have each : ∀ vendor ∈ ((distinctIds ids).map (vendorOf vendors)).reduceOption,
          vendor.entityId = canonical.entityId ∧ (vendor.paymentsBlocked = true → canonical.paymentsBlocked = true) := by
        intro vendor listed
        obtain ⟨d, given, here⟩ := List.mem_map.mp (List.reduceOption_mem_iff.mp listed)
        obtain ⟨duplicate, there, meets⟩ := found d (mem_distinctIds.mp given)
        cases Option.some.inj (here.symm.trans there)
        exact meets
      have present : ¬((distinctIds ids).map (vendorOf vendors)).any Option.isNone = true := by
        intro missing
        obtain ⟨_, listed, none⟩ := List.any_eq_true.mp missing
        obtain ⟨d, given, rfl⟩ := List.mem_map.mp listed
        obtain ⟨duplicate, there, -⟩ := found d (mem_distinctIds.mp given)
        rw [there] at none
        cases none
      rw [if_neg present, if_neg, if_neg]
      · intro blocks
        obtain ⟨unblocked, some⟩ := Bool.and_eq_true_iff.mp blocks
        obtain ⟨vendor, listed, blocked⟩ := List.any_eq_true.mp some
        rw [(each vendor listed).2 blocked] at unblocked
        cases unblocked
      · intro apart
        obtain ⟨vendor, listed, other⟩ := List.any_eq_true.mp apart
        exact of_decide_eq_true other (each vendor listed).1

/-- What a merge changes of the vendors is not what a request is checked against. -/
theorem Accepted.map {f : Vendor → Vendor} (accepted : Accepted vendors canonicalVendorId ids)
    (id : ∀ vendor, (f vendor).id = vendor.id) (entityId : ∀ vendor, (f vendor).entityId = vendor.entityId)
    (paymentsBlocked : ∀ vendor, (f vendor).paymentsBlocked = vendor.paymentsBlocked) :
    Accepted (vendors.map f) canonicalVendorId ids := by
  have lookup : ∀ d, vendorOf (vendors.map f) d = (vendorOf vendors d).map f := by
    intro d
    rw [vendorOf, vendorOf, List.find?_map]
    refine congrArg (Option.map f) (congrArg (fun p => vendors.find? p) (funext fun vendor => ?_))
    simp only [Function.comp_apply, id]
  obtain ⟨canonical, known, found⟩ := accepted.found
  refine ⟨accepted.apart, accepted.given, f canonical, by rw [lookup, known, Option.map_some], fun d given => ?_⟩
  obtain ⟨duplicate, there, together, clean⟩ := found d given
  refine ⟨f duplicate, by rw [lookup, there, Option.map_some], ?_, ?_⟩
  · rw [entityId, entityId, together]
  · rw [paymentsBlocked, paymentsBlocked]
    exact clean

end Requests

section Collapse

variable {timestamp : Int → ℚ} {canonicalVendorId : Nat} {duplicates : List Nat} {priors : List Prior}

theorem id_of_priorPrecedence_eq {prior other : Prior}
    (same : priorPrecedence timestamp prior = priorPrecedence timestamp other) : prior.id = other.id := by
  have first := congrArg (fun tuple : ℤ ×ₗ ℕ ×ₗ ℚ ×ₗ ℚ ×ₗ ℕ => (ofLex tuple).2) same
  have second := congrArg (fun tuple : ℕ ×ₗ ℚ ×ₗ ℚ ×ₗ ℕ => (ofLex tuple).2) first
  have third := congrArg (fun tuple : ℚ ×ₗ ℚ ×ₗ ℕ => (ofLex tuple).2) second
  exact congrArg (fun tuple : ℚ ×ₗ ℕ => (ofLex tuple).2) third

theorem winner_mem {rows : List Prior} {prior : Prior} (won : winner timestamp canonicalVendorId rows = some prior) :
    prior ∈ rows := by
  rcases Option.or_eq_some_iff.mp won with own | ⟨-, least⟩
  · exact List.mem_of_find?_eq_some own
  · exact List.argmin_mem least

theorem winner_isSome {rows : List Prior} {prior : Prior} (member : prior ∈ rows) :
    (winner timestamp canonicalVendorId rows).isSome = true := by
  rw [Option.isSome_iff_ne_none, winner, Ne, Option.or_eq_none_iff, List.argmin_eq_none]
  rintro ⟨-, rfl⟩
  cases member

theorem mem_losingPriorIds {rows : List Prior} {id : Nat} : id ∈ losingPriorIds timestamp canonicalVendorId rows ↔
    ∃ row ∈ rows, row.id = id ∧
      (winner timestamp canonicalVendorId (rows.filter fun other => other.fieldName = row.fieldName)).map (·.id) ≠ some row.id := by
  rw [losingPriorIds, List.mem_flatMap]
  constructor
  · rintro ⟨byField, listed, lost⟩
    obtain ⟨fieldName, -, rfl⟩ := List.mem_map.mp listed
    obtain ⟨row, loser, same⟩ := List.mem_map.mp lost
    obtain ⟨among, loses⟩ := List.mem_filter.mp loser
    obtain ⟨member, field⟩ := List.mem_filter.mp among
    cases of_decide_eq_true field
    exact ⟨row, member, same, of_decide_eq_true loses⟩
  · rintro ⟨row, member, same, loses⟩
    have group : (row.fieldName, rows.filter fun other => other.fieldName = row.fieldName) ∈ Sql.groupBy Prior.fieldName rows :=
      List.mem_map.mpr ⟨row.fieldName, List.mem_dedup.mpr (List.mem_map_of_mem member), rfl⟩
    have among : row ∈ rows.filter fun other => other.fieldName = row.fieldName :=
      List.mem_filter.mpr ⟨member, decide_eq_true rfl⟩
    exact ⟨_, group, List.mem_map.mpr ⟨row, List.mem_filter.mpr ⟨among, decide_eq_true loses⟩, same⟩⟩

/-- The priors of the vendors of a merge for a field. -/
def fieldRows (canonicalVendorId : Nat) (duplicates : List Nat) (priors : List Prior) (fieldName : String) : List Prior :=
  (priors.filter fun row => row.vendorId ∈ canonicalVendorId :: duplicates).filter fun row => row.fieldName = fieldName

theorem mem_fieldRows {prior : Prior} {fieldName : String} :
    prior ∈ fieldRows canonicalVendorId duplicates priors fieldName ↔
      prior ∈ priors ∧ prior.vendorId ∈ canonicalVendorId :: duplicates ∧ prior.fieldName = fieldName := by
  simp only [fieldRows, List.mem_filter, decide_eq_true_eq, and_assoc]

variable (priorIds : (priors.map (·.id)).Nodup) (priorKeys : (priors.map fun prior => (prior.vendorId, prior.fieldName)).Nodup)

include priorIds in
theorem mem_keptPriors {prior : Prior} : prior ∈ keptPriors timestamp canonicalVendorId duplicates priors ↔
    prior ∈ priors ∧ (prior.vendorId ∈ canonicalVendorId :: duplicates →
      winner timestamp canonicalVendorId (fieldRows canonicalVendorId duplicates priors prior.fieldName) = some prior) := by
  rw [keptPriors, List.mem_filter]
  refine and_congr_right fun stored => ?_
  rw [decide_eq_true_eq, mem_losingPriorIds]
  constructor
  · intro stays chosen
    by_contra loses
    refine stays ⟨prior, List.mem_filter.mpr ⟨stored, decide_eq_true chosen⟩, rfl, fun same => loses ?_⟩
    obtain ⟨best, won, same⟩ := Option.map_eq_some_iff.mp same
    have member := (mem_fieldRows.mp (winner_mem won)).1
    rw [List.inj_on_of_nodup_map priorIds member stored same] at won
    exact won
  · rintro wins ⟨row, member, same, loses⟩
    obtain ⟨stored', chosen⟩ := List.mem_filter.mp member
    cases List.inj_on_of_nodup_map priorIds stored' stored same
    refine loses ?_
    have won := wins (of_decide_eq_true chosen)
    rw [fieldRows] at won
    rw [won, Option.map_some]

include priorIds priorKeys in
/-- The winner of a field is the prior that stays for it. -/
theorem winner_eq_some_iff {prior : Prior} (chosen : prior.vendorId ∈ canonicalVendorId :: duplicates) (stored : prior ∈ priors) :
    winner timestamp canonicalVendorId (fieldRows canonicalVendorId duplicates priors prior.fieldName) = some prior ↔
      StayingPrior timestamp canonicalVendorId duplicates priors prior := by
  have member : prior ∈ fieldRows canonicalVendorId duplicates priors prior.fieldName := (mem_fieldRows).mpr ⟨stored, chosen, rfl⟩
  have rivals : ∀ other ∈ priors, other.fieldName = prior.fieldName → other.vendorId ∈ duplicates →
      other ∈ fieldRows canonicalVendorId duplicates priors prior.fieldName := fun other listed field known =>
    (mem_fieldRows).mpr ⟨listed, List.mem_cons_of_mem _ known, field⟩
  cases own : (fieldRows canonicalVendorId duplicates priors prior.fieldName).find? fun row => row.vendorId = canonicalVendorId with
  | some first =>
    have wins : winner timestamp canonicalVendorId (fieldRows canonicalVendorId duplicates priors prior.fieldName) = some first := by
      rw [winner, own, Option.some_or]
    have canonical : first.vendorId = canonicalVendorId := of_decide_eq_true (List.find?_eq_some_iff_append.mp own).1
    obtain ⟨listed, -, field⟩ := (mem_fieldRows).mp (List.mem_of_find?_eq_some own)
    rw [wins]
    constructor
    · intro same
      cases Option.some.inj same
      exact ⟨stored, .inl canonical⟩
    · rintro ⟨-, here | ⟨-, least⟩⟩
      · exact congrArg some (List.inj_on_of_nodup_map priorKeys listed stored (by rw [canonical, here, field]))
      · exact absurd canonical (least first listed field).1
  | none =>
    have noOwn : ∀ other ∈ priors, other.fieldName = prior.fieldName → other.vendorId ≠ canonicalVendorId := by
      intro other listed field canonical
      have here : other ∈ fieldRows canonicalVendorId duplicates priors prior.fieldName :=
        (mem_fieldRows).mpr ⟨listed, List.mem_cons.mpr (.inl canonical), field⟩
      exact List.find?_eq_none.mp own other here (decide_eq_true canonical)
    have least : winner timestamp canonicalVendorId (fieldRows canonicalVendorId duplicates priors prior.fieldName) =
        (fieldRows canonicalVendorId duplicates priors prior.fieldName).argmin (priorPrecedence timestamp) := by
      rw [winner, own, Option.none_or]
    rw [least]
    constructor
    · intro first
      have known := (List.mem_cons.mp chosen).resolve_left (noOwn prior stored rfl)
      exact ⟨stored, .inr ⟨known, fun other listed field => ⟨noOwn other listed field, fun rival =>
        List.le_of_mem_argmin (rivals other listed field rival) first⟩⟩⟩
    · rintro ⟨-, here | ⟨-, before⟩⟩
      · exact absurd here (noOwn prior stored rfl)
      · cases first : (fieldRows canonicalVendorId duplicates priors prior.fieldName).argmin (priorPrecedence timestamp) with
        | none =>
          rw [List.argmin_eq_none.mp first] at member
          cases member
        | some best =>
          obtain ⟨listed, among, field⟩ := (mem_fieldRows).mp (List.argmin_mem first)
          have rival := (List.mem_cons.mp among).resolve_left (noOwn best listed field)
          have same := ((before best listed field).2 rival).antisymm (List.le_of_mem_argmin member first)
          exact congrArg some (List.inj_on_of_nodup_map priorIds listed stored (id_of_priorPrecedence_eq same).symm)

include priorIds priorKeys in
theorem mem_keptPriors_iff {prior : Prior} : prior ∈ keptPriors timestamp canonicalVendorId duplicates priors ↔
    prior ∈ priors ∧ (prior.vendorId ∈ canonicalVendorId :: duplicates →
      StayingPrior timestamp canonicalVendorId duplicates priors prior) := by
  rw [mem_keptPriors priorIds]
  exact and_congr_right fun stored => forall_congr' fun chosen => winner_eq_some_iff priorIds priorKeys chosen stored

include priorIds priorKeys in
theorem StayingPrior.unique {prior other : Prior} (one : StayingPrior timestamp canonicalVendorId duplicates priors prior)
    (two : StayingPrior timestamp canonicalVendorId duplicates priors other) (same : prior.fieldName = other.fieldName) :
    prior = other := by
  have among {prior : Prior} (stays : StayingPrior timestamp canonicalVendorId duplicates priors prior) :
      prior.vendorId ∈ canonicalVendorId :: duplicates := by
    rcases stays.best with canonical | duplicate
    · exact List.mem_cons.mpr (.inl canonical)
    · exact List.mem_cons_of_mem _ duplicate.1
  have first := (winner_eq_some_iff priorIds priorKeys (among one) one.stored).mpr one
  have second := (winner_eq_some_iff priorIds priorKeys (among two) two.stored).mpr two
  rw [same, second] at first
  exact (Option.some.inj first).symm

end Collapse

section Rows

variable {canonicalVendorId : Nat} {duplicates : List Nat} {now : Int}

@[simp]
theorem Vendor.retired_id (vendor : Vendor) : (vendor.retired duplicates now).id = vendor.id := by
  rw [retired]
  split <;> rfl

@[simp]
theorem Vendor.retired_entityId (vendor : Vendor) : (vendor.retired duplicates now).entityId = vendor.entityId := by
  rw [retired]
  split <;> rfl

@[simp]
theorem Vendor.retired_paymentsBlocked (vendor : Vendor) :
    (vendor.retired duplicates now).paymentsBlocked = vendor.paymentsBlocked := by
  rw [retired]
  split <;> rfl

theorem Vendor.retired_status {vendor : Vendor} (duplicate : vendor.id ∈ duplicates) :
    (vendor.retired duplicates now).status = "inactive" := by
  rw [retired]
  by_cases active : vendor.status = "inactive"
  · rw [if_neg fun retires => retires.2 active, active]
  · rw [if_pos ⟨duplicate, active⟩]

theorem Vendor.retired_of_inactive {vendor : Vendor} (inactive : vendor.id ∈ duplicates → vendor.status = "inactive") :
    vendor.retired duplicates now = vendor := if_neg fun retires => retires.2 (inactive retires.1)

theorem ChildRow.reassigned_kept {columns : Type} (row : ChildRow columns) :
    KeptRow canonicalVendorId duplicates row (row.reassigned canonicalVendorId duplicates now) := by
  rw [reassigned]
  by_cases moved : row.vendorId.any (duplicates.contains ·) = true
  · rw [if_pos moved]
    exact ⟨rfl, (if_pos moved).symm, rfl, fun stays => absurd moved (by rw [stays]; exact Bool.false_ne_true)⟩
  · rw [if_neg moved]
    exact ⟨rfl, (if_neg moved).symm, rfl, fun _ => rfl⟩

theorem any_contains_iff {vendorId : Option Nat} :
    vendorId.any (duplicates.contains ·) = true ↔ ∃ d ∈ duplicates, vendorId = some d := by
  cases vendorId with
  | none => simp
  | some id => simp

theorem ChildRow.reassigned_of_apart {columns : Type} {row : ChildRow columns}
    (apart : ∀ d ∈ duplicates, row.vendorId ≠ some d) : row.reassigned canonicalVendorId duplicates now = row := by
  refine if_neg fun moved => ?_
  obtain ⟨d, duplicate, same⟩ := (any_contains_iff).mp moved
  exact apart d duplicate same

theorem ChildRow.reassigned_apart {columns : Type} (row : ChildRow columns) (other : canonicalVendorId ∉ duplicates) :
    ∀ d ∈ duplicates, (row.reassigned canonicalVendorId duplicates now).vendorId ≠ some d := by
  intro d duplicate
  rw [row.reassigned_kept.vendorId]
  by_cases moved : row.vendorId.any (duplicates.contains ·) = true
  · rw [if_pos moved]
    rintro ⟨⟩
    exact other duplicate
  · rw [if_neg moved]
    exact fun same => moved (any_contains_iff.mpr ⟨d, duplicate, same⟩)

theorem Prior.reassigned_kept (prior : Prior) : KeptPrior prior (prior.reassigned canonicalVendorId duplicates now) := by
  rw [reassigned]
  split <;> exact ⟨rfl, rfl, rfl, rfl, rfl⟩

theorem Prior.reassigned_of_apart {prior : Prior} (apart : prior.vendorId ∉ duplicates) :
    prior.reassigned canonicalVendorId duplicates now = prior := if_neg apart

theorem Prior.reassigned_vendorId (prior : Prior) : (prior.reassigned canonicalVendorId duplicates now).vendorId =
    if prior.vendorId ∈ duplicates then canonicalVendorId else prior.vendorId := by
  rw [reassigned]
  split <;> rfl

end Rows

section Merged

variable {κ : VendorFkChild → Type} {timestamp : Int → ℚ} {canonicalVendorId : Nat} {duplicates : List Nat} {now : Int}

theorem mem_merged_priors {database : Database κ} {left : Prior} :
    left ∈ (merged timestamp canonicalVendorId duplicates now database.toTables).priors ↔
      ∃ prior ∈ database.priors, (prior.vendorId ∈ canonicalVendorId :: duplicates →
        StayingPrior timestamp canonicalVendorId duplicates database.priors prior) ∧
          prior.reassigned canonicalVendorId duplicates now = left := by
  have merge : (merged timestamp canonicalVendorId duplicates now database.toTables).priors =
    (keptPriors timestamp canonicalVendorId duplicates database.priors).map
      (Prior.reassigned canonicalVendorId duplicates now) := rfl
  rw [merge, List.mem_map]
  simp only [mem_keptPriors_iff database.priorIds database.priorKeys, and_assoc]

theorem among_of_reassigned {prior : Prior}
    (canonical : (prior.reassigned canonicalVendorId duplicates now).vendorId = canonicalVendorId) :
    prior.vendorId ∈ canonicalVendorId :: duplicates := by
  rw [prior.reassigned_vendorId] at canonical
  by_cases moved : prior.vendorId ∈ duplicates
  · exact List.mem_cons_of_mem _ moved
  · rw [if_neg moved] at canonical
    exact List.mem_cons.mpr (.inl canonical)

theorem merged_onePrior {database : Database κ} {prior other : Prior}
    (listed : prior ∈ (merged timestamp canonicalVendorId duplicates now database.toTables).priors)
    (listed' : other ∈ (merged timestamp canonicalVendorId duplicates now database.toTables).priors)
    (canonical : prior.vendorId = canonicalVendorId) (canonical' : other.vendorId = canonicalVendorId)
    (same : prior.fieldName = other.fieldName) : prior = other := by
  obtain ⟨one, -, stays, rfl⟩ := (mem_merged_priors).mp listed
  obtain ⟨two, -, stays', rfl⟩ := (mem_merged_priors).mp listed'
  rw [one.reassigned_kept.fieldName, two.reassigned_kept.fieldName] at same
  rw [(stays (among_of_reassigned canonical)).unique database.priorIds database.priorKeys
    (stays' (among_of_reassigned canonical')) same]

/-- The merged priors meet the unique key, so that the database does not refuse them. -/
theorem merged_priorKeys (database : Database κ) (other : canonicalVendorId ∉ duplicates) :
    ((merged timestamp canonicalVendorId duplicates now database.toTables).priors.map
      fun prior => (prior.vendorId, prior.fieldName)).Nodup := by
  have rows : (keptPriors timestamp canonicalVendorId duplicates database.priors).Nodup :=
    (database.priorIds.of_map _).filter _
  have merge : (merged timestamp canonicalVendorId duplicates now database.toTables).priors =
    (keptPriors timestamp canonicalVendorId duplicates database.priors).map
      (Prior.reassigned canonicalVendorId duplicates now) := rfl
  rw [merge, List.map_map]
  refine rows.map_on fun one listed two listed' same => ?_
  obtain ⟨vendor, field⟩ := Prod.mk.inj same
  rw [one.reassigned_kept.fieldName, two.reassigned_kept.fieldName] at field
  obtain ⟨stored, stays⟩ := (mem_keptPriors_iff database.priorIds database.priorKeys).mp listed
  obtain ⟨stored', stays'⟩ := (mem_keptPriors_iff database.priorIds database.priorKeys).mp listed'
  by_cases chosen : one.vendorId ∈ canonicalVendorId :: duplicates
  · have canonical : (one.reassigned canonicalVendorId duplicates now).vendorId = canonicalVendorId := by
      rw [one.reassigned_vendorId]
      rcases List.mem_cons.mp chosen with same | moved
      · rw [same, if_neg other]
      · rw [if_pos moved]
    exact (stays chosen).unique database.priorIds database.priorKeys
      (stays' (among_of_reassigned (vendor.symm.trans canonical))) field
  · have unmoved : one.vendorId ∉ duplicates := fun moved => chosen (List.mem_cons_of_mem _ moved)
    rw [one.reassigned_vendorId, if_neg unmoved, two.reassigned_vendorId] at vendor
    by_cases moved : two.vendorId ∈ duplicates
    · rw [if_pos moved] at vendor
      exact absurd (List.mem_cons.mpr (.inl vendor)) chosen
    · rw [if_neg moved] at vendor
      exact List.inj_on_of_nodup_map database.priorKeys stored stored' (Prod.ext vendor field)

theorem merged_priors_apart {database : Database κ} (other : canonicalVendorId ∉ duplicates) {left : Prior}
    (listed : left ∈ (merged timestamp canonicalVendorId duplicates now database.toTables).priors) : left.vendorId ∉ duplicates := by
  obtain ⟨prior, -, -, rfl⟩ := (mem_merged_priors).mp listed
  rw [prior.reassigned_vendorId]
  by_cases moved : prior.vendorId ∈ duplicates
  · rwa [if_pos moved]
  · rwa [if_neg moved]

/-- Priors of which one at most is among the vendors of a merge for a field, and none of a duplicate, all stay. -/
theorem keptPriors_self {priors : List Prior} (apart : ∀ prior ∈ priors, prior.vendorId ∉ duplicates)
    (one : ∀ prior ∈ priors, ∀ other ∈ priors, prior.vendorId = canonicalVendorId → other.vendorId = canonicalVendorId →
      prior.fieldName = other.fieldName → prior = other) :
    keptPriors timestamp canonicalVendorId duplicates priors = priors := by
  refine List.filter_eq_self.mpr fun prior stored => decide_eq_true fun loses => ?_
  obtain ⟨row, among, -, lost⟩ := (mem_losingPriorIds).mp loses
  have member : row ∈ (priors.filter fun row => row.vendorId ∈ canonicalVendorId :: duplicates).filter
      fun other => other.fieldName = row.fieldName := List.mem_filter.mpr ⟨among, decide_eq_true rfl⟩
  have some : (winner timestamp canonicalVendorId ((priors.filter fun row => row.vendorId ∈ canonicalVendorId :: duplicates).filter
      fun other => other.fieldName = row.fieldName)).isSome = true := winner_isSome member
  obtain ⟨best, won⟩ := Option.isSome_iff_exists.mp some
  obtain ⟨amongBest, field⟩ := List.mem_filter.mp (winner_mem won)
  have canonical : ∀ prior ∈ priors.filter fun row => row.vendorId ∈ canonicalVendorId :: duplicates,
      prior ∈ priors ∧ prior.vendorId = canonicalVendorId := by
    intro prior listed
    obtain ⟨stored, chosen⟩ := List.mem_filter.mp listed
    exact ⟨stored, (List.mem_cons.mp (of_decide_eq_true chosen)).resolve_right (apart prior stored)⟩
  obtain ⟨stored', own⟩ := canonical row among
  obtain ⟨storedBest, ownBest⟩ := canonical best amongBest
  have same := one best storedBest row stored' ownBest own (of_decide_eq_true field)
  rw [won, same] at lost
  exact lost rfl

theorem map_same {α : Type} {f : α → α} {rows : List α} (same : ∀ row ∈ rows, f row = row) : rows.map f = rows :=
  (List.map_congr_left same).trans rows.map_id'

theorem counted_zero (name : String) : counted name 0 = [] := if_pos rfl

/-- What a merge leaves to do for a second one. -/
structure Settled (canonicalVendorId : Nat) (duplicates : List Nat) (tables : Tables κ) : Prop where
  vendors : ∀ vendor ∈ tables.vendors, vendor.id ∈ duplicates → vendor.status = "inactive"
  children : ∀ table, ∀ row ∈ tables.children table, ∀ d ∈ duplicates, row.vendorId ≠ some d
  priors : ∀ prior ∈ tables.priors, prior.vendorId ∉ duplicates
  onePrior : ∀ prior ∈ tables.priors, ∀ other ∈ tables.priors, prior.vendorId = canonicalVendorId →
    other.vendorId = canonicalVendorId → prior.fieldName = other.fieldName → prior = other

theorem settled_merged (database : Database κ) (other : canonicalVendorId ∉ duplicates) :
    Settled canonicalVendorId duplicates (merged timestamp canonicalVendorId duplicates now database.toTables) where
  vendors vendor listed duplicate := by
    obtain ⟨vendor, -, rfl⟩ := List.mem_map.mp listed
    rw [vendor.retired_id] at duplicate
    exact vendor.retired_status duplicate
  children table row listed := by
    obtain ⟨row, -, rfl⟩ := List.mem_map.mp listed
    exact row.reassigned_apart other
  priors _ listed := merged_priors_apart other listed
  onePrior _ listed _ listed' := merged_onePrior listed listed'

namespace Settled

variable {tables : Tables κ} (settled : Settled canonicalVendorId duplicates tables)

include settled in
theorem merged_eq : merged timestamp canonicalVendorId duplicates now tables = tables := by
  have vendors : tables.vendors.map (Vendor.retired duplicates now) = tables.vendors :=
    map_same fun vendor listed => Vendor.retired_of_inactive (settled.vendors vendor listed)
  have children : ∀ table, (tables.children table).map (ChildRow.reassigned canonicalVendorId duplicates now) =
      tables.children table := by
    intro table
    exact map_same fun row listed => ChildRow.reassigned_of_apart (settled.children table row listed)
  have priors : (keptPriors timestamp canonicalVendorId duplicates tables.priors).map
      (Prior.reassigned canonicalVendorId duplicates now) = tables.priors := by
    rw [keptPriors_self settled.priors settled.onePrior]
    exact map_same fun prior listed => Prior.reassigned_of_apart (settled.priors prior listed)
  rw [merged, vendors, priors, funext children]

include settled in
theorem mergeResult_eq : mergeResult timestamp canonicalVendorId duplicates tables = ⟨canonicalVendorId, duplicates, [], []⟩ := by
  have rows : ∀ table, (tables.children table).countP (fun row => row.vendorId.any (duplicates.contains ·)) = 0 := by
    intro table
    refine List.countP_eq_zero.mpr fun row listed moved => ?_
    obtain ⟨d, duplicate, same⟩ := (any_contains_iff).mp moved
    exact settled.children table row listed d duplicate same
  have priors : tables.priors.countP (fun row => row.vendorId ∈ duplicates) = 0 :=
    List.countP_eq_zero.mpr fun prior listed moved => settled.priors prior listed (of_decide_eq_true moved)
  have active : duplicates.filter (fun d => (vendorOf tables.vendors d).any (·.status ≠ "inactive")) = [] := by
    refine List.filter_eq_nil_iff.mpr fun d duplicate active => ?_
    cases found : vendorOf tables.vendors d with
    | none =>
      rw [found] at active
      cases active
    | some vendor =>
      rw [found, Option.any_some] at active
      have own : vendor.id = d := of_decide_eq_true (List.find?_eq_some_iff_append.mp found).1
      exact of_decide_eq_true active (settled.vendors vendor (List.mem_of_find?_eq_some found) (own ▸ duplicate))
  have nothing : vendorFkChildren.flatMap (fun _ => ([] : List (String × Nat))) = [] :=
    List.flatMap_eq_nil_iff.mpr fun _ _ => rfl
  rw [mergeResult, keptPriors_self settled.priors settled.onePrior]
  simp only [rows, priors, active, counted_zero, Nat.sub_self, nothing, List.append_nil]

end Settled

theorem mergeVendors_accepted {database : Database κ} {ids : List Nat} (accepted : Accepted database.vendors canonicalVendorId ids) :
    mergeVendors timestamp canonicalVendorId now database.toTables ids =
      (merged timestamp canonicalVendorId (distinctIds ids) now database.toTables,
        .ok (mergeResult timestamp canonicalVendorId (distinctIds ids) database.toTables)) := by
  have other : canonicalVendorId ∉ distinctIds ids := fun given => accepted.apart (mem_distinctIds.mp given)
  rw [mergeVendors, (mergeRefusal_eq_none).mpr accepted]
  exact if_pos (merged_priorKeys database other)

/-- A second merge of the same vendors changes nothing. -/
theorem mergeVendors_again {database : Database κ} {ids : List Nat} (accepted : Accepted database.vendors canonicalVendorId ids)
    (later : Int) :
    mergeVendors timestamp canonicalVendorId later
        (merged timestamp canonicalVendorId (distinctIds ids) now database.toTables) ids =
      (merged timestamp canonicalVendorId (distinctIds ids) now database.toTables,
        .ok ⟨canonicalVendorId, distinctIds ids, [], []⟩) := by
  have other : canonicalVendorId ∉ distinctIds ids := fun given => accepted.apart (mem_distinctIds.mp given)
  have settled : Settled canonicalVendorId (distinctIds ids)
    (merged timestamp canonicalVendorId (distinctIds ids) now database.toTables) := settled_merged database other
  have again : Accepted (merged timestamp canonicalVendorId (distinctIds ids) now database.toTables).vendors canonicalVendorId ids :=
    accepted.map Vendor.retired_id Vendor.retired_entityId Vendor.retired_paymentsBlocked
  rw [mergeVendors, (mergeRefusal_eq_none).mpr again]
  simp only [settled.merged_eq, settled.mergeResult_eq]
  exact if_pos (merged_priorKeys database other)

/-- No invoice of a blocked vendor comes to a vendor that is not blocked. -/
theorem blocked_merged {database : Database κ} {ids : List Nat} (accepted : Accepted database.vendors canonicalVendorId ids)
    {invoice left : ChildRow (κ .invoice)} {vendor payee : Vendor} (stored : invoice ∈ database.children .invoice)
    (known : vendor ∈ database.vendors) (owned : invoice.vendorId = some vendor.id) (blocked : vendor.paymentsBlocked = true)
    (listed : left ∈ (merged timestamp canonicalVendorId (distinctIds ids) now database.toTables).children .invoice)
    (same : left.id = invoice.id)
    (paid : payee ∈ (merged timestamp canonicalVendorId (distinctIds ids) now database.toTables).vendors)
    (belongs : left.vendorId = some payee.id) : payee.paymentsBlocked = true := by
  obtain ⟨row, member, rfl⟩ := List.mem_map.mp listed
  obtain ⟨before, present, rfl⟩ := List.mem_map.mp paid
  rw [row.reassigned_kept.id] at same
  cases List.inj_on_of_nodup_map (database.childIds .invoice) member stored same
  rw [Vendor.retired_paymentsBlocked]
  rw [Vendor.retired_id, invoice.reassigned_kept.vendorId, owned] at belongs
  have lookup : ∀ {vendor : Vendor} {d : Nat}, vendorOf database.vendors d = some vendor →
      ∀ other ∈ database.vendors, other.id = d → other = vendor := by
    intro vendor d found other listed own
    have member := List.mem_of_find?_eq_some found
    have here : vendor.id = d := of_decide_eq_true (List.find?_eq_some_iff_append.mp found).1
    exact List.inj_on_of_nodup_map database.vendorIds listed member (own.trans here.symm)
  by_cases moved : (some vendor.id).any ((distinctIds ids).contains ·) = true
  · rw [if_pos moved] at belongs
    obtain ⟨d, duplicate, own⟩ := (any_contains_iff).mp moved
    obtain ⟨canonical, found, duplicates⟩ := accepted.found
    obtain ⟨other, there, -, tightens⟩ := duplicates d (mem_distinctIds.mp duplicate)
    have holder := lookup there vendor known (Option.some.inj own)
    have payee := lookup found before present (Option.some.inj belongs).symm
    rw [payee]
    exact tightens (holder ▸ blocked)
  · rw [if_neg moved] at belongs
    rw [← List.inj_on_of_nodup_map database.vendorIds known present (Option.some.inj belongs)]
    exact blocked

end Merged

section Same

variable {timestamp : Int → ℚ} {canonicalVendorId : Nat} {ids : List Nat}

theorem stayingPrior_distinctIds {priors : List Prior} {prior : Prior} :
    StayingPrior timestamp canonicalVendorId (distinctIds ids) priors prior ↔
      StayingPrior timestamp canonicalVendorId ids priors prior := by
  constructor
  · rintro ⟨stored, best⟩
    simp only [mem_distinctIds] at best
    exact ⟨stored, best⟩
  · rintro ⟨stored, best⟩
    refine ⟨stored, ?_⟩
    simp only [mem_distinctIds]
    exact best

theorem any_distinctIds {vendorId : Option Nat} :
    vendorId.any ((distinctIds ids).contains ·) = vendorId.any (ids.contains ·) := by
  rw [Bool.eq_iff_iff, any_contains_iff, any_contains_iff]
  simp only [mem_distinctIds]

theorem KeptRow.of_distinctIds {columns : Type} {row left : ChildRow columns}
    (kept : KeptRow canonicalVendorId (distinctIds ids) row left) : KeptRow canonicalVendorId ids row left := by
  refine ⟨kept.id, ?_, kept.columns, ?_⟩
  · rw [← any_distinctIds]
    exact kept.vendorId
  · rw [← any_distinctIds]
    exact kept.updatedAt

end Same

/-- A merge leaves no child row and no prior with a duplicate, keeps every child row up to its vendor and the time of its
last update, and one prior for each field, does nothing a second time, and moves no invoice from a blocked vendor to one
that is not. A refused merge changes nothing. -/
theorem mergeVendors_sound {κ : VendorFkChild → Type} (timestamp : Int → ℚ) (canonicalVendorId : Nat) (ids : List Nat)
    (now : Int) (database : Database κ) :
    MergeSound timestamp canonicalVendorId ids (KeptRow canonicalVendorId ids) now database.toTables := by
  cases refusal : mergeRefusal database.vendors canonicalVendorId ids with
  | some raised =>
    have refused : mergeVendors timestamp canonicalVendorId now database.toTables ids = (database.toTables, .error raised) := by
      rw [mergeVendors, refusal]
    constructor
    · intro result ok
      rw [refused] at ok
      cases ok
    · intro _ _
      rw [refused]
  | none =>
    have accepted := (mergeRefusal_eq_none).mp refusal
    have other : canonicalVendorId ∉ distinctIds ids := fun given => accepted.apart (mem_distinctIds.mp given)
    refine ⟨fun result ok => ?_, fun raised error => ?_⟩
    · rw [mergeVendors_accepted accepted]
      exact
        { children := fun table row listed d given =>
            (settled_merged database other).children table row listed d (mem_distinctIds.mpr given)
          priors := fun prior listed given => merged_priors_apart other listed (mem_distinctIds.mpr given)
          kept := fun table row stored => ⟨_, List.mem_map_of_mem stored, row.reassigned_kept.of_distinctIds⟩
          onePrior := fun prior listed other listed' => merged_onePrior listed listed'
          origin := by
            intro left listed canonical
            obtain ⟨prior, -, stays, rfl⟩ := (mem_merged_priors).mp listed
            exact ⟨prior, (stayingPrior_distinctIds).mp (stays (among_of_reassigned canonical)), prior.reassigned_kept⟩
          stays := by
            intro prior stays
            have stays' := (stayingPrior_distinctIds).mpr stays
            refine ⟨_, (mem_merged_priors).mpr ⟨prior, stays.stored, fun _ => stays', rfl⟩, ?_, prior.reassigned_kept⟩
            rw [prior.reassigned_vendorId]
            rcases stays'.best with canonical | ⟨duplicate, -⟩
            · rw [canonical, if_neg other]
            · rw [if_pos duplicate]
          again := mergeVendors_again accepted
          blocked := fun invoice stored vendor known owned blocked left listed same payee paid belongs =>
            blocked_merged accepted stored known owned blocked listed same paid belongs }
    · rw [mergeVendors_accepted accepted] at error
      cases error

/-- Two vendors and an invoice of the second one. -/
def oneInvoice : Database fun _ => Unit where
  vendors := [⟨1, none, false, "active", 0⟩, ⟨2, none, false, "active", 0⟩]
  children table := match table with
    | .invoice => [⟨7, some 2, some 0, ()⟩]
    | _ => []
  priors := []
  vendorIds := by decide
  childIds table := by cases table <;> simp
  priorIds := List.nodup_nil
  priorKeys := List.nodup_nil

/-- The `UPDATE` that moves a child row sets the time of its last update too. -/
theorem moved_invoice_stamped : ¬∀ (κ : VendorFkChild → Type) (timestamp : Int → ℚ) (canonicalVendorId : Nat) (ids : List Nat)
    (now : Int) (database : Database κ),
    MergeSound timestamp canonicalVendorId ids (WholeRow canonicalVendorId ids) now database.toTables := by
  intro sound
  have accepted : Accepted oneInvoice.vendors 1 [2] := (mergeRefusal_eq_none).mp (by decide)
  have merge : mergeVendors (fun _ => 0) 1 5 oneInvoice.toTables [2] = _ := mergeVendors_accepted accepted
  have into := (sound (fun _ => Unit) (fun _ => 0) 1 [2] 5 oneInvoice).accepted _ (congrArg Prod.snd merge)
  obtain ⟨left, listed, whole⟩ := into.kept .invoice ⟨7, some 2, some 0, ()⟩ List.mem_cons_self
  rw [merge] at listed
  obtain ⟨row, stored, rfl⟩ := List.mem_map.mp listed
  cases List.mem_singleton.mp stored
  exact absurd whole.stamp (by decide)

end Payables.VendorMerge
