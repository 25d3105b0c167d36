import Payables.Audit.Shipper

namespace Payables.Audit

open Lib

variable {α : Type}

/-- The call offers a row, whole or as its marker. -/
def ShipCall.Offers (call : ShipCall α) (row : AuditLogRow) : Prop := row ∈ call.rows ∨ ∃ error, quarantinedRow row error ∈ call.rows

/-- An adapter took a row, whole or as its marker. -/
def Accepted (calls : List (ShipCall α)) (adapter : α) (row : AuditLogRow) : Prop :=
  ∃ call ∈ calls, call.adapter = adapter ∧ call.refusal = none ∧ call.Offers row

/-- An adapter refused a row by itself, and then its marker. -/
def Blocked (calls : List (ShipCall α)) (row : AuditLogRow) (fatal : String) : Prop :=
  ∃ adapter refusal error, ⟨adapter, [row], some refusal⟩ ∈ calls ∧ ⟨adapter, [quarantinedRow row error], some fatal⟩ ∈ calls

/-- What an adapter is offered is a row of the batch, or the marker of one that it has refused by itself before. -/
def MarkersEarned (batch : List AuditLogRow) (calls : List (ShipCall α)) : Prop :=
  ∀ before call after, calls = before ++ call :: after → ∀ offered ∈ call.rows, offered ∈ batch ∨
    ∃ row ∈ batch, ∃ error refusal, offered = quarantinedRow row error ∧ ⟨call.adapter, [row], some refusal⟩ ∈ before

/-- Every offer is as old as a row of the batch. -/
def AsOld (batch : List AuditLogRow) (calls : List (ShipCall α)) : Prop :=
  ∀ call ∈ calls, ∀ offered ∈ call.rows, ∃ row ∈ batch, offered.createdAt = row.createdAt

theorem quarantinedRow_createdAt (row : AuditLogRow) (error : String) : (quarantinedRow row error).createdAt = row.createdAt := rfl

section Markers

variable {batch wider : List AuditLogRow} {calls later : List (ShipCall α)}

theorem markersEarned_nil : MarkersEarned batch ([] : List (ShipCall α)) := by
  intro before call after split
  have length := congrArg List.length split
  rw [List.length_append, List.length_cons, List.length_nil] at length
  omega

theorem MarkersEarned.widen (earned : MarkersEarned batch calls) (sub : ∀ row ∈ batch, row ∈ wider) : MarkersEarned wider calls := by
  intro before call after split offered member
  rcases earned before call after split offered member with whole | ⟨row, inBatch, rest⟩
  · exact .inl (sub offered whole)
  · exact .inr ⟨row, sub row inBatch, rest⟩

theorem MarkersEarned.append (earned : MarkersEarned batch calls) (earned' : MarkersEarned batch later) :
    MarkersEarned batch (calls ++ later) := by
  intro before call after split offered member
  rcases List.append_eq_append_iff.mp split with ⟨front, rfl, rest⟩ | ⟨back, rest, tail⟩
  · rcases earned' front call after rest offered member with whole | ⟨row, inBatch, error, refusal, marker, refused⟩
    · exact .inl whole
    · exact .inr ⟨row, inBatch, error, refusal, marker, List.mem_append_right _ refused⟩
  · cases back with
    | nil =>
      rw [List.append_nil] at rest
      rcases earned' [] call after (by rw [List.nil_append] at tail ⊢; exact tail.symm) offered member with
        whole | ⟨row, -, error, refusal, -, refused⟩
      · exact .inl whole
      · cases refused
    | cons first back =>
      obtain ⟨rfl, -⟩ := List.cons_eq_cons.mp tail
      exact earned before call back rest offered member

/-- A call that offers rows of the batch. -/
theorem MarkersEarned.cons {call : ShipCall α} (whole : ∀ row ∈ call.rows, row ∈ batch) (earned : MarkersEarned batch calls) :
    MarkersEarned batch (call :: calls) := by
  have alone : MarkersEarned batch [call] := by
    intro before other after split offered member
    cases before with
    | nil =>
      obtain ⟨rfl, -⟩ := List.cons_eq_cons.mp split
      exact .inl (whole offered member)
    | cons first before =>
      have length := congrArg List.length split
      simp only [List.length_cons, List.length_nil, List.length_append] at length
      omega
  exact alone.append earned

/-- A refusal of a row of the batch, and then a marker of it. -/
theorem MarkersEarned.marked {adapter : α} {row : AuditLogRow} {error refusal : String} {answer : Option String} (inBatch : row ∈ batch)
    (earned : MarkersEarned batch calls) :
    MarkersEarned batch (⟨adapter, [row], some refusal⟩ :: ⟨adapter, [quarantinedRow row error], answer⟩ :: calls) := by
  have both : MarkersEarned batch [⟨adapter, [row], some refusal⟩, ⟨adapter, [quarantinedRow row error], answer⟩] := by
    intro before other after split offered member
    cases before with
    | nil =>
      obtain ⟨rfl, -⟩ := List.cons_eq_cons.mp split
      rw [List.mem_singleton.mp member]
      exact .inl inBatch
    | cons first before =>
      rw [List.cons_append] at split
      obtain ⟨rfl, rest⟩ := List.cons_eq_cons.mp split
      cases before with
      | nil =>
        obtain ⟨rfl, -⟩ := List.cons_eq_cons.mp rest
        rw [List.mem_singleton.mp member]
        exact .inr ⟨row, inBatch, error, refusal, rfl, List.mem_singleton_self _⟩
      | cons second before =>
        have length := congrArg List.length rest
        simp only [List.length_cons, List.length_nil, List.length_append] at length
        omega
  exact both.append earned

end Markers

section Row

variable (answers : Nat → Option String)

/-- What shipping a row does. -/
structure RowShipped (row : AuditLogRow) (adapters : List α) (outcome : RowOutcome α) : Prop where
  earned : MarkersEarned [row] outcome.calls
  asOld : AsOld [row] outcome.calls
  accepted : outcome.fatal = none → ∀ adapter ∈ adapters, Accepted outcome.calls adapter row
  blocked : ∀ fatal, outcome.fatal = some fatal → Blocked outcome.calls row fatal

theorem Accepted.of_subset {calls wider : List (ShipCall α)} {adapter : α} {row : AuditLogRow} (accepted : Accepted calls adapter row)
    (sub : ∀ call ∈ calls, call ∈ wider) : Accepted wider adapter row := by
  obtain ⟨call, member, rest⟩ := accepted
  exact ⟨call, sub call member, rest⟩

theorem Blocked.of_subset {calls wider : List (ShipCall α)} {row : AuditLogRow} {fatal : String} (blocked : Blocked calls row fatal)
    (sub : ∀ call ∈ calls, call ∈ wider) : Blocked wider row fatal := by
  obtain ⟨adapter, refusal, error, whole, marker⟩ := blocked
  exact ⟨adapter, refusal, error, sub _ whole, sub _ marker⟩

theorem shipRow_spec (row : AuditLogRow) (adapters : List α) (made : Nat) (substitute : Option AuditLogRow)
    (marker : ∀ marked, substitute = some marked → ∃ error, marked = quarantinedRow row error) :
    RowShipped row adapters (shipRow answers row made substitute adapters) := by
  induction adapters generalizing made substitute with
  | nil =>
    rw [shipRow]
    exact ⟨markersEarned_nil, fun call member => (List.not_mem_nil member).elim, fun _ adapter member => (List.not_mem_nil member).elim,
      fun fatal failed => by cases failed⟩
  | cons adapter rest ih =>
    rw [shipRow]
    cases first : answers made with
    | none =>
      obtain ⟨earned, asOld, accepted, blocked⟩ := ih (made + 1) substitute marker
      refine ⟨earned.cons fun _ whole => whole, ?_, ?_, ?_⟩
      · intro call member offered offers
        rcases List.mem_cons.mp member with rfl | member
        · exact ⟨offered, offers, rfl⟩
        · exact asOld call member offered offers
      · intro through other member
        rcases List.mem_cons.mp member with rfl | member
        · exact ⟨_, List.mem_cons_self, rfl, rfl, .inl (List.mem_singleton_self _)⟩
        · exact (accepted through other member).of_subset fun call => List.mem_cons_of_mem _
      · intro fatal failed
        exact (blocked fatal failed).of_subset fun call => List.mem_cons_of_mem _
    | some error =>
      obtain ⟨class', marked⟩ : ∃ class', substitute.getD (quarantinedRow row error) = quarantinedRow row class' := by
        cases known : substitute with
        | none => exact ⟨error, rfl⟩
        | some marked => exact marker marked known
      simp only [marked]
      cases second : answers (made + 1) with
      | some fatal =>
        refine ⟨markersEarned_nil.marked (List.mem_singleton_self _), ?_, ?_, ?_⟩
        · intro call member offered offers
          simp only [List.mem_cons, List.not_mem_nil, or_false] at member
          rcases member with rfl | rfl <;> rw [List.mem_singleton.mp offers] <;> exact ⟨row, List.mem_singleton_self _, rfl⟩
        · intro through
          cases through
        · intro other failed
          cases failed
          exact ⟨adapter, error, class', List.mem_cons_self, List.mem_cons_of_mem _ List.mem_cons_self⟩
      | none =>
        have carried : ∀ other, some (quarantinedRow row class') = some other → ∃ error, other = quarantinedRow row error := by
          intro other same
          exact ⟨class', (Option.some.inj same).symm⟩
        obtain ⟨earned, asOld, accepted, blocked⟩ := ih (made + 2) (some (quarantinedRow row class')) carried
        refine ⟨earned.marked (List.mem_singleton_self _), ?_, ?_, ?_⟩
        · intro call member offered offers
          rcases List.mem_cons.mp member with rfl | member
          · rw [List.mem_singleton.mp offers]
            exact ⟨row, List.mem_singleton_self _, rfl⟩
          · rcases List.mem_cons.mp member with rfl | member
            · rw [List.mem_singleton.mp offers]
              exact ⟨row, List.mem_singleton_self _, rfl⟩
            · exact asOld call member offered offers
        · intro through other member
          rcases List.mem_cons.mp member with rfl | member
          · exact ⟨⟨other, [quarantinedRow row class'], none⟩, List.mem_cons_of_mem _ List.mem_cons_self, rfl, rfl,
              .inr ⟨class', List.mem_singleton_self _⟩⟩
          · exact (accepted through other member).of_subset fun call known => List.mem_cons_of_mem _ (List.mem_cons_of_mem _ known)
        · intro fatal failed
          exact (blocked fatal failed).of_subset fun call known => List.mem_cons_of_mem _ (List.mem_cons_of_mem _ known)

end Row

section Batch

variable (answers : Nat → Option String) (adapters : List α)

/-- What offering a batch as a whole does. -/
theorem shipBatch_spec (batch : List AuditLogRow) (made : Nat) :
    (∀ call ∈ (shipBatch answers batch made adapters).2, call.rows = batch) ∧
      ((shipBatch answers batch made adapters).1 = none → ∀ adapter ∈ adapters, ∃ call ∈ (shipBatch answers batch made adapters).2,
        call.adapter = adapter ∧ call.refusal = none) := by
  induction adapters generalizing made with
  | nil => exact ⟨fun call member => (List.not_mem_nil member).elim, fun _ adapter member => (List.not_mem_nil member).elim⟩
  | cons adapter rest ih =>
    rw [shipBatch]
    cases first : answers made with
    | some error =>
      refine ⟨fun call member => ?_, fun through => by cases through⟩
      rw [List.mem_singleton.mp member]
    | none =>
      obtain ⟨rows, accepted⟩ := ih (made + 1)
      constructor
      · intro call member
        rcases List.mem_cons.mp member with rfl | member
        · rfl
        · exact rows call member
      · intro through other member
        rcases List.mem_cons.mp member with rfl | member
        · exact ⟨_, List.mem_cons_self, rfl, rfl⟩
        · obtain ⟨call, known, rest⟩ := accepted through other member
          exact ⟨call, List.mem_cons_of_mem _ known, rest⟩

/-- What the isolation pass does: it goes through the rows in their order, up to one that is blocked, if there is one. -/
structure Isolated (batch : List AuditLogRow) (outcome : IsolationOutcome α) : Prop where
  earned : MarkersEarned batch outcome.calls
  asOld : AsOld batch outcome.calls
  ordered : batch.Pairwise (fun one other => one.createdAt ≤ other.createdAt) →
    (outcome.calls.flatMap (·.rows)).Pairwise fun one other => one.createdAt ≤ other.createdAt
  through : ∃ before after, batch = before ++ after ∧ outcome.shipped = before.map (·.id) ∧
    (∀ row ∈ before, ∀ adapter ∈ adapters, Accepted outcome.calls adapter row) ∧
    (outcome.fatal = none ∧ after = [] ∨
      ∃ row rest fatal, after = row :: rest ∧ outcome.fatal = some fatal ∧ Blocked outcome.calls row fatal)

/-- The calls for one row are all as old as it is. -/
theorem ordered_of_asOld {row : AuditLogRow} {calls : List (ShipCall α)} (asOld : AsOld [row] calls) :
    (calls.flatMap (·.rows)).Pairwise fun one other => one.createdAt ≤ other.createdAt := by
  have same : ∀ offered ∈ calls.flatMap (·.rows), offered.createdAt = row.createdAt := by
    intro offered member
    obtain ⟨call, known, offers⟩ := List.mem_flatMap.mp member
    obtain ⟨other, inBatch, age⟩ := asOld call known offered offers
    rw [age, List.mem_singleton.mp inBatch]
  refine List.pairwise_iff_forall_sublist.mpr fun {one other} sub => ?_
  have first := same one (sub.subset List.mem_cons_self)
  have second := same other (sub.subset (List.mem_cons_of_mem _ List.mem_cons_self))
  omega

theorem isolateAndShip_spec (batch : List AuditLogRow) (made : Nat) :
    Isolated adapters batch (isolateAndShip answers adapters made batch) := by
  have fresh : ∀ (row marked : AuditLogRow), none = some marked → ∃ error, marked = quarantinedRow row error := by
    intro row marked same
    cases same
  induction batch generalizing made with
  | nil =>
    rw [isolateAndShip]
    exact ⟨markersEarned_nil, fun call member => (List.not_mem_nil member).elim, fun _ => .nil, [], [], rfl, rfl,
      fun row member => (List.not_mem_nil member).elim, .inl ⟨rfl, rfl⟩⟩
  | cons row rest ih =>
    obtain ⟨earned, asOld, accepted, blocked⟩ := shipRow_spec answers row adapters made none (fresh row)
    have here : ∀ other ∈ [row], other ∈ row :: rest := by
      intro other member
      rw [List.mem_singleton.mp member]
      exact List.mem_cons_self
    have asOld' : AsOld (row :: rest) (shipRow answers row made none adapters).calls := by
      intro call member offered offers
      obtain ⟨other, inBatch, age⟩ := asOld call member offered offers
      exact ⟨other, here other inBatch, age⟩
    rw [isolateAndShip]
    cases failed : (shipRow answers row made none adapters).fatal with
    | some fatal =>
      exact ⟨earned.widen here, asOld', fun _ => ordered_of_asOld asOld, [], row :: rest, rfl, rfl,
        fun other member => (List.not_mem_nil member).elim, .inr ⟨row, rest, fatal, rfl, rfl, blocked fatal failed⟩⟩
    | none =>
      obtain ⟨earned', asOld'', ordered, before, after, split, shipped, accepted', stop⟩ :=
        ih (made + (shipRow answers row made none adapters).calls.length)
      refine ⟨(earned.widen here).append (earned'.widen fun other => List.mem_cons_of_mem _), ?_, ?_, row :: before, after, ?_, ?_, ?_, ?_⟩
      · intro call member offered offers
        rcases List.mem_append.mp member with member | member
        · exact asOld' call member offered offers
        · obtain ⟨other, inBatch, age⟩ := asOld'' call member offered offers
          exact ⟨other, List.mem_cons_of_mem _ inBatch, age⟩
      · intro sorted
        obtain ⟨oldest, sorted⟩ := List.pairwise_cons.mp sorted
        rw [List.flatMap_append, List.pairwise_append]
        refine ⟨ordered_of_asOld asOld, ordered sorted, ?_⟩
        intro one first other second
        obtain ⟨call, known, offers⟩ := List.mem_flatMap.mp first
        obtain ⟨call', known', offers'⟩ := List.mem_flatMap.mp second
        obtain ⟨source, inBatch, age⟩ := asOld call known one offers
        obtain ⟨source', inBatch', age'⟩ := asOld'' call' known' other offers'
        rw [age, age', List.mem_singleton.mp inBatch]
        exact oldest source' inBatch'
      · rw [split, List.cons_append]
      · rw [List.map_cons, ← shipped]
      · intro other member adapter listed
        rcases List.mem_cons.mp member with rfl | member
        · exact (accepted failed adapter listed).of_subset fun call => List.mem_append_left _
        · exact (accepted' other member adapter listed).of_subset fun call => List.mem_append_right _
      · rcases stop with all | ⟨next, behind, fatal, same, fatal', blocked'⟩
        · exact .inl all
        · exact .inr ⟨next, behind, fatal, same, fatal', blocked'.of_subset fun call => List.mem_append_right _⟩

end Batch

section Ticks

variable (answers : Nat → Option String) (adapters : List α) (batchSize : Nat) (dbName : String)

/-- The parts of a tick: the calls with the whole batch, the calls of the isolation pass, the rows it stamps, and the rows it does
not get to. -/
structure TickParts (state : ShipperState α) (order : OrderBy) (now : Int) (front back : List (ShipCall α))
    (before after : List AuditLog) : Prop where
  batch : state.rowsOrm batchSize order = before ++ after
  log : (shipTenant answers adapters batchSize dbName state order now).state.log = state.log ++ (front ++ back)
  whole : ∀ call ∈ front, call.rows = state.batch batchSize dbName order
  ordered : (back.flatMap (·.rows)).Pairwise fun one other => one.createdAt ≤ other.createdAt
  earned : MarkersEarned (state.batch batchSize dbName order) (front ++ back)
  stamped : (shipTenant answers adapters batchSize dbName state order now).state.table =
    state.table.map (ShipperState.stampRow (before.map (·.id)) now)
  accepted : ∀ row ∈ before, ∀ adapter ∈ adapters, Accepted (front ++ back) adapter (row.snapshot dbName)
  stop : (∃ count, (shipTenant answers adapters batchSize dbName state order now).result = .ok count) ∧ after = [] ∨
    ∃ row rest fatal, after = row :: rest ∧
      (shipTenant answers adapters batchSize dbName state order now).result = .error (.uncaught fatal) ∧
      Blocked (front ++ back) (row.snapshot dbName) fatal

/-- The batch of a tick: the oldest rows that are not shipped, in their order. -/
structure OldestFirst (state : ShipperState α) (batch : List AuditLog) : Prop where
  sorted : batch.Pairwise fun one other => one.createdAt ≤ other.createdAt
  unshipped : ∀ row ∈ batch, row ∈ state.unshipped
  oldest : ∀ row ∈ state.unshipped, row ∉ batch → batch.length = batchSize ∧ ∀ older ∈ batch, older.createdAt ≤ row.createdAt

theorem oldestFirst_rowsOrm (state : ShipperState α) (order : OrderBy) :
    OldestFirst batchSize state (state.rowsOrm batchSize order) := by
  have sorted := order.sorted state.unshipped
  rw [← List.take_append_drop batchSize (order.apply state.unshipped), List.pairwise_append] at sorted
  refine ⟨sorted.1, ?_, ?_⟩
  · intro row member
    exact (order.perm state.unshipped).mem_iff.mp (List.mem_of_mem_take member)
  · intro row unshipped unselected
    have listed := (order.perm state.unshipped).mem_iff.mpr unshipped
    rw [← List.take_append_drop batchSize (order.apply state.unshipped), List.mem_append] at listed
    have left : row ∈ (order.apply state.unshipped).drop batchSize := listed.resolve_left unselected
    have long := List.length_pos_of_mem left
    rw [List.length_drop] at long
    refine ⟨?_, fun older member => sorted.2.2 older member row left⟩
    rw [ShipperState.rowsOrm, List.length_take]
    omega

theorem stamp_nil (state : ShipperState α) (now : Int) : state.table.map (ShipperState.stampRow [] now) = state.table := by
  refine List.map_id'' (fun row => ?_) _
  rw [ShipperState.stampRow, if_neg List.not_mem_nil]

theorem shipTenant_whole {state : ShipperState α} {order : OrderBy} (now : Int) (some' : state.rowsOrm batchSize order ≠ [])
    {calls : List (ShipCall α)} (offered : shipBatch answers (state.batch batchSize dbName order) state.log.length adapters = (none, calls)) :
    shipTenant answers adapters batchSize dbName state order now =
      ⟨state.stamp ((state.rowsOrm batchSize order).map (·.id)) now calls, .ok (state.rowsOrm batchSize order).length, 0⟩ := by
  simp only [shipTenant, if_neg some', offered]

theorem shipTenant_isolated {state : ShipperState α} {order : OrderBy} (now : Int) (some' : state.rowsOrm batchSize order ≠ [])
    {error : String} {calls : List (ShipCall α)}
    (offered : shipBatch answers (state.batch batchSize dbName order) state.log.length adapters = (some error, calls))
    {outcome : IsolationOutcome α}
    (isolated : isolateAndShip answers adapters (state.log.length + calls.length) (state.batch batchSize dbName order) = outcome) :
    shipTenant answers adapters batchSize dbName state order now =
      ⟨state.stamp outcome.shipped now (calls ++ outcome.calls), outcome.result, outcome.quarantined⟩ := by
  simp only [shipTenant, if_neg some', offered, isolated]

/-- The calls with a whole batch hold no marker. -/
theorem markersEarned_whole {batch : List AuditLogRow} {calls : List (ShipCall α)} (whole : ∀ call ∈ calls, call.rows = batch) :
    MarkersEarned batch calls := by
  intro before call after split offered member
  have known : call ∈ before ++ call :: after := List.mem_append_right _ List.mem_cons_self
  rw [whole call (split ▸ known)] at member
  exact .inl member

theorem tick_parts (state : ShipperState α) (order : OrderBy) (now : Int) :
    ∃ front back before after, TickParts answers adapters batchSize dbName state order now front back before after := by
  by_cases none' : state.rowsOrm batchSize order = []
  · have tick : shipTenant answers adapters batchSize dbName state order now = ⟨state, .ok 0, 0⟩ := if_pos none'
    refine ⟨[], [], [], [], none', by rw [tick]; simp, fun call member => (List.not_mem_nil member).elim, .nil, markersEarned_nil, ?_,
      fun row member => (List.not_mem_nil member).elim, .inl ⟨⟨0, by rw [tick]⟩, rfl⟩⟩
    rw [tick, List.map_nil, stamp_nil]
  · obtain ⟨whole, through⟩ := shipBatch_spec answers adapters (state.batch batchSize dbName order) state.log.length
    generalize offered : shipBatch answers (state.batch batchSize dbName order) state.log.length adapters = result at whole through
    obtain ⟨refused, calls⟩ := result
    have earned := markersEarned_whole whole
    cases refused with
    | none =>
      have tick := shipTenant_whole answers adapters batchSize dbName now none' offered
      refine ⟨calls, [], state.rowsOrm batchSize order, [], (List.append_nil _).symm, ?_, whole, .nil, ?_, ?_, ?_,
        .inl ⟨⟨_, by rw [tick]⟩, rfl⟩⟩
      · rw [tick, List.append_nil]
        rfl
      · rw [List.append_nil]
        exact earned
      · rw [tick]
        rfl
      · intro row member adapter listed
        obtain ⟨call, made, same, accepted⟩ := through rfl adapter listed
        refine ⟨call, List.mem_append_left _ made, same, accepted, .inl ?_⟩
        rw [whole call made]
        exact List.mem_map_of_mem member
    | some error =>
      have isolated := isolateAndShip_spec answers adapters (state.batch batchSize dbName order) (state.log.length + calls.length)
      generalize run : isolateAndShip answers adapters (state.log.length + calls.length) (state.batch batchSize dbName order) =
        outcome at isolated
      have tick := shipTenant_isolated answers adapters batchSize dbName now none' offered run
      have sorted : (state.batch batchSize dbName order).Pairwise fun one other => one.createdAt ≤ other.createdAt :=
        List.pairwise_map.mpr (oldestFirst_rowsOrm batchSize state order).sorted
      obtain ⟨before, after, split, shipped, accepted, stop⟩ := isolated.through
      obtain ⟨front, behind, rows, rfl, rfl⟩ := List.map_eq_append_iff.mp split
      have ids : (front.map (AuditLog.snapshot dbName)).map (·.id) = front.map (·.id) := by
        rw [List.map_map]
        rfl
      rw [ids] at shipped
      refine ⟨calls, outcome.calls, front, behind, rows, ?_, whole, isolated.ordered sorted, earned.append isolated.earned, ?_, ?_, ?_⟩
      · rw [tick]
        rfl
      · rw [tick, ← shipped]
        rfl
      · intro row member adapter listed
        exact (accepted _ (List.mem_map_of_mem member) adapter listed).of_subset fun call => List.mem_append_right _
      · rw [tick]
        rcases stop with ⟨through', all⟩ | ⟨row, rest, fatal, same, failed, blocked⟩
        · refine .inl ⟨⟨outcome.shipped.length, ?_⟩, List.map_eq_nil_iff.mp all⟩
          simp only [IsolationOutcome.result, through']
        · obtain ⟨source, others, rfl, rfl, -⟩ := List.map_eq_cons_iff.mp same
          refine .inr ⟨source, others, fatal, rfl, ?_, blocked.of_subset fun call => List.mem_append_right _⟩
          simp only [IsolationOutcome.result, failed]

end Ticks

section Stamping

open ShipperState

variable {ids : List Nat} {now : Int} {row : AuditLog}

theorem stampRow_of_mem (listed : row.id ∈ ids) : stampRow ids now row = { row with shippedAt := some now } := if_pos listed

theorem stampRow_of_not_mem (unlisted : row.id ∉ ids) : stampRow ids now row = row := if_neg unlisted

theorem stampRow_snapshot (dbName : String) : (stampRow ids now row).snapshot dbName = row.snapshot dbName := by
  unfold stampRow
  split <;> rfl

theorem stampRow_createdAt : (stampRow ids now row).createdAt = row.createdAt := by
  unfold stampRow
  split <;> rfl

/-- A stamp is kept. -/
theorem stampRow_shipped (shipped : row.shippedAt ≠ none) : (stampRow ids now row).shippedAt ≠ none := by
  unfold stampRow
  split
  · exact Option.some_ne_none now
  · exact shipped

theorem mem_unshipped {state : ShipperState α} : row ∈ state.unshipped ↔ row ∈ state.table ∧ row.shippedAt = none := by
  rw [unshipped, List.mem_filter, decide_eq_true_eq]

end Stamping

section Runs

variable (answers : Nat → Option String) (adapters : List α) (batchSize : Nat) (dbName : String)

/-- Every row that is stamped was accepted by every adapter. -/
def StampedAccepted (state : ShipperState α) : Prop :=
  ∀ row ∈ state.table, row.shippedAt ≠ none → ∀ adapter ∈ adapters, Accepted state.log adapter (row.snapshot dbName)

variable {answers adapters batchSize dbName}

theorem stampedAccepted_add {state : ShipperState α} (holds : StampedAccepted adapters dbName state) (row : AuditLog) :
    StampedAccepted adapters dbName (state.add row) := by
  unfold ShipperState.add
  split
  · intro other member shipped
    rcases List.mem_append.mp member with known | new
    · exact holds other known shipped
    · rw [List.mem_singleton.mp new] at shipped
      exact absurd rfl shipped
  · exact holds

theorem stampedAccepted_tick {state : ShipperState α} (holds : StampedAccepted adapters dbName state) (order : OrderBy) (now : Int) :
    StampedAccepted adapters dbName (shipTenant answers adapters batchSize dbName state order now).state := by
  obtain ⟨front, back, before, after, parts⟩ := tick_parts answers adapters batchSize dbName state order now
  intro row member shipped adapter listed
  rw [parts.stamped] at member
  rw [parts.log]
  obtain ⟨source, known, rfl⟩ := List.mem_map.mp member
  rw [stampRow_snapshot]
  by_cases stamped : source.id ∈ before.map (·.id)
  · obtain ⟨other, inBatch, same⟩ := List.mem_map.mp stamped
    have offered : other ∈ state.rowsOrm batchSize order := by
      rw [parts.batch]
      exact List.mem_append_left _ inBatch
    have other' := (mem_unshipped.mp ((oldestFirst_rowsOrm batchSize state order).unshipped other offered)).1
    have one : other = source := List.inj_on_of_nodup_map state.keys other' known same
    subst one
    exact (parts.accepted other inBatch adapter listed).of_subset fun call => List.mem_append_right _
  · rw [stampRow_of_not_mem stamped] at shipped
    exact (holds source known shipped adapter listed).of_subset fun call => List.mem_append_left _

/-- How many rows wait that are at least as old as a row. -/
def waiting (row : AuditLog) (state : ShipperState α) : Nat :=
  state.table.countP fun other => other.shippedAt = none ∧ other.createdAt ≤ row.createdAt

/-- Rows that arrive are newer than a row, and ticks end without a fatal refusal. -/
def Quiet (answers : Nat → Option String) (adapters : List α) (batchSize : Nat) (dbName : String) (row : AuditLog)
    (state : ShipperState α) : ShipperEvent → Prop
  | .arrive other => row.createdAt < other.createdAt
  | .tick order now => ∃ count, (shipTenant answers adapters batchSize dbName state order now).result = .ok count

def ShipperEvent.isTick : ShipperEvent → Bool
  | .tick _ _ => true
  | .arrive _ => false

/-- The row is in the table, with a stamp. -/
def Shipped (row : AuditLog) (state : ShipperState α) : Prop := ∃ other ∈ state.table, other.id = row.id ∧ other.shippedAt ≠ none

theorem shipped_step {row : AuditLog} {state : ShipperState α} (shipped : Shipped row state) (event : ShipperEvent) :
    Shipped row ((shipper answers adapters batchSize dbName).step state event) := by
  obtain ⟨other, known, same, stamped⟩ := shipped
  cases event with
  | arrive new =>
    refine ⟨other, ?_, same, stamped⟩
    show other ∈ (state.add new).table
    unfold ShipperState.add
    split
    · exact List.mem_append_left _ known
    · exact known
  | tick order now =>
    obtain ⟨front, back, before, after, parts⟩ := tick_parts answers adapters batchSize dbName state order now
    refine ⟨ShipperState.stampRow (before.map (·.id)) now other, ?_, ?_, stampRow_shipped stamped⟩
    · show _ ∈ (shipTenant answers adapters batchSize dbName state order now).state.table
      rw [parts.stamped]
      exact List.mem_map_of_mem known
    · rw [ShipperState.stampRow_id, same]

theorem shipped_exec {row : AuditLog} {state : ShipperState α} (shipped : Shipped row state) (events : List ShipperEvent) :
    Shipped row ((shipper answers adapters batchSize dbName).exec state events) := by
  have step : ∀ state event, Shipped row state → Shipped row ((shipper answers adapters batchSize dbName).step state event) :=
    fun _ event holds => shipped_step holds event
  exact Machine.exec_invariant step shipped events

theorem countP_lt_of_mem {keep keep' : AuditLog → Bool} {rows : List AuditLog} (fewer : ∀ row ∈ rows, keep row = true → keep' row = true)
    {row : AuditLog} (member : row ∈ rows) (was : keep' row = true) (gone : keep row = false) : rows.countP keep < rows.countP keep' := by
  obtain ⟨front, behind, rfl⟩ := List.append_of_mem member
  have one := List.countP_mono_left fun other known => fewer other (List.mem_append_left _ known)
  have two := List.countP_mono_left fun other known => fewer other (List.mem_append_right _ (List.mem_cons_of_mem _ known))
  rw [List.countP_append, List.countP_append, List.countP_cons, List.countP_cons, if_pos was, gone, if_neg Bool.false_ne_true]
  omega

/-- A tick without a fatal refusal stamps the row, or one that is at least as old. -/
theorem progress_tick {row : AuditLog} {state : ShipperState α} (known : row ∈ state.table) (unshipped : row.shippedAt = none)
    (some' : 0 < batchSize) {order : OrderBy} {now : Int} {count : Nat}
    (ok : (shipTenant answers adapters batchSize dbName state order now).result = .ok count) :
    Shipped row (shipTenant answers adapters batchSize dbName state order now).state ∨
      row ∈ (shipTenant answers adapters batchSize dbName state order now).state.table ∧
        waiting row (shipTenant answers adapters batchSize dbName state order now).state < waiting row state := by
  obtain ⟨front, back, before, after, parts⟩ := tick_parts answers adapters batchSize dbName state order now
  obtain ⟨-, unshippedRows, oldest⟩ := oldestFirst_rowsOrm batchSize state order
  have all : state.rowsOrm batchSize order = before := by
    rcases parts.stop with ⟨-, none'⟩ | ⟨stopped, rest, fatal, -, failed, -⟩
    · rw [parts.batch, none', List.append_nil]
    · rw [failed] at ok
      cases ok
  by_cases offered : row ∈ before
  · left
    refine ⟨ShipperState.stampRow (before.map (·.id)) now row, ?_, ShipperState.stampRow_id _ _ _, ?_⟩
    · rw [parts.stamped]
      exact List.mem_map_of_mem known
    · rw [stampRow_of_mem (List.mem_map_of_mem offered)]
      exact Option.some_ne_none now
  · right
    have unlisted : row.id ∉ before.map (·.id) := by
      intro listed
      obtain ⟨other, inBatch, same⟩ := List.mem_map.mp listed
      have other' := (mem_unshipped.mp (unshippedRows other (by rw [all]; exact inBatch))).1
      have one : other = row := List.inj_on_of_nodup_map state.keys other' known same
      exact offered (one ▸ inBatch)
    obtain ⟨full, older⟩ := oldest row (mem_unshipped.mpr ⟨known, unshipped⟩) (by rw [all]; exact offered)
    rw [all] at full older
    obtain ⟨first, rest, rfl⟩ := List.exists_cons_of_length_pos (by rw [full]; exact some')
    have firstRow := mem_unshipped.mp (unshippedRows first (by rw [all]; exact List.mem_cons_self))
    have stamped : first.id ∈ (first :: rest).map (·.id) := List.mem_map_of_mem List.mem_cons_self
    constructor
    · rw [parts.stamped]
      exact List.mem_map.mpr ⟨row, known, stampRow_of_not_mem unlisted⟩
    · rw [waiting, waiting, parts.stamped, List.countP_map]
      refine countP_lt_of_mem ?_ firstRow.1 ?_ ?_
      · intro other _ waits
        rw [Function.comp_apply, decide_eq_true_eq, stampRow_createdAt] at waits
        rw [decide_eq_true_eq]
        refine ⟨?_, waits.2⟩
        by_contra shipped
        exact stampRow_shipped shipped waits.1
      · rw [decide_eq_true_eq]
        exact ⟨firstRow.2, older first List.mem_cons_self⟩
      · rw [Function.comp_apply, stampRow_of_mem stamped]
        simp

theorem progress_add {row : AuditLog} {state : ShipperState α} (known : row ∈ state.table) {new : AuditLog}
    (newer : row.createdAt < new.createdAt) : row ∈ (state.add new).table ∧ waiting row (state.add new) = waiting row state := by
  unfold ShipperState.add
  split
  · refine ⟨List.mem_append_left _ known, ?_⟩
    rw [waiting, waiting, List.countP_append]
    have later : ¬new.createdAt ≤ row.createdAt := by omega
    simp [later]
  · exact ⟨known, rfl⟩

/-- Each tick without a fatal refusal brings a row closer to being shipped. -/
theorem shipped_after {row : AuditLog} (unshipped : row.shippedAt = none) (some' : 0 < batchSize) (events : List ShipperEvent)
    {state : ShipperState α} (known : row ∈ state.table)
    (quiet : (shipper answers adapters batchSize dbName).Permits (Quiet answers adapters batchSize dbName row) state events)
    (enough : waiting row state ≤ events.countP (·.isTick)) :
    Shipped row ((shipper answers adapters batchSize dbName).exec state events) := by
  induction events generalizing state with
  | nil =>
    have waits : 0 < waiting row state := List.countP_pos_iff.mpr ⟨row, known, by simp [unshipped]⟩
    rw [List.countP_nil] at enough
    omega
  | cons event rest ih =>
    obtain ⟨first, others⟩ := quiet
    cases event with
    | arrive new =>
      obtain ⟨known', same⟩ := progress_add known first
      refine ih known' others ?_
      have counted : (ShipperEvent.arrive new :: rest).countP (·.isTick) = rest.countP (·.isTick) :=
        List.countP_cons_of_neg Bool.false_ne_true
      rw [counted] at enough
      exact same.trans_le enough
    | tick order now =>
      obtain ⟨count, ok⟩ := first
      rcases progress_tick known unshipped some' ok with shipped | ⟨known', fewer⟩
      · exact shipped_exec shipped rest
      · refine ih known' others ?_
        have counted : (ShipperEvent.tick order now :: rest).countP (·.isTick) = rest.countP (·.isTick) + 1 :=
          List.countP_cons_of_pos rfl
        rw [counted] at enough
        have closer : waiting row ((shipper answers adapters batchSize dbName).step state (.tick order now)) < waiting row state := fewer
        omega

variable (answers adapters batchSize dbName)

/-- What holds of a state and of each tick and run from it. -/
structure NeverSkips (state : ShipperState α) : Prop where
  stamped : StampedAccepted adapters dbName state
  oldest : ∀ order, OldestFirst batchSize state (state.rowsOrm batchSize order)
  ticks : ∀ order now, ∃ front back before after, TickParts answers adapters batchSize dbName state order now front back before after
  progress : 0 < batchSize → ∀ row ∈ state.table, row.shippedAt = none → ∀ events,
    (shipper answers adapters batchSize dbName).Permits (Quiet answers adapters batchSize dbName row) state events →
      waiting row state ≤ events.countP (·.isTick) → Shipped row ((shipper answers adapters batchSize dbName).exec state events)

/-- In every run, whatever the adapters accept and refuse. -/
theorem never_skips (events : List ShipperEvent) : NeverSkips answers adapters batchSize dbName
    ((shipper answers adapters batchSize dbName).exec ShipperState.empty events) := by
  refine ⟨?_, oldestFirst_rowsOrm batchSize _, tick_parts answers adapters batchSize dbName _, ?_⟩
  · have first : StampedAccepted adapters dbName (ShipperState.empty : ShipperState α) :=
      fun row member => (List.not_mem_nil member).elim
    refine Machine.exec_invariant (fun state event holds => ?_) first events
    cases event with
    | arrive row => exact stampedAccepted_add holds row
    | tick order now => exact stampedAccepted_tick holds order now
  · intro some' row known unshipped later quiet enough
    exact shipped_after unshipped some' later known quiet enough

end Runs

end Payables.Audit
