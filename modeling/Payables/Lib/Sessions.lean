import Mathlib.Logic.Function.Basic
import Payables.Lib.Runs

namespace Payables.Lib

section InFlight

variable {κ : Type*}

/-- A request in flight after the requests of one number were set. -/
theorem update_eq_some {requests : Nat → Option κ} {number other : Nat} {request : Option κ} {found : κ} :
    Function.update requests number request other = some found ↔
      other = number ∧ request = some found ∨ other ≠ number ∧ requests other = some found := by
  by_cases same : other = number
  · subst same
    rw [Function.update_self]
    simp
  · rw [Function.update_of_ne same]
    simp [same]

end InFlight

/-- Requests against shared tables. An arriving request is refused, or done at once where it holds the rows it reads
locked, or it goes on with what it has read (`κ`), part by part, while others come in between. `abort` is what the end
of a request that is rolled back leaves of its locks. -/
structure Service (σ κ ℓ ι : Type*) where
  init : σ → Prop
  arrive : σ → ℓ → σ × Option κ
  advance : σ → κ → ι → σ × Option κ
  abort : σ → κ → σ := fun tables _ => tables

/-- The tables with the requests in flight, by number. -/
structure Served (σ κ : Type*) where
  tables : σ
  held : Nat → Option κ

/-- The state after a part of the request of a number. -/
def Served.put {σ κ : Type*} (state : Served σ κ) (number : Nat) (result : σ × Option κ) : Served σ κ :=
  ⟨result.1, Function.update state.held number result.2⟩

/-- A part of a request. One that dies is rolled back. -/
inductive Part (ℓ ι : Type*)
  | arrive (number : Nat) (label : ℓ)
  | advance (number : Nat) (input : ι)
  | die (number : Nat)

namespace Service

variable {σ κ ℓ ι : Type*} (S : Service σ κ ℓ ι)

def begun (tables : σ) : Served σ κ := ⟨tables, fun _ => none⟩

def step (state : Served σ κ) : Part ℓ ι → Served σ κ
  | .arrive number label =>
    match state.held number with
    | some _ => state
    | none => state.put number (S.arrive state.tables label)
  | .advance number input =>
    match state.held number with
    | some request => state.put number (S.advance state.tables request input)
    | none => state
  | .die number =>
    match state.held number with
    | some request => state.put number (S.abort state.tables request, none)
    | none => state

/-- Any interleaving of the parts of any requests. -/
def machine : Machine (Served σ κ) (Part ℓ ι) where
  init state := S.init state.tables ∧ state.held = fun _ => none
  step := S.step

variable {S}

theorem init_begun {tables : σ} (first : S.init tables) : S.machine.init (begun tables) := ⟨first, rfl⟩

/-- A guard on the parts of requests, from one on arrivals and one on what a request in flight does. -/
def Guarded (arrives : σ → ℓ → Prop) (advances : σ → κ → ι → Prop) (state : Served σ κ) : Part ℓ ι → Prop
  | .arrive _ label => arrives state.tables label
  | .advance number input => ∀ request ∈ state.held number, advances state.tables request input
  | .die _ => True

instance Guarded.decidable {arrives : σ → ℓ → Prop} {advances : σ → κ → ι → Prop}
    [∀ tables label, Decidable (arrives tables label)] [∀ tables request input, Decidable (advances tables request input)]
    (state : Served σ κ) : (part : Part ℓ ι) → Decidable (Guarded arrives advances state part)
  | .arrive _ label => inferInstanceAs (Decidable (arrives state.tables label))
  | .advance number input =>
    inferInstanceAs (Decidable (∀ request ∈ state.held number, advances state.tables request input))
  | .die _ => inferInstanceAs (Decidable True)

/-- Requests that need not be kept apart, for want of locks. -/
def Free : κ → κ → Prop := fun _ _ => True

/-- An invariant of the tables together with what holds of each request in flight and with what keeps any two of them
apart. -/
structure Keeps (inv : σ → Prop) (holds : σ → κ → Prop) (apart : κ → κ → Prop) (state : Served σ κ) : Prop where
  tables : inv state.tables
  held : ∀ number request, state.held number = some request → holds state.tables request
  apart : ∀ one other first second, one ≠ other → state.held one = some first → state.held other = some second →
    apart first second

/-- What a part of a request has to do with such an invariant, where `mine` is the request as it was before: keep the
one of the tables and of every other request, and meet the one of its own request. -/
structure Respects (inv : σ → Prop) (holds : σ → κ → Prop) (apart : κ → κ → Prop) (before : σ) (mine : Option κ)
    (after : σ × Option κ) : Prop where
  tables : inv after.1
  others : ∀ other, holds before other → (∀ request ∈ mine, apart request other) → holds after.1 other
  own : ∀ request ∈ after.2, holds after.1 request
  apart : ∀ request ∈ after.2, ∀ other, holds before other → (∀ old ∈ mine, apart old other) → apart request other

section Rule

variable {inv : σ → Prop} {holds : σ → κ → Prop} {apart : κ → κ → Prop}

/-- A refusal. -/
theorem Respects.refused {tables : σ} (keeps : inv tables) : Respects inv holds apart tables mine (tables, none) :=
  ⟨keeps, fun _ held _ => held, by simp, by simp⟩

/-- A request that has only read. -/
theorem Respects.read {tables : σ} {request : κ} (keeps : inv tables) (held : holds tables request) :
    Respects inv holds Free tables mine (tables, some request) :=
  ⟨keeps, fun _ other _ => other, fun _ own => Option.some.inj own ▸ held, fun _ _ _ _ _ => trivial⟩

/-- A request that has ended. -/
theorem Respects.ended {before after : σ} (keeps : inv after)
    (others : ∀ other, holds before other → holds after other) : Respects inv holds apart before mine (after, none) :=
  ⟨keeps, fun other held _ => others other held, by simp, by simp⟩

/-- A request that has ended, where the others rely on being kept apart from it. -/
theorem Respects.closed {before after : σ} (keeps : inv after)
    (others : ∀ other, holds before other → (∀ request ∈ mine, apart request other) → holds after other) :
    Respects inv holds apart before mine (after, none) :=
  ⟨keeps, others, by simp, by simp⟩

theorem Keeps.put {state : Served σ κ} (symm : ∀ first second, apart first second → apart second first)
    (keeps : Keeps inv holds apart state) {number : Nat} {after : σ × Option κ}
    (respects : Respects inv holds apart state.tables (state.held number) after) :
    Keeps inv holds apart (state.put number after) := by
  have mine : ∀ other second, other ≠ number → state.held other = some second →
      ∀ request ∈ state.held number, apart request second :=
    fun other second different found request own => keeps.apart number other request second (Ne.symm different) own found
  have new : ∀ other first second, other ≠ number → after.2 = some first → state.held other = some second →
      apart first second :=
    fun other first second different own found =>
      respects.apart first own second (keeps.held other second found) (mine other second different found)
  constructor
  case tables => exact respects.tables
  case held =>
    intro other request found
    rcases update_eq_some.mp found with ⟨_, own⟩ | ⟨different, earlier⟩
    · exact respects.own request own
    · exact respects.others request (keeps.held other request earlier) (mine other request different earlier)
  case apart =>
    intro one other first second different atOne atOther
    rcases update_eq_some.mp atOne with ⟨rfl, own⟩ | ⟨notOne, earlier⟩
    · rcases update_eq_some.mp atOther with ⟨rfl, _⟩ | ⟨notOther, found⟩
      · exact absurd rfl different
      · exact new other first second notOther own found
    · rcases update_eq_some.mp atOther with ⟨rfl, own⟩ | ⟨_, found⟩
      · exact symm _ _ (new one second first notOne own earlier)
      · exact keeps.apart one other first second different earlier found

/-- A request that arrives. -/
theorem Keeps.arrive {state : Served σ κ} (symm : ∀ first second, apart first second → apart second first)
    (keeps : Keeps inv holds apart state) {number : Nat} {label : ℓ}
    (respects : Respects inv holds apart state.tables none (S.arrive state.tables label)) :
    Keeps inv holds apart (S.step state (.arrive number label)) := by
  rw [Service.step]
  split
  next => exact keeps
  next idle =>
    refine keeps.put symm ?_
    rw [idle]
    exact respects

/-- A request in flight that goes on. -/
theorem Keeps.advance {state : Served σ κ} (symm : ∀ first second, apart first second → apart second first)
    (keeps : Keeps inv holds apart state) {number : Nat} {input : ι}
    (respects : ∀ request, state.held number = some request → holds state.tables request →
      Respects inv holds apart state.tables (some request) (S.advance state.tables request input)) :
    Keeps inv holds apart (S.step state (.advance number input)) := by
  rw [Service.step]
  split
  next request found =>
    refine keeps.put symm ?_
    rw [found]
    exact respects request found (keeps.held number request found)
  next => exact keeps

/-- No request is in flight at the start. -/
theorem Keeps.idle {state : Served σ κ} (begins : inv state.tables) (idle : state.held = fun _ => none) :
    Keeps inv holds apart state := by
  have none : ∀ number request, state.held number ≠ some request := by
    intro number request found
    rw [idle] at found
    cases found
  exact ⟨begins, fun number request found => absurd found (none number request),
    fun one _ first _ _ found => absurd found (none one first)⟩

section Steps

variable {arrives : σ → ℓ → Prop} {advances : σ → κ → ι → Prop}

/-- What the parts of the requests of a service have to do with an invariant. -/
structure Sustains (S : Service σ κ ℓ ι) (arrives : σ → ℓ → Prop) (advances : σ → κ → ι → Prop) (inv : σ → Prop)
    (holds : σ → κ → Prop) (apart : κ → κ → Prop) : Prop where
  symm : ∀ first second, apart first second → apart second first
  start : ∀ tables, S.init tables → inv tables
  arrive : ∀ tables label, inv tables → arrives tables label →
    Respects inv holds apart tables none (S.arrive tables label)
  advance : ∀ tables request input, inv tables → holds tables request → advances tables request input →
    Respects inv holds apart tables (some request) (S.advance tables request input)
  abort : ∀ tables request, inv tables → holds tables request →
    Respects inv holds apart tables (some request) (S.abort tables request, none)

theorem Sustains.step (sustains : Sustains S arrives advances inv holds apart) {state : Served σ κ}
    (keeps : Keeps inv holds apart state) {part : Part ℓ ι} (allowed : Guarded arrives advances state part) :
    Keeps inv holds apart (S.machine.step state part) := by
  cases part with
  | arrive number label => exact keeps.arrive sustains.symm (sustains.arrive _ label keeps.tables allowed)
  | advance number input =>
    refine keeps.advance sustains.symm fun request found held => ?_
    exact sustains.advance _ request input keeps.tables held (allowed request found)
  | die number =>
    show Keeps inv holds apart (S.step state (.die number))
    rw [Service.step]
    split
    next request found =>
      refine keeps.put sustains.symm ?_
      rw [found]
      exact sustains.abort _ request keeps.tables (keeps.held number request found)
    next => exact keeps

theorem Sustains.init (sustains : Sustains S arrives advances inv holds apart) {state : Served σ κ}
    (first : S.machine.init state) : Keeps inv holds apart state :=
  .idle (sustains.start _ first.1) first.2

/-- The invariant rule: what the parts of all requests sustain holds in all states reached. -/
theorem Sustains.reach (sustains : Sustains S arrives advances inv holds apart) {state : Served σ κ}
    (reach : S.machine.Reach (Guarded arrives advances) state) : Keeps inv holds apart state := by
  have first : ∀ state, S.machine.init state → Keeps inv holds apart state := fun _ => sustains.init
  have step : ∀ state part, Keeps inv holds apart state → Guarded arrives advances state part →
      Keeps inv holds apart (S.machine.step state part) := fun _ _ keeps allowed => sustains.step keeps allowed
  exact reach.invariant first step

end Steps

end Rule

end Service

end Payables.Lib
