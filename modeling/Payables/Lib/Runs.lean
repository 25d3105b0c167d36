import Mathlib.Init
import Mathlib.Tactic.TypeStar

namespace Payables.Lib

/-- A system driven by requests. One label carries everything a step reads from outside the
system, so a step is a function of the state and the label. -/
structure Machine (σ ℓ : Type*) where
  init : σ → Prop
  step : σ → ℓ → σ

namespace Machine

variable {σ ℓ : Type*} (M : Machine σ ℓ)

/-- States reached by steps that all satisfy `allowed`, which sees the state before the step. -/
inductive Reach (allowed : σ → ℓ → Prop) : σ → Prop
  | start {s} : M.init s → Reach allowed s
  | next {s l} : Reach allowed s → allowed s l → Reach allowed (M.step s l)

/-- The guard of a run that is restricted in no way. -/
def Anything : σ → ℓ → Prop := fun _ _ => True

def exec (s : σ) (labels : List ℓ) : σ := labels.foldl M.step s

variable {M}

theorem Reach.invariant {allowed : σ → ℓ → Prop} {Inv : σ → Prop} (start : ∀ s, M.init s → Inv s)
    (step : ∀ s l, Inv s → allowed s l → Inv (M.step s l)) {s : σ} (reach : M.Reach allowed s) : Inv s := by
  induction reach with
  | start first => exact start _ first
  | next _ permitted ih => exact step _ _ ih permitted

theorem Reach.weaken {allowed wider : σ → ℓ → Prop} (widen : ∀ s l, allowed s l → wider s l) {s : σ}
    (reach : M.Reach allowed s) : M.Reach wider s := by
  induction reach with
  | start first => exact .start first
  | next _ permitted ih => exact .next ih (widen _ _ permitted)

theorem exec_concat (s : σ) (labels : List ℓ) (l : ℓ) : M.exec s (labels ++ [l]) = M.step (M.exec s labels) l :=
  List.foldl_append

theorem exec_invariant {Inv : σ → Prop} (step : ∀ s l, Inv s → Inv (M.step s l)) {s : σ} (holds : Inv s)
    (labels : List ℓ) : Inv (M.exec s labels) := by
  induction labels generalizing s with
  | nil => exact holds
  | cons l rest ih => exact ih (step s l holds)

/-- Every label of the list satisfies the guard in the state it meets. -/
def Permits (M : Machine σ ℓ) (allowed : σ → ℓ → Prop) : σ → List ℓ → Prop
  | _, [] => True
  | s, l :: rest => allowed s l ∧ Permits M allowed (M.step s l) rest

instance Permits.decidable (allowed : σ → ℓ → Prop) [∀ s l, Decidable (allowed s l)] :
    (s : σ) → (labels : List ℓ) → Decidable (M.Permits allowed s labels)
  | _, [] => inferInstanceAs (Decidable True)
  | s, l :: rest =>
    have := Permits.decidable allowed (M.step s l) rest
    inferInstanceAs (Decidable (allowed s l ∧ M.Permits allowed (M.step s l) rest))

theorem Reach.exec {allowed : σ → ℓ → Prop} {s : σ} (reach : M.Reach allowed s) {labels : List ℓ}
    (permitted : M.Permits allowed s labels) : M.Reach allowed (M.exec s labels) := by
  induction labels generalizing s with
  | nil => exact reach
  | cons l rest ih => exact ih (reach.next permitted.1) permitted.2

theorem Permits.append {allowed : σ → ℓ → Prop} {s : σ} {before after : List ℓ}
    (permitted : M.Permits allowed s (before ++ after)) :
    M.Permits allowed s before ∧ M.Permits allowed (M.exec s before) after := by
  induction before generalizing s with
  | nil => exact ⟨trivial, permitted⟩
  | cons l rest ih => exact ⟨⟨permitted.1, (ih permitted.2).1⟩, (ih permitted.2).2⟩

/-- A run is permitted exactly when each of its steps is, in the state the steps before it lead to. -/
theorem permits_iff {allowed : σ → ℓ → Prop} {s : σ} {labels : List ℓ} : M.Permits allowed s labels ↔
    ∀ before l after, labels = before ++ l :: after → allowed (M.exec s before) l := by
  constructor
  · rintro permitted before l after rfl
    exact permitted.append.2.1
  · intro each
    induction labels generalizing s with
    | nil => trivial
    | cons first rest ih =>
      refine ⟨each [] first rest rfl, ih fun before l after split => ?_⟩
      rw [split] at each
      exact each (first :: before) l after rfl

/-- Where a step keeps a property exactly when it meets the guard, a run keeps it throughout exactly when
all of its steps meet the guard. -/
theorem holds_iff_permits {Inv P : σ → Prop} {sound : ℓ → Prop} {allowed : σ → ℓ → Prop}
    (keeps : ∀ s l, Inv s → sound l → Inv (M.step s l))
    (exactly : ∀ s l, Inv s → sound l → P s → (P (M.step s l) ↔ allowed s l)) {s : σ} (inv : Inv s) (holds : P s)
    {labels : List ℓ} (sounds : ∀ l ∈ labels, sound l) :
    (∀ before after, labels = before ++ after → P (M.exec s before)) ↔ M.Permits allowed s labels := by
  induction labels generalizing s with
  | nil =>
    refine ⟨fun _ => trivial, fun _ before after split => ?_⟩
    rw [(List.append_eq_nil_iff.mp split.symm).1]
    exact holds
  | cons l rest ih =>
    obtain ⟨first, others⟩ := List.forall_mem_cons.mp sounds
    constructor
    · intro throughout
      have next : P (M.step s l) := throughout [l] rest rfl
      refine ⟨(exactly s l inv first holds).mp next, (ih (keeps s l inv first) next others).mp ?_⟩
      intro before after split
      refine throughout (l :: before) after ?_
      rw [split, List.cons_append]
    · rintro ⟨permitted, later⟩ before after split
      have next := (exactly s l inv first holds).mpr permitted
      cases before with
      | nil => exact holds
      | cons other before =>
        obtain ⟨rfl, same⟩ := List.cons_eq_cons.mp split
        exact (ih (keeps s l inv first) next others).mpr later before after same

/-- Where a step relates the states around it exactly when it meets the guard, a run relates any two of its states
exactly when all of its steps meet the guard. -/
theorem related_iff_permits {Inv : σ → Prop} {R : σ → σ → Prop} {allowed : σ → ℓ → Prop} (refl : ∀ s, R s s)
    (trans : ∀ s t u, R s t → R t u → R s u) (keeps : ∀ s l, Inv s → allowed s l → Inv (M.step s l))
    (exactly : ∀ s l, Inv s → (R s (M.step s l) ↔ allowed s l)) {s : σ} (inv : Inv s) {labels : List ℓ} :
    (∀ before between after, labels = before ++ between ++ after → R (M.exec s before) (M.exec s (before ++ between))) ↔
      M.Permits allowed s labels := by
  induction labels generalizing s with
  | nil =>
    refine ⟨fun _ => trivial, fun _ before between after split => ?_⟩
    obtain ⟨rfl, rfl⟩ := List.append_eq_nil_iff.mp (List.append_eq_nil_iff.mp split.symm).1
    exact refl s
  | cons l rest ih =>
    constructor
    · intro related
      have permitted : allowed s l := (exactly s l inv).mp (related [] [l] rest rfl)
      refine ⟨permitted, (ih (keeps s l inv permitted)).mp fun before between after split => ?_⟩
      refine related (l :: before) between after ?_
      rw [split, List.cons_append, List.cons_append]
    · rintro ⟨permitted, later⟩ before between after split
      have next := (ih (keeps s l inv permitted)).mpr later
      cases before with
      | nil =>
        cases between with
        | nil => exact refl s
        | cons other between =>
          obtain ⟨rfl, same⟩ := List.cons_eq_cons.mp split
          exact trans _ _ _ ((exactly s l inv).mpr permitted) (next [] between after same)
      | cons other before =>
        obtain ⟨rfl, same⟩ := List.cons_eq_cons.mp split
        exact next before between after same

/-- Where a step keeps a property of the states exactly when it meets the guard, the states of a run have it exactly when
all of its steps meet the guard. -/
theorem throughout_iff_permits {Inv P : σ → Prop} {allowed : σ → ℓ → Prop} (holds : ∀ s, Inv s → P s)
    (keeps : ∀ s l, Inv s → allowed s l → Inv (M.step s l))
    (exactly : ∀ s l, Inv s → (P (M.step s l) ↔ allowed s l)) {s : σ} (inv : Inv s) {labels : List ℓ} :
    (∀ before after, labels = before ++ after → P (M.exec s before)) ↔ M.Permits allowed s labels := by
  have step : ∀ s l, Inv s → ((P s → P (M.step s l)) ↔ allowed s l) := fun s l inv =>
    ⟨fun kept => (exactly s l inv).mp (kept (holds s inv)), fun permitted _ => (exactly s l inv).mpr permitted⟩
  have related : (∀ before between after, labels = before ++ between ++ after →
      P (M.exec s before) → P (M.exec s (before ++ between))) ↔ M.Permits allowed s labels :=
    related_iff_permits (R := fun s t => P s → P t) (fun _ => id) (fun _ _ _ one two => two ∘ one) keeps step inv
  rw [← related]
  constructor
  · exact fun throughout before between after split _ => throughout (before ++ between) after split
  · exact fun kept before after split => kept [] before after split (holds s inv)

theorem permits_anything (s : σ) (labels : List ℓ) : M.Permits Anything s labels := by
  induction labels generalizing s with
  | nil => trivial
  | cons l rest ih => exact ⟨trivial, ih _⟩

/-- A run listed label by label reaches its last state. -/
theorem reach_exec {s : σ} (first : M.init s) (labels : List ℓ) : M.Reach Anything (M.exec s labels) :=
  (Reach.start first).exec (permits_anything s labels)

end Machine

end Payables.Lib
