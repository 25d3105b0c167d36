import Mathlib.Init
import Mathlib.Tactic.TypeStar

namespace Payables.Lib

universe u v

variable {ε : Type u} {α β : Type v}

/-- A sequence that returns has returned at each of its steps. -/
theorem bind_eq_ok {x : Except ε α} {f : α → Except ε β} {b : β} : (x >>= f) = .ok b ↔ ∃ a, x = .ok a ∧ f a = .ok b := by
  constructor
  · intro ok
    cases x with
    | error raised => cases ok
    | ok a => exact ⟨a, rfl, ok⟩
  · rintro ⟨a, rfl, ok⟩
    exact ok

theorem pure_eq_ok {a b : α} : (pure a : Except ε α) = .ok b ↔ a = b := by
  rw [pure, Applicative.toPure]
  exact ⟨Except.ok.inj, congrArg Except.ok⟩

section
variable {f : α → Except ε β}

/-- A loop that returns has returned at each element. -/
theorem mapM_cons_eq_ok {a : α} {rest : List α} {results : List β} (ok : (a :: rest).mapM f = .ok results) :
    ∃ b others, f a = .ok b ∧ rest.mapM f = .ok others ∧ results = b :: others := by
  rw [List.mapM_cons] at ok
  obtain ⟨b, first, ok⟩ := bind_eq_ok.mp ok
  obtain ⟨others, rest', ok⟩ := bind_eq_ok.mp ok
  exact ⟨b, others, first, rest', (Except.ok.inj ok).symm⟩

theorem result_of_mapM_eq_ok {l : List α} {results : List β} (ok : l.mapM f = .ok results) {a : α} (member : a ∈ l) :
    ∃ b ∈ results, f a = .ok b := by
  induction l generalizing results with
  | nil => cases member
  | cons first rest ih =>
    obtain ⟨b, others, atFirst, atRest, rfl⟩ := mapM_cons_eq_ok ok
    rcases List.mem_cons.mp member with rfl | later
    · exact ⟨b, List.mem_cons_self, atFirst⟩
    · obtain ⟨found, listed, returned⟩ := ih atRest later
      exact ⟨found, List.mem_cons_of_mem b listed, returned⟩

theorem source_of_mapM_eq_ok {l : List α} {results : List β} (ok : l.mapM f = .ok results) {b : β} (member : b ∈ results) :
    ∃ a ∈ l, f a = .ok b := by
  induction l generalizing results with
  | nil =>
    cases ok
    cases member
  | cons first rest ih =>
    obtain ⟨result, others, atFirst, atRest, rfl⟩ := mapM_cons_eq_ok ok
    rcases List.mem_cons.mp member with rfl | later
    · exact ⟨first, List.mem_cons_self, atFirst⟩
    · obtain ⟨found, listed, returned⟩ := ih atRest later
      exact ⟨found, List.mem_cons_of_mem first listed, returned⟩

/-- What each element keeps, the list keeps. -/
theorem map_of_mapM_eq_ok {γ : Type*} {before : α → γ} {after : β → γ} (keeps : ∀ a b, f a = .ok b → after b = before a)
    {l : List α} {results : List β} (ok : l.mapM f = .ok results) : results.map after = l.map before := by
  induction l generalizing results with
  | nil =>
    cases ok
    rfl
  | cons first rest ih =>
    obtain ⟨b, others, atFirst, atRest, rfl⟩ := mapM_cons_eq_ok ok
    rw [List.map_cons, List.map_cons, keeps first b atFirst, ih atRest]

end

end Payables.Lib
