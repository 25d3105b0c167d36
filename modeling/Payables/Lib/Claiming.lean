import Mathlib.Data.Finset.Insert
import Mathlib.Data.List.Nodup

namespace Payables.Lib

variable {α β κ : Type*} [DecidableEq κ]

/-- A rule by which items in turn each take at most one thing, of a key that was not taken before. -/
structure Claimant (α β κ : Type*) where
  choose : Finset κ → α → Option β
  key : β → κ
  fresh : ∀ {taken item choice}, choose taken item = some choice → key choice ∉ taken

namespace Claimant

variable (rule : Claimant α β κ)

/-- The keys that are taken once an item has had its turn. -/
def advance (taken : Finset κ) (item : α) : Finset κ :=
  match rule.choose taken item with
  | none => taken
  | some choice => insert (rule.key choice) taken

def takenAfter (taken : Finset κ) (items : List α) : Finset κ := items.foldl rule.advance taken

/-- A pass over items, with what each of them takes. -/
def pass : Finset κ → List α → List (α × Option β)
  | _, [] => []
  | taken, item :: items => (item, rule.choose taken item) :: pass (rule.advance taken item) items

/-- What a pass takes, in the order of the items. -/
def choices (taken : Finset κ) (items : List α) : List β := (rule.pass taken items).filterMap Prod.snd

/-- The keys a pass takes, in the order of the items. -/
def keys (taken : Finset κ) (items : List α) : List κ := (rule.pass taken items).filterMap fun entry => entry.2.map rule.key

example (taken : Finset κ) : rule.pass taken [] = [] := by rw [pass]

example (taken : Finset κ) : rule.keys taken [] = [] := by rw [keys, pass, List.filterMap_nil]

variable {rule} {taken : Finset κ} {item : α} {items before after : List α} {choice : Option β} {key : κ}

@[simp] theorem pass_map_fst : (rule.pass taken items).map Prod.fst = items := by
  induction items generalizing taken with
  | nil => rfl
  | cons item items ih => rw [pass, List.map_cons, ih]

@[simp] theorem pass_length : (rule.pass taken items).length = items.length := by
  rw [← List.length_map Prod.fst, pass_map_fst]

theorem pass_append : rule.pass taken (before ++ after) =
    rule.pass taken before ++ rule.pass (rule.takenAfter taken before) after := by
  induction before generalizing taken with
  | nil => rfl
  | cons item before ih => rw [List.cons_append, pass, pass, ih, List.cons_append, takenAfter, takenAfter, List.foldl_cons]

/-- What an item took is what the rule chose for it when the items before it had taken theirs. -/
theorem mem_pass_iff : (item, choice) ∈ rule.pass taken items ↔ ∃ before after, items = before ++ item :: after ∧
    choice = rule.choose (rule.takenAfter taken before) item := by
  constructor
  · intro listed
    induction items generalizing taken with
    | nil => cases listed
    | cons first items ih =>
      rw [pass, List.mem_cons] at listed
      rcases listed with head | tail
      · cases head
        exact ⟨[], items, rfl, rfl⟩
      · obtain ⟨before, after, rfl, chosen⟩ := ih tail
        exact ⟨first :: before, after, rfl, chosen⟩
  · rintro ⟨before, after, rfl, rfl⟩
    rw [pass_append, pass]
    exact List.mem_append_right _ List.mem_cons_self

theorem keys_cons : rule.keys taken (item :: items) =
    ((rule.choose taken item).map rule.key).toList ++ rule.keys (rule.advance taken item) items := by
  cases chosen : rule.choose taken item <;> simp [keys, pass, chosen]

theorem choices_cons : rule.choices taken (item :: items) =
    (rule.choose taken item).toList ++ rule.choices (rule.advance taken item) items := by
  cases chosen : rule.choose taken item <;> simp [choices, pass, chosen]

theorem mem_advance : key ∈ rule.advance taken item ↔ key ∈ taken ∨ (rule.choose taken item).map rule.key = some key := by
  cases chosen : rule.choose taken item <;> simp [advance, chosen, or_comm, eq_comm]

theorem mem_takenAfter : key ∈ rule.takenAfter taken items ↔ key ∈ taken ∨ key ∈ rule.keys taken items := by
  induction items generalizing taken with
  | nil => simp [takenAfter, keys, pass]
  | cons item items ih =>
    have next : rule.takenAfter taken (item :: items) = rule.takenAfter (rule.advance taken item) items := rfl
    rw [next, ih, mem_advance, keys_cons, List.mem_append, Option.mem_toList, or_assoc]

theorem keys_fresh (listed : key ∈ rule.keys taken items) : key ∉ taken := by
  induction items generalizing taken with
  | nil => simp [keys, pass] at listed
  | cons item items ih =>
    rw [keys_cons, List.mem_append, Option.mem_toList] at listed
    rcases listed with head | tail
    · obtain ⟨chosen, choose, rfl⟩ := Option.map_eq_some_iff.mp head
      exact rule.fresh choose
    · exact fun before => ih tail (mem_advance.mpr (.inl before))

/-- No key is taken twice. -/
theorem keys_nodup : (rule.keys taken items).Nodup := by
  induction items generalizing taken with
  | nil => simp [keys, pass]
  | cons item items ih =>
    rw [keys_cons]
    cases chosen : (rule.choose taken item).map rule.key with
    | none => exact ih
    | some key =>
      have later : key ∉ rule.keys (rule.advance taken item) items :=
        fun listed => keys_fresh listed (mem_advance.mpr (.inr chosen))
      exact List.nodup_cons.mpr ⟨later, ih⟩

end Claimant

section Conservation

variable {things : List β} {ident : β → κ} {thing : β} {taken : Finset κ}

/-- Taking a thing moves it from what is left to what is taken. -/
theorem take_perm (distinct : (things.map ident).Nodup) (listed : thing ∈ things) (fresh : ident thing ∉ taken) :
    (thing :: things.filter fun other => ident other ∉ insert (ident thing) taken).Perm
      (things.filter fun other => ident other ∉ taken) := by
  have different : things.Nodup := distinct.of_map
  have absent : thing ∉ things.filter fun other => ident other ∉ insert (ident thing) taken := by
    intro still
    have open_ := of_decide_eq_true (List.mem_filter.mp still).2
    exact open_ (Finset.mem_insert_self _ _)
  refine (List.perm_ext_iff_of_nodup (List.nodup_cons.mpr ⟨absent, different.filter _⟩) (different.filter _)).mpr fun other => ?_
  simp only [List.mem_cons, List.mem_filter, decide_eq_true_eq, Finset.mem_insert, not_or]
  constructor
  · rintro (rfl | ⟨inThings, _, open_⟩)
    · exact ⟨listed, fresh⟩
    · exact ⟨inThings, open_⟩
  · rintro ⟨inThings, open_⟩
    by_cases same : ident other = ident thing
    · exact .inl (List.inj_on_of_nodup_map distinct inThings listed same)
    · exact .inr ⟨inThings, same, open_⟩

/-- What a pass takes and what it leaves are the things there were. -/
theorem Claimant.conserves {rule : Claimant α γ κ} {thing : γ → β} (distinct : (things.map ident).Nodup)
    (keyed : ∀ choice, rule.key choice = ident (thing choice))
    (chosen : ∀ taken item choice, rule.choose taken item = some choice → thing choice ∈ things) (items : List α) :
    ((rule.choices taken items).map thing ++ things.filter fun other => ident other ∉ rule.takenAfter taken items).Perm
      (things.filter fun other => ident other ∉ taken) := by
  induction items generalizing taken with
  | nil => exact .refl _
  | cons item items ih =>
    have later := @ih (rule.advance taken item)
    have next : rule.takenAfter taken (item :: items) = rule.takenAfter (rule.advance taken item) items := rfl
    rw [next, choices_cons]
    cases choice : rule.choose taken item with
    | none =>
      have same : rule.advance taken item = taken := by rw [advance, choice]
      rw [Option.toList_none, List.nil_append]
      rw [same] at later ⊢
      exact later
    | some taken' =>
      have advanced : rule.advance taken item = insert (ident (thing taken')) taken := by
        simp only [advance, choice, keyed]
      have fresh : ident (thing taken') ∉ taken := keyed taken' ▸ rule.fresh choice
      have moved := take_perm distinct (chosen taken item taken' choice) fresh
      rw [Option.toList_some, List.singleton_append, List.map_cons, List.cons_append]
      rw [advanced] at later ⊢
      exact (later.cons _).trans moved

end Conservation

/-- What is still to be taken, of a kind, among things of distinct keys. -/
theorem countP_untaken_insert {things : List β} {key : β → κ} {thing : β} {taken : Finset κ} (kind : β → Bool)
    (distinct : (things.map key).Nodup) (listed : thing ∈ things) (fresh : key thing ∉ taken) :
    (things.countP fun other => kind other && key other ∉ insert (key thing) taken) + (if kind thing then 1 else 0) =
      things.countP fun other => kind other && key other ∉ taken := by
  induction things with
  | nil => cases listed
  | cons first things ih =>
    obtain ⟨apart, distinct⟩ := List.nodup_cons.mp distinct
    rw [List.countP_cons, List.countP_cons]
    rcases List.mem_cons.mp listed with rfl | later
    · have others : (things.countP fun other => kind other && key other ∉ insert (key thing) taken) =
          things.countP fun other => kind other && key other ∉ taken := by
        refine List.countP_congr fun other member => ?_
        have differs : key other ≠ key thing := fun same => apart (same ▸ List.mem_map_of_mem member)
        simp [differs]
      rw [others]
      simp [fresh]
    · have differs : key first ≠ key thing := fun same => apart (same ▸ List.mem_map_of_mem later)
      have rest := ih distinct later
      have same : (kind first && decide (key first ∉ insert (key thing) taken)) = (kind first && decide (key first ∉ taken)) := by
        simp [differs]
      rw [same]
      omega

end Payables.Lib
