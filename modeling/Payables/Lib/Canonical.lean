import Mathlib.Logic.Relation
import Payables.Lib.Stripping

namespace Payables.Lib

/-- What a numbering takes for separators and digits, with the mark that stands for a run of separators. -/
structure Numbering (α : Type*) where
  separates : α → Bool
  digit : α → Bool
  mark : α
  zero : α
  mark_separates : separates mark = true
  zero_digit : digit zero = true
  digit_solid : ∀ c, digit c = true → separates c = false

namespace Numbering

variable {α : Type*} (n : Numbering α)

/-- Every run of separators as one mark. The flag says whether one has just been written. -/
def collapse : Bool → List α → List α
  | _, [] => []
  | inRun, c :: rest =>
    if n.separates c then if inRun then collapse true rest else n.mark :: collapse true rest
    else c :: collapse false rest

/-- One text and a shorter spelling of it. -/
inductive Variant : List α → List α → Prop
  | separators (before after : List α) {run other : List α} (some' : run ≠ []) (all : ∀ c ∈ run, n.separates c = true)
      (someOther : other ≠ []) (allOther : ∀ c ∈ other, n.separates c = true) :
      Variant (before ++ (run ++ after)) (before ++ (other ++ after))
  | front (run after : List α) (all : ∀ c ∈ run, n.separates c = true) : Variant (run ++ after) after
  | back (before run : List α) (all : ∀ c ∈ run, n.separates c = true) : Variant (before ++ run) before
  | zeros (before : List α) (c : α) (after : List α) (fresh : before.getLast?.any n.digit = false) (digit : n.digit c = true) :
      Variant (before ++ n.zero :: c :: after) (before ++ c :: after)

example : n.collapse true [] = [] := by rw [collapse]

/-- Collapsing the runs of a text goes from variant to variant. -/
theorem reaches_collapse (n : Numbering α) (text before : List α) :
    Relation.EqvGen n.Variant (before ++ text) (before ++ n.collapse false text) ∧
      Relation.EqvGen n.Variant (before ++ n.mark :: text) (before ++ n.mark :: n.collapse true text) := by
  have mark : ∀ c ∈ [n.mark], n.separates c = true := by
    intro c member
    rw [List.mem_singleton.mp member]
    exact n.mark_separates
  induction text generalizing before with
  | nil => exact ⟨.refl _, .refl _⟩
  | cons c rest ih =>
    by_cases separates : n.separates c = true
    · have one : ∀ d ∈ [c], n.separates d = true := by
        intro d member
        rwa [List.mem_singleton.mp member]
      have two : ∀ d ∈ [n.mark, c], n.separates d = true := by
        intro d member
        rcases List.mem_pair.mp member with rfl | rfl
        · exact n.mark_separates
        · exact separates
      rw [collapse, if_pos separates, if_neg Bool.false_ne_true, collapse, if_pos separates, if_pos rfl]
      constructor
      · exact (Relation.EqvGen.rel _ _ (.separators before rest (List.cons_ne_nil c []) one (List.cons_ne_nil _ []) mark)).trans
          _ _ _ (ih before).2
      · exact (Relation.EqvGen.rel _ _ (.separators before rest (List.cons_ne_nil _ _) two (List.cons_ne_nil _ []) mark)).trans
          _ _ _ (ih before).2
    · rw [collapse, if_neg separates, collapse, if_neg separates]
      have plain := (ih (before ++ [c])).1
      have marked := (ih (before ++ [n.mark, c])).1
      simp only [List.append_assoc, List.cons_append, List.nil_append] at plain marked
      exact ⟨plain, marked⟩

section Append

variable {n}

/-- A flag of the last character of a text, or of what stands before it. -/
def endsIn (flag : α → Bool) (before : Bool) (text : List α) : Bool := (text.getLast?.map flag).getD before

theorem endsIn_cons (flag : α → Bool) (before : Bool) (c : α) (rest : List α) :
    endsIn flag before (c :: rest) = endsIn flag (flag c) rest := by
  cases rest with
  | nil => rfl
  | cons d after => rw [endsIn, endsIn, List.getLast?_cons_cons, List.getLast?_cons, Option.map_some, Option.getD_some, Option.getD_some]

theorem collapse_append (inRun : Bool) (before after : List α) :
    n.collapse inRun (before ++ after) = n.collapse inRun before ++ n.collapse (endsIn n.separates inRun before) after := by
  induction before generalizing inRun with
  | nil => rfl
  | cons c rest ih =>
    rw [endsIn_cons, List.cons_append, collapse, collapse]
    by_cases separates : n.separates c = true
    · rw [if_pos separates, if_pos separates, ih, separates]
      split <;> rfl
    · rw [if_neg separates, if_neg separates, ih, Bool.of_not_eq_true separates, List.cons_append]

theorem collapse_of_solid {text : List α} (solid : ∀ c ∈ text, n.separates c = false) (inRun : Bool) :
    n.collapse inRun text = text := by
  induction text generalizing inRun with
  | nil => rfl
  | cons c rest ih =>
    obtain ⟨first, others⟩ := List.forall_mem_cons.mp solid
    rw [collapse, first, if_neg Bool.false_ne_true, ih others]

theorem collapse_run (inRun : Bool) {run : List α} (some' : run ≠ []) (all : ∀ c ∈ run, n.separates c = true) :
    n.collapse inRun run = if inRun then [] else [n.mark] := by
  have rest : ∀ rest : List α, (∀ c ∈ rest, n.separates c = true) → n.collapse true rest = [] := by
    intro rest all
    induction rest with
    | nil => rfl
    | cons c rest ih =>
      obtain ⟨first, others⟩ := List.forall_mem_cons.mp all
      rw [collapse, if_pos first, if_pos rfl, ih others]
  obtain ⟨c, after, rfl⟩ := List.exists_cons_of_ne_nil some'
  obtain ⟨first, others⟩ := List.forall_mem_cons.mp all
  rw [collapse, if_pos first, rest after others]

theorem endsIn_run (inRun : Bool) {run : List α} (some' : run ≠ []) (all : ∀ c ∈ run, n.separates c = true) :
    endsIn n.separates inRun run = true := by
  rw [endsIn, List.getLast?_eq_some_getLast some', Option.map_some, Option.getD_some]
  exact all _ (List.getLast_mem some')

/-- Collapsing runs of separators leaves no digit last that was not. -/
theorem getLast?_collapse (inRun : Bool) {text : List α} (fresh : text.getLast?.any n.digit = false) :
    (n.collapse inRun text).getLast?.any n.digit = false := by
  induction text using List.reverseRecOn with
  | nil => rfl
  | append_singleton before c ih =>
    have other : n.digit c = false := by simpa using fresh
    rw [collapse_append, collapse]
    by_cases separates : n.separates c = true
    · rw [if_pos separates]
      split
      next goesOn =>
        rw [collapse, List.append_nil]
        refine ih ?_
        cases last : before.getLast? with
        | none => rfl
        | some d =>
          rw [endsIn, last] at goesOn
          have separates : n.separates d = true := goesOn
          refine Bool.of_not_eq_true fun digit => ?_
          rw [n.digit_solid d digit] at separates
          cases separates
      next =>
        rw [collapse, List.getLast?_concat]
        refine Bool.of_not_eq_true fun digit => ?_
        have solid := n.digit_solid n.mark digit
        rw [n.mark_separates] at solid
        cases solid
    · rw [if_neg separates, collapse, List.getLast?_concat]
      exact other

theorem mem_collapse {inRun : Bool} {text : List α} {c : α} (member : c ∈ n.collapse inRun text) :
    c = n.mark ∨ c ∈ text ∧ n.separates c = false := by
  induction text generalizing inRun with
  | nil => cases member
  | cons d rest ih =>
    rw [collapse] at member
    by_cases separates : n.separates d = true
    · rw [if_pos separates] at member
      split at member
      · exact (ih member).imp id fun later => ⟨List.mem_cons_of_mem d later.1, later.2⟩
      · rcases List.mem_cons.mp member with mark | later
        · exact .inl mark
        · exact (ih later).imp id fun later => ⟨List.mem_cons_of_mem d later.1, later.2⟩
    · rw [if_neg separates] at member
      rcases List.mem_cons.mp member with rfl | later
      · exact .inr ⟨List.mem_cons_self, Bool.of_not_eq_true separates⟩
      · exact (ih later).imp id fun later => ⟨List.mem_cons_of_mem d later.1, later.2⟩

end Append

section Canonical

variable [DecidableEq α]

/-- Every run of digits without its leading zeros, but with one digit. The flag says whether the run has begun. -/
def dropZeros : Bool → List α → List α
  | _, [] => []
  | inRun, c :: rest =>
    if !inRun && c = n.zero && rest.head?.any n.digit then dropZeros false rest else c :: dropZeros (n.digit c) rest

example : n.dropZeros true [] = [] := by rw [dropZeros]

def isMark (c : α) : Bool := c = n.mark

def canonical (text : List α) : List α := n.dropZeros false (strip n.isMark (n.collapse false text))

variable {n}

@[simp]
theorem isMark_mark (n : Numbering α) : n.isMark n.mark = true := decide_eq_true rfl

theorem isMark_of_digit {c : α} (digit : n.digit c = true) : n.isMark c = false := by
  refine decide_eq_false fun same => ?_
  have solid := n.digit_solid c digit
  rw [same, n.mark_separates] at solid
  cases solid

theorem reaches_strip (text : List α) : Relation.EqvGen n.Variant text (strip n.isMark text) := by
  have marks : ∀ c : α, n.isMark c = true → n.separates c = true := by
    intro c same
    rw [of_decide_eq_true same]
    exact n.mark_separates
  have front : ∀ c ∈ leading n.isMark text, n.separates c = true := fun c member =>
    marks c (blank_of_mem_leading member)
  have back : ∀ c ∈ trailing n.isMark text, n.separates c = true := fun c member =>
    marks c (blank_of_mem_trailing member)
  conv_lhs => rw [← leading_strip_trailing n.isMark text]
  exact .trans _ _ _ (.rel _ _ (.front _ _ front)) (.rel _ _ (.back _ _ back))

theorem reaches_dropZeros (text before : List α) (inRun : Bool) (begun : inRun = false → before.getLast?.any n.digit = false) :
    Relation.EqvGen n.Variant (before ++ text) (before ++ n.dropZeros inRun text) := by
  induction text generalizing before inRun with
  | nil => exact .refl _
  | cons c rest ih =>
    by_cases drops : (!inRun && c = n.zero && rest.head?.any n.digit) = true
    · rw [dropZeros, if_pos drops]
      simp only [Bool.and_eq_true, Bool.not_eq_true', decide_eq_true_eq] at drops
      obtain ⟨⟨fresh, rfl⟩, digit⟩ := drops
      cases rest with
      | nil => cases digit
      | cons d after =>
        refine .trans _ _ _ (.rel _ _ (.zeros before d after (begun fresh) digit)) ?_
        exact ih before false fun _ => begun fresh
    · rw [dropZeros, if_neg drops]
      have later := ih (before ++ [c]) (n.digit c) fun other => by simpa using other
      simpa only [List.append_assoc, List.cons_append, List.nil_append] using later

/-- A text goes to its canonical form from variant to variant. -/
theorem reaches_canonical (text : List α) : Relation.EqvGen n.Variant text (n.canonical text) :=
  ((n.reaches_collapse text []).1.trans _ _ _ (reaches_strip _)).trans _ _ _ (reaches_dropZeros _ [] false fun _ => rfl)

/-- Whether a run of separators goes on makes no difference to what is stripped. -/
theorem strip_collapse (inRun : Bool) (text : List α) :
    strip n.isMark (n.collapse inRun text) = strip n.isMark (n.collapse true text) := by
  cases text with
  | nil => rfl
  | cons c rest =>
    rw [collapse, collapse]
    by_cases separates : n.separates c = true
    · rw [if_pos separates, if_pos separates, if_pos rfl]
      split
      · rfl
      · exact strip_cons n.isMark_mark _
    · rw [if_neg separates, if_neg separates]

theorem dropZeros_append (inRun : Bool) {before : List α} (after : List α) (fresh : before.getLast?.any n.digit = false)
    (some' : before = [] → inRun = false) :
    n.dropZeros inRun (before ++ after) = n.dropZeros inRun before ++ n.dropZeros false after := by
  induction before generalizing inRun with
  | nil => rw [some' rfl]; rfl
  | cons c rest ih =>
    cases rest with
    | nil =>
      have other : n.digit c = false := by simpa using fresh
      have nonzero : c ≠ n.zero := by
        rintro rfl
        rw [n.zero_digit] at other
        cases other
      simp [dropZeros, nonzero, other]
    | cons d later =>
      rw [List.getLast?_cons_cons] at fresh
      rw [List.cons_append, dropZeros, dropZeros, List.cons_append, List.head?_cons, List.head?_cons]
      have split := fun flag => ih flag fresh fun none => absurd none (List.cons_ne_nil d later)
      rw [← List.cons_append, split, split]
      split_ifs <;> rfl

theorem canonical_of_variant {one other : List α} (variant : n.Variant one other) : n.canonical one = n.canonical other := by
  cases variant with
  | separators before after some' all someOther allOther =>
    rw [canonical, canonical, collapse_append, collapse_append, collapse_run _ some' all, endsIn_run _ some' all, collapse_append,
      collapse_append, collapse_run _ someOther allOther, endsIn_run _ someOther allOther]
  | front run after all =>
    by_cases none : run = []
    · rw [none, List.nil_append]
    · rw [canonical, canonical, collapse_append, collapse_run _ none all, endsIn_run _ none all, if_neg Bool.false_ne_true,
        List.singleton_append, strip_cons n.isMark_mark, strip_collapse false]
  | back before run all =>
    by_cases none : run = []
    · rw [none, List.append_nil]
    · rw [canonical, canonical, collapse_append, collapse_run _ none all]
      split
      · rw [List.append_nil]
      · rw [strip_concat n.isMark_mark]
  | zeros before c after fresh digit =>
    have zero := n.digit_solid n.zero n.zero_digit
    have solid := n.digit_solid c digit
    have collapsed : ∀ inRun, n.collapse inRun (c :: after) = c :: n.collapse false after := by
      intro inRun
      rw [collapse, solid, if_neg Bool.false_ne_true]
    have fresh' : ((n.collapse false before).dropWhile n.isMark).getLast?.any n.digit = false := by
      have last := getLast?_collapse false fresh
      obtain ⟨marks, parts⟩ := List.dropWhile_suffix (p := n.isMark) (l := n.collapse false before)
      rw [← parts, List.getLast?_append] at last
      cases end' : ((n.collapse false before).dropWhile n.isMark).getLast? with
      | none => rfl
      | some d => rwa [end', Option.some_or] at last
    have longer := List.append_cons (n.collapse false before) n.zero (c :: n.collapse false after)
    rw [canonical, canonical, collapse_append, collapse_append, collapsed, collapse, zero, if_neg Bool.false_ne_true, collapsed,
      longer, strip_append_cons (isMark_of_digit digit), strip_append_cons (isMark_of_digit digit),
      dropWhile_append_cons (isMark_of_digit n.zero_digit), List.append_assoc, List.singleton_append,
      dropZeros_append _ _ fresh' fun _ => rfl, dropZeros_append _ _ fresh' fun _ => rfl]
    congr 1
    rw [dropZeros, if_pos (by simp [digit])]

/-- Texts have one canonical form exactly where they are variants of each other. -/
theorem canonical_eq_iff (one other : List α) : n.canonical one = n.canonical other ↔ Relation.EqvGen n.Variant one other := by
  constructor
  · intro same
    refine (reaches_canonical one).trans _ _ _ ?_
    rw [same]
    exact (reaches_canonical other).symm
  · intro joined
    induction joined with
    | rel one other variant => exact canonical_of_variant variant
    | refl => rfl
    | symm _ _ _ ih => exact ih.symm
    | trans _ _ _ _ _ first second => exact first.trans second

theorem canonical_canonical (text : List α) : n.canonical (n.canonical text) = n.canonical text :=
  (canonical_eq_iff _ _).mpr (reaches_canonical text).symm

theorem dropZeros_eq_nil {inRun : Bool} {text : List α} : n.dropZeros inRun text = [] ↔ text = [] := by
  constructor
  · intro none
    induction text generalizing inRun with
    | nil => rfl
    | cons c rest ih =>
      rw [dropZeros] at none
      split at none
      next drops =>
        rw [ih none] at drops
        simp at drops
      next => cases none
  · rintro rfl
    rfl

theorem dropZeros_sublist (inRun : Bool) (text : List α) : (n.dropZeros inRun text).Sublist text := by
  induction text generalizing inRun with
  | nil => exact .slnil
  | cons c rest ih =>
    rw [dropZeros]
    split
    · exact (ih false).cons c
    · exact (ih _).cons_cons c

/-- A number that does not begin with a zero is its own canonical form. -/
theorem canonical_cons_of_digits {c : α} {rest : List α} (nonzero : c ≠ n.zero) (digits : ∀ d ∈ c :: rest, n.digit d = true) :
    ∃ form, n.canonical (c :: rest) = c :: form := by
  have solid := n.collapse_of_solid (fun d member => n.digit_solid d (digits d member)) false
  refine ⟨n.dropZeros (n.digit c) rest, ?_⟩
  rw [canonical, solid, strip_of_solid fun d member => isMark_of_digit (digits d member), dropZeros, if_neg (by simp [nonzero])]

theorem mem_canonical {text : List α} {c : α} (member : c ∈ n.canonical text) :
    c = n.mark ∨ c ∈ text ∧ n.separates c = false :=
  mem_collapse (mem_of_mem_strip ((dropZeros_sublist false _).mem member))

/-- A filter that removes separators and the zero does not see the form of a text. -/
theorem filter_canonical {keep : α → Bool} (apart : ∀ c, n.separates c = true → keep c = false) (zero : keep n.zero = false)
    (text : List α) : (n.canonical text).filter keep = text.filter keep := by
  have mark := apart n.mark n.mark_separates
  have collapsed : ∀ inRun, (n.collapse inRun text).filter keep = text.filter keep := by
    induction text with
    | nil => exact fun _ => rfl
    | cons c rest ih =>
      intro inRun
      rw [collapse]
      by_cases separates : n.separates c = true
      · rw [if_pos separates, List.filter_cons_of_neg (by simp [apart c separates])]
        split
        · exact ih true
        · rw [List.filter_cons_of_neg (by simp [mark]), ih true]
      · rw [if_neg separates, List.filter_cons, List.filter_cons, ih false]
  have dropped : ∀ (text : List α) (inRun : Bool), (n.dropZeros inRun text).filter keep = text.filter keep := by
    intro text
    induction text with
    | nil => exact fun _ => rfl
    | cons c rest ih =>
      intro inRun
      rw [dropZeros]
      split
      next drops =>
        simp only [Bool.and_eq_true, Bool.not_eq_true', decide_eq_true_eq] at drops
        rw [List.filter_cons_of_neg (by simp [drops.1.2, zero]), ih false]
      next => rw [List.filter_cons, List.filter_cons, ih _]
  have stripped : (strip n.isMark (n.collapse false text)).filter keep = (n.collapse false text).filter keep := by
    refine filter_strip (fun c marks => ?_) _
    rw [of_decide_eq_true marks, mark]
  rw [canonical, dropped, stripped, collapsed]

end Canonical

end Numbering

end Payables.Lib
