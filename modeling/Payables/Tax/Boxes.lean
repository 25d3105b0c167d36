import Mathlib.Algebra.BigOperators.Group.List.Basic
import Mathlib.Data.List.Dedup
import Mathlib.Data.List.Sort
import Mathlib.Data.String.Basic
import Payables.Lib.Json
import Payables.Lib.Sql
import Payables.Workflow.Reporting

namespace Payables.Tax
open Lib

/-- `FORM_NEC` and `FORM_MISC`. -/
inductive FormType
  | nec
  | misc
  deriving DecidableEq

def FormType.text : FormType → String
  | nec => "1099-NEC"
  | misc => "1099-MISC"

/-- The keys of `BOX_CATALOG`. -/
inductive Box
  | nec1
  | misc1
  | misc2
  | misc3
  | misc6
  | misc10
  deriving DecidableEq

structure Box1099 where
  code : String
  formType : FormType
  number : String
  label : String

def Box.entry : Box → Box1099
  | nec1 => ⟨"NEC-1", .nec, "1", "Nonemployee compensation"⟩
  | misc1 => ⟨"MISC-1", .misc, "1", "Rents"⟩
  | misc2 => ⟨"MISC-2", .misc, "2", "Royalties"⟩
  | misc3 => ⟨"MISC-3", .misc, "3", "Other income"⟩
  | misc6 => ⟨"MISC-6", .misc, "6", "Medical and health care payments"⟩
  | misc10 => ⟨"MISC-10", .misc, "10", "Gross proceeds paid to an attorney"⟩

/-- `BOX_CATALOG`, in its order. -/
def boxCatalog : List Box := [.nec1, .misc1, .misc2, .misc3, .misc6, .misc10]

def defaultFallbackBox : Box := .nec1

theorem mem_boxCatalog (box : Box) : box ∈ boxCatalog := by cases box <;> decide

theorem nodup_boxCatalog : boxCatalog.Nodup := by decide

section Mapping

/-- `normalize_box_code`. -/
def normalizeBoxCode : Json → Option Box
  | .str value =>
    let code := (pyUpper (pyStripText value)).toList.map fun c => if c = '_' then '-' else c
    boxCatalog.find? fun box => box.entry.code.toList == code
  | _ => none

/-- `_normalize_gl_key`. -/
def normalizeGlKey (value : Option String) : String := pyUpper (pyStripText (value.getD ""))

/-- `dict.get`, where the entry that was set last stands first. -/
def dictGet (dict : List (String × Box)) (key : String) : Option Box := (dict.find? (·.1 == key)).map (·.2)

structure BoxMapping where
  fallbackBox : Box
  glExact : List (String × Box)
  glPrefix : List (String × Box)
  vendors : List (String × Box)
  invalidBoxCodes : List String

/-- `BoxMapping.resolve`. -/
def BoxMapping.resolve (mapping : BoxMapping) (vendorId : String) (glAccount : Option String) : Box × Bool :=
  match dictGet mapping.vendors vendorId with
  | some override => (override, true)
  | none =>
    let key := normalizeGlKey glAccount
    if key = "" then (mapping.fallbackBox, false)
    else
      match dictGet mapping.glExact key with
      | some exact => (exact, true)
      | none =>
        match mapping.glPrefix.find? fun rule => rule.1.toList.isPrefixOf key.toList with
        | some rule => (rule.2, true)
        | none => (mapping.fallbackBox, false)

/-- `cfg.get(key)` of a mapping; what is no mapping has no keys. -/
def mappingGet (key : String) (cfg : Json) : Json := (cfg.field? key).getD .null

/-- `cfg.items()` of a mapping. -/
def mappingItems : Json → List (String × Json)
  | .object fields => fields
  | _ => []

/-- The variables of the two loops of `resolve_box_mapping`. -/
structure MappingLoop where
  glExact : List (String × Box)
  glPrefix : List (String × Box)
  vendors : List (String × Box)
  invalid : List String

/-- One round of the loop over `gl_accounts`. -/
def MappingLoop.addGlAccount (loop : MappingLoop) (rule : String × Json) : MappingLoop :=
  match normalizeBoxCode rule.2 with
  | none => { loop with invalid := loop.invalid ++ [String.ofList rule.2.toText] }
  | some box =>
    let norm := normalizeGlKey (some rule.1)
    if norm = "" then loop
    else if norm.toList.getLast? = some '*' then
      let stem := String.ofList norm.toList.dropLast
      if stem = "" then loop else { loop with glPrefix := loop.glPrefix ++ [(stem, box)] }
    else { loop with glExact := (norm, box) :: loop.glExact }

/-- One round of the loop over `vendors`. -/
def MappingLoop.addVendor (loop : MappingLoop) (rule : String × Json) : MappingLoop :=
  match normalizeBoxCode rule.2 with
  | none => { loop with invalid := loop.invalid ++ [String.ofList rule.2.toText] }
  | some box => { loop with vendors := (pyStripText rule.1, box) :: loop.vendors }

/-- `(-len(p[0]), p[0])`, as an order. -/
def longestFirst (one other : String × Box) : Bool :=
  decide (other.1.length < one.1.length) || one.1.length == other.1.length && decide (one.1 ≤ other.1)

/-- `resolve_box_mapping`. -/
def resolveBoxMapping (orgSettings : Json) : BoxMapping :=
  let cfg := mappingGet "boxes" (mappingGet "tax" orgSettings)
  let fallback := mappingGet "fallback_box" cfg
  let invalid :=
    match normalizeBoxCode fallback, fallback with
    | some _, _ => []
    | none, .null => []
    | none, other => [String.ofList other.toText]
  let glRules := (mappingItems (mappingGet "gl_accounts" cfg)).foldl MappingLoop.addGlAccount ⟨[], [], [], invalid⟩
  let rules := (mappingItems (mappingGet "vendors" cfg)).foldl MappingLoop.addVendor glRules
  { fallbackBox := (normalizeBoxCode fallback).getD defaultFallbackBox
    glExact := rules.glExact
    glPrefix := rules.glPrefix.mergeSort longestFirst
    vendors := rules.vendors
    invalidBoxCodes := rules.invalid.dedup.mergeSort fun one other => decide (one ≤ other) }

end Mapping

/-- `BoxAllocation`. Its `form_type`, `box_number` and `label` are those of the box. -/
structure BoxAllocation where
  box : Box
  amount : ℚ
  paymentCount : Nat
  fallback : Bool
  deriving DecidableEq

structure GLSpendBucket where
  glAccount : Option String
  amount : ℚ
  paymentCount : Nat
  deriving DecidableEq

/-- A value of the dictionary `totals`. -/
structure BoxSlot where
  amount : ℚ
  paymentCount : Nat
  fallback : Bool

/-- The dictionary `totals`. -/
abbrev BoxTotals := Box → Option BoxSlot

namespace BoxTotals

def empty : BoxTotals := fun _ => none

/-- `setdefault` and the additions to the slot. -/
def add (totals : BoxTotals) (box : Box) (amount : ℚ) (paymentCount : Nat) (fallback : Bool) : BoxTotals :=
  let slot := (totals box).getD ⟨0, 0, false⟩
  fun other =>
    if other = box then some ⟨slot.amount + amount, slot.paymentCount + paymentCount, slot.fallback || fallback⟩
    else totals other

/-- The allocations, sorted as in the catalog. -/
def allocations (totals : BoxTotals) : List BoxAllocation :=
  boxCatalog.filterMap fun box => (totals box).map fun slot => ⟨box, slot.amount, slot.paymentCount, slot.fallback⟩

end BoxTotals

structure BoxAllocationResult where
  allocations : List BoxAllocation
  unmappedAmount : ℚ
  unmappedPaymentCount : Nat

/-- The variables of the loop of `allocate_boxes`. -/
structure AllocationLoop where
  totals : BoxTotals
  unmapped : ℚ
  unmappedCount : Nat

/-- One round of that loop. -/
def AllocationLoop.add (mapping : BoxMapping) (vendorId : String) (loop : AllocationLoop) (bucket : GLSpendBucket) :
    AllocationLoop :=
  if bucket.amount = 0 ∧ bucket.paymentCount = 0 then loop
  else
    let resolved := mapping.resolve vendorId bucket.glAccount
    let totals := loop.totals.add resolved.1 bucket.amount bucket.paymentCount !resolved.2
    if resolved.2 then { loop with totals := totals }
    else ⟨totals, loop.unmapped + bucket.amount, loop.unmappedCount + bucket.paymentCount⟩

/-- `allocate_boxes`. -/
def allocateBoxes (buckets : List GLSpendBucket) (mapping : BoxMapping) (vendorId : String) : BoxAllocationResult :=
  let loop := buckets.foldl (AllocationLoop.add mapping vendorId) ⟨.empty, 0, 0⟩
  ⟨loop.totals.allocations, loop.unmapped, loop.unmappedCount⟩

/-- What a list of allocations has in a box. -/
def amountIn (allocations : List BoxAllocation) (box : Box) : ℚ :=
  ((allocations.filter fun allocation => allocation.box = box).map (·.amount)).sum

/-- How many payments a list of allocations has in a box. -/
def countIn (allocations : List BoxAllocation) (box : Box) : Nat :=
  ((allocations.filter fun allocation => allocation.box = box).map (·.paymentCount)).sum

section Totals

variable {M : Type*} [AddCommMonoid M]


/-- One box of the catalog only. -/
theorem sum_catalog_single (box : Box) (value : M) :
    (boxCatalog.map fun other => if other = box then value else 0).sum = value := by
  cases box <;> simp [boxCatalog]

theorem sum_allocations_in (totals : BoxTotals) (measure : BoxAllocation → M) (box : Box) :
    ((totals.allocations.filter fun allocation => allocation.box = box).map measure).sum =
      ((totals box).map fun slot => measure ⟨box, slot.amount, slot.paymentCount, slot.fallback⟩).getD 0 := by
  have only : totals.allocations.filter (fun allocation => allocation.box = box) =
      boxCatalog.filterMap fun other =>
        if other = box then (totals other).map fun slot => ⟨other, slot.amount, slot.paymentCount, slot.fallback⟩ else none := by
    rw [BoxTotals.allocations, List.filter_filterMap]
    refine List.filterMap_congr fun other _ => ?_
    cases totals other with
    | none => by_cases same : other = box <;> simp [same]
    | some slot => by_cases same : other = box <;> simp [same]
  rw [only, Sql.sum_filterMap]
  refine Eq.trans ?_ (sum_catalog_single box _)
  congr 1
  refine List.map_congr_left fun other _ => ?_
  by_cases same : other = box
  · subst same
    rw [if_pos rfl, if_pos rfl, Option.map_map]
    rfl
  · rw [if_neg same, if_neg same]
    rfl

/-- The dictionary has one slot a box. -/
theorem nodup_allocations (totals : BoxTotals) : (totals.allocations.map (·.box)).Nodup := by
  have sub : (totals.allocations.map (·.box)).Sublist boxCatalog := by
    unfold BoxTotals.allocations
    induction boxCatalog with
    | nil => exact List.Sublist.slnil
    | cons box rest ih =>
      rw [List.filterMap_cons]
      cases totals box with
      | none => exact ih.cons box
      | some slot => exact ih.cons_cons box
  exact sub.nodup nodup_boxCatalog

theorem amountIn_allocations (totals : BoxTotals) (box : Box) :
    amountIn totals.allocations box = ((totals box).map (·.amount)).getD 0 := sum_allocations_in totals _ box

theorem countIn_allocations (totals : BoxTotals) (box : Box) :
    countIn totals.allocations box = ((totals box).map (·.paymentCount)).getD 0 := sum_allocations_in totals _ box

/-- The boxes together hold what the list holds. -/
theorem sum_boxes (allocations : List BoxAllocation) (measure : BoxAllocation → M) :
    (boxCatalog.map fun box => ((allocations.filter fun allocation => allocation.box = box).map measure).sum).sum =
      (allocations.map measure).sum := by
  induction allocations with
  | nil => simp [boxCatalog]
  | cons allocation rest ih =>
    have split : ∀ box, (((allocation :: rest).filter fun allocation => allocation.box = box).map measure).sum =
        (if box = allocation.box then measure allocation else 0) +
          ((rest.filter fun allocation => allocation.box = box).map measure).sum := by
      intro box
      by_cases same : allocation.box = box
      · rw [List.filter_cons_of_pos (by simpa using same), List.map_cons, List.sum_cons, if_pos same.symm]
      · rw [List.filter_cons_of_neg (by simpa using same), if_neg (Ne.symm same), zero_add]
    simp only [split]
    rw [List.sum_map_add, sum_catalog_single, ih, List.map_cons, List.sum_cons]

end Totals

section Allocation

variable {mapping : BoxMapping} {vendorId : String}

theorem add_at (totals : BoxTotals) (box other : Box) (amount : ℚ) (paymentCount : Nat) (fallback : Bool) :
    ((totals.add box amount paymentCount fallback other).map (·.amount)).getD 0 =
        ((totals other).map (·.amount)).getD 0 + (if box = other then amount else 0) ∧
      ((totals.add box amount paymentCount fallback other).map (·.paymentCount)).getD 0 =
        ((totals other).map (·.paymentCount)).getD 0 + (if box = other then paymentCount else 0) := by
  by_cases same : box = other
  · subst same
    simp only [BoxTotals.add, if_true]
    cases totals box with
    | none => exact ⟨rfl, rfl⟩
    | some slot => exact ⟨rfl, rfl⟩
  · simp only [BoxTotals.add, if_neg (Ne.symm same), if_neg same]
    exact ⟨(add_zero _).symm, rfl⟩

variable (mapping vendorId) in
/-- A round of the loop adds a bucket to its box. -/
theorem loop_add_at (loop : AllocationLoop) (bucket : GLSpendBucket) (box : Box) :
    (((loop.add mapping vendorId bucket).totals box).map (·.amount)).getD 0 =
        ((loop.totals box).map (·.amount)).getD 0 +
          (if (mapping.resolve vendorId bucket.glAccount).1 = box then bucket.amount else 0) ∧
      (((loop.add mapping vendorId bucket).totals box).map (·.paymentCount)).getD 0 =
        ((loop.totals box).map (·.paymentCount)).getD 0 +
          (if (mapping.resolve vendorId bucket.glAccount).1 = box then bucket.paymentCount else 0) := by
  unfold AllocationLoop.add
  by_cases blank : bucket.amount = 0 ∧ bucket.paymentCount = 0
  · rw [if_pos blank, blank.1, blank.2]
    simp
  · rw [if_neg blank]
    have added := add_at loop.totals (mapping.resolve vendorId bucket.glAccount).1 box bucket.amount bucket.paymentCount
      (!(mapping.resolve vendorId bucket.glAccount).2)
    cases matched : (mapping.resolve vendorId bucket.glAccount).2 with
    | true => simpa only [matched, if_true] using added
    | false => simpa only [matched, Bool.false_eq_true, if_false] using added

theorem loop_at (buckets : List GLSpendBucket) (loop : AllocationLoop) (box : Box) :
    (((buckets.foldl (AllocationLoop.add mapping vendorId) loop).totals box).map (·.amount)).getD 0 =
        ((loop.totals box).map (·.amount)).getD 0 +
          ((buckets.filter fun bucket => (mapping.resolve vendorId bucket.glAccount).1 = box).map (·.amount)).sum ∧
      (((buckets.foldl (AllocationLoop.add mapping vendorId) loop).totals box).map (·.paymentCount)).getD 0 =
        ((loop.totals box).map (·.paymentCount)).getD 0 +
          ((buckets.filter fun bucket => (mapping.resolve vendorId bucket.glAccount).1 = box).map (·.paymentCount)).sum := by
  induction buckets generalizing loop with
  | nil => exact ⟨(add_zero _).symm, rfl⟩
  | cons bucket rest ih =>
    obtain ⟨amounts, counts⟩ := ih (loop.add mapping vendorId bucket)
    obtain ⟨amount, count⟩ := loop_add_at mapping vendorId loop bucket box
    rw [List.foldl_cons, amounts, counts, amount, count]
    by_cases here : (mapping.resolve vendorId bucket.glAccount).1 = box
    · rw [List.filter_cons_of_pos (by simpa using here), if_pos here, if_pos here]
      simp only [List.map_cons, List.sum_cons, add_assoc, and_self]
    · rw [List.filter_cons_of_neg (by simpa using here), if_neg here, if_neg here]
      simp only [add_zero, and_self]

/-- A box receives the buckets that resolve to it. -/
theorem amountIn_allocateBoxes (buckets : List GLSpendBucket) (box : Box) :
    amountIn (allocateBoxes buckets mapping vendorId).allocations box =
      ((buckets.filter fun bucket => (mapping.resolve vendorId bucket.glAccount).1 = box).map (·.amount)).sum := by
  rw [allocateBoxes, amountIn_allocations, (loop_at buckets _ box).1]
  exact zero_add _

theorem countIn_allocateBoxes (buckets : List GLSpendBucket) (box : Box) :
    countIn (allocateBoxes buckets mapping vendorId).allocations box =
      ((buckets.filter fun bucket => (mapping.resolve vendorId bucket.glAccount).1 = box).map (·.paymentCount)).sum := by
  rw [allocateBoxes, countIn_allocations, (loop_at buckets _ box).2]
  exact zero_add _

/-- Nothing is lost and nothing is counted twice between the boxes. -/
theorem sum_allocateBoxes (buckets : List GLSpendBucket) :
    ((allocateBoxes buckets mapping vendorId).allocations.map (·.amount)).sum = (buckets.map (·.amount)).sum ∧
      ((allocateBoxes buckets mapping vendorId).allocations.map (·.paymentCount)).sum =
        (buckets.map (·.paymentCount)).sum := by
  have placed : ∀ bucket : GLSpendBucket, (mapping.resolve vendorId bucket.glAccount).1 ∈ boxCatalog :=
    fun _ => mem_boxCatalog _
  constructor
  · rw [← sum_boxes]
    have boxes := Sql.sum_groups (fun bucket : GLSpendBucket => (mapping.resolve vendorId bucket.glAccount).1) (·.amount)
      buckets boxCatalog nodup_boxCatalog
    rw [List.filter_eq_self.mpr fun bucket _ => decide_eq_true (placed bucket)] at boxes
    rw [← boxes]
    exact congrArg List.sum (List.map_congr_left fun box _ => amountIn_allocateBoxes buckets box)
  · rw [← sum_boxes]
    have boxes := Sql.sum_groups (fun bucket : GLSpendBucket => (mapping.resolve vendorId bucket.glAccount).1) (·.paymentCount)
      buckets boxCatalog nodup_boxCatalog
    rw [List.filter_eq_self.mpr fun bucket _ => decide_eq_true (placed bucket)] at boxes
    rw [← boxes]
    exact congrArg List.sum (List.map_congr_left fun box _ => countIn_allocateBoxes buckets box)

end Allocation

end Payables.Tax
