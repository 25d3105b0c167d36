import Payables.EInvoice.Document

namespace Payables.EInvoice

open Lib

/-- `Decimal("0.01")` is the step of an amount and of a rate, for both dialects. -/
def amountText (d : ℚ) : String := quantizedText 2 d

/-- `Decimal("0.0001")` is the step of a quantity. -/
def quantityText (d : ℚ) : String := quantizedText 4 d

section Builders

variable (space name : String)

/-- An element with a text. -/
def leaf (text : String) : Xml := .element ⟨space, name⟩ [] (some text) []

/-- An element with the elements added below it. -/
def branch (children : List Xml) : Xml := .element ⟨space, name⟩ [] none children

/-- `if text:` followed by an element with the text. -/
def leafIf (text : Option String) : List Xml := ((truthy text).map (leaf space name)).toList

/-- `if text:` followed by an element that holds the text below it. -/
def branchIf (text : Option String) (children : String → List Xml) : List Xml :=
  ((truthy text).map fun t => branch space name (children t)).toList

/-- The element of an amount, with its currency. -/
def amountLeaf (currency : Option String) (value : ℚ) : Xml :=
  .element ⟨space, name⟩ ((truthy currency).map fun code => ("currencyID", code)).toList (some (amountText value)) []

/-- `if value is not None:` followed by the element of the amount. -/
def amountIf (value : Option ℚ) (currency : Option String) : List Xml :=
  (value.map (amountLeaf space name currency)).toList

/-- `if rate is not None:` followed by its element. -/
def rateIf (rate : Option ℚ) : List Xml := (rate.map fun d => leaf space name (amountText d)).toList

/-- The element of a quantity, with its unit. -/
def quantityLeaf (unitCode : String) (quantity : ℚ) : Xml :=
  .element ⟨space, name⟩ [("unitCode", unitCode)] (some (quantityText quantity)) []

/-- Some lines, one for each tag: `zip(…, strict=False)` stops at the shorter of the two lists. -/
def taggedLines (tags lines : List String) : List Xml :=
  (tags.zip lines).flatMap fun entry => leafIf space entry.1 (some entry.2)

end Builders

section Lookups

variable {space name wanted : String} {text : Option String} {currency : Option String} {names : List String}

@[simp] theorem firstNamed_leaf (more : List Xml) (content : String) :
    Xml.firstNamed wanted (leaf space name content :: more) =
      if name = wanted then some (leaf space name content) else Xml.firstNamed wanted more := by
  simp only [Xml.firstNamed_cons, leaf, Xml.localName?, Option.some.injEq]

@[simp] theorem firstNamed_branch (more children : List Xml) :
    Xml.firstNamed wanted (branch space name children :: more) =
      if name = wanted then some (branch space name children) else Xml.firstNamed wanted more := by
  simp only [Xml.firstNamed_cons, branch, Xml.localName?, Option.some.injEq]

/-- An optional node of a fixed name is found under that name alone. -/
theorem firstNamed_toList {α : Type} {build : α → Xml} (named : ∀ item, (build item).localName? = some name)
    (item : Option α) :
    Xml.firstNamed wanted (item.map build).toList = if name = wanted then item.map build else none := by
  cases item with
  | none => simp
  | some item => simp only [Option.map_some, Option.toList_some, Xml.firstNamed_cons, named, Option.some.injEq, Xml.firstNamed_nil]

@[simp] theorem firstNamed_leafIf :
    Xml.firstNamed wanted (leafIf space name text) = if name = wanted then (truthy text).map (leaf space name) else none :=
  firstNamed_toList (fun _ => rfl) _

@[simp] theorem firstNamed_branchIf (children : String → List Xml) :
    Xml.firstNamed wanted (branchIf space name text children) =
      if name = wanted then (truthy text).map fun t => branch space name (children t) else none :=
  firstNamed_toList (fun _ => rfl) _

@[simp] theorem firstNamed_amountIf (value : Option ℚ) :
    Xml.firstNamed wanted (amountIf space name value currency) =
      if name = wanted then value.map (amountLeaf space name currency) else none :=
  firstNamed_toList (fun _ => rfl) _

@[simp] theorem firstNamed_rateIf (rate : Option ℚ) :
    Xml.firstNamed wanted (rateIf space name rate) =
      if name = wanted then rate.map fun d => leaf space name (amountText d) else none :=
  firstNamed_toList (fun _ => rfl) _

/-- The first three lines each have a tag, in their order. -/
theorem firstNamed_taggedLines {first second third : String} (apart : first ≠ second ∧ first ≠ third ∧ second ≠ third)
    (lines : List String) :
    Xml.firstNamed wanted (taggedLines space [first, second, third] lines) =
      if first = wanted then (truthy lines[0]?).map (leaf space first)
      else if second = wanted then (truthy lines[1]?).map (leaf space second)
      else if third = wanted then (truthy lines[2]?).map (leaf space third)
      else none := by
  have absent : truthy none = none := rfl
  obtain ⟨firstSecond, firstThird, secondThird⟩ := apart
  unfold taggedLines
  rcases lines with _ | ⟨one, _ | ⟨two, _ | ⟨three, rest⟩⟩⟩
  · simp [absent]
  · simp [absent, firstNamed_leafIf]
  · by_cases here : first = wanted
    · subst here
      simp [firstNamed_leafIf, firstSecond.symm]
    · simp [absent, firstNamed_leafIf, here]
  · by_cases here : first = wanted
    · subst here
      simp [firstNamed_leafIf, firstSecond.symm, firstThird.symm]
    · by_cases there : second = wanted
      · subst there
        simp [firstNamed_leafIf, here, secondThird.symm]
      · simp [firstNamed_leafIf, here, there]

@[simp] theorem firstNamed_elementIf_branch (present : Bool) (children : List Xml) :
    Xml.firstNamed wanted (Xml.elementIf present (branch space name children)) =
      if name = wanted then (if present then some (branch space name children) else none) else none := by
  simp only [Xml.firstNamed_elementIf, branch, Xml.localName?, Option.some.injEq]

@[simp] theorem firstNamed_elementIf_leaf (present : Bool) (content : String) :
    Xml.firstNamed wanted (Xml.elementIf present (leaf space name content)) =
      if name = wanted then (if present then some (leaf space name content) else none) else none := by
  simp only [Xml.firstNamed_elementIf, leaf, Xml.localName?, Option.some.injEq]

@[simp] theorem children_branch (children : List Xml) : (branch space name children).children = children := rfl

@[simp] theorem findText_none : findText none names = none := rfl

@[simp] theorem findText_branch (children : List Xml) (first : String) :
    findText (some (branch space name children)) (first :: names) = findText (Xml.firstNamed first children) names := by
  simp only [findText, Option.bind_some, Xml.atPath, branch, Xml.children]

@[simp] theorem atPath_branch (children : List Xml) (first : String) :
    Xml.atPath [first] (branch space name children) = Xml.firstNamed first children := by
  simp only [Xml.atPath, branch, Xml.children]
  exact Option.bind_fun_some _

theorem findText_leaf (content : String) :
    findText (some (leaf space name content)) [] = nonEmpty (pyStripText content) := by
  have text : ((some (leaf space name content)).bind (Xml.atPath [])).bind Xml.text = some content := rfl
  rw [findText, text, Option.bind_some]

/-- The text of an optional leaf is the string without the space around it. -/
theorem findText_map_leaf : findText ((truthy text).map (leaf space name)) [] = stripped text := by
  rw [← bind_truthy]
  cases truthy text with
  | none => rfl
  | some t => rw [Option.map_some, findText_leaf, Option.bind_some]

/-- A string in an element of its own is found below it. -/
theorem findText_map_branch {inner first : String} {children : String → List Xml}
    (holds : ∀ t, Xml.firstNamed first (children t) = some (leaf inner first t)) :
    findText ((truthy text).map fun t => branch space name (children t)) [first] = stripped text := by
  rw [← bind_truthy]
  cases truthy text with
  | none => rfl
  | some t => rw [Option.map_some, findText_branch, holds, findText_leaf, Option.bind_some]

theorem toDecimal_leaf (d : ℚ) : toDecimal (findText (some (leaf space name (amountText d))) []) = some (quantized 2 d) := by
  rw [findText_leaf, amountText, (tidy_quantizedText 2 d).nonEmpty_strip, toDecimal_quantizedText]

/-- A rate is read back from its element as its text rounds it. -/
theorem toDecimal_map_rate (rate : Option ℚ) :
    toDecimal (findText (rate.map fun d => leaf space name (amountText d)) []) = rate.map (quantized 2) := by
  cases rate with
  | none => rfl
  | some d => exact toDecimal_leaf d

/-- An amount is read back from its element as its text rounds it. -/
theorem toDecimal_map_amount (value : Option ℚ) :
    toDecimal (findText (value.map (amountLeaf space name currency)) []) = value.map (quantized 2) := by
  cases value with
  | none => rfl
  | some d => exact @toDecimal_leaf space name d

/-- A quantity is read back from its element as its text rounds it. -/
theorem toDecimal_map_quantity {unitCode : String} (quantity : Option ℚ) :
    ((quantity.map (quantityLeaf space name unitCode)).bind fun el => toDecimal el.text) = quantity.map (quantized 4) := by
  cases quantity with
  | none => rfl
  | some d => rw [Option.map_some, Option.bind_some, quantityLeaf, Xml.text, quantityText, toDecimal_quantizedText, Option.map_some]

theorem get_map_quantity {unitCode : String} (quantity : Option ℚ) :
    (quantity.map (quantityLeaf space name unitCode)).bind (Xml.get "unitCode") = quantity.map fun _ => unitCode := by
  cases quantity with
  | none => rfl
  | some d => simp [quantityLeaf, Xml.get]

end Lookups

section Descendants

variable {space name wanted : String} {text : Option String} {currency : Option String}

theorem allNamed_leaf (differs : name ≠ wanted) (content : String) (more : List Xml) :
    Xml.allNamed wanted (leaf space name content :: more) = Xml.allNamed wanted more :=
  Xml.allNamed_cons_other _ _ _ _ differs

theorem allNamed_branch (differs : name ≠ wanted) (children more : List Xml) :
    Xml.allNamed wanted (branch space name children :: more) =
      Xml.allNamed wanted children ++ Xml.allNamed wanted more :=
  Xml.allNamed_cons_other _ _ _ _ differs

/-- An optional node below which the name is absent does not bring it in. -/
theorem allNamed_toList {α : Type} {build : α → Xml} (absent : ∀ item, Xml.allNamed wanted [build item] = [])
    (item : Option α) : Xml.allNamed wanted (item.map build).toList = [] := by
  cases item with
  | none => rfl
  | some item => exact absent item

theorem allNamed_leafIf (differs : name ≠ wanted) : Xml.allNamed wanted (leafIf space name text) = [] :=
  allNamed_toList (fun _ => allNamed_leaf differs _ _) _

theorem allNamed_branchIf (differs : name ≠ wanted) {children : String → List Xml}
    (absent : ∀ t, Xml.allNamed wanted (children t) = []) : Xml.allNamed wanted (branchIf space name text children) = [] := by
  refine allNamed_toList (fun t => ?_) _
  rw [allNamed_branch differs, absent, Xml.allNamed_nil, List.append_nil]

theorem allNamed_amountIf (differs : name ≠ wanted) (value : Option ℚ) :
    Xml.allNamed wanted (amountIf space name value currency) = [] :=
  allNamed_toList (fun _ => Xml.allNamed_cons_other _ _ _ _ differs) _

theorem allNamed_rateIf (differs : name ≠ wanted) (rate : Option ℚ) : Xml.allNamed wanted (rateIf space name rate) = [] :=
  allNamed_toList (fun _ => allNamed_leaf differs _ _) _

theorem allNamed_quantity (differs : name ≠ wanted) (unitCode : String) (quantity : Option ℚ) :
    Xml.allNamed wanted (quantity.map (quantityLeaf space name unitCode)).toList = [] :=
  allNamed_toList (fun _ => Xml.allNamed_cons_other _ _ _ _ differs) _

theorem allNamed_elementIf_branch (differs : name ≠ wanted) (present : Bool) {children : List Xml}
    (absent : Xml.allNamed wanted children = []) :
    Xml.allNamed wanted (Xml.elementIf present (branch space name children)) = [] := by
  refine Xml.allNamed_elementIf present _ ?_
  rw [allNamed_branch differs, absent, Xml.allNamed_nil, List.append_nil]

theorem allNamed_elementIf_leaf (differs : name ≠ wanted) (present : Bool) (content : String) :
    Xml.allNamed wanted (Xml.elementIf present (leaf space name content)) = [] :=
  Xml.allNamed_elementIf present _ (allNamed_leaf differs _ _)

theorem allNamed_taggedLines {tags : List String} (absent : wanted ∉ tags) (lines : List String) :
    Xml.allNamed wanted (taggedLines space tags lines) = [] := by
  induction tags generalizing lines with
  | nil => rfl
  | cons tag tags ih =>
    cases lines with
    | nil => rfl
    | cons line lines =>
      have differs : tag ≠ wanted := fun same => absent (same ▸ List.mem_cons_self)
      have rest := ih (fun member => absent (List.mem_cons_of_mem tag member)) lines
      unfold taggedLines at rest ⊢
      rw [List.zip_cons_cons, List.flatMap_cons, Xml.allNamed_append, allNamed_leafIf differs, rest, List.nil_append]

end Descendants

end Payables.EInvoice
