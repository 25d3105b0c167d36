import Mathlib.Data.List.Basic

namespace Payables.Lib

/-- A name of an XML vocabulary. -/
structure QName where
  space : String
  localName : String
  deriving DecidableEq

/-- An XML tree. The text of an element is the text before its first child. -/
inductive Xml
  | element (name : QName) (attributes : List (String × String)) (text : Option String) (children : List Xml)
  | comment (text : String)

namespace Xml

def localName? : Xml → Option String
  | element name _ _ _ => some name.localName
  | comment _ => none

def text : Xml → Option String
  | element _ _ text _ => text
  | comment text => some text

def children : Xml → List Xml
  | element _ _ _ children => children
  | comment _ => []

def get (key : String) : Xml → Option String
  | element _ attributes _ _ => (attributes.find? (·.1 == key)).map (·.2)
  | comment _ => none

/-- The first of some nodes that has a local name. -/
def firstNamed (name : String) (nodes : List Xml) : Option Xml := nodes.find? (·.localName? == some name)

/-- The node that a chain of local names leads to. -/
def atPath : List String → Xml → Option Xml
  | [], node => some node
  | name :: names, node => (firstNamed name node.children).bind (atPath names)

mutual

/-- The nodes of a tree in document order, its root first. -/
def iter : Xml → List Xml
  | element name attributes text children => element name attributes text children :: iterAll children
  | comment text => [comment text]

def iterAll : List Xml → List Xml
  | [] => []
  | node :: nodes => iter node ++ iterAll nodes

end

/-- The nodes of some trees that have a local name, in document order. -/
def allNamed (name : String) (nodes : List Xml) : List Xml := (iterAll nodes).filter (·.localName? == some name)

/-- An element that stands only where a condition holds. -/
def elementIf (present : Bool) (node : Xml) : List Xml := if present then [node] else []

variable {name other : String} {nodes more : List Xml}

@[simp] theorem atPath_nil (node : Xml) : atPath [] node = some node := rfl

@[simp] theorem firstNamed_nil : firstNamed name [] = none := rfl

@[simp] theorem firstNamed_append :
    firstNamed name (nodes ++ more) = (firstNamed name nodes).or (firstNamed name more) :=
  List.find?_append

theorem firstNamed_cons (node : Xml) :
    firstNamed name (node :: nodes) = if node.localName? = some name then some node else firstNamed name nodes := by
  unfold firstNamed
  rw [List.find?_cons]
  by_cases here : node.localName? = some name
  · simp only [here, beq_self_eq_true, if_true]
  · have differs : (node.localName? == some name) = false := beq_eq_false_iff_ne.mpr here
    simp only [differs, if_neg here]

theorem firstNamed_elementIf (present : Bool) (node : Xml) :
    firstNamed name (elementIf present node) =
      if node.localName? = some name then (if present then some node else none) else none := by
  cases present
  · simp only [elementIf, Bool.false_eq_true, if_false, firstNamed_nil, ite_self]
  · simp only [elementIf, if_true, firstNamed_cons, firstNamed_nil]

/-- Where no node has the name, the search finds nothing. -/
theorem firstNamed_eq_none (absent : ∀ node ∈ nodes, node.localName? ≠ some name) : firstNamed name nodes = none := by
  unfold firstNamed
  rw [List.find?_eq_none]
  intro node member
  have differs := absent node member
  simpa using differs

@[simp] theorem iterAll_append : iterAll (nodes ++ more) = iterAll nodes ++ iterAll more := by
  induction nodes with
  | nil => rfl
  | cons node nodes ih => simp only [List.cons_append, iterAll, ih, List.append_assoc]

@[simp] theorem allNamed_nil : allNamed name [] = [] := rfl

@[simp] theorem allNamed_append : allNamed name (nodes ++ more) = allNamed name nodes ++ allNamed name more := by
  unfold allNamed
  rw [iterAll_append, List.filter_append]

/-- An element of another name holds what its children hold. -/
theorem allNamed_cons_other (tag : QName) (attributes : List (String × String)) (text : Option String)
    (children : List Xml) (differs : tag.localName ≠ name) :
    allNamed name (element tag attributes text children :: nodes) = allNamed name children ++ allNamed name nodes := by
  have skipped : (localName? (element tag attributes text children) == some name) = false := by
    simpa [localName?] using differs
  unfold allNamed
  rw [iterAll, iter, List.cons_append, List.filter_cons, skipped, List.filter_append]
  simp only [Bool.false_eq_true, if_false]

/-- An element of the name comes before those below it. -/
theorem allNamed_cons_same (tag : QName) (attributes : List (String × String)) (text : Option String)
    (children : List Xml) (same : tag.localName = name) :
    allNamed name (element tag attributes text children :: nodes) =
      element tag attributes text children :: (allNamed name children ++ allNamed name nodes) := by
  have kept : (localName? (element tag attributes text children) == some name) = true := by
    simpa [localName?] using same
  unfold allNamed
  rw [iterAll, iter, List.cons_append, List.filter_cons, kept, List.filter_append]
  simp only [if_true]

/-- Trees that each hold no node of the name hold none together. -/
theorem allNamed_eq_nil (absent : ∀ node ∈ nodes, allNamed name [node] = []) : allNamed name nodes = [] := by
  induction nodes with
  | nil => rfl
  | cons node nodes ih =>
    have head := absent node List.mem_cons_self
    have tail := ih fun later member => absent later (List.mem_cons_of_mem node member)
    have apart : allNamed name ([node] ++ nodes) = allNamed name [node] ++ allNamed name nodes := allNamed_append
    rw [List.singleton_append] at apart
    rw [apart, head, tail, List.nil_append]

/-- Trees whose roots alone have the name are found in their order. -/
theorem allNamed_map {α : Type} (build : α → Xml) (items : List α) (alone : ∀ item, allNamed name [build item] = [build item]) :
    allNamed name (items.map build) = items.map build := by
  induction items with
  | nil => rfl
  | cons item items ih =>
    have apart : allNamed name ([build item] ++ items.map build) =
        allNamed name [build item] ++ allNamed name (items.map build) := allNamed_append
    rw [List.singleton_append] at apart
    rw [List.map_cons, apart, alone, ih, List.singleton_append]

theorem allNamed_elementIf (present : Bool) (node : Xml) (absent : allNamed name [node] = []) :
    allNamed name (elementIf present node) = [] := by
  cases present
  · rfl
  · exact absent

end Xml

end Payables.Lib
