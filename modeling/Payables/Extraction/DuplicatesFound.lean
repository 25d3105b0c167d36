import Mathlib
import Payables.Extraction.Duplicates

namespace Payables.Duplicates
open Lib

variable {casing : Casing}

/-- Two numbers that differ, trimmed and in small letters, by runs of separators and leading zeros only. -/
def SameNumber (casing : Casing) (one other : String) : Prop :=
  Relation.EqvGen invoiceNumbering.Variant (folded casing one).toList (folded casing other).toList

/-- The same vendor, by the stable id or by the name without the spaces around it in small letters. -/
def SameVendor (casing : Casing) (invoice row : Invoice) : Prop := Sql.holds (vendorMatch casing invoice row) = true

section Form

theorem folded_toList (value : String) : (folded casing value).toList = casing.lower (pyStrip value.toList) := String.toList_ofList

theorem folded_empty : (folded casing "").toList = [] := by
  rw [folded_toList]
  exact casing.lower_eq [] fun c member => by cases member

/-- The normal form of a number, where it has one, is its canonical text. -/
theorem normalizeInvoiceNumber_some (value : String) : normalizeInvoiceNumber casing (some value) =
    if invoiceNumbering.canonical (folded casing value).toList = [] then none
    else some (String.ofList (invoiceNumbering.canonical (folded casing value).toList)) := by
  rw [normalizeInvoiceNumber, Numbering.canonical]
  by_cases empty : value = ""
  · have nothing := @folded_empty casing
    rw [if_pos empty, empty, nothing]
    rfl
  · rw [if_neg empty]
    by_cases blank : strip invoiceNumbering.isMark (invoiceNumbering.collapse false (folded casing value).toList) = []
    · rw [if_pos blank, blank]
      rfl
    · rw [if_neg blank, if_neg (mt Numbering.dropZeros_eq_nil.mp blank)]

theorem normalize_eq_iff (one other : String) :
    normalizeInvoiceNumber casing (some one) = normalizeInvoiceNumber casing (some other) ↔ SameNumber casing one other := by
  rw [SameNumber, ← Numbering.canonical_eq_iff, normalizeInvoiceNumber_some, normalizeInvoiceNumber_some]
  generalize invoiceNumbering.canonical (folded casing one).toList = a
  generalize invoiceNumbering.canonical (folded casing other).toList = b
  constructor
  · intro same
    split at same
    next empty =>
      split at same
      next also => rw [empty, also]
      next => cases same
    next =>
      split at same
      next => cases same
      next =>
        have texts := congrArg String.toList (Option.some.inj same)
        rwa [String.toList_ofList, String.toList_ofList] at texts
  · rintro rfl
    rfl

/-- A canonical number is trimmed and in small letters. -/
theorem folded_canonical (value : String) :
    (folded casing (String.ofList (invoiceNumbering.canonical (folded casing value).toList))).toList =
      invoiceNumbering.canonical (folded casing value).toList := by
  rw [folded_toList, String.toList_ofList]
  have solid : ∀ c ∈ invoiceNumbering.canonical (folded casing value).toList, isPySpace c = false := by
    intro c member
    rcases Numbering.mem_canonical member with rfl | ⟨_, solid⟩
    · rfl
    · exact (Bool.or_eq_false_iff.mp solid).1
  have lowered : ∀ c ∈ invoiceNumbering.canonical (folded casing value).toList, casing.lowered c = true := by
    intro c member
    rcases Numbering.mem_canonical member with rfl | ⟨inside, _⟩
    · exact casing.mark_lowered
    · rw [folded_toList] at inside
      exact casing.lower_lowered _ c inside
  have trimmed : pyStrip (invoiceNumbering.canonical (folded casing value).toList) =
      invoiceNumbering.canonical (folded casing value).toList := strip_of_solid solid
  rw [trimmed, casing.lower_eq _ lowered]

theorem normalize_normalize (value : Option String) :
    normalizeInvoiceNumber casing (normalizeInvoiceNumber casing value) = normalizeInvoiceNumber casing value := by
  cases value with
  | none => rfl
  | some value =>
    rw [normalizeInvoiceNumber_some]
    split
    next => rfl
    next filled =>
      rw [normalizeInvoiceNumber_some, folded_canonical, Numbering.canonical_canonical, if_neg filled]

end Form

section Found

variable {table : InvoiceTable} {invoice row : Invoice}

/-- The exact comparison of two numbers, in the database. -/
def ExactNumber (casing : Casing) (invoice row : Invoice) : Prop :=
  lowerOf casing (row.invoiceNumber.map Sql.btrim) = some (folded casing (invoice.invoiceNumber.getD ""))

/-- The other candidates that are as new as one of them. -/
def asNew (casing : Casing) (table : InvoiceTable) (invoice row : Invoice) : List Invoice :=
  table.rows.filter fun other =>
    (row.createdAt ≤ other.createdAt && other.id ≠ row.id) && Sql.holds (candidateClause casing invoice other)

theorem isPySpace_small {c : Char} (blank : isPySpace c = true) : isSmallLetter c = false := by
  refine Bool.of_not_eq_true fun small => ?_
  simp only [isSmallLetter, Bool.and_eq_true, decide_eq_true_eq] at small
  have range : 97 ≤ c.toNat ∧ c.toNat ≤ 122 := small
  simp only [isPySpace, Bool.or_eq_true, Bool.and_eq_true, decide_eq_true_eq, beq_iff_eq] at blank
  omega

theorem isSeparator_small {c : Char} (separates : isSeparator c = true) : isSmallLetter c = false := by
  rcases Bool.or_eq_true_iff.mp separates with blank | listed
  · exact isPySpace_small blank
  · have all : ∀ d ∈ ['-', '_', '.', '/', '#', '\\'], isSmallLetter d = false := by
      intro d mark
      simp only [List.mem_cons, List.not_mem_nil, or_false] at mark
      rcases mark with rfl | rfl | rfl | rfl | rfl | rfl <;> decide
    exact all c (List.contains_iff_mem.mp listed)

/-- The letters of a number are those of its normal form. -/
theorem letters_canonical (value : String) :
    (invoiceNumbering.canonical (folded casing value).toList).filter isSmallLetter =
      (casing.lower value.toList).filter isSmallLetter := by
  have trimmed : (pyStrip (casing.lower value.toList)).filter isSmallLetter = (casing.lower value.toList).filter isSmallLetter :=
    filter_strip (fun _ => isPySpace_small) _
  rw [Numbering.filter_canonical (fun _ => isSeparator_small) (by decide), folded_toList, casing.lower_strip, trimmed]

theorem skeleton_of_sameNumber {one other : String} (same : SameNumber casing one other) :
    invoiceNumberLetterSkeleton casing (some one) = invoiceNumberLetterSkeleton casing (some other) := by
  have letters := congrArg (List.filter isSmallLetter) ((Numbering.canonical_eq_iff _ _).mpr same)
  rw [letters_canonical, letters_canonical] at letters
  rw [invoiceNumberLetterSkeleton, invoiceNumberLetterSkeleton]
  exact congrArg String.ofList letters

/-- A number with the normal form of an invoice passes the comparison of letters. -/
theorem candidate_of_same (other : row.id ≠ invoice.id) (vendor : SameVendor casing invoice row)
    (same : normalizeInvoiceNumber casing row.invoiceNumber = normalizeInvoiceNumber casing invoice.invoiceNumber)
    (numbered : normalizeInvoiceNumber casing invoice.invoiceNumber ≠ none) :
    Sql.holds (candidateClause casing invoice row) = true := by
  cases number : invoice.invoiceNumber with
  | none => exact absurd (by rw [number]; rfl) numbered
  | some value =>
    cases stored : row.invoiceNumber with
    | none => exact absurd (by rw [← same, stored]; rfl) numbered
    | some text =>
      rw [number, stored] at same
      have skeleton := skeleton_of_sameNumber ((normalize_eq_iff text value).mp same)
      have letters : ((lowerOf casing (some text)).map fun text => String.ofList (text.toList.filter isSmallLetter)) =
          some (invoiceNumberLetterSkeleton casing (some value)) := by
        rw [← skeleton, lowerOf, Option.map_some, Option.map_some, String.toList_ofList, casing.sqlLower_letters]
        rfl
      rw [candidateClause, Sql.holds_all, number, stored, letters]
      simp only [List.all_cons, List.all_nil, Bool.and_true, Bool.and_eq_true]
      refine ⟨vendor, ?_, rfl, ?_⟩
      · rw [isOther, Sql.eq, Sql.holds_not_some]
        simpa using other
      · rw [Sql.holds_eq]
        exact decide_eq_true rfl

theorem flags_of_same (member : row ∈ table.rows) (other : row.id ≠ invoice.id)
    (named : (invoice.vendorName.any fun name => pyStripText name ≠ "") = true) (vendor : SameVendor casing invoice row)
    (same : normalizeInvoiceNumber casing row.invoiceNumber = normalizeInvoiceNumber casing invoice.invoiceNumber)
    (numbered : normalizeInvoiceNumber casing invoice.invoiceNumber ≠ none)
    (reached : ExactNumber casing invoice row ∨ (asNew casing table invoice row).length < maxDuplicateCandidates) :
    flagsDuplicate casing table invoice = true := by
  have filled : invoice.invoiceNumber.any (· ≠ "") = true := by
    cases number : invoice.invoiceNumber with
    | none => exact absurd (by rw [number]; rfl) numbered
    | some value =>
      refine decide_eq_true fun empty => numbered ?_
      rw [number, empty]
      rfl
  rw [flagsDuplicate, named, filled, Bool.and_true, if_pos rfl, Bool.or_eq_true]
  rcases reached with exact | few
  · left
    have found : row ∈ Sql.select table.rows (exactClause casing invoice) := by
      refine Sql.mem_select.mpr ⟨member, ?_⟩
      rw [exactClause, Sql.holds_all]
      simp only [List.all_cons, List.all_nil, Bool.and_true, Bool.and_eq_true]
      refine ⟨?_, vendor, ?_⟩
      · rw [Sql.holds_eq]
        exact decide_eq_true exact
      · rw [isOther, Sql.eq, Sql.holds_not_some]
        simpa using other
    simpa using List.ne_nil_of_mem found
  · right
    have candidate := Sql.mem_select.mpr ⟨member, candidate_of_same other vendor same numbered⟩
    have ids : ((Sql.select table.rows (candidateClause casing invoice)).map (·.id)).Nodup :=
      (List.filter_sublist.map _).nodup table.ids
    rw [asNew, ← List.filter_filter] at few
    have loaded : row ∈ newestCandidates casing table invoice := Sql.mem_newest ids candidate few
    rw [hasNormalizedDuplicate]
    cases target : normalizeInvoiceNumber casing invoice.invoiceNumber with
    | none => exact absurd target numbered
    | some text => exact List.any_eq_true.mpr ⟨row, loaded, decide_eq_true (same.trans target)⟩

end Found

/-- The normal form is idempotent and tells numbers apart by no more than case, separators and leading zeros, and a number with
the normal form of another of its vendor is flagged unless 500 newer candidates hide it. -/
theorem duplicates_found (casing : Casing) :
    (∀ value, normalizeInvoiceNumber casing (normalizeInvoiceNumber casing value) = normalizeInvoiceNumber casing value) ∧
      (∀ one other : String,
        normalizeInvoiceNumber casing (some one) = normalizeInvoiceNumber casing (some other) ↔ SameNumber casing one other) ∧
      ∀ (table : InvoiceTable) (invoice row : Invoice), row ∈ table.rows → row.id ≠ invoice.id →
        (invoice.vendorName.any fun name => pyStripText name ≠ "") = true → SameVendor casing invoice row →
        normalizeInvoiceNumber casing row.invoiceNumber = normalizeInvoiceNumber casing invoice.invoiceNumber →
        normalizeInvoiceNumber casing invoice.invoiceNumber ≠ none →
        ExactNumber casing invoice row ∨ (asNew casing table invoice row).length < maxDuplicateCandidates →
          flagsDuplicate casing table invoice = true :=
  ⟨normalize_normalize, normalize_eq_iff, fun _ _ _ => flags_of_same⟩

section Ascii

/-- The small letter of a capital of ASCII. -/
def small (c : Char) : Char := if c.isUpper then Char.ofNat (c.toNat + 32) else c

theorem isUpper_range {c : Char} (upper : c.isUpper = true) : 65 ≤ c.toNat ∧ c.toNat ≤ 90 := by
  simp only [Char.isUpper, decide_eq_true_eq, UInt32.le_iff_toNat_le] at upper
  exact upper

theorem small_cases (c : Char) : small c = c ∧ c.isUpper = false ∨
    isPySpace (small c) = false ∧ isPySpace c = false ∧ (small c).isUpper = false := by
  rw [small]
  split
  next upper =>
    have range := isUpper_range upper
    right
    refine ⟨?_, ?_, ?_⟩
    · generalize c.toNat = n at range
      obtain ⟨low, high⟩ := range
      interval_cases n <;> rfl
    · simp only [isPySpace, Bool.or_eq_false_iff, Bool.and_eq_false_iff, decide_eq_false_iff_not, beq_eq_false_iff_ne]
      omega
    · generalize c.toNat = n at range
      obtain ⟨low, high⟩ := range
      interval_cases n <;> rfl
  next other => exact .inl ⟨rfl, Bool.of_not_eq_true other⟩

/-- The case of the letters of ASCII, in both. -/
def ascii : Casing where
  lower text := text.map small
  sqlLower text := text.map small
  lowered c := !c.isUpper
  lower_lowered text c member := by
    obtain ⟨source, _, rfl⟩ := List.mem_map.mp member
    rcases small_cases source with ⟨same, other⟩ | ⟨_, _, other⟩
    · rw [same, other]; rfl
    · rw [other]; rfl
  lower_eq text lowered := by
    refine (List.map_congr_left fun c member => ?_).trans (List.map_id text)
    rw [small, if_neg (by simpa using lowered c member), id]
  mark_lowered := by decide
  lower_strip text := by
    refine (strip_map (fun c => ?_) text).symm
    rcases small_cases c with ⟨same, _⟩ | ⟨changed, plain, _⟩
    · rw [same]
    · rw [changed, plain]
  sqlLower_letters _ := rfl

end Ascii

def resent : Invoice := ⟨0, some 7, some "Acme", some "INV 001", 10⟩

def firstSent : Invoice := ⟨1, some 7, some "ACME Corp", some "inv-1", 0⟩

theorem resent_flagged : flagsDuplicate ascii ⟨[firstSent], List.nodup_singleton _⟩ resent = true := by
  have forms : normalizeInvoiceNumber ascii (some "inv-1") = some "inv-1" ∧
      normalizeInvoiceNumber ascii (some "INV 001") = some "inv-1" := by decide
  refine (duplicates_found ascii).2.2 _ resent firstSent (List.mem_singleton_self _) (by decide) rfl rfl ?_ ?_ (.inr ?_)
  · exact forms.1.trans forms.2.symm
  · exact fun none => Option.some_ne_none _ (forms.2.symm.trans none)
  · exact (List.length_filter_le _ _).trans_lt (by decide)

section Hidden

/-- A number of digits that does not begin with a zero. -/
def plainNumber (k : Nat) : String := String.ofList ('1' :: Nat.toDigits 10 k)

def newer (k : Nat) : Invoice := ⟨k + 2, some 7, some "Acme", some (plainNumber k), k + 1⟩

def oldest : Invoice := ⟨1, some 7, some "Acme", some "7", 0⟩

/-- An invoice numbered 7 and 500 newer invoices of the vendor, numbered in digits as well. -/
def longHistory : InvoiceTable where
  rows := ((List.range 500).reverse.map newer) ++ [oldest]
  ids := by
    rw [List.map_append, List.map_map]
    refine List.nodup_append.mpr ⟨?_, List.nodup_singleton _, ?_⟩
    · have distinct := List.nodup_reverse.mpr (List.nodup_range (n := 500))
      exact distinct.map fun one other same => Nat.add_right_cancel same
    · intro id member other also
      obtain ⟨k, _, rfl⟩ := List.mem_map.mp member
      rw [List.mem_singleton.mp also]
      exact Nat.succ_ne_succ_iff.mpr (Nat.succ_ne_zero k)

def numberedAgain : Invoice := ⟨0, some 7, some "Acme", some "07", 501⟩

theorem digits_plainNumber (k : Nat) : ∀ c ∈ '1' :: Nat.toDigits 10 k, c.isDigit = true := by
  intro c member
  rcases List.mem_cons.mp member with rfl | digit
  · rfl
  · exact Nat.isDigit_of_mem_toDigits (by decide) (by decide) digit

theorem isDigit_plain {c : Char} (digit : c.isDigit = true) :
    small c = c ∧ isPySpace c = false ∧ isSmallLetter c = false ∧ (c == ' ') = false := by
  have range : 48 ≤ c.toNat ∧ c.toNat ≤ 57 := by
    simp only [Char.isDigit, Bool.and_eq_true, decide_eq_true_eq, UInt32.le_iff_toNat_le] at digit
    exact digit
  refine ⟨?_, ?_, ?_, ?_⟩
  · rw [small, if_neg]
    intro upper
    have := isUpper_range upper
    omega
  · simp only [isPySpace, Bool.or_eq_false_iff, Bool.and_eq_false_iff, decide_eq_false_iff_not, beq_eq_false_iff_ne]
    omega
  · refine Bool.of_not_eq_true fun letter => ?_
    simp only [isSmallLetter, Bool.and_eq_true, decide_eq_true_eq] at letter
    have low : 97 ≤ c.toNat := letter.1
    omega
  · refine beq_eq_false_iff_ne.mpr fun same => ?_
    rw [same] at range
    exact absurd range.1 (by decide)

theorem map_small_digits (k : Nat) : ('1' :: Nat.toDigits 10 k).map small = '1' :: Nat.toDigits 10 k :=
  (List.map_congr_left fun c member => (isDigit_plain (digits_plainNumber k c member)).1).trans (List.map_id _)

theorem folded_plainNumber (k : Nat) : (folded ascii (plainNumber k)).toList = '1' :: Nat.toDigits 10 k := by
  have trimmed : pyStrip ('1' :: Nat.toDigits 10 k) = '1' :: Nat.toDigits 10 k :=
    strip_of_solid fun c member => (isDigit_plain (digits_plainNumber k c member)).2.1
  rw [folded_toList, plainNumber, String.toList_ofList, trimmed]
  exact map_small_digits k

theorem normalize_plainNumber (k : Nat) : normalizeInvoiceNumber ascii (some (plainNumber k)) ≠ some "7" := by
  obtain ⟨form, canonical⟩ : ∃ form, invoiceNumbering.canonical ('1' :: Nat.toDigits 10 k) = '1' :: form :=
    Numbering.canonical_cons_of_digits (by decide) (digits_plainNumber k)
  rw [normalizeInvoiceNumber_some, folded_plainNumber, canonical, if_neg (List.cons_ne_nil _ _)]
  intro same
  have texts := congrArg String.toList (Option.some.inj same)
  rw [String.toList_ofList] at texts
  exact absurd (List.cons.inj texts).1 (by decide)

theorem candidate_newer (k : Nat) : Sql.holds (candidateClause ascii numberedAgain (newer k)) = true := by
  have letters : (('1' :: Nat.toDigits 10 k).map small).filter isSmallLetter = [] := by
    rw [map_small_digits, List.filter_eq_nil_iff]
    intro c member
    simp [(isDigit_plain (digits_plainNumber k c member)).2.2.1]
  have skeleton : ((lowerOf ascii (some (plainNumber k))).map fun text => String.ofList (text.toList.filter isSmallLetter)) =
      some "" := by
    rw [lowerOf, Option.map_some, Option.map_some, String.toList_ofList, plainNumber, String.toList_ofList]
    exact congrArg (fun text => some (String.ofList text)) letters
  have none : invoiceNumberLetterSkeleton ascii numberedAgain.invoiceNumber = "" := by decide
  rw [candidateClause, Sql.holds_all, none]
  simp only [List.all_cons, List.all_nil, Bool.and_true, Bool.and_eq_true]
  refine ⟨rfl, ?_, rfl, ?_⟩
  · rw [isOther, Sql.eq, Sql.holds_not_some]
    simp [newer, numberedAgain]
  · rw [show (newer k).invoiceNumber = some (plainNumber k) from rfl, skeleton]
    rfl

theorem exact_newer (k : Nat) : Sql.holds (exactClause ascii numberedAgain (newer k)) = false := by
  have trimmed : Sql.btrim (plainNumber k) = plainNumber k := by
    have solid : strip (· == ' ') ('1' :: Nat.toDigits 10 k) = '1' :: Nat.toDigits 10 k :=
      strip_of_solid fun c member => (isDigit_plain (digits_plainNumber k c member)).2.2.2
    rw [Sql.btrim, plainNumber, String.toList_ofList]
    exact congrArg String.ofList solid
  have number : lowerOf ascii ((newer k).invoiceNumber.map Sql.btrim) = some (plainNumber k) := by
    rw [show (newer k).invoiceNumber = some (plainNumber k) from rfl, Option.map_some, trimmed, lowerOf, Option.map_some, plainNumber,
      String.toList_ofList]
    exact congrArg (fun text => some (String.ofList text)) (map_small_digits k)
  have again : folded ascii (numberedAgain.invoiceNumber.getD "") = "07" := by decide
  rw [exactClause, Sql.holds_all, number, again, List.all_cons, Sql.holds_eq]
  have apart : some (plainNumber k) ≠ some "07" := by
    intro same
    have texts := congrArg String.toList (Option.some.inj same)
    rw [plainNumber, String.toList_ofList] at texts
    exact absurd (List.cons.inj texts).1 (by decide)
  rw [decide_eq_false apart, Bool.false_and]

/-- The oldest invoice is not among the newest candidates. -/
theorem newest_longHistory :
    newestCandidates ascii longHistory numberedAgain = (List.range 500).reverse.map newer := by
  have all : Sql.select longHistory.rows (candidateClause ascii numberedAgain) = longHistory.rows := by
    refine List.filter_eq_self.mpr fun row member => ?_
    rcases List.mem_append.mp member with new | old
    · obtain ⟨k, _, rfl⟩ := List.mem_map.mp new
      exact candidate_newer k
    · rw [List.mem_singleton.mp old]
      decide
  have sorted : longHistory.rows.Pairwise fun one other => other.createdAt ≤ one.createdAt := by
    refine List.pairwise_append.mpr ⟨?_, List.pairwise_singleton _ _, ?_⟩
    · rw [List.pairwise_map, List.pairwise_reverse]
      refine List.pairwise_lt_range.imp fun {one other} less => ?_
      show (one : Int) + 1 ≤ other + 1
      omega
    · intro row member other old
      obtain ⟨k, _, rfl⟩ := List.mem_map.mp member
      rw [List.mem_singleton.mp old]
      show (0 : Int) ≤ k + 1
      omega
  rw [newestCandidates, all, Sql.newest, sorted.insertionSort_eq]
  exact List.take_left' (by rw [List.length_map, List.length_reverse, List.length_range]; rfl)

theorem old_number_missed : ¬∀ (table : InvoiceTable) (invoice row : Invoice), row ∈ table.rows → row.id ≠ invoice.id →
    SameVendor ascii invoice row →
    normalizeInvoiceNumber ascii row.invoiceNumber = normalizeInvoiceNumber ascii invoice.invoiceNumber →
    normalizeInvoiceNumber ascii invoice.invoiceNumber ≠ none → flagsDuplicate ascii table invoice = true := by
  intro always
  have forms : normalizeInvoiceNumber ascii oldest.invoiceNumber = some "7" ∧
      normalizeInvoiceNumber ascii numberedAgain.invoiceNumber = some "7" := by decide
  have flagged := always longHistory numberedAgain oldest (List.mem_append_right _ (List.mem_singleton_self _)) (by decide) rfl
    (forms.1.trans forms.2.symm) fun none => Option.some_ne_none _ (forms.2.symm.trans none)
  rw [flagsDuplicate, if_pos (by decide), Bool.or_eq_true] at flagged
  rcases flagged with exact | normalized
  · obtain ⟨row, found⟩ := List.exists_mem_of_ne_nil _ (show Sql.select longHistory.rows (exactClause ascii numberedAgain) ≠ [] by
      simpa using exact)
    obtain ⟨member, holds⟩ := Sql.mem_select.mp found
    rcases List.mem_append.mp member with new | old
    · obtain ⟨k, _, rfl⟩ := List.mem_map.mp new
      rw [exact_newer] at holds
      cases holds
    · rw [List.mem_singleton.mp old] at holds
      exact absurd holds (by decide)
  · rw [hasNormalizedDuplicate, forms.2, newest_longHistory] at normalized
    obtain ⟨row, member, same⟩ := List.any_eq_true.mp normalized
    obtain ⟨k, _, rfl⟩ := List.mem_map.mp member
    exact normalize_plainNumber k (of_decide_eq_true same)

end Hidden

end Payables.Duplicates
