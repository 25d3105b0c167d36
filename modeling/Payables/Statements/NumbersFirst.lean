import Payables.Lib.Pool
import Payables.Statements.Reconcile

namespace Payables.Statements
open Lib

/-- The lines of a statement, each with its result. -/
def entries (lines : List StatementLine) (ledger : Ledger) (amountTolerance : ℚ) (dateWindowDays : Nat) :
    List (StatementLine × ReconLineResult) :=
  lines.zip (reconcile lines ledger amountTolerance dateWindowDays).1

/-- A line is matched by its number, with an invoice of that number. -/
def MatchedByNumber (ledger : Ledger) (entry : StatementLine × ReconLineResult) : Prop :=
  entry.2.matchMethod = some .invoiceNumber ∧
    ∃ invoice ∈ ledger.invoices, invoice.number = entry.1.number ∧ entry.2.matchedInvoiceId = some invoice.id

/-- A line is matched by its number where there is an invoice of that number that no other line of the number takes. -/
def NumbersFirst (ledger : Ledger) (entries : List (StatementLine × ReconLineResult)) : Prop :=
  ∀ before entry after, entries = before ++ entry :: after → entry.1.number ≠ "" →
    ∀ invoice ∈ ledger.invoices, invoice.number = entry.1.number →
      (¬∃ other ∈ before ++ after, other.1.number = entry.1.number ∧ other.2.matchedInvoiceId = some invoice.id) →
        MatchedByNumber ledger entry

/-- How many lines of a number are matched by it. -/
def numberMatches (entries : List (StatementLine × ReconLineResult)) (number : String) : Nat :=
  entries.countP fun entry => entry.1.number = number ∧ entry.2.matchMethod = some .invoiceNumber

/-- Numbers come first in every order of the lines, and the order does not tell how many of them are matched. -/
def NumbersPrioritised (statement : List StatementLine) (ledger : Ledger) (amountTolerance : ℚ) (dateWindowDays : Nat) : Prop :=
  ∀ lines, lines.Perm statement → NumbersFirst ledger (entries lines ledger amountTolerance dateWindowDays) ∧
    ∀ number, number ≠ "" → numberMatches (entries lines ledger amountTolerance dateWindowDays) number =
      numberMatches (entries statement ledger amountTolerance dateWindowDays) number

/-- The invoices of a number that are not consumed. -/
def openInvoices (ledger : Ledger) (consumed : Finset InvoiceId) (number : String) : Nat :=
  ledger.invoices.countP fun invoice => decide (invoice.number = number) && decide (invoice.id ∉ consumed)

/-- An invoice that a line takes for its amount leaves enough of its number to the lines that are still to come. -/
def FallbackSpares (ledger : Ledger) (dateWindowDays : Nat) : Finset InvoiceId → List StatementLine → Prop
  | _, [] => True
  | consumed, line :: lines =>
    (∀ invoice, numberMatch ledger consumed line = none → amountMatch ledger dateWindowDays consumed line = some invoice →
      invoice.number ≠ "" → (lines.countP fun later => later.number = invoice.number) < openInvoices ledger consumed invoice.number) ∧
    FallbackSpares ledger dateWindowDays ((matching ledger dateWindowDays).advance consumed line) lines

/-- A turn of the loop, as those see it who look at one number. -/
def draw (number : String) (turn : StatementLine × Option (LedgerInvoice × MatchMethod)) : Draw :=
  if turn.1.number = number then .owner
  else if (turn.2.map (·.1.number)) = some number then .stranger
  else .nobody

section Turns

variable {ledger : Ledger} {dateWindowDays : Nat} {consumed : Finset InvoiceId} {line : StatementLine}
  {lines : List StatementLine} {number : String} {invoice : LedgerInvoice} {method : MatchMethod}

theorem matching_choose : (matching ledger dateWindowDays).choose = matchLine ledger dateWindowDays := by
  simp only [matching]

theorem pass_cons : (matching ledger dateWindowDays).pass consumed (line :: lines) =
    (line, matchLine ledger dateWindowDays consumed line) ::
      (matching ledger dateWindowDays).pass ((matching ledger dateWindowDays).advance consumed line) lines := by
  rw [Claimant.pass, matching_choose]

theorem openInvoices_pos_iff : 0 < openInvoices ledger consumed number ↔
    ∃ invoice ∈ ledger.invoices, invoice.number = number ∧ invoice.id ∉ consumed := by
  rw [openInvoices, List.countP_pos_iff]
  simp only [Bool.and_eq_true, decide_eq_true_eq]

/-- A line of a number that has open invoices takes one of them. -/
theorem choose_owner (dateWindowDays : Nat) (numbered : number ≠ "") (owner : line.number = number) (available : 0 < openInvoices ledger consumed number) :
    ∃ invoice, matchLine ledger dateWindowDays consumed line = some (invoice, .invoiceNumber) ∧ invoice.number = number := by
  obtain ⟨invoice, listed, same, unconsumed⟩ := openInvoices_pos_iff.mp available
  cases found : numberMatch ledger consumed line with
  | none =>
    have all := numberMatch_none_iff.mp found (owner.trans_ne numbered) invoice listed (same.trans owner.symm)
    exact absurd all unconsumed
  | some taken =>
    exact ⟨taken, matchLine_iff.mpr (.inl ⟨found, rfl⟩), (numberMatch_spec found).2.2.2.trans owner⟩

theorem advance_taken (chosen : matchLine ledger dateWindowDays consumed line = some (invoice, method)) :
    (matching ledger dateWindowDays).advance consumed line = insert invoice.id consumed := by
  simp only [Claimant.advance, matching, chosen]

theorem advance_none (chosen : matchLine ledger dateWindowDays consumed line = none) :
    (matching ledger dateWindowDays).advance consumed line = consumed := by
  simp only [Claimant.advance, matching, chosen]

theorem openInvoices_taken (number : String) (chosen : matchLine ledger dateWindowDays consumed line = some (invoice, method)) :
    openInvoices ledger (insert invoice.id consumed) number + (if invoice.number = number then 1 else 0) =
      openInvoices ledger consumed number := by
  obtain ⟨listed, unconsumed⟩ := matchLine_open chosen
  have taken := countP_untaken_insert (fun other => decide (other.number = number)) ledger.distinct listed unconsumed
  simp only [decide_eq_true_eq] at taken
  exact taken

/-- The pool of a number goes the way of its draws. -/
theorem openInvoices_advance (numbered : number ≠ "") :
    openInvoices ledger ((matching ledger dateWindowDays).advance consumed line) number =
      (draw number (line, matchLine ledger dateWindowDays consumed line)).left (openInvoices ledger consumed number) := by
  rw [draw]
  cases chosen : matchLine ledger dateWindowDays consumed line with
  | none =>
    rw [advance_none chosen]
    by_cases owner : line.number = number
    · have empty : ¬0 < openInvoices ledger consumed number := by
        intro available
        obtain ⟨invoice, found, -⟩ := choose_owner dateWindowDays numbered owner available
        rw [chosen] at found
        cases found
      rw [if_pos owner, Draw.left]
      omega
    · rw [if_neg owner, if_neg (by simp), Draw.left]
  | some taken =>
    obtain ⟨invoice, method⟩ := taken
    have pool := openInvoices_taken number chosen
    rw [advance_taken chosen]
    by_cases owner : line.number = number
    · rw [if_pos owner, Draw.left]
      by_cases available : 0 < openInvoices ledger consumed number
      · obtain ⟨other, found, same⟩ := choose_owner dateWindowDays numbered owner available
        rw [chosen] at found
        cases found
        rw [if_pos same] at pool
        omega
      · omega
    · by_cases strange : invoice.number = number
      · rw [if_pos strange] at pool
        rw [if_neg owner, if_pos (by rw [Option.map_some, strange]), Draw.left]
        omega
      · rw [if_neg strange] at pool
        rw [if_neg owner, if_neg (by rw [Option.map_some, Option.some.injEq]; exact strange), Draw.left]
        omega

/-- Whether a turn matches a line of a number by it. -/
def byNumber (number : String) (turn : StatementLine × Option (LedgerInvoice × MatchMethod)) : Bool :=
  turn.1.number = number ∧ turn.2.map (·.2) = some .invoiceNumber

theorem byNumber_iff (ledger : Ledger) (dateWindowDays : Nat) (consumed : Finset InvoiceId) (line : StatementLine)
    (numbered : number ≠ "") : byNumber number (line, matchLine ledger dateWindowDays consumed line) ↔
    draw number (line, matchLine ledger dateWindowDays consumed line) = .owner ∧ 0 < openInvoices ledger consumed number := by
  rw [byNumber, draw, decide_eq_true_eq]
  by_cases owner : line.number = number
  · rw [if_pos owner]
    simp only [owner, true_and]
    constructor
    · intro named
      obtain ⟨⟨invoice, method⟩, chosen, isNumber⟩ := Option.map_eq_some_iff.mp named
      rcases matchLine_iff.mp chosen with ⟨found, -⟩ | ⟨-, -, isAmount⟩
      · obtain ⟨listed, unconsumed, -, same⟩ := numberMatch_spec found
        exact openInvoices_pos_iff.mpr ⟨invoice, listed, same.trans owner, unconsumed⟩
      · rw [isAmount] at isNumber
        cases isNumber
    · intro available
      obtain ⟨invoice, chosen, -⟩ := choose_owner dateWindowDays numbered owner available
      rw [chosen, Option.map_some]
  · simp only [owner, false_and, if_false, false_iff]
    rintro ⟨isOwner, -⟩
    split at isOwner <;> cases isOwner

theorem served_eq (numbered : number ≠ "") :
    Draw.served (openInvoices ledger consumed number)
        (((matching ledger dateWindowDays).pass consumed lines).map (draw number)) =
      ((matching ledger dateWindowDays).pass consumed lines).countP (byNumber number) := by
  induction lines generalizing consumed with
  | nil => rfl
  | cons line lines ih =>
    have turn := byNumber_iff ledger dateWindowDays consumed line numbered
    rw [pass_cons, List.map_cons, Draw.served, List.countP_cons]
    rw [← openInvoices_advance numbered, ih, Nat.add_comm]
    exact congrArg _ (if_congr turn.symm rfl rfl)

/-- A stranger is a line that takes an invoice for its amount. -/
theorem draw_stranger_iff (numbered : number ≠ "") :
    draw number (line, matchLine ledger dateWindowDays consumed line) = .stranger ↔
      ∃ invoice, numberMatch ledger consumed line = none ∧ amountMatch ledger dateWindowDays consumed line = some invoice ∧
        invoice.number = number := by
  simp only [draw]
  constructor
  · intro strange
    split at strange
    · cases strange
    · next other =>
      split at strange
      · next taken =>
        obtain ⟨⟨invoice, method⟩, chosen, same⟩ := Option.map_eq_some_iff.mp taken
        simp only at same
        rcases matchLine_iff.mp chosen with ⟨found, -⟩ | ⟨unfound, found, -⟩
        · exact absurd ((numberMatch_spec found).2.2.2.symm.trans same) other
        · exact ⟨invoice, unfound, found, same⟩
      · cases strange
  · rintro ⟨invoice, unfound, found, same⟩
    have listed := (amountMatch_spec found).1
    have unconsumed := (amountMatch_spec found).2
    have other : line.number ≠ number := by
      intro owner
      exact unconsumed (numberMatch_none_iff.mp unfound (owner.trans_ne numbered) invoice listed (same.trans owner.symm))
    have chosen : matchLine ledger dateWindowDays consumed line = some (invoice, .amountDate) :=
      matchLine_iff.mpr (.inr ⟨unfound, found, rfl⟩)
    simp only [chosen, other, if_false, Option.map_some, same, if_true]

theorem owners_eq (number : String) : Draw.owners (((matching ledger dateWindowDays).pass consumed lines).map (draw number)) =
    lines.countP fun line => line.number = number := by
  have sameLines : ((matching ledger dateWindowDays).pass consumed lines).map Prod.fst = lines := Claimant.pass_map_fst
  rw [Draw.owners, List.count, List.countP_map, ← sameLines, List.countP_map, sameLines]
  refine List.countP_congr fun turn _ => ?_
  simp only [Function.comp_apply, draw, beq_iff_eq, decide_eq_true_eq]
  by_cases owner : turn.1.number = number
  · simp [owner]
  · simp only [owner, if_false, iff_false]
    split <;> decide

/-- Sparing the later lines of every number is sparing its owners in every pool. -/
theorem fallbackSpares_iff : FallbackSpares ledger dateWindowDays consumed lines ↔
    ∀ number, number ≠ "" → Draw.Spared (openInvoices ledger consumed number)
      (((matching ledger dateWindowDays).pass consumed lines).map (draw number)) := by
  induction lines generalizing consumed with
  | nil => simp [FallbackSpares, Claimant.pass, Draw.Spared]
  | cons line lines ih =>
    rw [FallbackSpares, ih, pass_cons]
    simp only [List.map_cons, Draw.Spared, owners_eq]
    constructor
    · rintro ⟨here, later⟩ number numbered
      refine ⟨fun strange _ => ?_, ?_⟩
      · obtain ⟨invoice, unfound, found, rfl⟩ := (draw_stranger_iff numbered).mp strange
        exact here invoice unfound found numbered
      · rw [← openInvoices_advance numbered]
        exact later number numbered
    · intro spared
      refine ⟨fun invoice unfound found numbered => ?_, fun number numbered => ?_⟩
      · obtain ⟨listed, unconsumed⟩ := amountMatch_spec found
        exact (spared invoice.number numbered).1 ((draw_stranger_iff numbered).mpr ⟨invoice, unfound, found, rfl⟩)
          (openInvoices_pos_iff.mpr ⟨invoice, listed, rfl, unconsumed⟩)
      · rw [openInvoices_advance numbered]
        exact (spared number numbered).2

/-- The invoices that lines of a number take by it. -/
def takenIds (number : String) (turns : List (StatementLine × Option (LedgerInvoice × MatchMethod))) : List InvoiceId :=
  (turns.filter (byNumber number)).filterMap fun turn => turn.2.map (·.1.id)

def numberIds (ledger : Ledger) (number : String) : List InvoiceId :=
  (ledger.invoices.filter fun invoice => invoice.number = number).map (·.id)

theorem takenIds_length (turns : List (StatementLine × Option (LedgerInvoice × MatchMethod))) :
    (takenIds number turns).length = turns.countP (byNumber number) := by
  induction turns with
  | nil => rfl
  | cons turn turns ih =>
    rw [takenIds] at ih ⊢
    by_cases named : byNumber number turn
    · rw [List.filter_cons_of_pos named, List.countP_cons_of_pos named, ← ih]
      have some_taken : turn.2.map (·.2) = some .invoiceNumber := (of_decide_eq_true named).2
      obtain ⟨taken, isTaken, -⟩ := Option.map_eq_some_iff.mp some_taken
      rw [List.filterMap_cons_some (by rw [isTaken, Option.map_some]), List.length_cons]
    · rw [List.filter_cons_of_neg named, List.countP_cons_of_neg named, ih]

theorem takenIds_nodup : (takenIds number ((matching ledger dateWindowDays).pass consumed lines)).Nodup := by
  have keys : ((matching ledger dateWindowDays).keys consumed lines).Nodup := Claimant.keys_nodup
  exact keys.sublist (List.filter_sublist.filterMap _)

theorem numberIds_nodup : (numberIds ledger number).Nodup := ledger.distinct.sublist (List.filter_sublist.map _)

theorem numberIds_length : (numberIds ledger number).length = openInvoices ledger ∅ number := by
  rw [numberIds, List.length_map, openInvoices, List.countP_eq_length_filter]
  simp

theorem mem_numberIds {id : InvoiceId} : id ∈ numberIds ledger number ↔
    ∃ invoice ∈ ledger.invoices, invoice.number = number ∧ invoice.id = id := by
  simp only [numberIds, List.mem_map, List.mem_filter, decide_eq_true_eq, and_assoc]

/-- What a turn of the pass takes by number has that number. -/
theorem byNumber_spec {turn : StatementLine × Option (LedgerInvoice × MatchMethod)}
    (listed : turn ∈ (matching ledger dateWindowDays).pass consumed lines) (named : byNumber number turn) :
    turn.1.number = number ∧ ∃ invoice ∈ ledger.invoices, invoice.number = number ∧
      turn.2 = some (invoice, .invoiceNumber) := by
  obtain ⟨before, after, -, chosen⟩ := Claimant.mem_pass_iff.mp listed
  obtain ⟨owner, method⟩ := of_decide_eq_true named
  obtain ⟨⟨invoice, byMethod⟩, isTaken, isNumber⟩ := Option.map_eq_some_iff.mp method
  rw [matching_choose, isTaken] at chosen
  rcases matchLine_iff.mp chosen.symm with ⟨found, isMethod⟩ | ⟨-, -, isMethod⟩
  · rw [isMethod] at isTaken
    exact ⟨owner, invoice, (numberMatch_spec found).1, (numberMatch_spec found).2.2.2.trans owner, isTaken⟩
  · rw [isMethod] at isNumber
    cases isNumber

/-- A line that takes an invoice of its own number takes it by the number. -/
theorem byNumber_of_taken {turn : StatementLine × Option (LedgerInvoice × MatchMethod)} (numbered : number ≠ "")
    (listed : turn ∈ (matching ledger dateWindowDays).pass consumed lines) (owner : turn.1.number = number)
    (isOpen : invoice ∈ ledger.invoices) (same : invoice.number = number)
    (taken : turn.2.map (·.1.id) = some invoice.id) : byNumber number turn := by
  obtain ⟨before, after, -, chosen⟩ := Claimant.mem_pass_iff.mp listed
  obtain ⟨⟨other, method⟩, isTaken, sameId⟩ := Option.map_eq_some_iff.mp taken
  rw [matching_choose, isTaken] at chosen
  rcases matchLine_iff.mp chosen.symm with ⟨found, isMethod⟩ | ⟨unfound, found, -⟩
  · exact decide_eq_true ⟨owner, by rw [isTaken, Option.map_some, isMethod]⟩
  · have unconsumed := (amountMatch_spec found).2
    rw [show other.id = invoice.id from sameId] at unconsumed
    exact absurd (numberMatch_none_iff.mp unfound (owner.trans_ne numbered) invoice isOpen (same.trans owner.symm)) unconsumed

theorem takenIds_subset : takenIds number ((matching ledger dateWindowDays).pass consumed lines) ⊆ numberIds ledger number := by
  intro id listed
  obtain ⟨turn, named, isTaken⟩ := List.mem_filterMap.mp listed
  obtain ⟨member, byNumber⟩ := List.mem_filter.mp named
  obtain ⟨-, invoice, isOpen, same, taken⟩ := byNumber_spec member byNumber
  rw [taken, Option.map_some, Option.some.injEq] at isTaken
  exact mem_numberIds.mpr ⟨invoice, isOpen, same, isTaken⟩

end Turns

section Entries

variable {ledger : Ledger} {dateWindowDays : Nat} {lines : List StatementLine} {number : String} {amountTolerance : ℚ}

theorem zip_map_append {α β γ : Type*} (turns : List α) (first : α → β) (second : α → γ) (others : List γ) :
    (turns.map first).zip (turns.map second ++ others) = turns.map fun turn => (first turn, second turn) := by
  induction turns with
  | nil => rfl
  | cons turn turns ih => rw [List.map_cons, List.map_cons, List.cons_append, List.zip_cons_cons, ih, List.map_cons]

theorem entries_eq : entries lines ledger amountTolerance dateWindowDays =
    ((matching ledger dateWindowDays).pass ∅ lines).map fun turn => (turn.1, turn.1.result amountTolerance turn.2) := by
  have sameLines : ((matching ledger dateWindowDays).pass ∅ lines).map Prod.fst = lines := Claimant.pass_map_fst
  have zipped := zip_map_append ((matching ledger dateWindowDays).pass ∅ lines) Prod.fst
    (fun turn => turn.1.result amountTolerance turn.2)
  rw [sameLines] at zipped
  exact zipped _

theorem result_matchMethod (line : StatementLine) (taken : Option (LedgerInvoice × MatchMethod)) :
    (line.result amountTolerance taken).matchMethod = taken.map (·.2) := by
  cases taken <;> rfl

theorem result_matchedInvoiceId (line : StatementLine) (taken : Option (LedgerInvoice × MatchMethod)) :
    (line.result amountTolerance taken).matchedInvoiceId = taken.map (·.1.id) := by
  cases taken <;> rfl

theorem numberMatches_eq : numberMatches (entries lines ledger amountTolerance dateWindowDays) number =
    ((matching ledger dateWindowDays).pass ∅ lines).countP (byNumber number) := by
  rw [numberMatches, entries_eq, List.countP_map]
  refine List.countP_congr fun turn _ => ?_
  simp only [Function.comp_apply, result_matchMethod, byNumber]

/-- Some line of a number goes without where fewer are matched than there are. -/
theorem fewer_iff {turns : List (StatementLine × Option (LedgerInvoice × MatchMethod))} :
    turns.countP (byNumber number) < (turns.countP fun turn => turn.1.number = number) ↔
      ∃ turn ∈ turns, turn.1.number = number ∧ ¬byNumber number turn := by
  have owned : ∀ some_turns : List (StatementLine × Option (LedgerInvoice × MatchMethod)),
      some_turns.countP (byNumber number) ≤ some_turns.countP fun turn => turn.1.number = number :=
    fun some_turns => List.countP_mono_left fun turn _ named => decide_eq_true (of_decide_eq_true named).1
  constructor
  · intro fewer
    by_contra none
    push Not at none
    have all : (turns.countP fun turn => turn.1.number = number) ≤ turns.countP (byNumber number) :=
      List.countP_mono_left fun turn member owner => none turn member (of_decide_eq_true owner)
    omega
  · rintro ⟨turn, member, owner, unmatched⟩
    obtain ⟨before, after, rfl⟩ := List.append_of_mem member
    have earlier := owned before
    have later := owned after
    rw [List.countP_append, List.countP_append, List.countP_cons_of_neg unmatched, List.countP_cons, if_pos (decide_eq_true owner)]
    omega

theorem owners_count : ((matching ledger dateWindowDays).pass ∅ lines).countP (fun turn => turn.1.number = number) =
    lines.countP fun line => line.number = number := by
  have sameLines : ((matching ledger dateWindowDays).pass ∅ lines).map Prod.fst = lines := Claimant.pass_map_fst
  rw [← sameLines, List.countP_map, sameLines]
  exact List.countP_congr fun turn _ => by rw [Function.comp_apply]

/-- Numbers come first where as many lines of each number are matched by it as there can be. -/
theorem numbersFirst_iff : NumbersFirst ledger (entries lines ledger amountTolerance dateWindowDays) ↔
    ∀ number, number ≠ "" → ((matching ledger dateWindowDays).pass ∅ lines).countP (byNumber number) =
      min (lines.countP fun line => line.number = number) (openInvoices ledger ∅ number) := by
  rw [NumbersFirst, entries_eq]
  constructor
  · intro first number numbered
    have atMost : ((matching ledger dateWindowDays).pass ∅ lines).countP (byNumber number) ≤ openInvoices ledger ∅ number := by
      rw [← served_eq numbered]
      exact Draw.served_le _ _
    have owned : ((matching ledger dateWindowDays).pass ∅ lines).countP (byNumber number) ≤
        lines.countP fun line => line.number = number := by
      rw [← owners_count]
      exact List.countP_mono_left fun turn _ named => decide_eq_true (of_decide_eq_true named).1
    rcases owned.eq_or_lt with all | fewer
    · omega
    · rw [← owners_count] at fewer
      obtain ⟨turn, member, owner, unmatched⟩ := fewer_iff.mp fewer
      obtain ⟨before, after, parts⟩ := List.append_of_mem member
      have taken : numberIds ledger number ⊆ takenIds number ((matching ledger dateWindowDays).pass ∅ lines) := by
        intro id isId
        obtain ⟨invoice, isOpen, same, rfl⟩ := mem_numberIds.mp isId
        have split := congrArg (List.map fun turn => (turn.1, turn.1.result amountTolerance turn.2)) parts
        rw [List.map_append, List.map_cons] at split
        have competed := mt (first _ _ _ split (owner.trans_ne numbered) invoice isOpen (same.trans owner.symm)) ?_
        · obtain ⟨other, others, sameNumber, taken⟩ := not_not.mp competed
          rw [← List.map_append] at others
          obtain ⟨rival, isRival, rfl⟩ := List.mem_map.mp others
          have rivalMember : rival ∈ (matching ledger dateWindowDays).pass ∅ lines := by
            rw [parts]
            rcases List.mem_append.mp isRival with earlier | later
            · exact List.mem_append_left _ earlier
            · exact List.mem_append_right _ (List.mem_cons_of_mem turn later)
          rw [result_matchedInvoiceId] at taken
          have rivalNamed := byNumber_of_taken numbered rivalMember (sameNumber.trans owner) isOpen same taken
          exact List.mem_filterMap.mpr ⟨rival, List.mem_filter.mpr ⟨rivalMember, rivalNamed⟩, taken⟩
        · rintro ⟨method, -⟩
          rw [result_matchMethod] at method
          exact unmatched (decide_eq_true ⟨owner, method⟩)
      have reach := (numberIds_nodup.subperm taken).length_le
      rw [takenIds_length, numberIds_length] at reach
      omega
  · intro counts before entry after parts numbered invoice isOpen same alone
    obtain ⟨turnsBefore, rest, whole, isBefore, isRest⟩ := List.map_eq_append_iff.mp parts
    obtain ⟨turn, turnsAfter, isCons, isEntry, isAfter⟩ := List.map_eq_cons_iff.mp isRest
    rw [isCons] at whole
    have member : turn ∈ (matching ledger dateWindowDays).pass ∅ lines := by
      rw [whole]
      exact List.mem_append_right _ List.mem_cons_self
    rw [← isEntry] at numbered same alone ⊢
    have count := counts turn.1.number numbered
    have named : byNumber turn.1.number turn := by
      by_contra unmatched
      have fewer := fewer_iff.mpr ⟨turn, member, rfl, unmatched⟩
      rw [owners_count] at fewer
      have room : (numberIds ledger turn.1.number).length ≤
          (takenIds turn.1.number ((matching ledger dateWindowDays).pass ∅ lines)).length := by
        rw [takenIds_length, numberIds_length]
        omega
      have everything := (takenIds_nodup.subperm takenIds_subset).perm_of_length_le room
      have isTaken := everything.mem_iff.mpr (mem_numberIds.mpr ⟨invoice, isOpen, same, rfl⟩)
      obtain ⟨rival, isNamed, taken⟩ := List.mem_filterMap.mp isTaken
      obtain ⟨isRival, rivalNamed⟩ := List.mem_filter.mp isNamed
      rw [whole] at isRival
      refine alone ⟨(rival.1, rival.1.result amountTolerance rival.2), ?_, (of_decide_eq_true rivalNamed).1, ?_⟩
      · rw [← isBefore, ← isAfter, ← List.map_append]
        refine List.mem_map_of_mem ?_
        rcases List.mem_append.mp isRival with earlier | later
        · exact List.mem_append_left _ earlier
        · rcases List.mem_cons.mp later with rfl | later
          · exact absurd rivalNamed unmatched
          · exact List.mem_append_right _ later
      · rw [result_matchedInvoiceId, taken]
    obtain ⟨-, taken, isOpen, same, isTaken⟩ := byNumber_spec member named
    refine ⟨?_, taken, isOpen, same, ?_⟩
    · rw [result_matchMethod, isTaken, Option.map_some]
    · rw [result_matchedInvoiceId, isTaken, Option.map_some]

theorem fallbackSpares_iff_counts : FallbackSpares ledger dateWindowDays ∅ lines ↔
    ∀ number, number ≠ "" → ((matching ledger dateWindowDays).pass ∅ lines).countP (byNumber number) =
      min (lines.countP fun line => line.number = number) (openInvoices ledger ∅ number) := by
  rw [fallbackSpares_iff]
  refine forall₂_congr fun number numbered => ?_
  rw [Draw.spared_iff, served_eq numbered, owners_eq]

end Entries

def oneInvoice : Ledger where
  invoices := [⟨1, "INV-2", 100, none⟩]
  distinct := by decide

end Payables.Statements
