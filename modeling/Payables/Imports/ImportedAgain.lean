import Payables.Imports.RowsApart

namespace Payables.CsvImport
open Lib

section Again

variable (readings : Readings) (tables : Tables)

/-- The tables after an import. An error rolls its writes back. -/
def afterImport (csv : Except String (List Row)) : Tables :=
  match importInvoicesCsv readings tables csv with
  | .ok result => result.1
  | .error _ => tables

/-- A second import of a file leaves the vendors and the invoices of the first. -/
structure ImportsNothingAgain (csv : Except String (List Row)) : Prop where
  vendors : (afterImport readings (afterImport readings tables csv) csv).vendors = (afterImport readings tables csv).vendors
  invoices : (afterImport readings (afterImport readings tables csv) csv).invoices = (afterImport readings tables csv).invoices

/-- A row that is not refused at once has its vendor and, where its status can be imported, its invoice. -/
def Settled (row : Row) : Prop :=
  row.refusal = none → ∃ vendor, found readings tables row.name row.code = some vendor ∧
    (row.statusRefusal readings = none → withNumber tables vendor row.number ≠ [])

/-- A row whose vendor can be another one later: one that has an unknown code and is found by its name, or one without a
code that creates a vendor under a name of which Python and the database disagree about the case. -/
def Unsteady (row : Row) : Prop :=
  match row.code with
  | some code => withCode tables code = [] ∧ row.name ≠ "" ∧ withName readings tables row.name ≠ []
  | none => withName readings tables row.name = [] ∧ readings.sqlLower row.name ≠ readings.lower row.name

end Again

/-- Later tables have the vendors and the invoices of earlier ones first. -/
structure Extends (earlier later : Tables) : Prop where
  vendors : earlier.vendors <+: later.vendors
  invoices : earlier.invoices <+: later.invoices

namespace Extends

variable {readings : Readings} {first second third : Tables}

theorem refl : Extends first first := ⟨List.prefix_refl _, List.prefix_refl _⟩

theorem trans (earlier : Extends first second) (later : Extends second third) : Extends first third :=
  ⟨earlier.vendors.trans later.vendors, earlier.invoices.trans later.invoices⟩

theorem head_of_prefix {ρ : Type} {earlier later : List ρ} {row : ρ} (start : earlier <+: later)
    (here : earlier.head? = some row) : later.head? = some row := by
  obtain ⟨rest, rfl⟩ := start
  cases earlier with
  | nil => cases here
  | cons row earlier => exact here

theorem withCode_head {code : String} {vendor : Vendor} (grown : Extends first second)
    (here : (withCode first code).head? = some vendor) : (withCode second code).head? = some vendor :=
  head_of_prefix (grown.vendors.filter _) here

theorem withName_head {name : String} {vendor : Vendor} (grown : Extends first second)
    (here : (withName readings first name).head? = some vendor) : (withName readings second name).head? = some vendor :=
  head_of_prefix (grown.vendors.filter _) here

theorem withNumber_ne_nil {vendor : Vendor} {number : String} (grown : Extends first second)
    (here : withNumber first vendor number ≠ []) : withNumber second vendor number ≠ [] := by
  intro none
  exact here (List.prefix_nil.mp (none ▸ grown.invoices.filter _))

end Extends

section Growth

variable {readings : Readings} {tables : Tables}

theorem extends_entered {row : Row} {vendor : Vendor} : Extends tables (entered readings tables row vendor).1 := by
  rw [entered]
  cases row.statusRefusal readings with
  | some message => exact .refl
  | none =>
    by_cases unknown : withNumber tables vendor row.number = []
    · simp only [unknown, if_true]
      exact ⟨List.prefix_refl _, List.prefix_append _ _⟩
    · simp only [unknown, if_false]
      exact .refl

theorem extends_resolved {name : String} {code : Option String} : Extends tables (resolved readings tables name code).1 := by
  cases known : found readings tables name code with
  | some vendor =>
    rw [resolved_of_found known]
    exact .refl
  | none =>
    rw [resolved_of_new known]
    exact ⟨List.prefix_append _ _, List.prefix_refl _⟩

theorem gone_valid {row : Row} (valid : row.refusal = none) : gone readings tables row =
    entered readings (resolved readings tables row.name row.code).1 row (resolved readings tables row.name row.code).2 := by
  rw [gone, valid]

theorem extends_gone {row : Row} : Extends tables (gone readings tables row).1 := by
  cases valid : row.refusal with
  | some message =>
    rw [gone, valid]
    exact .refl
  | none =>
    rw [gone_valid valid]
    exact extends_resolved.trans extends_entered

theorem extends_importRows {rows : List Row} {reached : Tables × List Outcome}
    (ran : importRows readings tables rows = .ok reached) : Extends tables reached.1 := by
  induction rows generalizing tables reached with
  | nil =>
    cases Except.ok.inj ran
    exact .refl
  | cons row rest ih =>
    obtain ⟨went, ok, others, later, rfl⟩ := importRows_cons.mp ran
    obtain ⟨-, rfl⟩ := importRow_eq_ok.mp ok
    have after : Extends (gone readings tables row).1 others.1 := ih later
    exact extends_gone.trans after

/-- What a row leaves holds an invoice of its vendor and number, unless its status refuses it. -/
theorem withNumber_entered {row : Row} {vendor : Vendor} (importable : row.statusRefusal readings = none) :
    withNumber (entered readings tables row vendor).1 vendor row.number ≠ [] := by
  rw [entered, importable]
  by_cases unknown : withNumber tables vendor row.number = []
  · simp only [unknown, if_true]
    exact List.ne_nil_of_mem (List.mem_filter.mpr ⟨List.mem_append_right _ (List.mem_singleton_self _), decide_eq_true ⟨rfl, rfl⟩⟩)
  · rw [if_neg unknown]
    exact unknown

/-- A settled row leaves everything as it was. -/
theorem gone_of_settled {row : Row} (settled : Settled readings tables row) : (gone readings tables row).1 = tables := by
  cases valid : row.refusal with
  | some message => rw [gone, valid]
  | none =>
    obtain ⟨vendor, known, stored⟩ := settled valid
    rw [gone_valid valid, resolved_of_found known, entered]
    cases importable : row.statusRefusal readings with
    | some message => rfl
    | none => rw [if_neg (stored importable)]

/-- A row that adds no vendor and no invoice is settled. -/
theorem settled_of_gone {row : Row}
    (vendors : (gone readings tables row).1.vendors.length = tables.vendors.length)
    (invoices : (gone readings tables row).1.invoices.length = tables.invoices.length) : Settled readings tables row := by
  intro valid
  rw [gone_valid valid] at vendors invoices
  cases known : found readings tables row.name row.code with
  | none =>
    have grown : Extends (resolved readings tables row.name row.code).1 (entered readings
        (resolved readings tables row.name row.code).1 row (resolved readings tables row.name row.code).2).1 := extends_entered
    have minted := grown.vendors.length_le
    rw [vendors, resolved_of_new known, List.length_append, List.length_singleton] at minted
    omega
  | some vendor =>
    refine ⟨vendor, rfl, fun importable unknown => ?_⟩
    rw [resolved_of_found known, entered, importable, if_pos unknown, List.length_append, List.length_singleton] at invoices
    exact Nat.succ_ne_self _ invoices

end Growth

section Steady

variable {readings : Readings} {tables final : Tables}

theorem withCode_append {code : String} {vendors : List Vendor} {audits : List AuditRow} :
    withCode { tables with vendors := tables.vendors ++ vendors, audits := audits } code =
      withCode tables code ++ vendors.filter fun vendor => vendor.code = some code := List.filter_append ..

theorem withName_append {name : String} {vendors : List Vendor} {audits : List AuditRow} :
    withName readings { tables with vendors := tables.vendors ++ vendors, audits := audits } name =
      withName readings tables name ++ vendors.filter fun vendor => readings.sqlLower vendor.name = readings.lower name :=
  List.filter_append ..

theorem found_none {name : String} {code : Option String} : found readings tables name code = none ↔
    (∀ c ∈ code, withCode tables c = []) ∧ (name ≠ "" → withName readings tables name = []) := by
  rw [found, Option.or_eq_none_iff]
  refine and_congr ?_ ?_
  · cases code with
    | none => exact ⟨fun _ c named => absurd named (Option.not_mem_none c), fun _ => rfl⟩
    | some c =>
      rw [Option.bind_some, List.head?_eq_none_iff]
      exact ⟨fun none d named => Option.some.inj named ▸ none, fun none => none c rfl⟩
  · by_cases blank : name = ""
    · rw [if_pos blank]
      exact ⟨fun _ given => absurd blank given, fun _ => rfl⟩
    · rw [if_neg blank, List.head?_eq_none_iff]
      exact ⟨fun none _ => none, fun none => none blank⟩

/-- A steady row finds its vendor again. -/
theorem found_again {row : Row} (valid : row.refusal = none) (steady : ¬Unsteady readings tables row)
    (grown : Extends (resolved readings tables row.name row.code).1 final) :
    found readings final row.name row.code = some (resolved readings tables row.name row.code).2 := by
  have before : Extends tables final := extends_resolved.trans grown
  rw [Unsteady] at steady
  cases coded : row.code with
  | some code =>
    simp only [coded] at steady grown ⊢
    cases byCode : withCode tables code with
    | cons vendor rest =>
      have here : (withCode tables code).head? = some vendor := by rw [byCode, List.head?_cons]
      have known : found readings tables row.name (some code) = some vendor := by
        rw [found, Option.bind_some, here, Option.some_or]
      rw [resolved_of_found known, found, Option.bind_some, before.withCode_head here, Option.some_or]
    | nil =>
      have unnamed : row.name ≠ "" → withName readings tables row.name = [] := by
        intro named
        by_contra known
        exact steady ⟨byCode, named, known⟩
      have unknown : found readings tables row.name (some code) = none :=
        found_none.mpr ⟨fun c same => Option.some.inj same ▸ byCode, unnamed⟩
      rw [resolved_of_new unknown] at grown ⊢
      have held : [stub tables row.name (some code)].filter (fun vendor => vendor.code = some code) =
          [stub tables row.name (some code)] := List.filter_cons_of_pos (decide_eq_true rfl)
      have minted := grown.withCode_head (by rw [withCode_append, byCode, List.nil_append, held, List.head?_cons])
      rw [found, Option.bind_some, minted, Option.some_or]
  | none =>
    simp only [coded] at steady grown ⊢
    have named : row.name ≠ "" := by
      intro blank
      rw [Row.refusal] at valid
      split at valid
      · cases valid
      · rw [if_pos ⟨blank, coded⟩] at valid
        cases valid
    cases byName : withName readings tables row.name with
    | cons vendor rest =>
      have here : (withName readings tables row.name).head? = some vendor := by rw [byName, List.head?_cons]
      have known : found readings tables row.name none = some vendor := by
        rw [found, Option.bind_none, Option.none_or, if_neg named, here]
      rw [resolved_of_found known, found, Option.bind_none, Option.none_or, if_neg named, before.withName_head here]
    | nil =>
      have alike : readings.sqlLower row.name = readings.lower row.name := by
        by_contra differ
        exact steady ⟨byName, differ⟩
      have unknown : found readings tables row.name none = none :=
        found_none.mpr ⟨fun c same => absurd same (Option.not_mem_none c), fun _ => byName⟩
      rw [resolved_of_new unknown] at grown ⊢
      have called : (stub tables row.name none).name = row.name := if_neg named
      have held : [stub tables row.name none].filter (fun vendor => readings.sqlLower vendor.name = readings.lower row.name) =
          [stub tables row.name none] := List.filter_cons_of_pos (decide_eq_true (called.symm ▸ alike))
      have minted := grown.withName_head (by rw [withName_append, byName, List.nil_append, held, List.head?_cons])
      rw [found, Option.bind_none, Option.none_or, if_neg named, minted]

/-- A steady row is settled in all tables that follow. -/
theorem settled_of_steady {row : Row} (steady : ¬Unsteady readings tables row)
    (grown : Extends (gone readings tables row).1 final) : Settled readings final row := by
  intro valid
  rw [gone_valid valid] at grown
  refine ⟨_, found_again valid steady (extends_entered.trans grown), fun importable => ?_⟩
  exact grown.withNumber_ne_nil (withNumber_entered importable)

end Steady

section Files

variable {readings : Readings} {tables : Tables} {rows : List Row}

theorem afterImport_of_ok {final : Tables × List Outcome} (ran : importRows readings tables rows = .ok final) :
    (afterImport readings tables (.ok rows)).vendors = final.1.vendors ∧
      (afterImport readings tables (.ok rows)).invoices = final.1.invoices := by
  rw [afterImport, importInvoicesCsv, ran]
  exact ⟨rfl, rfl⟩

theorem afterImport_of_error (raises : ¬RowsGoThrough readings tables rows) : afterImport readings tables (.ok rows) = tables := by
  rw [afterImport]
  cases ended : importInvoicesCsv readings tables (.ok rows) with
  | error raised => rfl
  | ok result =>
    obtain ⟨final, ran, -⟩ := bind_eq_ok.mp ended
    exact absurd (importRows_returns_iff.mp ⟨final, ran⟩) raises

/-- The rows of a file leave the vendors and the invoices as they are exactly when each of them is settled. -/
theorem unchanged_iff {final : Tables × List Outcome} (ran : importRows readings tables rows = .ok final) :
    final.1.vendors = tables.vendors ∧ final.1.invoices = tables.invoices ↔ ∀ row ∈ rows, Settled readings tables row := by
  induction rows generalizing tables final with
  | nil =>
    cases Except.ok.inj ran
    exact ⟨fun _ row member => absurd member List.not_mem_nil, fun _ => ⟨rfl, rfl⟩⟩
  | cons row rest ih =>
    obtain ⟨went, ok, others, later, rfl⟩ := importRows_cons.mp ran
    obtain ⟨-, rfl⟩ := importRow_eq_ok.mp ok
    constructor
    · rintro ⟨vendors, invoices⟩
      have step : Extends tables (gone readings tables row).1 := extends_gone
      have run := extends_importRows later
      have vendorsLe := run.vendors.length_le
      have invoicesLe := run.invoices.length_le
      rw [vendors] at vendorsLe
      rw [invoices] at invoicesLe
      have settled : Settled readings tables row := settled_of_gone (vendorsLe.antisymm step.vendors.length_le)
        (invoicesLe.antisymm step.invoices.length_le)
      rw [gone_of_settled settled] at later
      exact List.forall_mem_cons.mpr ⟨settled, (ih later).mp ⟨vendors, invoices⟩⟩
    · intro settled
      obtain ⟨first, remaining⟩ := List.forall_mem_cons.mp settled
      rw [gone_of_settled first] at later
      exact (ih later).mpr remaining

theorem importsNothingAgain_iff_settled : ImportsNothingAgain readings tables (.ok rows) ↔
    (RowsGoThrough readings (afterImport readings tables (.ok rows)) rows →
      ∀ row ∈ rows, Settled readings (afterImport readings tables (.ok rows)) row) := by
  by_cases goes : RowsGoThrough readings (afterImport readings tables (.ok rows)) rows
  · obtain ⟨final, ran⟩ := importRows_returns_iff.mpr goes
    obtain ⟨vendors, invoices⟩ := afterImport_of_ok ran
    rw [← unchanged_iff ran, ← vendors, ← invoices]
    exact ⟨fun same _ => ⟨same.vendors, same.invoices⟩, fun same => ⟨(same goes).1, (same goes).2⟩⟩
  · have stays := afterImport_of_error goes
    exact ⟨fun _ again => absurd again goes, fun _ => ⟨congrArg Tables.vendors stays, congrArg Tables.invoices stays⟩⟩

/-- Every row of a file that was imported has had its turn, and its tables grow into the final ones. -/
theorem importRows_split {before rest : List Row} {row : Row} {final : Tables × List Outcome}
    (ran : importRows readings tables (before ++ row :: rest) = .ok final) :
    ∃ reached, importRows readings tables before = .ok reached ∧ Extends (gone readings reached.1 row).1 final.1 := by
  induction before generalizing tables final with
  | nil =>
    obtain ⟨went, ok, others, later, rfl⟩ := importRows_cons.mp ran
    obtain ⟨-, rfl⟩ := importRow_eq_ok.mp ok
    have grown : Extends (gone readings tables row).1 others.1 := extends_importRows later
    exact ⟨(tables, []), rfl, grown⟩
  | cons first before ih =>
    obtain ⟨went, ok, others, later, rfl⟩ := importRows_cons.mp ran
    obtain ⟨reached, prior, grown⟩ := ih later
    exact ⟨(reached.1, went.2 :: reached.2), importRows_cons.mpr ⟨went, ok, reached, prior, rfl⟩, grown⟩

section Conflict

def plainReadings : Readings := ⟨id, id, id, fun _ => none⟩

def codedRow (number name : String) : Row :=
  ⟨some number, some name, some "A1", some "10", none, none, none, none, none, none, none, none⟩

def acme : Vendor := ⟨0, "Acme", none⟩

def beta : Vendor := ⟨1, "Beta", some "A1"⟩

def ofAcme : Invoice := (codedRow "1" "Acme").invoice plainReadings 0 acme

def ofBeta : Invoice := (codedRow "3" "Beta").invoice plainReadings 1 beta

def laterOfBeta : Invoice := (codedRow "1" "Acme").invoice plainReadings 2 beta

theorem importRow_codedRow {tables : Tables} {number name : String} {resolved : Tables × Vendor} {went : Tables × Outcome}
    (given : (codedRow number name).number ≠ "" ∧ (codedRow number name).name ≠ "")
    (found : resolveOrCreateVendor plainReadings tables (codedRow number name).name (codedRow number name).code = .ok resolved)
    (left : importFor plainReadings (codedRow number name) resolved.1 resolved.2 = .ok went) :
    importRow plainReadings tables (codedRow number name) = .ok went := by
  rw [importRow, refusal_of_ten given.1 given.2 rfl]
  exact bind_eq_ok.mpr ⟨resolved, found, left⟩

theorem importFor_new {readings : Readings} {tables : Tables} {row : Row} {vendor : Vendor} {invoice : Invoice}
    (importable : row.statusRefusal readings = none)
    (unknown : queryOne row.number (withNumber tables vendor row.number) = .ok none)
    (made : row.invoice readings (freshId (tables.invoices.map (·.id))) vendor = invoice) (storable : invoice.storable = true) :
    importFor readings row tables vendor =
      .ok ({ tables with invoices := tables.invoices ++ [invoice] }, .imported invoice.id) := by
  rw [importFor, importable]
  exact bind_eq_ok.mpr ⟨none, unknown, by simp only [made, storable, if_true]⟩

def conflict : List Row := [codedRow "1" "Acme", codedRow "3" "Beta"]

def conflictAudits : List AuditRow :=
  [⟨"vendor.imported_csv", 1⟩, ⟨"invoice.imported_csv", 0⟩, ⟨"invoice.imported_csv", 1⟩]

theorem conflict_first : importRows plainReadings ⟨[acme], [], []⟩ conflict =
    .ok (⟨[acme, beta], [ofAcme, ofBeta], [⟨"vendor.imported_csv", 1⟩]⟩, [.imported 0, .imported 1]) := by
  have named : resolveOrCreateVendor plainReadings ⟨[acme], [], []⟩ (codedRow "1" "Acme").name (codedRow "1" "Acme").code =
      .ok (⟨[acme], [], []⟩, acme) := by rfl
  have acmeEntered : importFor plainReadings (codedRow "1" "Acme") ⟨[acme], [], []⟩ acme =
      .ok (⟨[acme], [ofAcme], []⟩, .imported 0) := importFor_new (by decide) (by rfl) (by rfl) (by decide)
  have minted : resolveOrCreateVendor plainReadings ⟨[acme], [ofAcme], []⟩ (codedRow "3" "Beta").name
      (codedRow "3" "Beta").code = .ok (⟨[acme, beta], [ofAcme], [⟨"vendor.imported_csv", 1⟩]⟩, beta) := by rfl
  have betaEntered : importFor plainReadings (codedRow "3" "Beta") ⟨[acme, beta], [ofAcme], [⟨"vendor.imported_csv", 1⟩]⟩ beta =
      .ok (⟨[acme, beta], [ofAcme, ofBeta], [⟨"vendor.imported_csv", 1⟩]⟩, .imported 1) :=
    importFor_new (by decide) (by rfl) (by rfl) (by decide)
  have one := importRow_codedRow (by decide) named acmeEntered
  have two := importRow_codedRow (by decide) minted betaEntered
  exact importRows_cons.mpr ⟨_, one, _, importRows_cons.mpr ⟨_, two, _, rfl, rfl⟩, rfl⟩

theorem conflict_second : importRows plainReadings ⟨[acme, beta], [ofAcme, ofBeta], conflictAudits⟩ conflict =
    .ok (⟨[acme, beta], [ofAcme, ofBeta, laterOfBeta], conflictAudits⟩, [.imported 2, .skipped]) := by
  have coded : resolveOrCreateVendor plainReadings ⟨[acme, beta], [ofAcme, ofBeta], conflictAudits⟩ (codedRow "1" "Acme").name
      (codedRow "1" "Acme").code = .ok (⟨[acme, beta], [ofAcme, ofBeta], conflictAudits⟩, beta) := by rfl
  have entered : importFor plainReadings (codedRow "1" "Acme") ⟨[acme, beta], [ofAcme, ofBeta], conflictAudits⟩ beta =
      .ok (⟨[acme, beta], [ofAcme, ofBeta, laterOfBeta], conflictAudits⟩, .imported 2) :=
    importFor_new (by decide) (by rfl) (by rfl) (by decide)
  have again : resolveOrCreateVendor plainReadings ⟨[acme, beta], [ofAcme, ofBeta, laterOfBeta], conflictAudits⟩
      (codedRow "3" "Beta").name (codedRow "3" "Beta").code =
      .ok (⟨[acme, beta], [ofAcme, ofBeta, laterOfBeta], conflictAudits⟩, beta) := by rfl
  have skipped : importFor plainReadings (codedRow "3" "Beta") ⟨[acme, beta], [ofAcme, ofBeta, laterOfBeta], conflictAudits⟩ beta =
      .ok (⟨[acme, beta], [ofAcme, ofBeta, laterOfBeta], conflictAudits⟩, .skipped) := by rfl
  have one := importRow_codedRow (by decide) coded entered
  have two := importRow_codedRow (by decide) again skipped
  exact importRows_cons.mpr ⟨_, one, _, importRows_cons.mpr ⟨_, two, _, rfl, rfl⟩, rfl⟩

end Conflict

end Files

end Payables.CsvImport
