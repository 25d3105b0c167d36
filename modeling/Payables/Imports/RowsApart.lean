import Payables.Imports.Csv

namespace Payables.CsvImport
open Lib

section Reads

variable (readings : Readings) (tables : Tables)

/-- The stored vendor that a row names. -/
def found (name : String) (code : Option String) : Option Vendor :=
  (code.bind fun code => (withCode tables code).head?).or (if name = "" then none else (withName readings tables name).head?)

/-- The tables and the vendor that a row goes on with. -/
def resolved (name : String) (code : Option String) : Tables × Vendor :=
  match found readings tables name code with
  | some vendor => (tables, vendor)
  | none => ({ tables with
      vendors := tables.vendors ++ [stub tables name code]
      audits := tables.audits ++ [⟨"vendor.imported_csv", (stub tables name code).id⟩] }, stub tables name code)

/-- A vendor is looked up without an error: each query finds one row at most, and a new vendor can be stored. -/
structure Unambiguous (name : String) (code : Option String) : Prop where
  codes : ∀ c ∈ code, fits none c = true ∧ (withCode tables c).length ≤ 1
  names : (∀ c ∈ code, withCode tables c = []) → name ≠ "" →
    fits none (readings.lower name) = true ∧ (withName readings tables name).length ≤ 1
  stub : found readings tables name code = none → (stub tables name code).storable = true

/-- A row is entered for its vendor without an error. -/
structure Enterable (row : Row) (vendor : Vendor) : Prop where
  number : row.statusRefusal readings = none →
    fits none row.number = true ∧ (withNumber tables vendor row.number).length ≤ 1
  invoice : row.statusRefusal readings = none → withNumber tables vendor row.number = [] →
    (row.invoice readings (freshId (tables.invoices.map (·.id))) vendor).storable = true

/-- What a row of a vendor leaves and reports. -/
def entered (row : Row) (vendor : Vendor) : Tables × Outcome :=
  let invoice := row.invoice readings (freshId (tables.invoices.map (·.id))) vendor
  match row.statusRefusal readings with
  | some message => (tables, .failed message)
  | none =>
    if withNumber tables vendor row.number = [] then
      ({ tables with invoices := tables.invoices ++ [invoice] }, .imported invoice.id)
    else (tables, .skipped)

/-- What a row leaves and reports. -/
def gone (row : Row) : Tables × Outcome :=
  match row.refusal with
  | some message => (tables, .failed message)
  | none =>
    let resolved := resolved readings tables row.name row.code
    entered readings resolved.1 row resolved.2

example {row : Row} {message : String} (refused : row.refusal = some message) :
    gone readings tables row = (tables, .failed message) := by
  rw [gone, refused]

/-- A row goes through without an error. -/
structure GoesThrough (row : Row) : Prop where
  vendor : row.refusal = none → Unambiguous readings tables row.name row.code
  entry : row.refusal = none → Enterable readings (resolved readings tables row.name row.code).1 row
    (resolved readings tables row.name row.code).2

/-- A row goes through without an error, and is not refused for its status once it has created its vendor. -/
structure SafeRow (row : Row) : Prop extends GoesThrough readings tables row where
  importable : row.refusal = none → found readings tables row.name row.code = none → row.statusRefusal readings = none

/-- Every row goes through at its turn. -/
def RowsGoThrough : Tables → List Row → Prop
  | _, [] => True
  | tables, row :: rest => GoesThrough readings tables row ∧ RowsGoThrough (gone readings tables row).1 rest

/-- Every row is safe at its turn. -/
def SafeRows : Tables → List Row → Prop
  | _, [] => True
  | tables, row :: rest => SafeRow readings tables row ∧ SafeRows (gone readings tables row).1 rest

/-- The import returns, and each row, at the tables that the rows before it leave, goes through and writes nothing
unless it is imported. -/
structure AtomicImport (csv : Except String (List Row)) : Prop where
  returns : ∃ result, importInvoicesCsv readings tables csv = .ok result
  apart : ∀ before row rest, csv = .ok (before ++ row :: rest) → ∀ reached, importRows readings tables before = .ok reached →
    ∃ went, importRow readings reached.1 row = .ok went ∧ (went.2.importedId = none → went.1 = reached.1)

end Reads

section Queries

variable {readings : Readings} {tables : Tables}

theorem queryOne_eq_ok {ρ : Type} {text : String} {rows : List ρ} {result : Option ρ} :
    queryOne text rows = .ok result ↔ (fits none text = true ∧ rows.length ≤ 1) ∧ result = rows.head? := by
  rw [queryOne]
  by_cases sent : fits none text = true
  · rw [if_pos sent]
    cases rows with
    | nil => simp [scalarOneOrNone, sent, eq_comm]
    | cons row rest => cases rest with
      | nil => simp [scalarOneOrNone, sent, eq_comm]
      | cons other rest => simp [scalarOneOrNone]
  · rw [if_neg sent]
    simp [sent]

theorem withCode_head {code : Option String} (none : (code.bind fun code => (withCode tables code).head?) = none) :
    ∀ c ∈ code, withCode tables c = [] := by
  rintro c rfl
  exact List.head?_eq_none_iff.mp none

theorem queryCode_eq_ok {code : Option String} {result : Option Vendor} :
    queryCode tables code = .ok result ↔
      (∀ c ∈ code, fits none c = true ∧ (withCode tables c).length ≤ 1) ∧
        result = code.bind fun code => (withCode tables code).head? := by
  rw [queryCode]
  cases code with
  | none =>
    have unread : ∀ c ∈ (none : Option String), fits none c = true ∧ (withCode tables c).length ≤ 1 :=
      fun _ named => absurd named (Option.not_mem_none _)
    exact ⟨fun ok => ⟨unread, (Except.ok.inj ok).symm⟩, fun read => congrArg Except.ok read.2.symm⟩
  | some c =>
    have here : (∀ d ∈ some c, fits none d = true ∧ (withCode tables d).length ≤ 1) ↔
        fits none c = true ∧ (withCode tables c).length ≤ 1 :=
      ⟨fun all => all c rfl, fun one d named => Option.some.inj named ▸ one⟩
    rw [here]
    exact queryOne_eq_ok

theorem queryName_eq_ok {name : String} {result : Option Vendor} :
    queryName readings tables name = .ok result ↔
      (name ≠ "" → fits none (readings.lower name) = true ∧ (withName readings tables name).length ≤ 1) ∧
        result = if name = "" then none else (withName readings tables name).head? := by
  rw [queryName]
  by_cases blank : name = ""
  · rw [if_pos blank, if_pos blank]
    exact ⟨fun ok => ⟨fun given => absurd blank given, (Except.ok.inj ok).symm⟩, fun read => congrArg Except.ok read.2.symm⟩
  · rw [if_neg blank, if_neg blank, queryOne_eq_ok]
    exact ⟨fun read => ⟨fun _ => read.1, read.2⟩, fun read => ⟨read.1 blank, read.2⟩⟩

theorem mint_eq_ok {name : String} {code : Option String} {result : Tables × Vendor} :
    mint tables name code = .ok result ↔ (stub tables name code).storable = true ∧ result =
      ({ tables with
        vendors := tables.vendors ++ [stub tables name code]
        audits := tables.audits ++ [⟨"vendor.imported_csv", (stub tables name code).id⟩] }, stub tables name code) := by
  rw [mint]
  by_cases storable : (stub tables name code).storable = true
  · simp only [storable, if_true, true_and]
    exact ⟨fun ok => (Except.ok.inj ok).symm, fun same => congrArg Except.ok same.symm⟩
  · simp only [storable, if_false, false_and, reduceCtorEq, Bool.false_eq_true]

theorem resolveOrCreateVendor_eq_ok {name : String} {code : Option String} {result : Tables × Vendor} :
    resolveOrCreateVendor readings tables name code = .ok result ↔
      Unambiguous readings tables name code ∧ result = resolved readings tables name code := by
  rw [resolveOrCreateVendor, bind_eq_ok]
  simp only [queryCode_eq_ok]
  cases byCode : code.bind fun code => (withCode tables code).head? with
  | some vendor =>
    have first : found readings tables name code = some vendor := by rw [found, byCode, Option.some_or]
    have coded : ¬∀ c ∈ code, withCode tables c = [] := by
      intro none
      cases code with
      | none => cases byCode
      | some c =>
        have empty := none c rfl
        rw [Option.bind_some, empty] at byCode
        cases byCode
    have stays : resolved readings tables name code = (tables, vendor) := by rw [resolved, first]
    rw [stays]
    constructor
    · rintro ⟨read, ⟨sent, rfl⟩, ok⟩
      exact ⟨⟨sent, fun none => absurd none coded, fun none => absurd (first.symm.trans none) (Option.some_ne_none _)⟩,
        (Except.ok.inj ok).symm⟩
    · rintro ⟨clear, rfl⟩
      exact ⟨some vendor, ⟨clear.codes, rfl⟩, rfl⟩
  | none =>
    have uncoded := withCode_head byCode
    have first : found readings tables name code = if name = "" then none else (withName readings tables name).head? := by
      rw [found, byCode, Option.none_or]
    constructor
    · rintro ⟨read, ⟨sent, rfl⟩, ok⟩
      simp only [bind_eq_ok, queryName_eq_ok] at ok
      obtain ⟨byName, ⟨named, same⟩, ok⟩ := ok
      rw [← first] at same
      cases known : found readings tables name code with
      | some vendor =>
        rw [known] at same
        subst same
        have stays : resolved readings tables name code = (tables, vendor) := by rw [resolved, known]
        exact ⟨⟨sent, fun _ => named, fun none => absurd (known.symm.trans none) (Option.some_ne_none _)⟩,
          stays ▸ (Except.ok.inj ok).symm⟩
      | none =>
        rw [known] at same
        subst same
        have minted := (mint_eq_ok).mp ok
        exact ⟨⟨sent, fun _ => named, fun _ => minted.1⟩, by rw [resolved, known]; exact minted.2⟩
    · rintro ⟨clear, rfl⟩
      refine ⟨none, ⟨clear.codes, rfl⟩, ?_⟩
      simp only [bind_eq_ok, queryName_eq_ok]
      refine ⟨found readings tables name code, ⟨clear.names uncoded, first⟩, ?_⟩
      cases known : found readings tables name code with
      | some vendor => simp only [resolved, known]
      | none =>
        simp only [resolved, known]
        exact (mint_eq_ok).mpr ⟨clear.stub known, rfl⟩

theorem importFor_eq_ok {row : Row} {vendor : Vendor} {result : Tables × Outcome} :
    importFor readings row tables vendor = .ok result ↔
      Enterable readings tables row vendor ∧ result = entered readings tables row vendor := by
  rw [importFor, entered]
  cases refused : row.statusRefusal readings with
  | some message =>
    have free : Enterable readings tables row vendor :=
      ⟨fun none => absurd (refused.symm.trans none) (Option.some_ne_none _), fun none => absurd (refused.symm.trans none) (Option.some_ne_none _)⟩
    simp [free, eq_comm]
  | none =>
    simp only [bind_eq_ok, queryOne_eq_ok]
    cases stored : withNumber tables vendor row.number with
    | cons invoice rest =>
      simp only [List.head?_cons, reduceCtorEq, if_false]
      constructor
      · rintro ⟨existing, ⟨sent, rfl⟩, ok⟩
        refine ⟨⟨fun _ => stored ▸ sent, fun _ none => absurd (stored.symm.trans none) (List.cons_ne_nil _ _)⟩, (Except.ok.inj ok).symm⟩
      · rintro ⟨enterable, rfl⟩
        exact ⟨some invoice, ⟨stored ▸ enterable.number refused, rfl⟩, rfl⟩
    | nil =>
      simp only [List.head?_nil, if_true]
      constructor
      · rintro ⟨existing, ⟨sent, rfl⟩, ok⟩
        simp only at ok
        split at ok
        next storable => exact ⟨⟨fun _ => stored ▸ sent, fun _ _ => storable⟩, (Except.ok.inj ok).symm⟩
        next => cases ok
      · rintro ⟨enterable, rfl⟩
        exact ⟨none, ⟨stored ▸ enterable.number refused, rfl⟩, if_pos (enterable.invoice refused stored)⟩

end Queries

section Rows

variable {readings : Readings} {tables : Tables}

theorem lt_freshId {id : Nat} {used : List Nat} (member : id ∈ used) : id < freshId used := by
  induction used with
  | nil => cases member
  | cons other rest ih =>
    have here : freshId (other :: rest) = max (other + 1) (freshId rest) := rfl
    rcases List.mem_cons.mp member with rfl | later
    · omega
    · have := ih later
      omega

/-- A new vendor has no invoices. -/
theorem withNumber_stub {name number : String} {code : Option String} {vendors : List Vendor} {audits : List AuditRow} :
    withNumber { tables with vendors := vendors, audits := audits } (stub tables name code) number = [] := by
  rw [withNumber, List.filter_eq_nil_iff]
  intro invoice stored same
  have owned := (of_decide_eq_true same).1
  have used : invoice.vendorId ∈ tables.vendors.map (·.id) ++ tables.invoices.map (·.vendorId) :=
    List.mem_append_right _ (List.mem_map_of_mem stored)
  have below := lt_freshId used
  have fresh : (stub tables name code).id = freshId (tables.vendors.map (·.id) ++ tables.invoices.map (·.vendorId)) := rfl
  omega

theorem importRow_eq_ok {row : Row} {result : Tables × Outcome} :
    importRow readings tables row = .ok result ↔ GoesThrough readings tables row ∧ result = gone readings tables row := by
  rw [importRow, gone]
  cases refused : row.refusal with
  | some message =>
    have free : GoesThrough readings tables row :=
      ⟨fun none => absurd (refused.symm.trans none) (Option.some_ne_none _),
        fun none => absurd (refused.symm.trans none) (Option.some_ne_none _)⟩
    exact ⟨fun ok => ⟨free, (Except.ok.inj ok).symm⟩, fun went => congrArg Except.ok went.2.symm⟩
  | none =>
    simp only [bind_eq_ok, resolveOrCreateVendor_eq_ok]
    constructor
    · rintro ⟨vendor, ⟨clear, rfl⟩, ok⟩
      obtain ⟨entry, left⟩ := (importFor_eq_ok).mp ok
      exact ⟨⟨fun _ => clear, fun _ => entry⟩, left⟩
    · rintro ⟨goes, rfl⟩
      exact ⟨_, ⟨goes.vendor refused, rfl⟩, (importFor_eq_ok).mpr ⟨goes.entry refused, rfl⟩⟩

theorem entered_apart {row : Row} {vendor : Vendor} (unimported : (entered readings tables row vendor).2.importedId = none) :
    (entered readings tables row vendor).1 = tables := by
  rw [entered] at unimported ⊢
  cases refused : row.statusRefusal readings with
  | some message => rfl
  | none =>
    simp only [refused] at unimported ⊢
    by_cases unknown : withNumber tables vendor row.number = []
    · rw [if_pos unknown] at unimported
      cases unimported
    · rw [if_neg unknown]

theorem resolved_of_found {name : String} {code : Option String} {vendor : Vendor}
    (known : found readings tables name code = some vendor) : resolved readings tables name code = (tables, vendor) := by
  rw [resolved, known]

theorem resolved_of_new {name : String} {code : Option String} (unknown : found readings tables name code = none) :
    resolved readings tables name code = ({ tables with
      vendors := tables.vendors ++ [stub tables name code]
      audits := tables.audits ++ [⟨"vendor.imported_csv", (stub tables name code).id⟩] }, stub tables name code) := by
  rw [resolved, unknown]

/-- A row that creates its vendor is imported, unless its status refuses it. -/
theorem gone_new {row : Row} (valid : row.refusal = none) (unknown : found readings tables row.name row.code = none) :
    ((gone readings tables row).2.importedId = none → (gone readings tables row).1 = tables) ↔
      row.statusRefusal readings = none := by
  have left : gone readings tables row = entered readings (resolved readings tables row.name row.code).1 row
      (resolved readings tables row.name row.code).2 := by rw [gone, valid]
  rw [left, resolved_of_new unknown, entered]
  cases refused : row.statusRefusal readings with
  | some message =>
    simp only [Outcome.importedId, forall_const, reduceCtorEq, iff_false]
    intro same
    have grown := congrArg (fun tables => tables.vendors.length) same
    simp only [List.length_append, List.length_singleton] at grown
    omega
  | none =>
    simp only [withNumber_stub, if_true, Outcome.importedId, reduceCtorEq, false_implies]

theorem gone_found {row : Row} {vendor : Vendor} (known : found readings tables row.name row.code = some vendor)
    (unimported : (gone readings tables row).2.importedId = none) : (gone readings tables row).1 = tables := by
  cases valid : row.refusal with
  | some message => rw [gone, valid]
  | none =>
    have left : gone readings tables row = entered readings tables row vendor := by
      rw [gone, valid]
      simp only [resolved_of_found known]
    rw [left] at unimported ⊢
    exact entered_apart unimported

theorem apart_iff_safe {row : Row} :
    (∃ went, importRow readings tables row = .ok went ∧ (went.2.importedId = none → went.1 = tables)) ↔
      SafeRow readings tables row := by
  constructor
  · rintro ⟨went, ok, apart⟩
    obtain ⟨goes, rfl⟩ := (importRow_eq_ok).mp ok
    exact ⟨goes, fun valid unknown => (gone_new valid unknown).mp apart⟩
  · intro safe
    refine ⟨gone readings tables row, (importRow_eq_ok).mpr ⟨safe.toGoesThrough, rfl⟩, ?_⟩
    cases valid : row.refusal with
    | some message => exact fun _ => by rw [gone, valid]
    | none =>
      cases known : found readings tables row.name row.code with
      | some vendor => exact gone_found known
      | none => exact (gone_new valid known).mpr (safe.importable valid known)

end Rows

section Files

variable {readings : Readings}

theorem importRows_cons {tables : Tables} {row : Row} {rest : List Row} {result : Tables × List Outcome} :
    importRows readings tables (row :: rest) = .ok result ↔
      ∃ went, importRow readings tables row = .ok went ∧
        ∃ others, importRows readings went.1 rest = .ok others ∧ result = (others.1, went.2 :: others.2) := by
  rw [importRows, bind_eq_ok]
  refine exists_congr fun went => and_congr_right fun _ => ?_
  rw [bind_eq_ok]
  exact exists_congr fun others => and_congr_right fun _ => ⟨fun ok => (Except.ok.inj ok).symm, fun same => congrArg Except.ok same.symm⟩

theorem importRows_returns_iff {tables : Tables} {rows : List Row} :
    (∃ result, importRows readings tables rows = .ok result) ↔ RowsGoThrough readings tables rows := by
  induction rows generalizing tables with
  | nil => exact ⟨fun _ => trivial, fun _ => ⟨_, rfl⟩⟩
  | cons row rest ih =>
    constructor
    · rintro ⟨result, ok⟩
      obtain ⟨went, first, others, later, -⟩ := (importRows_cons).mp ok
      obtain ⟨goes, rfl⟩ := (importRow_eq_ok).mp first
      exact ⟨goes, ih.mp ⟨others, later⟩⟩
    · intro goes
      obtain ⟨others, later⟩ := ih.mpr goes.2
      exact ⟨_, (importRows_cons).mpr ⟨_, (importRow_eq_ok).mpr ⟨goes.1, rfl⟩, others, later, rfl⟩⟩

theorem goThrough_of_safe {tables : Tables} {rows : List Row} (safe : SafeRows readings tables rows) :
    RowsGoThrough readings tables rows := by
  induction rows generalizing tables with
  | nil => trivial
  | cons row rest ih => exact ⟨safe.1.toGoesThrough, ih safe.2⟩

theorem apart_of_safe {tables : Tables} {before rest : List Row} {row : Row} {reached : Tables × List Outcome}
    (safe : SafeRows readings tables (before ++ row :: rest)) (ran : importRows readings tables before = .ok reached) :
    SafeRow readings reached.1 row := by
  induction before generalizing tables reached with
  | nil =>
    cases Except.ok.inj ran
    exact safe.1
  | cons first before ih =>
    obtain ⟨went, ok, others, later, rfl⟩ := (importRows_cons).mp ran
    obtain ⟨_, rfl⟩ := (importRow_eq_ok).mp ok
    have later : SafeRow readings others.1 row := ih safe.2 later
    exact later

theorem safe_of_apart {tables : Tables} {rows : List Row}
    (apart : ∀ before row rest, rows = before ++ row :: rest → ∀ reached, importRows readings tables before = .ok reached →
      SafeRow readings reached.1 row) : SafeRows readings tables rows := by
  induction rows generalizing tables with
  | nil => trivial
  | cons row rest ih =>
    have first : SafeRow readings tables row := apart [] row rest rfl (tables, []) rfl
    refine ⟨first, ih fun before later after split reached ran => ?_⟩
    have went := (importRow_eq_ok).mpr ⟨first.toGoesThrough, rfl⟩
    exact apart (row :: before) later after (congrArg (row :: ·) split) (reached.1, _ :: reached.2)
      (importRows_cons.mpr ⟨_, went, reached, ran, rfl⟩)

theorem parseDecimal_ten : Amounts.parseDecimal "10".toList = some 10 := by
  have read : columnAmount 15 "10".toList = some 10 := by
    refine columnAmount_eq_some.mpr ⟨⟨none, "10".toList, false, [], none, by simp, by decide, by decide⟩,
      by decide, by decide, ?_, ?_⟩
    · have digits : Nat.ofDigitChars 10 ("10".toList ++ []) 0 = 10 := by simp [Nat.ofDigitChars]
      rw [Numeral.value, Spelling.numeral, digits]
      simp
    · have whole := roundHalfAway_intCast (K := ℚ) 1000
      norm_num at whole
      norm_num [fitsNumeric, whole]
  have kept : pyStrip ("10".toList.filter fun c => c != ',' && c != '$') = "10".toList := by decide
  rw [Amounts.parseDecimal, if_neg (by decide), kept, read]

theorem refusal_of_ten {row : Row} (numbered : row.number ≠ "") (named : row.name ≠ "") (amount : row.amount = some "10") :
    row.refusal = none := by
  have ten : row.validAmount = some 10 := by
    have nonneg : decide ((0 : ℚ) ≤ 10) = true := by norm_num
    rw [Row.validAmount, amount, Option.bind_some, parseDecimal_ten, Option.filter_some, nonneg, if_pos rfl]
  rw [Row.refusal, if_neg numbered, if_neg fun blank => named blank.1, if_neg (by rw [ten]; exact Option.some_ne_none _)]

end Files

end Payables.CsvImport
