import Mathlib.Tactic.Ring
import Payables.Tax.Report

namespace Payables.Tax
open Lib

/-- Where a report counts a payment. -/
inductive Place
  | box (box : Box)
  | card
  | unconverted
  deriving DecidableEq

/-- A completed payment of the UTC year. -/
def Payment.completedIn (payment : Payment) (year : Nat) : Bool :=
  payment.status == .completed && payment.completedAt.any (·.year == year)

/-- The completed payments of the year on the invoices of a vendor, each with its invoice. -/
def TaxTables.paidTo (tables : TaxTables) (year : Nat) (vendorId : String) : List (Invoice × Payment) :=
  (tables.payments.filter (·.completedIn year)).filterMap fun payment =>
    ((getRow Invoice.id payment.invoiceId tables.invoices).filter fun invoice => invoice.vendorId = some vendorId).map
      (·, payment)

/-- What a payment moved in the reporting currency, where that is known: its debit at home, or its amount on an
invoice in that currency. -/
def reported (reportingCurrency : String) (paid : Invoice × Payment) : Option ℚ :=
  if paid.2.sourceAmount.isSome ∧ pyUpper (Sql.btrim (paid.2.sourceCurrency.getD "")) = sqlTarget reportingCurrency then
    paid.2.sourceAmount
  else if pyUpper (Sql.btrim paid.1.currency) = sqlTarget reportingCurrency then some paid.2.amount
  else none

def isCardRail (method : Option String) : Bool := cardPaymentMethods.contains (sqlLower (Sql.btrim (method.getD "")))

def place (mapping : BoxMapping) (reportingCurrency vendorId : String) (paid : Invoice × Payment) : Place :=
  if (reported reportingCurrency paid).isNone then .unconverted
  else if isCardRail paid.2.method then .card
  else .box (mapping.resolve vendorId paid.1.glAccount).1

/-- A row counts each payment of the year to its vendor in the place that the payment has, and nothing else. -/
structure RowCounts (tables : TaxTables) (year : Nat) (reportingCurrency : String) (mapping : BoxMapping)
    (row : VendorReportRow) : Prop where
  oneAllocation : (row.boxAllocations.map (·.box)).Nodup
  boxAmounts : ∀ box, amountIn row.boxAllocations box =
    (((tables.paidTo year row.vendorId).filter fun paid =>
      place mapping reportingCurrency row.vendorId paid = .box box).map fun paid => (reported reportingCurrency paid).getD 0).sum
  boxCounts : ∀ box, countIn row.boxAllocations box =
    ((tables.paidTo year row.vendorId).filter fun paid =>
      place mapping reportingCurrency row.vendorId paid = .box box).length
  cardPaid : row.cardPaid =
    (((tables.paidTo year row.vendorId).filter fun paid =>
      place mapping reportingCurrency row.vendorId paid = .card).map fun paid => (reported reportingCurrency paid).getD 0).sum
  cardPaymentCount : row.cardPaymentCount =
    ((tables.paidTo year row.vendorId).filter fun paid =>
      place mapping reportingCurrency row.vendorId paid = .card).length
  unconvertedPaymentCount : row.unconvertedPaymentCount =
    ((tables.paidTo year row.vendorId).filter fun paid =>
      place mapping reportingCurrency row.vendorId paid = .unconverted).length
  ytdPaid : (row.boxAllocations.map (·.amount)).sum = row.ytdPaid
  paymentCount : (row.boxAllocations.map (·.paymentCount)).sum = row.paymentCount
  forms : boxTotalForForm row .nec + boxTotalForForm row .misc = row.ytdPaid

/-- A row without its split over the boxes. -/
def VendorReportRow.withoutBoxes (row : VendorReportRow) : VendorReportRow :=
  { row with boxAllocations := [], unmappedPaid := 0, unmappedPaymentCount := 0 }

def ReportSummary.withoutBoxes (summary : ReportSummary) : ReportSummary :=
  { summary with boxAllocations := [], totalUnmapped := 0, unmappedPaymentCount := 0 }

section Query

variable {M : Type*} [AddCommMonoid M] {tables : TaxTables} {organizationId : String} {year : Nat}

theorem mem_paidTo {vendorId : String} {paid : Invoice × Payment} : paid ∈ tables.paidTo year vendorId ↔
    paid.2 ∈ tables.payments ∧ paid.2.completedIn year = true ∧ paid.1 ∈ tables.invoices ∧
      paid.1.id = paid.2.invoiceId ∧ paid.1.vendorId = some vendorId := by
  simp only [TaxTables.paidTo, List.mem_filterMap, List.mem_filter, Option.map_eq_some_iff, Option.filter_eq_some_iff,
    decide_eq_true_eq]
  constructor
  · rintro ⟨payment, ⟨member, completed⟩, invoice, ⟨found, vendor⟩, rfl⟩
    obtain ⟨listed, same⟩ := getRow_some found
    exact ⟨member, completed, listed, same, vendor⟩
  · rintro ⟨member, completed, listed, same, vendor⟩
    refine ⟨paid.2, ⟨member, completed⟩, paid.1, ⟨?_, vendor⟩, rfl⟩
    rw [← same]
    exact getRow_of_mem tables.invoiceKeys listed

/-- Each payment is listed once. -/
theorem nodup_paidTo (vendorId : String) : ((tables.paidTo year vendorId).map (·.2.id)).Nodup := by
  have sub : ((tables.paidTo year vendorId).map (·.2)).Sublist (tables.payments.filter (·.completedIn year)) := by
    unfold TaxTables.paidTo
    induction tables.payments.filter (·.completedIn year) with
    | nil => exact List.Sublist.slnil
    | cons payment rest ih =>
      rw [List.filterMap_cons]
      split
      · exact ih.cons payment
      · next paid found =>
        obtain ⟨invoice, _, rfl⟩ := Option.map_eq_some_iff.mp found
        exact ih.cons_cons payment
  have ids := (sub.trans List.filter_sublist).map Payment.id
  rw [List.map_map] at ids
  exact List.Nodup.sublist ids tables.paymentKeys

theorem holds_paymentClause (vendor : Vendor) (invoice : Invoice) (payment : Payment) :
    Sql.holds (paymentClause year (vendor, some invoice) payment) =
      (decide (payment.invoiceId = invoice.id) && payment.completedIn year) := by
  have year' : Sql.holds (Sql.eq (payment.completedAt.map (·.year)) (some year)) = payment.completedAt.any (·.year == year) := by
    rw [Sql.holds_eq]
    cases payment.completedAt with
    | none => rfl
    | some day => simp [Bool.beq_eq_decide_eq]
  rw [paymentClause, Sql.holds_all]
  simp only [List.all_cons, List.all_nil, Bool.and_true, Option.map_some, Sql.holds_eq, Option.some.injEq, year',
    Payment.completedIn]
  rw [Bool.beq_eq_decide_eq]

/-- A vendor without an invoice is joined with no payment. -/
theorem select_paymentClause_none (vendor : Vendor) : Sql.select tables.payments (paymentClause year (vendor, none)) = [] := by
  refine List.filter_eq_nil_iff.mpr fun payment _ => ?_
  rw [paymentClause, Sql.holds_all]
  exact Bool.false_ne_true

theorem sum_paidTo (vendor : Vendor) (measure : Invoice → Payment → M) :
    ((Sql.select tables.invoices fun invoice => Sql.eq invoice.vendorId (some vendor.id)).map fun invoice =>
        ((Sql.select tables.payments (paymentClause year (vendor, some invoice))).map (measure invoice)).sum).sum =
      ((tables.paidTo year vendor.id).map fun paid => measure paid.1 paid.2).sum := by
  let term : Invoice → Payment → M := fun invoice payment =>
    if invoice.vendorId = some vendor.id ∧ payment.completedIn year = true then measure invoice payment else 0
  have inner : ∀ invoice : Invoice,
      (if Sql.holds (Sql.eq invoice.vendorId (some vendor.id)) = true then
          ((Sql.select tables.payments (paymentClause year (vendor, some invoice))).map (measure invoice)).sum else 0) =
        (tables.payments.map fun payment => if invoice.id = payment.invoiceId then term invoice payment else 0).sum := by
    intro invoice
    rw [Sql.holds_eq, Sql.select, Sql.sum_filter]
    by_cases theirs : invoice.vendorId = some vendor.id
    · rw [if_pos (decide_eq_true theirs)]
      refine congrArg List.sum (List.map_congr_left fun payment _ => ?_)
      rw [holds_paymentClause]
      by_cases linked : invoice.id = payment.invoiceId
      · by_cases completed : payment.completedIn year = true
        · simp [term, theirs, linked, completed]
        · simp [term, theirs, linked, completed]
      · simp [linked, Ne.symm linked]
    · rw [if_neg (by simpa using theirs)]
      simp [term, theirs]
  have outer : ∀ payment : Payment,
      (tables.invoices.map fun invoice => if invoice.id = payment.invoiceId then term invoice payment else 0).sum =
        if payment.completedIn year = true then
          ((((getRow Invoice.id payment.invoiceId tables.invoices).filter fun invoice => invoice.vendorId = some vendor.id).map
            (·, payment)).map fun paid => measure paid.1 paid.2).getD 0
        else 0 := by
    intro payment
    rw [sum_getRow (fun invoice => term invoice payment) tables.invoiceKeys]
    cases getRow Invoice.id payment.invoiceId tables.invoices with
    | none => simp
    | some invoice =>
      by_cases theirs : invoice.vendorId = some vendor.id
      · by_cases completed : payment.completedIn year = true
        · simp [term, theirs, completed, Option.filter_some]
        · simp [term, completed]
      · simp [term, theirs, Option.filter_some]
  rw [Sql.select, Sql.sum_filter, TaxTables.paidTo, Sql.sum_filterMap, Sql.sum_filter]
  simp only [inner]
  rw [Sql.sum_comm]
  exact congrArg List.sum (List.map_congr_left fun payment _ => outer payment)

variable (year) in
/-- The rows of the joins that belong to a vendor add up to its payments of the year. -/
theorem sum_joinedRows {vendor : Vendor} (member : vendor ∈ tables.vendorsOf organizationId) (measure : JoinedRow → M)
    (alone : ∀ row, row.payment = none → measure row = 0) :
    (((tables.joinedRows organizationId year).filter fun row => row.vendor.id = vendor.id).map measure).sum =
      ((tables.paidTo year vendor.id).map fun paid => measure ⟨vendor, some paid.1, some paid.2⟩).sum := by
  let chosen : JoinedRow → M := fun row => if row.vendor.id = vendor.id then measure row else 0
  have unpaid : ∀ row : Vendor × Option Invoice, chosen ⟨row.1, row.2, none⟩ = 0 := by
    intro row
    have nothing : measure ⟨row.1, row.2, none⟩ = 0 := alone _ rfl
    simp only [chosen, nothing, ite_self]
  have keys : ((tables.vendorsOf organizationId).map (·.id)).Nodup :=
    List.Nodup.sublist (List.filter_sublist.map _) tables.vendorKeys
  have one : ∀ other : Vendor, ((tables.paidTo year other.id).map fun paid => chosen ⟨other, some paid.1, some paid.2⟩).sum =
      if other.id = vendor.id then ((tables.paidTo year other.id).map fun paid => measure ⟨other, some paid.1, some paid.2⟩).sum
      else 0 := by
    intro other
    by_cases same : other.id = vendor.id
    · simp only [chosen, if_pos same]
    · simp [chosen, if_neg same]
  rw [Sql.sum_filter, TaxTables.joinedRows, List.map_map]
  simp only [decide_eq_true_eq]
  have payments := Sql.sum_leftJoin (Sql.leftJoin (tables.vendorsOf organizationId) tables.invoices fun vendor invoice =>
    Sql.eq invoice.vendorId (some vendor.id)) tables.payments (paymentClause year)
    (fun row => chosen ⟨row.1.1, row.1.2, row.2⟩) unpaid
  have invoices := Sql.sum_leftJoin (tables.vendorsOf organizationId) tables.invoices
    (fun vendor invoice => Sql.eq invoice.vendorId (some vendor.id))
    (fun row => ((Sql.select tables.payments (paymentClause year row)).map fun payment => chosen ⟨row.1, row.2, some payment⟩).sum)
    (fun other => by rw [select_paymentClause_none]; rfl)
  refine payments.trans (invoices.trans ?_)
  simp only [sum_paidTo _ (fun invoice payment => chosen ⟨_, some invoice, some payment⟩), one]
  rw [sum_getRow (fun other : Vendor =>
    ((tables.paidTo year other.id).map fun paid => measure ⟨other, some paid.1, some paid.2⟩).sum) keys, getRow_of_mem keys member]
  rfl

variable (year) in
theorem vendor_joinedRows {vendor : Vendor} :
    (∃ row ∈ tables.joinedRows organizationId year, row.vendor = vendor) ↔ vendor ∈ tables.vendorsOf organizationId := by
  constructor
  · rintro ⟨row, member, rfl⟩
    obtain ⟨pair, joined, rfl⟩ := List.mem_map.mp member
    have coded := Sql.mem_leftJoin_left.mp ⟨pair.2, joined⟩
    exact Sql.mem_leftJoin_left.mp ⟨pair.1.2, coded⟩
  · intro member
    obtain ⟨invoice, coded⟩ := Sql.mem_leftJoin_left.mpr member
    obtain ⟨payment, joined⟩ := Sql.mem_leftJoin_left.mpr coded
    exact ⟨_, List.mem_map.mpr ⟨_, joined, rfl⟩, rfl⟩

end Query

section Columns

variable {clause : JoinedRow → Sql.Truth} {rows : List JoinedRow}

/-- What a row adds to `SUM(CASE WHEN clause THEN amount END)`. -/
def amountWhere (clause : JoinedRow → Sql.Truth) (amount : JoinedRow → Option ℚ) (row : JoinedRow) : ℚ :=
  if Sql.holds (clause row) = true then (amount row).getD 0 else 0

/-- What a row adds to `COUNT(CASE WHEN clause THEN payments.id END)`. -/
def oneWhere (clause : JoinedRow → Sql.Truth) (row : JoinedRow) : Nat :=
  if Sql.holds (clause row) = true ∧ row.payment.isSome = true then 1 else 0

theorem sumWhere_eq (amount : JoinedRow → Option ℚ) : sumWhere clause amount rows = (rows.map (amountWhere clause amount)).sum := by
  rw [sumWhere, Sql.getD_sum, List.map_map]
  refine congrArg List.sum (List.map_congr_left fun row _ => ?_)
  simp only [Function.comp_apply, Sql.caseWhen, amountWhere]
  split <;> rfl

theorem countWhere_eq : countWhere clause rows = (rows.map (oneWhere clause)).sum := by
  unfold countWhere
  induction rows with
  | nil => rfl
  | cons row rest ih =>
    rw [List.map_cons, List.sum_cons, ← ih]
    by_cases counted : Sql.holds (clause row) = true
    · cases payment : row.payment with
      | none => simp [Sql.caseWhen, oneWhere, payment]
      | some paid =>
        have shown : Sql.caseWhen (clause row) (row.payment.map (·.id)) none = some paid.id := by
          simp [Sql.caseWhen, counted, payment]
        simp only [List.filterMap_cons, shown, List.length_cons]
        simp [oneWhere, counted, payment, Nat.add_comm]
    · simp [Sql.caseWhen, oneWhere, counted]

theorem oneWhere_unpaid (clause : JoinedRow → Sql.Truth) (row : JoinedRow) (unpaid : row.payment = none) :
    oneWhere clause row = 0 := by
  simp [oneWhere, unpaid]

end Columns

section Fold

/-- What the fold has of a vendor after these rows. -/
def accOf (first : GroupedRow) (rows : List GroupedRow) : VendorFold :=
  ⟨first, rows.map (·.bucket), (rows.map (·.cardPaid)).sum, (rows.map (·.cardPaymentCount)).sum,
    (rows.map (·.unconvertedPaymentCount)).sum⟩

theorem accOf_concat (first : GroupedRow) (rows : List GroupedRow) (row : GroupedRow) :
    (accOf first rows).add row = accOf first (rows ++ [row]) := by
  simp only [accOf, VendorFold.add, List.map_append, List.sum_append, List.map_cons, List.map_nil, List.sum_singleton]

/-- One accumulator a vendor, with the rows of that vendor. -/
structure Folded (done : List GroupedRow) (accs : List VendorFold) : Prop where
  nodup : (accs.map (·.first.vendor.id)).Nodup
  first : ∀ acc ∈ accs, acc.first ∈ done
  sound : ∀ acc ∈ accs, acc = accOf acc.first (done.filter fun row => row.vendor.id = acc.first.vendor.id)
  complete : ∀ row ∈ done, row.vendor.id ∈ accs.map (·.first.vendor.id)

theorem ids_foldRow (accs : List VendorFold) (row : GroupedRow) : (foldRow accs row).map (·.first.vendor.id) =
    if row.vendor.id ∈ accs.map (·.first.vendor.id) then accs.map (·.first.vendor.id)
    else accs.map (·.first.vendor.id) ++ [row.vendor.id] := by
  induction accs with
  | nil => rfl
  | cons acc rest ih =>
    rw [foldRow]
    by_cases here : acc.first.vendor.id = row.vendor.id
    · rw [if_pos here, if_pos (List.mem_map.mpr ⟨acc, List.mem_cons_self, here⟩)]
      rfl
    · rw [if_neg here, List.map_cons, ih]
      by_cases later : row.vendor.id ∈ rest.map (·.first.vendor.id)
      · have seen : row.vendor.id ∈ (acc :: rest).map (·.first.vendor.id) := List.mem_cons_of_mem _ later
        rw [if_pos later, if_pos seen, List.map_cons]
      · have fresh : row.vendor.id ∉ (acc :: rest).map (·.first.vendor.id) := by
          intro member
          rcases List.mem_cons.mp member with same | inRest
          · exact here same.symm
          · exact later inRest
        rw [if_neg later, if_neg fresh, List.map_cons, List.cons_append]

theorem mem_foldRow {accs : List VendorFold} {row : GroupedRow} {acc : VendorFold} (nodup : (accs.map (·.first.vendor.id)).Nodup)
    (member : acc ∈ foldRow accs row) :
    (acc ∈ accs ∧ acc.first.vendor.id ≠ row.vendor.id) ∨
      (∃ old ∈ accs, old.first.vendor.id = row.vendor.id ∧ acc = old.add row) ∨
        row.vendor.id ∉ accs.map (·.first.vendor.id) ∧ acc = VendorFold.add ⟨row, [], 0, 0, 0⟩ row := by
  induction accs with
  | nil => exact Or.inr (Or.inr ⟨List.not_mem_nil, List.mem_singleton.mp member⟩)
  | cons other rest ih =>
    obtain ⟨fresh, nodup⟩ := List.nodup_cons.mp nodup
    rw [foldRow] at member
    by_cases here : other.first.vendor.id = row.vendor.id
    · rw [if_pos here] at member
      rcases List.mem_cons.mp member with rfl | inRest
      · exact Or.inr (Or.inl ⟨other, List.mem_cons_self, here, rfl⟩)
      · refine Or.inl ⟨List.mem_cons_of_mem _ inRest, fun same => fresh ?_⟩
        exact List.mem_map.mpr ⟨acc, inRest, same.trans here.symm⟩
    · rw [if_neg here] at member
      rcases List.mem_cons.mp member with rfl | inRest
      · exact Or.inl ⟨List.mem_cons_self, here⟩
      · rcases ih nodup inRest with ⟨listed, apart⟩ | ⟨old, listed, same, rfl⟩ | ⟨absent, rfl⟩
        · exact Or.inl ⟨List.mem_cons_of_mem _ listed, apart⟩
        · exact Or.inr (Or.inl ⟨old, List.mem_cons_of_mem _ listed, same, rfl⟩)
        · refine Or.inr (Or.inr ⟨fun listed => ?_, rfl⟩)
          rcases List.mem_cons.mp listed with same | inRest
          · exact here same.symm
          · exact absent inRest

theorem Folded.add {done : List GroupedRow} {accs : List VendorFold} (folded : Folded done accs) (row : GroupedRow) :
    Folded (done ++ [row]) (foldRow accs row) where
  nodup := by
    rw [ids_foldRow]
    by_cases seen : row.vendor.id ∈ accs.map (·.first.vendor.id)
    · rw [if_pos seen]
      exact folded.nodup
    · rw [if_neg seen, ← List.concat_eq_append]
      exact List.Nodup.concat seen folded.nodup
  first := by
    intro acc member
    rcases mem_foldRow folded.nodup member with ⟨listed, _⟩ | ⟨old, listed, _, rfl⟩ | ⟨_, rfl⟩
    · exact List.mem_append_left _ (folded.first acc listed)
    · exact List.mem_append_left _ (folded.first old listed)
    · exact List.mem_append_right _ List.mem_cons_self
  sound := by
    intro acc member
    rcases mem_foldRow folded.nodup member with ⟨listed, apart⟩ | ⟨old, listed, same, rfl⟩ | ⟨absent, rfl⟩
    · have kept := folded.sound acc listed
      rw [List.filter_append, List.filter_cons_of_neg (by simpa using Ne.symm apart), List.filter_nil, List.append_nil]
      exact kept
    · have kept := folded.sound old listed
      show old.add row = accOf old.first ((done ++ [row]).filter fun other => other.vendor.id = old.first.vendor.id)
      rw [List.filter_append, List.filter_cons_of_pos (by simpa using same.symm), List.filter_nil, ← accOf_concat, ← kept]
    · have none : done.filter (fun other => other.vendor.id = row.vendor.id) = [] := by
        refine List.filter_eq_nil_iff.mpr fun other inDone same => absent ?_
        rw [← of_decide_eq_true same]
        exact folded.complete other inDone
      show VendorFold.add (accOf row []) row = accOf row ((done ++ [row]).filter fun other => other.vendor.id = row.vendor.id)
      rw [List.filter_append, none, List.filter_cons_of_pos (by simp), List.filter_nil, accOf_concat]
  complete := by
    intro other member
    rw [ids_foldRow]
    rcases List.mem_append.mp member with inDone | last
    · have seen := folded.complete other inDone
      split
      · exact seen
      · exact List.mem_append_left _ seen
    · cases List.mem_singleton.mp last
      split
      · next seen => exact seen
      · exact List.mem_append_right _ List.mem_cons_self

theorem folded_foldl (rows : List GroupedRow) : Folded rows (rows.foldl foldRow []) := by
  induction rows using List.reverseRecOn with
  | nil =>
    refine ⟨List.nodup_nil, ?_, ?_, ?_⟩
    · intro acc member
      cases member
    · intro acc member
      cases member
    · intro row member
      cases member
  | append_singleton rows row ih =>
    rw [List.foldl_append]
    exact ih.add row

end Fold

section Places

variable {reportingCurrency : String} {mapping : BoxMapping} {vendor : Vendor} {paid : Invoice × Payment}

theorem reportedAmount_paid : (⟨vendor, some paid.1, some paid.2⟩ : JoinedRow).reportedAmount reportingCurrency =
    reported reportingCurrency paid := by
  simp only [JoinedRow.reportedAmount, JoinedRow.homeLeg, JoinedRow.invoiceLeg, Sql.caseWhen, Sql.holds_and, Sql.isNotNull,
    Sql.holds_some, Sql.holds_eq, Option.bind_some, Option.map_some, Option.getD_some, Option.some.injEq, Bool.and_eq_true,
    decide_eq_true_eq, reported]

theorem countable_paid : (⟨vendor, some paid.1, some paid.2⟩ : JoinedRow).countable reportingCurrency =
    some (reported reportingCurrency paid).isSome := by
  by_cases home : paid.2.sourceAmount.isSome = true ∧
      pyUpper (Sql.btrim (paid.2.sourceCurrency.getD "")) = sqlTarget reportingCurrency
  · obtain ⟨source, code⟩ := home
    simp [JoinedRow.countable, JoinedRow.homeLeg, Sql.isNotNull, Sql.eq, Sql.and, Sql.or, reported, source, code]
  · have apart : Sql.and (Sql.isNotNull paid.2.sourceAmount)
        (Sql.eq (some (pyUpper (Sql.btrim (paid.2.sourceCurrency.getD "")))) (some (sqlTarget reportingCurrency))) = some false := by
      cases source : paid.2.sourceAmount with
      | none => rfl
      | some amount =>
        have code : pyUpper (Sql.btrim (paid.2.sourceCurrency.getD "")) ≠ sqlTarget reportingCurrency := by
          intro same
          exact home ⟨by rw [source]; rfl, same⟩
        simp [Sql.isNotNull, Sql.eq, Sql.and, code]
    simp only [JoinedRow.countable, JoinedRow.homeLeg, JoinedRow.invoiceLeg, Option.bind_some, Option.map_some, Option.getD_some,
      apart, reported, if_neg home]
    by_cases own : pyUpper (Sql.btrim paid.1.currency) = sqlTarget reportingCurrency
    · simp [Sql.or, Sql.eq, own]
    · simp [Sql.or, Sql.eq, own]

theorem isCard_paid : (⟨vendor, some paid.1, some paid.2⟩ : JoinedRow).isCard = some (isCardRail paid.2.method) := by
  rw [JoinedRow.isCard, cardPaymentMethodClause, Sql.isIn_some, Option.bind_some, isCardRail]

theorem holds_bankClause_paid : Sql.holds ((⟨vendor, some paid.1, some paid.2⟩ : JoinedRow).bankClause reportingCurrency) =
    (!isCardRail paid.2.method && (reported reportingCurrency paid).isSome) := by
  rw [JoinedRow.bankClause, Sql.holds_and, isCard_paid, countable_paid, Sql.holds_not_some, Sql.holds_some]

theorem holds_cardClause_paid : Sql.holds ((⟨vendor, some paid.1, some paid.2⟩ : JoinedRow).cardClause reportingCurrency) =
    (isCardRail paid.2.method && (reported reportingCurrency paid).isSome) := by
  rw [JoinedRow.cardClause, Sql.holds_and, isCard_paid, countable_paid, Sql.holds_some, Sql.holds_some]

theorem place_box {vendorId : String} {box : Box} : place mapping reportingCurrency vendorId paid = .box box ↔
    ((!isCardRail paid.2.method && (reported reportingCurrency paid).isSome) = true ∧
      (mapping.resolve vendorId paid.1.glAccount).1 = box) := by
  unfold place
  cases reported reportingCurrency paid with
  | none => simp
  | some amount => cases isCardRail paid.2.method <;> simp

theorem place_card {vendorId : String} : place mapping reportingCurrency vendorId paid = .card ↔
    (isCardRail paid.2.method && (reported reportingCurrency paid).isSome) = true := by
  unfold place
  cases reported reportingCurrency paid with
  | none => simp
  | some amount => cases isCardRail paid.2.method <;> simp

theorem place_unconverted {vendorId : String} : place mapping reportingCurrency vendorId paid = .unconverted ↔
    (reported reportingCurrency paid).isNone = true := by
  unfold place
  cases reported reportingCurrency paid with
  | none => simp
  | some amount => cases isCardRail paid.2.method <;> simp

/-- A row without a payment has no amount. -/
theorem amountWhere_unpaid (clause : JoinedRow → Sql.Truth) (row : JoinedRow) (unpaid : row.payment = none) :
    amountWhere clause (·.reportedAmount reportingCurrency) row = 0 := by
  have none : row.reportedAmount reportingCurrency = none := by
    simp only [JoinedRow.reportedAmount, unpaid, Option.bind_none, Option.map_none, Sql.caseWhen, ite_self]
  rw [amountWhere, none, Option.getD_none, ite_self]

/-- A place by its clause: the amounts of the payments there. -/
theorem sum_place (mapping : BoxMapping) (vendorId : String) (list : List (Invoice × Payment)) (vendor : Vendor) (at' : Place)
    (clause : JoinedRow → Sql.Truth) (chosen : Option String → Bool)
    (exactly : ∀ paid, place mapping reportingCurrency vendorId paid = at' ↔
      Sql.holds (clause ⟨vendor, some paid.1, some paid.2⟩) = true ∧ chosen paid.1.glAccount = true) :
    (list.map fun paid => if chosen paid.1.glAccount = true then
        amountWhere clause (·.reportedAmount reportingCurrency) ⟨vendor, some paid.1, some paid.2⟩ else 0).sum =
      ((list.filter fun paid => place mapping reportingCurrency vendorId paid = at').map fun paid =>
        (reported reportingCurrency paid).getD 0).sum := by
  rw [Sql.sum_filter]
  refine congrArg List.sum (List.map_congr_left fun paid _ => ?_)
  simp only [decide_eq_true_eq, exactly, amountWhere, reportedAmount_paid]
  by_cases kept : chosen paid.1.glAccount = true
  · simp only [kept, if_true, and_true]
  · rw [if_neg kept, if_neg fun both => kept both.2]

/-- And their number. -/
theorem length_place (mapping : BoxMapping) (vendorId : String) (list : List (Invoice × Payment)) (vendor : Vendor) (at' : Place)
    (clause : JoinedRow → Sql.Truth) (chosen : Option String → Bool)
    (exactly : ∀ paid, place mapping reportingCurrency vendorId paid = at' ↔
      Sql.holds (clause ⟨vendor, some paid.1, some paid.2⟩) = true ∧ chosen paid.1.glAccount = true) :
    (list.map fun paid => if chosen paid.1.glAccount = true then oneWhere clause ⟨vendor, some paid.1, some paid.2⟩ else 0).sum =
      (list.filter fun paid => place mapping reportingCurrency vendorId paid = at').length := by
  induction list with
  | nil => rfl
  | cons paid rest ih =>
    rw [List.map_cons, List.sum_cons, ih]
    by_cases here : place mapping reportingCurrency vendorId paid = at'
    · obtain ⟨holds, kept⟩ := (exactly paid).mp here
      rw [List.filter_cons_of_pos (by simpa using here), List.length_cons, if_pos kept, oneWhere, if_pos ⟨holds, rfl⟩]
      exact Nat.add_comm _ _
    · rw [List.filter_cons_of_neg (by simpa using here)]
      by_cases kept : chosen paid.1.glAccount = true
      · have fails : ¬Sql.holds (clause ⟨vendor, some paid.1, some paid.2⟩) = true := fun holds =>
          here ((exactly paid).mpr ⟨holds, kept⟩)
        rw [if_pos kept, oneWhere, if_neg (fun both => fails both.1), zero_add]
      · rw [if_neg kept, zero_add]

end Places

section Rows

variable {M : Type*} [AddCommMonoid M] {tables : TaxTables} {organizationId : String} {year : Nat} {reportingCurrency : String}
  {mapping : BoxMapping} {collation : GroupedRow → GroupedRow → Bool}

/-- The result of the query. -/
def queryResult (collation : GroupedRow → GroupedRow → Bool) (tables : TaxTables) (organizationId : String) (year : Nat)
    (reportingCurrency : String) : List GroupedRow :=
  ((Sql.groupBy JoinedRow.key (tables.joinedRows organizationId year)).map (groupedRow reportingCurrency)).mergeSort collation

theorem vendor_queryResult {vendor : Vendor} :
    (∃ row ∈ queryResult collation tables organizationId year reportingCurrency, row.vendor = vendor) ↔
      vendor ∈ tables.vendorsOf organizationId := by
  rw [← vendor_joinedRows year]
  simp only [queryResult, List.mem_mergeSort, Sql.groupBy, List.mem_map, List.mem_dedup]
  constructor
  · rintro ⟨_, ⟨_, ⟨_, ⟨row, member, rfl⟩, rfl⟩, rfl⟩, rfl⟩
    exact ⟨row, member, rfl⟩
  · rintro ⟨row, member, rfl⟩
    exact ⟨_, ⟨_, ⟨_, ⟨row, member, rfl⟩, rfl⟩, rfl⟩, rfl⟩

variable (year reportingCurrency collation) in
/-- A column of the result, added up over the chosen groups of a vendor. -/
theorem sum_queryResult {vendor : Vendor} (member : vendor ∈ tables.vendorsOf organizationId) (column : GroupedRow → M)
    (measure : JoinedRow → M)
    (column_eq : ∀ group, column (groupedRow reportingCurrency group) = (group.2.map measure).sum)
    (alone : ∀ row, row.payment = none → measure row = 0) (chosen : Option String → Bool) :
    (((queryResult collation tables organizationId year reportingCurrency).filter fun row =>
        row.vendor.id = vendor.id ∧ chosen row.glAccount = true).map column).sum =
      ((tables.paidTo year vendor.id).map fun paid =>
        if chosen paid.1.glAccount = true then measure ⟨vendor, some paid.1, some paid.2⟩ else 0).sum := by
  have sorted := ((List.mergeSort_perm ((Sql.groupBy JoinedRow.key (tables.joinedRows organizationId year)).map
    (groupedRow reportingCurrency)) collation).filter fun row =>
      row.vendor.id = vendor.id ∧ chosen row.glAccount = true).map column
  have groups := Sql.sum_groupBy JoinedRow.key measure (fun key => decide (key.1.id = vendor.id ∧ chosen key.2 = true))
    (tables.joinedRows organizationId year)
  have rows := sum_joinedRows year member (fun row => if chosen row.key.2 = true then measure row else 0)
    (fun row unpaid => by rw [alone row unpaid, ite_self])
  rw [queryResult, sorted.sum_eq, List.filter_map, List.map_map]
  refine Eq.trans ?_ (groups.trans (Eq.trans ?_ rows))
  · exact congrArg List.sum (List.map_congr_left fun group _ => column_eq group)
  · rw [Sql.sum_filter, Sql.sum_filter]
    refine congrArg List.sum (List.map_congr_left fun row _ => ?_)
    have named : row.key.1 = row.vendor := rfl
    by_cases theirs : row.vendor.id = vendor.id
    · by_cases kept : chosen row.key.2 = true
      · simp [named, theirs, kept]
      · simp [named, theirs, kept]
    · simp [named, theirs]

section Accumulated

variable {acc : VendorFold}
  (member : acc ∈ (queryResult collation tables organizationId year reportingCurrency).foldl foldRow [])

include member

theorem vendor_acc : acc.first.vendor ∈ tables.vendorsOf organizationId :=
  vendor_queryResult.mp ⟨_, (folded_foldl _).first acc member, rfl⟩

/-- What the buckets of a vendor put in a box. -/
theorem sum_buckets (mapping : BoxMapping) {M : Type} [AddCommMonoid M] (column : GLSpendBucket → M) (measure : JoinedRow → M)
    (column_eq : ∀ group, column (groupedRow reportingCurrency group).bucket = (group.2.map measure).sum)
    (alone : ∀ row, row.payment = none → measure row = 0) (box : Box) :
    ((acc.buckets.filter fun bucket => (mapping.resolve acc.first.vendor.id bucket.glAccount).1 = box).map column).sum =
      ((tables.paidTo year acc.first.vendor.id).map fun paid =>
        if decide ((mapping.resolve acc.first.vendor.id paid.1.glAccount).1 = box) = true then
          measure ⟨acc.first.vendor, some paid.1, some paid.2⟩
        else 0).sum := by
  have buckets : acc.buckets = ((queryResult collation tables organizationId year reportingCurrency).filter fun row =>
      row.vendor.id = acc.first.vendor.id).map (·.bucket) := congrArg VendorFold.buckets ((folded_foldl _).sound acc member)
  have placed : acc.buckets.filter (fun bucket => (mapping.resolve acc.first.vendor.id bucket.glAccount).1 = box) =
      ((queryResult collation tables organizationId year reportingCurrency).filter fun row => row.vendor.id = acc.first.vendor.id ∧
        decide ((mapping.resolve acc.first.vendor.id row.glAccount).1 = box) = true).map (·.bucket) := by
    rw [buckets, List.filter_map, List.filter_filter]
    refine congrArg _ (List.filter_congr fun row _ => ?_)
    simp [GroupedRow.bucket, Bool.and_comm]
  rw [placed, List.map_map]
  exact sum_queryResult year reportingCurrency collation (vendor_acc member) _ measure column_eq alone
    fun gl => decide ((mapping.resolve acc.first.vendor.id gl).1 = box)

/-- What the rows of a vendor have in a column. -/
theorem sum_column {M : Type} [AddCommMonoid M] (column : GroupedRow → M) (measure : JoinedRow → M)
    (column_eq : ∀ group, column (groupedRow reportingCurrency group) = (group.2.map measure).sum)
    (alone : ∀ row, row.payment = none → measure row = 0) :
    (((queryResult collation tables organizationId year reportingCurrency).filter fun row =>
        row.vendor.id = acc.first.vendor.id).map column).sum =
      ((tables.paidTo year acc.first.vendor.id).map fun paid =>
        if (fun _ : Option String => true) paid.1.glAccount = true then measure ⟨acc.first.vendor, some paid.1, some paid.2⟩
        else 0).sum := by
  have whole : (queryResult collation tables organizationId year reportingCurrency).filter
      (fun row => row.vendor.id = acc.first.vendor.id) =
      (queryResult collation tables organizationId year reportingCurrency).filter fun row =>
        row.vendor.id = acc.first.vendor.id ∧ (fun _ : Option String => true) row.glAccount = true :=
    List.filter_congr fun row _ => by simp
  rw [whole]
  exact sum_queryResult year reportingCurrency collation (vendor_acc member) column measure column_eq alone fun _ => true

theorem boxAmounts_reportRow (mapping : BoxMapping) (box : Box) : amountIn (acc.reportRow mapping).boxAllocations box =
    (((tables.paidTo year acc.first.vendor.id).filter fun paid =>
      place mapping reportingCurrency acc.first.vendor.id paid = .box box).map fun paid =>
        (reported reportingCurrency paid).getD 0).sum := by
  have buckets := sum_buckets member mapping (·.amount) _ (fun group => sumWhere_eq _) (amountWhere_unpaid _) box
  have places := sum_place mapping acc.first.vendor.id (tables.paidTo year acc.first.vendor.id) acc.first.vendor (.box box)
    (·.bankClause reportingCurrency) (fun gl => decide ((mapping.resolve acc.first.vendor.id gl).1 = box))
    (fun paid => by rw [place_box, holds_bankClause_paid, decide_eq_true_eq])
  exact (amountIn_allocateBoxes acc.buckets box).trans (buckets.trans places)

theorem boxCounts_reportRow (mapping : BoxMapping) (box : Box) : countIn (acc.reportRow mapping).boxAllocations box =
    ((tables.paidTo year acc.first.vendor.id).filter fun paid =>
      place mapping reportingCurrency acc.first.vendor.id paid = .box box).length := by
  have buckets := sum_buckets member mapping (·.paymentCount) _ (fun group => countWhere_eq) (oneWhere_unpaid _) box
  have places := length_place mapping acc.first.vendor.id (tables.paidTo year acc.first.vendor.id) acc.first.vendor (.box box)
    (·.bankClause reportingCurrency) (fun gl => decide ((mapping.resolve acc.first.vendor.id gl).1 = box))
    (fun paid => by rw [place_box, holds_bankClause_paid, decide_eq_true_eq])
  exact (countIn_allocateBoxes acc.buckets box).trans (buckets.trans places)

theorem cardPaid_reportRow (mapping : BoxMapping) : acc.cardPaid =
    (((tables.paidTo year acc.first.vendor.id).filter fun paid =>
      place mapping reportingCurrency acc.first.vendor.id paid = .card).map fun paid =>
        (reported reportingCurrency paid).getD 0).sum := by
  have folded : acc.cardPaid = _ := congrArg VendorFold.cardPaid ((folded_foldl _).sound acc member)
  have column := sum_column member (·.cardPaid) _ (fun group => sumWhere_eq _) (amountWhere_unpaid _)
  have places := sum_place mapping acc.first.vendor.id (tables.paidTo year acc.first.vendor.id) acc.first.vendor .card
    (·.cardClause reportingCurrency) (fun _ => true) (fun paid => by rw [place_card, holds_cardClause_paid, and_iff_left rfl])
  exact folded.trans (column.trans places)

theorem cardPaymentCount_reportRow (mapping : BoxMapping) : acc.cardPaymentCount =
    ((tables.paidTo year acc.first.vendor.id).filter fun paid =>
      place mapping reportingCurrency acc.first.vendor.id paid = .card).length := by
  have folded : acc.cardPaymentCount = _ := congrArg VendorFold.cardPaymentCount ((folded_foldl _).sound acc member)
  have column := sum_column member (·.cardPaymentCount) _ (fun group => countWhere_eq) (oneWhere_unpaid _)
  have places := length_place mapping acc.first.vendor.id (tables.paidTo year acc.first.vendor.id) acc.first.vendor .card
    (·.cardClause reportingCurrency) (fun _ => true) (fun paid => by rw [place_card, holds_cardClause_paid, and_iff_left rfl])
  exact folded.trans (column.trans places)

theorem unconverted_reportRow (mapping : BoxMapping) : acc.unconvertedPaymentCount =
    ((tables.paidTo year acc.first.vendor.id).filter fun paid =>
      place mapping reportingCurrency acc.first.vendor.id paid = .unconverted).length := by
  have folded : acc.unconvertedPaymentCount = _ := congrArg VendorFold.unconvertedPaymentCount ((folded_foldl _).sound acc member)
  have column := sum_column member (·.unconvertedPaymentCount) _ (fun group => countWhere_eq) (oneWhere_unpaid _)
  have places := length_place mapping acc.first.vendor.id (tables.paidTo year acc.first.vendor.id) acc.first.vendor .unconverted
    (fun row => Sql.not (row.countable reportingCurrency)) (fun _ => true)
    (fun paid => by rw [place_unconverted, countable_paid, Sql.holds_not_some, Option.not_isSome, and_iff_left rfl])
  exact folded.trans (column.trans places)

end Accumulated

/-- What a vendor gets on the two forms is what it was paid. -/
theorem forms_reportRow (mapping : BoxMapping) (acc : VendorFold) :
    boxTotalForForm (acc.reportRow mapping) .nec + boxTotalForForm (acc.reportRow mapping) .misc =
      (acc.reportRow mapping).ytdPaid := by
  have whole : ((acc.reportRow mapping).boxAllocations.map (·.amount)).sum = (acc.reportRow mapping).ytdPaid :=
    (sum_allocateBoxes acc.buckets).1
  by_cases empty : (acc.reportRow mapping).boxAllocations.isEmpty = true
  · rw [List.isEmpty_iff.mp empty] at whole
    rw [boxTotalForForm, boxTotalForForm, if_pos empty, if_pos empty, ← whole]
    exact add_zero _
  · have two := Sql.sum_groups (fun allocation : BoxAllocation => allocation.box.entry.formType) (·.amount)
      (acc.reportRow mapping).boxAllocations [.nec, .misc] (by decide)
    have all : ∀ formType : FormType, formType ∈ [FormType.nec, .misc] := by
      intro formType
      cases formType <;> decide
    rw [List.filter_eq_self.mpr fun allocation _ => decide_eq_true (all _), whole] at two
    rw [boxTotalForForm, boxTotalForForm, if_neg empty, if_neg empty, ← two]
    simp only [List.map_cons, List.map_nil, List.sum_cons, List.sum_nil, add_zero]

theorem rowCounts_reportRow (mapping : BoxMapping) {acc : VendorFold}
    (member : acc ∈ (queryResult collation tables organizationId year reportingCurrency).foldl foldRow []) :
    RowCounts tables year reportingCurrency mapping (acc.reportRow mapping) where
  oneAllocation := nodup_allocations _
  boxAmounts := boxAmounts_reportRow member mapping
  boxCounts := boxCounts_reportRow member mapping
  cardPaid := cardPaid_reportRow member mapping
  cardPaymentCount := cardPaymentCount_reportRow member mapping
  unconvertedPaymentCount := unconverted_reportRow member mapping
  ytdPaid := (sum_allocateBoxes acc.buckets).1
  paymentCount := (sum_allocateBoxes acc.buckets).2
  forms := forms_reportRow mapping acc

end Rows

section Summary

/-- The totals over the rows are what the rows hold together. -/
theorem sum_aggregate (rows : List VendorReportRow) :
    ((aggregateBoxAllocations rows).map (·.amount)).sum = ((rows.flatMap (·.boxAllocations)).map (·.amount)).sum := by
  have fold : ∀ (allocations : List BoxAllocation) (totals : BoxTotals) (box : Box),
      ((allocations.foldl (fun totals allocation =>
          totals.add allocation.box allocation.amount allocation.paymentCount allocation.fallback) totals box).map (·.amount)).getD 0 =
        ((totals box).map (·.amount)).getD 0 + amountIn allocations box := by
    intro allocations
    induction allocations with
    | nil =>
      intro totals box
      exact (add_zero _).symm
    | cons allocation rest ih =>
      intro totals box
      rw [List.foldl_cons, ih, (add_at ..).1, add_assoc]
      congr 1
      by_cases here : allocation.box = box
      · rw [if_pos here, amountIn, amountIn, List.filter_cons_of_pos (by simpa using here), List.map_cons, List.sum_cons]
      · rw [if_neg here, amountIn, amountIn, List.filter_cons_of_neg (by simpa using here), zero_add]
  rw [← sum_boxes (aggregateBoxAllocations rows), ← sum_boxes (rows.flatMap (·.boxAllocations))]
  refine congrArg List.sum (List.map_congr_left fun box _ => ?_)
  have one := fold (rows.flatMap (·.boxAllocations)) .empty box
  rw [show ((BoxTotals.empty box).map (·.amount)).getD 0 = 0 from rfl, zero_add] at one
  exact (amountIn_allocations _ box).trans one

variable (collation : GroupedRow → GroupedRow → Bool) (tables : TaxTables) (organizationId : String) (year : Nat)
  (reportingCurrency : String)

theorem rows_build1099Report (orgSettings : Json) :
    (build1099Report collation tables organizationId year reportingCurrency orgSettings).rows =
      ((queryResult collation tables organizationId year reportingCurrency).foldl foldRow []).map
        (·.reportRow (resolveBoxMapping orgSettings)) := rfl

theorem totalReportable_eq (orgSettings : Json) :
    ((build1099Report collation tables organizationId year reportingCurrency orgSettings).summary.boxAllocations.map (·.amount)).sum =
      (build1099Report collation tables organizationId year reportingCurrency orgSettings).summary.totalReportable := by
  simp only [Report1099.summary]
  rw [sum_aggregate, Sql.sum_flatMap]
  refine congrArg List.sum (List.map_congr_left fun row member => ?_)
  rw [rows_build1099Report] at member
  obtain ⟨acc, folded, rfl⟩ := List.mem_map.mp (List.mem_of_mem_filter member)
  exact (rowCounts_reportRow _ folded).ytdPaid

theorem residual_eq (orgSettings : Json) :
    (build1099Report collation tables organizationId year reportingCurrency orgSettings).summary.boxUnallocated = 0 :=
  sub_eq_zero.mpr (totalReportable_eq collation tables organizationId year reportingCurrency orgSettings).symm

theorem reconciled_eq (orgSettings : Json) :
    (build1099Report collation tables organizationId year reportingCurrency orgSettings).summary.boxAllocationReconciled = true :=
  beq_iff_eq.mpr (residual_eq collation tables organizationId year reportingCurrency orgSettings)

theorem reportRow_withoutBoxes (acc : VendorFold) (mapping other : BoxMapping) :
    (acc.reportRow mapping).withoutBoxes = (acc.reportRow other).withoutBoxes := rfl

/-- The mapping has a say in the split over the boxes only. -/
theorem rows_withoutBoxes (orgSettings other : Json) :
    (build1099Report collation tables organizationId year reportingCurrency orgSettings).rows.map (·.withoutBoxes) =
      (build1099Report collation tables organizationId year reportingCurrency other).rows.map (·.withoutBoxes) := by
  rw [rows_build1099Report, rows_build1099Report, List.map_map, List.map_map]
  exact List.map_congr_left fun acc _ => reportRow_withoutBoxes acc _ _

/-- Apart from its boxes a summary can be told from the rows without theirs. -/
theorem summary_of_rows (report : Report1099) (residual : report.summary.boxUnallocated = 0)
    (reconciled : report.summary.boxAllocationReconciled = true) : report.summary.withoutBoxes =
      { ({ report with rows := report.rows.map (·.withoutBoxes) } : Report1099).summary.withoutBoxes with
        boxUnallocated := 0, boxAllocationReconciled := true } := by
  rw [ReportSummary.withoutBoxes, residual, reconciled]
  simp only [Report1099.summary, ReportSummary.withoutBoxes, List.filter_map, List.map_map, List.length_map]
  rfl

theorem summary_withoutBoxes (orgSettings other : Json) :
    (build1099Report collation tables organizationId year reportingCurrency orgSettings).summary.withoutBoxes =
      (build1099Report collation tables organizationId year reportingCurrency other).summary.withoutBoxes := by
  have residual := residual_eq collation tables organizationId year reportingCurrency
  have reconciled := reconciled_eq collation tables organizationId year reportingCurrency
  have rows := rows_withoutBoxes collation tables organizationId year reportingCurrency orgSettings other
  rw [summary_of_rows _ (residual orgSettings) (reconciled orgSettings), summary_of_rows _ (residual other) (reconciled other), rows]
  rfl

theorem perm_vendorIds (orgSettings : Json) :
    ((build1099Report collation tables organizationId year reportingCurrency orgSettings).rows.map (·.vendorId)).Perm
      ((tables.vendors.filter fun vendor => vendor.organizationId = organizationId).map (·.id)) := by
  have folded := folded_foldl (queryResult collation tables organizationId year reportingCurrency)
  have own : tables.vendorsOf organizationId = tables.vendors.filter fun vendor => vendor.organizationId = organizationId :=
    List.filter_congr fun vendor _ => by simp [Sql.holds_eq]
  have keys : ((tables.vendorsOf organizationId).map (·.id)).Nodup :=
    List.Nodup.sublist (List.filter_sublist.map _) tables.vendorKeys
  rw [rows_build1099Report, List.map_map, ← own]
  refine (List.perm_ext_iff_of_nodup folded.nodup keys).mpr fun id => ?_
  constructor
  · intro member
    obtain ⟨acc, inFold, rfl⟩ := List.mem_map.mp member
    exact List.mem_map.mpr ⟨acc.first.vendor, vendor_acc inFold, rfl⟩
  · intro member
    obtain ⟨vendor, inVendors, rfl⟩ := List.mem_map.mp member
    obtain ⟨row, inResult, rfl⟩ := vendor_queryResult.mpr inVendors
    exact folded.complete row inResult

end Summary

/-- Each payment of the year on an invoice of a vendor of the organisation is counted once, on the row of that vendor,
in one place; the boxes add up; and the mapping decides on no more than the boxes. -/
structure ReportCounts (tables : TaxTables) (organizationId : String) (year : Nat) (reportingCurrency : String)
    (report : Json → Report1099) (orgSettings : Json) : Prop where
  paid : ∀ vendorId paid, paid ∈ tables.paidTo year vendorId ↔
    paid.2 ∈ tables.payments ∧ paid.2.completedIn year = true ∧ paid.1 ∈ tables.invoices ∧
      paid.1.id = paid.2.invoiceId ∧ paid.1.vendorId = some vendorId
  once : ∀ vendorId, ((tables.paidTo year vendorId).map (·.2.id)).Nodup
  oneRowEach : ((report orgSettings).rows.map (·.vendorId)).Perm
    ((tables.vendors.filter fun vendor => vendor.organizationId = organizationId).map (·.id))
  rows : ∀ row ∈ (report orgSettings).rows, RowCounts tables year reportingCurrency (resolveBoxMapping orgSettings) row
  boxTotals : ((report orgSettings).summary.boxAllocations.map (·.amount)).sum = (report orgSettings).summary.totalReportable
  residual : (report orgSettings).summary.boxUnallocated = 0
  reconciled : (report orgSettings).summary.boxAllocationReconciled = true
  mappingFreeRows : ∀ other, (report orgSettings).rows.map (·.withoutBoxes) = (report other).rows.map (·.withoutBoxes)
  mappingFreeSummary : ∀ other, (report orgSettings).summary.withoutBoxes = (report other).summary.withoutBoxes

theorem report_counts_once (collation : GroupedRow → GroupedRow → Bool) (tables : TaxTables) (organizationId : String) (year : Nat)
    (reportingCurrency : String) (orgSettings : Json) :
    ReportCounts tables organizationId year reportingCurrency
      (build1099Report collation tables organizationId year reportingCurrency) orgSettings where
  paid _ _ := mem_paidTo
  once := nodup_paidTo
  oneRowEach := perm_vendorIds collation tables organizationId year reportingCurrency orgSettings
  rows := by
    intro row member
    rw [rows_build1099Report] at member
    obtain ⟨acc, folded, rfl⟩ := List.mem_map.mp member
    exact rowCounts_reportRow _ folded
  boxTotals := totalReportable_eq collation tables organizationId year reportingCurrency orgSettings
  residual := residual_eq collation tables organizationId year reportingCurrency orgSettings
  reconciled := reconciled_eq collation tables organizationId year reportingCurrency orgSettings
  mappingFreeRows := rows_withoutBoxes collation tables organizationId year reportingCurrency orgSettings
  mappingFreeSummary := summary_withoutBoxes collation tables organizationId year reportingCurrency orgSettings

section Landlord

/-- A landlord paid 700 in March 2025 on an invoice with account 6010. -/
def landlordTables : TaxTables where
  vendors := [⟨"v-1", "org-1", "Landlord", none, none, true, none, none, none⟩]
  invoices := [⟨1, some "v-1", "USD", some "6010"⟩]
  payments := [⟨1, 1, 700, some "ach", .completed, CalendarDate.of? 2025 3 14, none, none⟩]
  vendorKeys := List.nodup_singleton _
  invoiceKeys := List.nodup_singleton _
  paymentKeys := List.nodup_singleton _

/-- The settings with one rule, for the rents. -/
def rentRule : Json :=
  .object [("tax", .object [("boxes", .object [("gl_accounts", .object [("6010", .str "MISC-1")])])])]

/-- The total of what no rule matches is a total that the mapping changes. -/
theorem total_unmapped_depends_on_mapping :
    (build1099Report (fun _ _ => true) landlordTables "org-1" 2025 "USD" .null).summary.totalUnmapped = 700 ∧
      (build1099Report (fun _ _ => true) landlordTables "org-1" 2025 "USD" rentRule).summary.totalUnmapped = 0 := by
  have total : ∀ report : Report1099, report.summary.totalUnmapped =
      ((report.rows.filter fun row => row.is1099Eligible && row.overThreshold).map (·.unmappedPaid)).sum := fun _ => rfl
  rw [total, total]
  constructor <;> decide +kernel

end Landlord

end Payables.Tax
