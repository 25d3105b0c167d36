import Payables.Payments.PositivePay

namespace Payables
open Lib

section Lines

variable {item : CheckIssueItem} {line : List Char}

theorem lid_eq_ok {value field : String} {width : Nat} {column : List Char} :
    lid value width field = .ok column ↔ value.toList.length ≤ width ∧ leftJustify ' ' width value.toList = column := by
  rw [lid]
  by_cases wide : width < value.toList.length
  · rw [if_pos wide]
    exact iff_of_false (by simp) fun fits => absurd fits.1 (not_le.mpr wide)
  · rw [if_neg wide, Except.ok.injEq]
    exact (and_iff_right (not_lt.mp wide)).symm

theorem length_ltext (value : String) (width : Nat) : (ltext value width).length = width :=
  length_leftJustify (List.length_take_le _ _)

/-- An amount that is rendered fills its column, and its magnitude is read back. -/
theorem amountCents_eq_ok {amount : Decimal} {width : Nat} {field : String} {column : List Char}
    (rendered : amountCents amount width field = .ok column) : ∃ value, amount = .finite value ∧ column.length = width ∧
      column ≠ [] ∧ digitRun? column = some (amountInCents value).natAbs := by
  cases amount with
  | finite value =>
    simp only [amountCents] at rendered
    split_ifs at rendered with huge wide
    have same := Except.ok.inj rendered
    have digits : Nat.toDigits 10 (amountInCents value).natAbs ≠ [] := Nat.toDigits_ne_nil
    have nonempty : column ≠ [] := by
      rw [← same, rightJustify]
      exact fun empty => digits (List.append_eq_nil_iff.mp empty).2
    refine ⟨value, rfl, ?_, nonempty, ?_⟩
    · rw [← same]
      exact length_rightJustify (not_lt.mp wide)
    · have all : column.all Char.isDigit = true := by
        rw [List.all_eq_true, ← same]
        intro c member
        rcases List.mem_append.mp member with zero | digit
        · rw [(List.mem_replicate.mp zero).2]
          decide
        · exact Nat.isDigit_of_mem_toDigits (by decide) (by decide) digit
      rw [digitRun?, if_pos ⟨nonempty, all⟩, ← same, rightJustify, Nat.ofDigitChars_append, Nat.ofDigitChars_replicate_zero,
        Nat.mul_zero, Nat.ofDigitChars_toDigits (by decide) (by decide)]
  | infinite negative => cases rendered
  | nan => cases rendered

theorem length_basicDate (date : CalendarDate) : (basicDate date).length = 8 := by
  simp only [basicDate, List.length_append, padded_length]

/-- The date fills its column. -/
theorem leftJustify_basicDate (date : CalendarDate) : leftJustify ' ' 8 ((basicDate date).take 8) = basicDate date := by
  have length := length_basicDate date
  rw [List.take_of_length_le length.le, leftJustify, length, Nat.sub_self, List.replicate_zero, List.append_nil]

/-- What a record says of the cheque: its texts without the spaces behind them, at most 40 characters of the payee, and the
magnitude of the amount in cents. -/
def CheckIssueItem.asWritten (item : CheckIssueItem) : Option DecodedCheck :=
  match item.amount with
  | .finite value => some ⟨unpadded item.checkNumber.toList, unpadded (item.payee.toList.take 40), (amountInCents value).natAbs,
      item.issueDate, unpadded item.accountNumber.toList⟩
  | _ => none

/-- A record has the width of the layout, and its columns say what the cheque says. -/
theorem checkIssueLine_decodes (rendered : checkIssueLine item = .ok line) :
    line.length = 89 ∧ decodeCheck line = item.asWritten := by
  rw [checkIssueLine] at rendered
  cases number : lid item.checkNumber 10 "check_number" with
  | error raised => simp [number, bind, Except.bind] at rendered
  | ok checkNumber =>
    cases amount : amountCents item.amount 14 "amount" with
    | error raised => simp [number, amount, bind, Except.bind] at rendered
    | ok cents =>
      cases account : lid item.accountNumber 17 "account_number" with
      | error raised => simp [number, amount, account, bind, Except.bind] at rendered
      | ok accountNumber =>
        simp only [number, amount, account, bind, Except.bind, pure, Except.pure, Except.ok.injEq,
          leftJustify_basicDate] at rendered
        obtain ⟨numberFits, rfl⟩ := lid_eq_ok.mp number
        obtain ⟨accountFits, rfl⟩ := lid_eq_ok.mp account
        obtain ⟨value, finite, amountWidth, -, read⟩ := amountCents_eq_ok amount
        have widths : [leftJustify ' ' 10 item.checkNumber.toList, ltext item.payee 40, cents, basicDate item.issueDate,
            leftJustify ' ' 17 item.accountNumber.toList].map List.length = checkIssueWidths := by
          simp only [List.map_cons, List.map_nil, length_leftJustify numberFits, length_leftJustify accountFits, length_ltext,
            amountWidth, length_basicDate, checkIssueWidths]
        constructor
        · rw [← rendered, List.length_flatten, widths]
          rfl
        · have columns := cutColumns_flatten [leftJustify ' ' 10 item.checkNumber.toList, ltext item.payee 40, cents,
            basicDate item.issueDate, leftJustify ' ' 17 item.accountNumber.toList]
          rw [widths, rendered] at columns
          simp only [decodeCheck, columns, read, (basicDate?_basicDate item.issueDate).2, Option.bind_eq_bind, Option.bind_some,
            unpadded, rdropWhile_leftJustify, ltext, CheckIssueItem.asWritten, finite, Option.pure_def]

end Lines

section Files

variable {ι : Type} {render : ι → Except RenderError (List Char)} {items : List ι} {lines : List (List Char)}

theorem joinLines_eq (lines : List (List Char)) : joinLines lines = framed '\r' '\n' lines :=
  (framed_eq_intercalate '\r' '\n' lines).symm

/-- Every line of a file is rendered from its item. -/
theorem mapM_eq_ok (rendered : items.mapM render = .ok lines) : List.Forall₂ (fun item line => render item = .ok line) items lines := by
  induction items generalizing lines with
  | nil =>
    rw [List.mapM_nil] at rendered
    cases rendered
    exact .nil
  | cons item items ih =>
    rw [List.mapM_cons] at rendered
    cases first : render item with
    | error raised => simp [first, bind, Except.bind] at rendered
    | ok line =>
      cases rest : items.mapM render with
      | error raised => simp [first, rest, bind, Except.bind] at rendered
      | ok others =>
        simp only [first, rest, bind, Except.bind, pure, Except.pure, Except.ok.injEq] at rendered
        rw [← rendered]
        exact .cons first (ih rest)

theorem exists_item (rendered : List.Forall₂ (fun item line => render item = .ok line) items lines) {line : List Char}
    (member : line ∈ lines) : ∃ item ∈ items, render item = .ok line := by
  induction rendered with
  | nil => cases member
  | @cons item first items lines made _ ih =>
    rcases List.mem_cons.mp member with rfl | later
    · exact ⟨item, List.mem_cons_self, made⟩
    · obtain ⟨other, source, rendered⟩ := ih later
      exact ⟨other, List.mem_cons_of_mem _ source, rendered⟩

/-- The records of a file are its lines, unless one of them has a line break in it. -/
theorem fileRecords_joinLines (whole : ∀ line ∈ lines, ¬['\r', '\n'] <:+: line) : fileRecords (joinLines lines) = lines := by
  rw [fileRecords, joinLines_eq, cutAtPairs_framed (by decide) whole, List.dropLast_concat]

end Files

/-- A record of an authorised debit has the width of its layout, and its columns hold the identifiers whole. -/
theorem achAuthorizationLine_columns {item : AchAuthorizationItem} {line : List Char}
    (rendered : achAuthorizationLine item = .ok line) : line.length = 80 ∧ cutColumns [40, 9, 17, 14] line =
      [ltext item.vendorName 40, leftJustify ' ' 9 item.routingNumber.toList, leftJustify ' ' 17 item.accountNumber.toList,
        ltext item.status 14] := by
  rw [achAuthorizationLine] at rendered
  cases routing : lid item.routingNumber 9 "routing_number" with
  | error raised => simp [routing, bind, Except.bind] at rendered
  | ok routingNumber =>
    cases account : lid item.accountNumber 17 "account_number" with
    | error raised => simp [routing, account, bind, Except.bind] at rendered
    | ok accountNumber =>
      simp only [routing, account, bind, Except.bind, pure, Except.pure, Except.ok.injEq] at rendered
      obtain ⟨routingFits, rfl⟩ := lid_eq_ok.mp routing
      obtain ⟨accountFits, rfl⟩ := lid_eq_ok.mp account
      have widths : [ltext item.vendorName 40, leftJustify ' ' 9 item.routingNumber.toList,
          leftJustify ' ' 17 item.accountNumber.toList, ltext item.status 14].map List.length = [40, 9, 17, 14] := by
        simp only [List.map_cons, List.map_nil, length_leftJustify routingFits, length_leftJustify accountFits, length_ltext]
      have columns := cutColumns_flatten [ltext item.vendorName 40, leftJustify ' ' 9 item.routingNumber.toList,
        leftJustify ' ' 17 item.accountNumber.toList, ltext item.status 14]
      rw [widths] at columns
      constructor
      · rw [← rendered, List.length_flatten, widths]
        rfl
      · rw [← rendered, columns]

/-- An accepted file is made of the records of its items. -/
theorem formatCheckIssue_eq_ok {items : List CheckIssueItem} {file : List Char} (accepted : formatCheckIssue items = .ok file) :
    ∃ lines, List.Forall₂ (fun item line => checkIssueLine item = .ok line) items lines ∧ joinLines lines = file := by
  rw [formatCheckIssue] at accepted
  cases rendered : items.mapM checkIssueLine with
  | error raised =>
    rw [rendered] at accepted
    cases accepted
  | ok lines =>
    rw [rendered] at accepted
    exact ⟨lines, mapM_eq_ok rendered, Except.ok.inj accepted⟩

theorem lines_decode {items : List CheckIssueItem} {lines : List (List Char)}
    (rendered : List.Forall₂ (fun item line => checkIssueLine item = .ok line) items lines) :
    lines.length = items.length ∧ (∀ line ∈ lines, line.length = 89) ∧
      lines.map decodeCheck = items.map CheckIssueItem.asWritten := by
  induction rendered with
  | nil => exact ⟨rfl, by simp, rfl⟩
  | @cons item line items lines first _ ih =>
    obtain ⟨width, decoded⟩ := checkIssueLine_decodes first
    obtain ⟨length, widths, all⟩ := ih
    exact ⟨by rw [List.length_cons, List.length_cons, length], List.forall_mem_cons.mpr ⟨width, widths⟩,
      by rw [List.map_cons, List.map_cons, decoded, all]⟩

/-- A file of issued cheques, none of whose records has a line break in it, has one record for each cheque, every record has
the width of the layout, and its columns say what the cheque says. -/
theorem check_file_decodes (items : List CheckIssueItem) (file : List Char) (accepted : formatCheckIssue items = .ok file)
    (whole : ∀ item ∈ items, ∀ line, checkIssueLine item = .ok line → ¬['\r', '\n'] <:+: line) :
    (fileRecords file).length = items.length ∧ (∀ record ∈ fileRecords file, record.length = 89) ∧
      (fileRecords file).map decodeCheck = items.map CheckIssueItem.asWritten := by
  obtain ⟨lines, rendered, rfl⟩ := formatCheckIssue_eq_ok accepted
  have unbroken : ∀ line ∈ lines, ¬['\r', '\n'] <:+: line := by
    intro line member
    obtain ⟨item, source, made⟩ := exists_item rendered member
    exact whole item source line made
  rw [fileRecords_joinLines unbroken]
  exact lines_decode rendered

/-- Cheque 7, of one day and one account. -/
def chequeSeven (number payee : String) (amount : ℤ) : CheckIssueItem :=
  ⟨number, payee, .finite amount, (CalendarDate.of? 2026 6 17).get (by decide), "12345678"⟩

theorem amountInCents_intCast (n : ℤ) : amountInCents n = n * 100 := by
  have whole := roundHalfEven_intCast (n * 100)
  push_cast at whole
  exact whole

/-- The record of cheque 7 over five units of money, owed either way. -/
def recordSeven (payee : String) : List Char :=
  ["7         ".toList, ltext payee 40, "00000000000500".toList, "20260617".toList, "12345678         ".toList].flatten

theorem checkIssueLine_seven {number : String} (seven : lid number 10 "check_number" = .ok "7         ".toList) (payee : String)
    {amount : ℤ} (five : amount.natAbs = 5) : checkIssueLine (chequeSeven number payee amount) = .ok (recordSeven payee) := by
  have cents : amountCents (.finite amount) 14 "amount" = .ok "00000000000500".toList := by
    rw [amountCents]
    simp only [amountInCents_intCast, Int.natAbs_mul, five]
    decide
  have account : lid "12345678" 17 "account_number" = .ok "12345678         ".toList := by decide
  have date : leftJustify ' ' 8 ((basicDate ((CalendarDate.of? 2026 6 17).get (by decide))).take 8) = "20260617".toList := by
    decide
  simp only [checkIssueLine, chequeSeven, seven, cents, account, date]
  rfl

theorem formatCheckIssue_seven {number : String} (seven : lid number 10 "check_number" = .ok "7         ".toList)
    (payee : String) {amount : ℤ} (five : amount.natAbs = 5) :
    formatCheckIssue [chequeSeven number payee amount] = .ok (joinLines [recordSeven payee]) := by
  rw [formatCheckIssue, List.mapM_cons, checkIssueLine_seven seven payee five, List.mapM_nil]
  rfl

theorem seven_decodes : (fileRecords (joinLines [recordSeven "Globex"])).length = 1 ∧
    (∀ record ∈ fileRecords (joinLines [recordSeven "Globex"]), record.length = 89) ∧
      (fileRecords (joinLines [recordSeven "Globex"])).map decodeCheck =
        [chequeSeven "7" "Globex" 5].map CheckIssueItem.asWritten := by
  refine check_file_decodes [chequeSeven "7" "Globex" 5] _ (formatCheckIssue_seven (by decide) "Globex" rfl) ?_
  intro item member line rendered
  rw [List.mem_singleton.mp member, checkIssueLine_seven (by decide) "Globex" rfl, Except.ok.injEq] at rendered
  rw [← rendered]
  intro broken
  have member : '\r' ∈ recordSeven "Globex" := broken.subset List.mem_cons_self
  have free : (recordSeven "Globex").all (· != '\r') = true := by decide
  exact absurd (List.all_eq_true.mp free _ member) (by decide)

/-- A line break in the payee makes two records of one cheque, the sign of an amount is lost, and so are the end of a long
payee and a space at the end of a check number. -/
theorem check_file_misread :
    (¬∀ (items : List CheckIssueItem) (file : List Char), formatCheckIssue items = .ok file →
      (fileRecords file).length = items.length) ∧
    (¬∀ (items : List CheckIssueItem) (file : List Char), formatCheckIssue items = .ok file →
      ∀ read ∈ ((fileRecords file).map decodeCheck).zip items, ∀ check ∈ read.1, ∀ value,
        read.2.amount = .finite value → (check.cents : ℤ) = amountInCents value) ∧
    (¬∀ (items : List CheckIssueItem) (file : List Char), formatCheckIssue items = .ok file →
      ∀ read ∈ ((fileRecords file).map decodeCheck).zip items, ∀ check ∈ read.1, check.payee = read.2.payee.toList) ∧
    ¬∀ (items : List CheckIssueItem) (file : List Char), formatCheckIssue items = .ok file →
      ∀ read ∈ ((fileRecords file).map decodeCheck).zip items, ∀ check ∈ read.1,
        check.checkNumber = read.2.checkNumber.toList := by
  have five : (5 : ℤ).natAbs = 5 ∧ (-5 : ℤ).natAbs = 5 := ⟨rfl, rfl⟩
  have seven : lid "7" 10 "check_number" = .ok "7         ".toList ∧ lid "7 " 10 "check_number" = .ok "7         ".toList := by
    decide
  have decoded : (fileRecords (joinLines [recordSeven "Globex"])).map decodeCheck = [some ⟨"7".toList, "Globex".toList, 500,
      (CalendarDate.of? 2026 6 17).get (by decide), "12345678".toList⟩] := by decide
  refine ⟨?_, ?_, ?_, ?_⟩
  · intro one
    have found := one _ _ (formatCheckIssue_seven seven.1 "Globex\r\nInc" five.1)
    exact absurd found (by decide)
  · intro signed
    have found := signed _ _ (formatCheckIssue_seven seven.1 "Globex" five.2)
    rw [decoded] at found
    have cents := found _ (List.mem_singleton_self _) _ rfl _ rfl
    rw [amountInCents_intCast] at cents
    exact absurd cents (by decide)
  · intro whole
    have decoded : (fileRecords (joinLines [recordSeven "The Company Of The Very Long Name, Limited"])).map decodeCheck =
        [some ⟨"7".toList, "The Company Of The Very Long Name, Limit".toList, 500,
          (CalendarDate.of? 2026 6 17).get (by decide), "12345678".toList⟩] := by decide
    have found := whole _ _ (formatCheckIssue_seven seven.1 "The Company Of The Very Long Name, Limited" five.1)
    rw [decoded] at found
    have payee := found _ (List.mem_singleton_self _) _ rfl
    exact absurd (congrArg List.length payee) (by decide)
  · intro whole
    have found := whole _ _ (formatCheckIssue_seven seven.2 "Globex" five.1)
    rw [decoded] at found
    have number := found _ (List.mem_singleton_self _) _ rfl
    exact absurd (congrArg List.length number) (by decide)

end Payables
