import Payables.Amounts.Readers

namespace Payables.Amounts
open Lib

/-- What no reader strips from a cell. -/
def isVisible (c : Char) : Bool := !isPySpace c && c != '_' && !isParenthesis c && !decorations.contains c

/-- A character with a plain minus and a plain digit. -/
def ascii (c : Char) : Char := foldDigit (if c = '−' then '-' else c)

/-- What is left of a cell when everything is stripped that some reader strips. -/
def content (text : List Char) : List Char := (text.filter isVisible).map ascii

section Content

variable {c : Char} {text : List Char}

theorem isVisible_of_digit (digit : c.isDigit = true) : isVisible c = true := by
  have visible := (plain_of_isDigit digit).2
  have parenthesis : isParenthesis c = false := by
    simp [isParenthesis, ne_of_isDigit digit (show '('.isDigit = false by decide),
      ne_of_isDigit digit (show ')'.isDigit = false by decide)]
  have free : ∀ d ∈ decorations, d.isDigit = false := by simp [decorations]
  have undecorated : c ∉ decorations := by
    intro listed
    rw [free c listed] at digit
    cases digit
  simp [isVisible, visible.1, visible.2, parenthesis, undecorated]

/-- The characters beside digits that are not visible stay what they are when digits are folded. -/
theorem foldDigit_of_invisible (hidden : isVisible c = false ∨ c = '−') : foldDigit c = c := by
  refine foldDigit_of_gap ?_
  rcases hidden with hidden | rfl
  · simp only [isVisible, Bool.and_eq_false_iff, Bool.not_eq_false', bne_eq_false_iff_eq] at hidden
    rcases hidden with ((blank | rfl) | parenthesis) | decorated
    · simp only [isPySpace, Bool.or_eq_true, Bool.and_eq_true, decide_eq_true_eq, beq_iff_eq] at blank
      omega
    · decide
    · rw [isParenthesis, Bool.or_eq_true, beq_iff_eq, beq_iff_eq] at parenthesis
      rcases parenthesis with rfl | rfl <;> decide
    · have listed : c ∈ decorations := by simpa using decorated
      simp only [decorations, List.mem_cons, List.not_mem_nil, or_false] at listed
      rcases listed with rfl | rfl | rfl | rfl | rfl | rfl | rfl | rfl | rfl | rfl | rfl | rfl | rfl | rfl | rfl <;> decide
  · decide

theorem content_append (a b : List Char) : content (a ++ b) = content a ++ content b := by
  simp only [content, List.filter_append, List.map_append]

/-- Stripping what is not visible does not change the content. -/
theorem content_strip {blank : Char → Bool} (hidden : ∀ c, blank c = true → isVisible c = false) (text : List Char) :
    content (strip blank text) = content text := by
  rw [content, filter_strip hidden, content]

theorem content_pyStrip (text : List Char) : content (pyStrip text) = content text := by
  refine content_strip ?_ text
  intro c blank
  rw [isVisible, blank]
  rfl

theorem content_stripParentheses (text : List Char) : content (stripParentheses text) = content text := by
  refine content_strip ?_ text
  intro c parenthesis
  simp [isVisible, parenthesis]

theorem content_filter {keep : Char → Bool} (kept : ∀ c, isVisible c = true → keep c = true) (text : List Char) :
    content (text.filter keep) = content text := by
  rw [content, List.filter_filter, content]
  congr 1
  refine List.filter_congr ?_
  intro c _
  by_cases visible : isVisible c = true
  · rw [visible, kept c visible, Bool.and_self]
  · rw [Bool.eq_false_iff.mpr visible, Bool.false_and]

/-- The content of a number is the text that `Decimal` reads. -/
theorem content_of_spelled {spelling : Spelling} (written : spelling.text = decimalBody text) : content text = spelling.text := by
  have numeric : ∀ c ∈ pyStrip text, isVisible c = (c != '_') ∧ ascii c = foldDigit c := by
    intro c member
    by_cases joint : c = '_'
    · rw [joint]
      exact ⟨by decide, by decide⟩
    have inside : foldDigit c ∈ spelling.text := by
      rw [written, decimalBody]
      exact List.mem_map_of_mem (List.mem_filter.mpr ⟨member, bne_iff_ne.mpr joint⟩)
    have shown : isVisible c = true ∧ c ≠ '−' := by
      by_contra hidden
      have self : foldDigit c = c := by
        refine foldDigit_of_invisible ?_
        rw [not_and_or] at hidden
        rcases hidden with invisible | minus
        · exact .inl (Bool.eq_false_iff.mpr invisible)
        · exact .inr (not_not.mp minus)
      rw [self] at inside
      refine hidden ?_
      rcases spelling.mem_text inside with digit | other
      · exact ⟨isVisible_of_digit digit, ne_of_isDigit digit (by decide)⟩
      · simp only [List.mem_cons, List.not_mem_nil, or_false] at other
        rcases other with rfl | rfl | rfl | rfl | rfl <;> decide
    exact ⟨by rw [shown.1, bne_iff_ne.mpr joint], by rw [ascii, if_neg shown.2]⟩
  rw [written, ← content_pyStrip, content, decimalBody]
  have kept : (pyStrip text).filter isVisible = (pyStrip text).filter (· != '_') :=
    List.filter_congr fun c member => (numeric c member).1
  rw [kept]
  exact List.map_congr_left fun c member => (numeric c (List.mem_of_mem_filter member)).2

theorem ascii_eq_iff {d : Char} (separator : d = ',' ∨ d = '.') : ascii c = d ↔ c = d := by
  rw [ascii]
  by_cases minus : c = '−'
  · rw [if_pos minus, minus]
    rcases separator with rfl | rfl <;> decide
  · rw [if_neg minus]
    rcases separator with rfl | rfl <;> exact foldDigit_eq_iff (by decide) (by decide)

/-- Separators are rewritten in a cell as they are in its content. -/
theorem content_rewriteAs (reading : AmountConvention) (text : List Char) :
    content (rewriteAs reading text) = rewriteAs reading (content text) := by
  have group : reading.group = ',' ∨ reading.group = '.' := by cases reading <;> simp [AmountConvention.group]
  have point : reading.point = ',' ∨ reading.point = '.' := by cases reading <;> simp [AmountConvention.point]
  have separators : isVisible ',' = true ∧ isVisible '.' = true := by decide
  have pointVisible : isVisible reading.point = true := by
    rcases point with same | same <;> rw [same]
    · exact separators.1
    · exact separators.2
  rw [rewriteAs_eq, rewriteAs_eq, content, content, List.filter_map, List.filter_map, List.map_map, List.map_map,
    List.filter_filter, List.filter_filter]
  have kept : ∀ c ∈ text, ((isVisible ∘ fun c => if c = reading.point then '.' else c) c && (c != reading.group)) =
      (((· != reading.group) ∘ ascii) c && isVisible c) := by
    intro c _
    have same : (c != reading.group) = (ascii c != reading.group) := by
      by_cases equal : c = reading.group
      · have turned := (ascii_eq_iff group).mpr equal
        rw [equal] at turned ⊢
        rw [turned]
      · rw [bne_iff_ne.mpr equal, bne_iff_ne.mpr fun turned => equal ((ascii_eq_iff group).mp turned)]
    simp only [Function.comp_apply]
    by_cases equal : c = reading.point
    · rw [if_pos equal, separators.2, ← same, equal, pointVisible, Bool.true_and, Bool.and_true]
    · rw [if_neg equal, same, Bool.and_comm]
  rw [List.filter_congr kept]
  refine List.map_congr_left ?_
  intro c _
  simp only [Function.comp_apply]
  by_cases equal : c = reading.point
  · rw [if_pos equal, if_pos ((ascii_eq_iff point).mpr equal)]
    decide
  · rw [if_neg equal, if_neg fun turned => equal ((ascii_eq_iff point).mp turned)]

theorem content_cons_minus (text : List Char) : content ('-' :: text) = '-' :: content text := rfl

end Content

/-- What a reader hands to `Decimal` from a cell. A reader that takes signs takes parentheses and a minus in front off
the cell; one that does not turns parentheses into a minus, or does not know them. -/
structure CellReading (cell : List Char) (taking minus : Bool) (reading : AmountConvention) (text : List Char) : Prop where
  handed : (if parenthesised (pyStrip cell) && !taking then ['-'] else []) ++ rewriteAs reading (content cell) =
    (if minus then ['-'] else []) ++ content text
  leaves : taking = false → minus = false

section Readers

variable {cell : List Char} {convention : Option AmountConvention}

/-- A minus in front of what is left of a cell is a part of the content. -/
theorem content_minus (body : List Char) : content body = (if body.head? == some '-' then ['-'] else []) ++
    content (if body.head? == some '-' then body.drop 1 else body) := by
  cases body with
  | nil => rfl
  | cons c rest =>
    by_cases minus : c = '-'
    · rw [minus]
      rfl
    · have other : ((c :: rest).head? == some '-') = false := by simpa using minus
      rw [other]
      rfl

/-- The reader of bank statements drops every comma. -/
theorem content_bankBody (cell : List Char) : content (bankBody (pyStrip cell)) = rewriteAs .us (content cell) := by
  have split : (stripParentheses (pyStrip cell)).filter (fun c => c != ',' && c != '$') =
      rewriteAs .us ((stripParentheses (pyStrip cell)).filter (· != '$')) := by
    rw [rewriteAs, List.filter_filter]
  have dollar : ∀ c, isVisible c = true → (c != '$') = true := by
    intro c visible
    rw [bne_iff_ne]
    rintro rfl
    exact absurd visible (by decide)
  rw [bankBody, content_pyStrip, split, content_rewriteAs, content_filter dollar, content_stripParentheses, content_pyStrip]

theorem cellReading_bank (cell : List Char) :
    CellReading cell true ((bankBody (pyStrip cell)).head? == some '-') .us
      (if (bankBody (pyStrip cell)).head? == some '-' then (bankBody (pyStrip cell)).drop 1 else bankBody (pyStrip cell)) where
  handed := by
    rw [← content_bankBody, Bool.not_true, Bool.and_false]
    exact content_minus _
  leaves := fun taking => by cases taking

theorem content_statementBody (cell : List Char) : content (statementBody (pyStrip cell)) = content cell := by
  have symbols : ∀ c, isVisible c = true → (!amountSymbols.contains c) = true := by
    intro c visible
    have all : ∀ d ∈ amountSymbols, isVisible d = false := by simp [amountSymbols, isVisible, decorations]
    by_contra listed
    have member : c ∈ amountSymbols := by simpa using listed
    rw [all c member] at visible
    cases visible
  rw [statementBody, content_pyStrip, content_filter symbols, content_stripParentheses, content_pyStrip]

theorem cellReading_statement (cell : List Char) (convention : Option AmountConvention) :
    CellReading cell true ((statementBody (pyStrip cell)).head? == some '-')
      (conventionRead (behindMinus (statementBody (pyStrip cell))) convention)
      (applyConvention (behindMinus (statementBody (pyStrip cell))) convention) where
  handed := by
    have behind : content (statementBody (pyStrip cell)) =
        (if (statementBody (pyStrip cell)).head? == some '-' then ['-'] else []) ++
          content (behindMinus (statementBody (pyStrip cell))) := by
      rw [content_minus, behindMinus]
      by_cases minus : (statementBody (pyStrip cell)).head? = some '-'
      · rw [if_pos minus, if_pos (beq_iff_eq.mpr minus), if_pos (beq_iff_eq.mpr minus), content_pyStrip]
      · rw [if_neg minus, if_neg (by simpa using minus), if_neg (by simpa using minus)]
    rw [Bool.not_true, Bool.and_false, applyConvention_eq, content_rewriteAs, ← content_statementBody, behind, rewriteAs_append,
      rewriteAs_minus]
    rfl
  leaves := fun taking => by cases taking

/-- Parentheses around a text are its first and its last character. -/
theorem exists_inner {s : List Char} (around : parenthesised s = true) :
    s = '(' :: ((s.drop 1).dropLast ++ [')']) := by
  rw [parenthesised, Bool.and_eq_true, beq_iff_eq, beq_iff_eq] at around
  cases s with
  | nil => simp at around
  | cons c rest =>
    simp only [List.head?_cons, Option.some.injEq] at around
    cases rest with
    | nil =>
      rw [List.getLast?_singleton, Option.some.injEq, around.1] at around
      exact absurd around.2 (by decide)
    | cons d others =>
      have last : (d :: others).getLast? = some ')' := by
        rw [← around.2, List.getLast?_cons_cons]
      have shape := List.dropLast_append_getLast? ')' last
      rw [around.1, List.drop_one, List.tail_cons, shape]

/-- The token of invoice extraction has the content of the cell, and a minus for parentheses. -/
theorem content_amountCore {core : List Char} (token : amountCore (some cell) = some core) :
    content core = (if parenthesised (pyStrip cell) then ['-'] else []) ++ content cell := by
  have bare (signed : List Char) :
      content ((signed.filter (!decorations.contains ·)).map fun c => if c = '−' then '-' else c) = content signed := by
    have decorated : ∀ c, isVisible c = true → (!decorations.contains c) = true := by
      intro c visible
      rw [isVisible, Bool.and_eq_true] at visible
      exact visible.2
    rw [← content_filter decorated signed]
    generalize signed.filter (!decorations.contains ·) = plain
    rw [content, content, List.filter_map, List.map_map]
    have visible : (isVisible ∘ fun c => if c = '−' then '-' else c) = isVisible := by
      funext c
      by_cases minus : c = '−'
      · rw [Function.comp_apply, if_pos minus, minus]
        decide
      · rw [Function.comp_apply, if_neg minus]
    rw [visible]
    refine List.map_congr_left ?_
    intro c _
    by_cases minus : c = '−'
    · rw [Function.comp_apply, if_pos minus, minus]
      decide
    · rw [Function.comp_apply, if_neg minus]
  have signed : content (if parenthesised (pyStrip cell) then '-' :: pyStrip ((pyStrip cell).drop 1).dropLast else pyStrip cell) =
      (if parenthesised (pyStrip cell) then ['-'] else []) ++ content cell := by
    by_cases around : parenthesised (pyStrip cell) = true
    · have inner := exists_inner around
      rw [if_pos around, if_pos around, content_cons_minus, content_pyStrip]
      have ends : content ['('] = [] ∧ content [')'] = [] := by decide
      have whole : content cell = content ((pyStrip cell).drop 1).dropLast := by
        calc content cell = content (['('] ++ (((pyStrip cell).drop 1).dropLast ++ [')'])) := by
              rw [← content_pyStrip cell]
              exact congrArg content inner
          _ = content ((pyStrip cell).drop 1).dropLast := by
              rw [content_append, content_append, ends.1, ends.2, List.nil_append, List.append_nil]
      rw [whole]
      rfl
    · rw [if_neg around, if_neg around, content_pyStrip, List.nil_append]
  have taken : ((if parenthesised (pyStrip cell) then '-' :: pyStrip ((pyStrip cell).drop 1).dropLast else pyStrip cell).filter
      (!decorations.contains ·)).map (fun c => if c = '−' then '-' else c) = core := by
    simp only [amountCore] at token
    split_ifs at token ⊢ <;> exact Option.some.inj token
  rw [← signed, ← taken]
  exact bare _

theorem cellReading_extraction {core : List Char} (token : amountCore (some cell) = some core) :
    CellReading cell false false (conventionRead core convention) (applyConvention core convention) where
  handed := by
    rw [Bool.not_false, Bool.and_true, applyConvention_eq, content_rewriteAs, content_amountCore token, rewriteAs_append,
      rewriteAs_minus]
    rfl
  leaves := fun _ => rfl

/-- The reader of imports reads no cell with parentheses. -/
theorem cellReading_csv {amount : ℚ}
    (read : columnAmount 15 (pyStrip (cell.filter fun c => c != ',' && c != '$')) = some amount) :
    CellReading cell false false .us (pyStrip (cell.filter fun c => c != ',' && c != '$')) where
  handed := by
    obtain ⟨spelling, written, -⟩ := columnAmount_eq_some.mp read
    have bare : parenthesised (pyStrip cell) = false := by
      by_contra around
      rw [Bool.not_eq_false, parenthesised, Bool.and_eq_true, beq_iff_eq] at around
      have inside : '(' ∈ cell := mem_of_mem_strip (List.mem_of_mem_head? around.1)
      have kept : '(' ∈ cell.filter fun c => c != ',' && c != '$' := List.mem_filter.mpr ⟨inside, by decide⟩
      have stripped : (pyStrip (cell.filter fun c => c != ',' && c != '$')).filter (· == '(') =
          (cell.filter fun c => c != ',' && c != '$').filter (· == '(') := by
        refine filter_strip ?_ _
        intro c blank
        rw [beq_eq_false_iff_ne]
        rintro rfl
        exact absurd blank (by decide)
      have shown : '(' ∈ pyStrip (cell.filter fun c => c != ',' && c != '$') := by
        refine List.mem_of_mem_filter (p := (· == '(')) ?_
        rw [stripped]
        exact List.mem_filter.mpr ⟨kept, beq_self_eq_true _⟩
      have text : '(' ∈ decimalBody (pyStrip (cell.filter fun c => c != ',' && c != '$')) :=
        (mem_decimalBody (by decide) (by decide) (by decide) (by decide)).mpr shown
      rw [← written] at text
      rcases spelling.mem_text text with digit | other
      · exact absurd digit (by decide)
      · exact absurd other (by decide)
    have split : cell.filter (fun c => c != ',' && c != '$') = rewriteAs .us (cell.filter (· != '$')) := by
      rw [rewriteAs, List.filter_filter]
    have dollar : ∀ c, isVisible c = true → (c != '$') = true := by
      intro c visible
      rw [bne_iff_ne]
      rintro rfl
      exact absurd visible (by decide)
    rw [bare, content_pyStrip, split, content_rewriteAs, content_filter dollar]
    rfl
  leaves := fun _ => rfl

end Readers

end Payables.Amounts
