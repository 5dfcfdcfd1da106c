import Reckoner.Proofs.Diagnostic.Lines
import Reckoner.Proofs.Evaluation.Arithmetic

/-! # Where mistakes are marked

A parser only passes digits and operators, and none of them ends a line. So it never gets past the
first line break of its source: what it refuses begins on the first line or where that line ends, and
a source with a line break is never evaluated. Messages quote what they show, so they have no line
breaks either. Hence the caret of a diagnostic stands where the mistake was found, below the line
that it was found on (`diagnostic_marks_first_line`).
-/

namespace Reckoner

/-- No line break is a digit. -/
theorem isLineBreak_of_isDigit {c : Char} (digit : Decimal.isDigit c = true) : Text.isLineBreak c = false := by
  rw [Text.isLineBreak, List.contains_eq_mem, decide_eq_false_iff_not]
  intro lineBreak
  simp only [List.mem_cons, List.not_mem_nil, or_false] at lineBreak
  rcases lineBreak with rfl | rfl | rfl | rfl | rfl | rfl | rfl | rfl | rfl | rfl <;> cases digit

theorem isLineBreak_of_isPartChar {c : Char} (part : IsPartChar c) : Text.isLineBreak c = false := by
  rcases part with digit | ⟨operator, rfl⟩
  · exact isLineBreak_of_isDigit digit
  · cases operator <;> rfl

namespace Lexer.Passes

variable {source : String} {place : Lexer}

/-- What is passed is part of one line. -/
theorem exists_oneLine (passed : (Lexer.ofString source).Passes place) :
    ∃ known, source.toList = known ++ place.rest ∧ place.index = known.length ∧ Text.OneLine known := by
  obtain ⟨known, text, index, parts⟩ := passed.exists_text
  exact ⟨known, text, index.trans (Nat.zero_add _), fun c member => isLineBreak_of_isPartChar (parts c member)⟩

theorem index_le_firstLine (passed : (Lexer.ofString source).Passes place) :
    place.index ≤ (Text.firstLine source.toList).length := by
  obtain ⟨known, text, index, plain⟩ := passed.exists_oneLine
  rw [text, index]
  exact plain.length_le_firstLine place.rest

end Lexer.Passes

/-- No source with a line break is accepted. -/
theorem oneLine_of_parse {source : String} {tree : Expr} (accepted : parse source = .ok tree) :
    Text.OneLine source.toList := by
  obtain ⟨place, passed, ended⟩ := exists_end_of_parse accepted
  obtain ⟨known, text, _, plain⟩ := passed.exists_oneLine
  rw [text, ended, List.append_nil]
  exact plain

/-- Messages quote the tokens that they show. -/
theorem ParseError.oneLine_message (error : ParseError) : Text.OneLine error.message.toList := by
  have label : Text.OneLine error.token.label.toList := by
    rw [Token.label]
    split
    · decide
    · exact Text.oneLine_quote _
  have before (words : String) (plain : Text.OneLine words.toList) :
      Text.OneLine (words ++ error.token.label).toList := by
    rw [String.toList_append]
    exact plain.append label
  rw [message]
  split
  · decide
  · exact before _ (by decide)
  · rw [String.toList_append]
    exact (before _ (by decide)).append (by decide)
  · exact before _ (by decide)
  · decide

/-- A mistake that is marked on the first line of a source or where that line ends. -/
structure Diagnostic.Marks (source : String) (diagnostic : Diagnostic) : Prop where
  own : diagnostic.source = some source
  nonneg : 0 ≤ diagnostic.location
  inside : diagnostic.location ≤ (Text.firstLine source.toList).length
  plain : Text.OneLine diagnostic.message.toList

variable {source : String}

theorem marks_of_parse {error : ParseError} (refused : parse source = .error error) :
    error.diagnostic.Marks source := by
  obtain ⟨place, passed, named, own, _⟩ := exists_place_of_parse refused
  have location : error.diagnostic.location = place.index := by
    rw [ParseError.diagnostic, named, place.location_next]
  refine ⟨congrArg some own, ?_, ?_, error.oneLine_message⟩ <;> rw [location]
  · exact Int.natCast_nonneg _
  · exact Int.ofNat_le.mpr passed.index_le_firstLine

theorem marks_of_evaluate {error : CalcError} {diagnostic : Diagnostic}
    (failed : evaluate source = .error error) (shown : error.diagnostic? = some diagnostic) :
    diagnostic.Marks source := by
  rcases fault_of_evaluate failed with ⟨refusal, refused, rfl⟩ | ⟨tree, accepted, index, slash, rfl⟩
  · cases shown
    exact marks_of_parse refused
  · cases shown
    have inside : index < source.toList.length := (List.getElem?_eq_some_iff.mp slash).1
    have plain : Text.OneLine "division by zero".toList := by decide
    refine ⟨rfl, Int.natCast_nonneg _, ?_, plain⟩
    rw [(oneLine_of_parse accepted).firstLine_eq]
    exact Int.ofNat_le.mpr inside.le

/-- The mistakes that the author of a source is told about, when it is read or evaluated. -/
inductive Reported (source : String) : Diagnostic → Prop
  | parse {error : ParseError} (refused : parse source = .error error) : Reported source error.diagnostic
  | evaluate {error : CalcError} {diagnostic : Diagnostic} (failed : evaluate source = .error error)
      (shown : error.diagnostic? = some diagnostic) : Reported source diagnostic

/-- Every mistake, too deep nesting included, is marked at its own column below the first line of the
source, and what is said about it are exactly two lines: that first line, and the caret with the
message. -/
theorem diagnostic_marks_first_line {diagnostic : Diagnostic} (reported : Reported source diagnostic) :
    diagnostic.source = some source ∧
      0 ≤ diagnostic.location ∧
      diagnostic.location ≤ (Text.firstLine source.toList).length ∧
      caretColumn (Text.firstLine source.toList).length diagnostic.location = diagnostic.location ∧
      diagnostic.text.toList = Text.firstLine source.toList ++ '\n' ::
        caretLine diagnostic.location.toNat diagnostic.message ∧
      Text.splitLines diagnostic.text.toList =
        [(Text.splitLines source.toList).headD [], caretLine diagnostic.location.toNat diagnostic.message] := by
  have marks : diagnostic.Marks source := by
    cases reported with
    | parse refused => exact marks_of_parse refused
    | evaluate failed shown => exact marks_of_evaluate failed shown
  obtain ⟨own, nonneg, inside, plain⟩ := marks
  have column : caretColumn (Text.firstLine source.toList).length diagnostic.location =
      diagnostic.location.toNat := by
    rw [caretColumn]
    omega
  have text := Diagnostic.toList_text own plain
  have lines := Diagnostic.splitLines_text own plain
  rw [column] at text lines
  rw [← Text.headD_splitLines] at lines
  exact ⟨own, nonneg, inside, by omega, text, lines⟩

theorem diagnostic_marks_first_line_separator :
    Reported "1+\u2028/0" ⟨"no prefix parse rule for '\\u2028'", some "1+\u2028/0", 2⟩ ∧
      Text.splitLines (Diagnostic.text ⟨"no prefix parse rule for '\\u2028'", some "1+\u2028/0", 2⟩).toList =
        ["1+".toList, "  ^ no prefix parse rule for '\\u2028'".toList] ∧
      Reported "8/0" ⟨"division by zero", some "8/0", 1⟩ ∧
      Text.splitLines (Diagnostic.text ⟨"division by zero", some "8/0", 1⟩).toList =
        ["8/0".toList, " ^ division by zero".toList] := by
  have refused : parse "1+\u2028/0" =
      .error ⟨.noExpression, ⟨.illegal, "\u2028", 2⟩, "1+\u2028/0"⟩ := by decide +kernel
  have failed : evaluate "8/0" = .error (.eval (.divisionByZero (some "8/0") 1)) := by decide +kernel
  have shown : ParseError.diagnostic ⟨.noExpression, ⟨.illegal, "\u2028", 2⟩, "1+\u2028/0"⟩ =
      ⟨"no prefix parse rule for '\\u2028'", some "1+\u2028/0", 2⟩ := by decide +kernel
  have separator : Reported "1+\u2028/0" ⟨"no prefix parse rule for '\\u2028'", some "1+\u2028/0", 2⟩ :=
    shown ▸ .parse refused
  have quotient : Reported "8/0" ⟨"division by zero", some "8/0", 1⟩ := .evaluate failed rfl
  obtain ⟨_, _, _, _, _, separated⟩ := diagnostic_marks_first_line separator
  obtain ⟨_, _, _, _, _, divided⟩ := diagnostic_marks_first_line quotient
  exact ⟨separator, separated, quotient, divided⟩

end Reckoner
