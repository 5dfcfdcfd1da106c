import Reckoner.Proofs.Parser.Climbing

/-! # What is accepted, as which tree, and what is said of the rest

A sentence is read as its tree. Any other text is refused at the end of the longest part with which
a sentence begins: as unfinished if that part is the whole text, as going on behind a sentence if
the part is a sentence, and else for a character where an operand should be. The nesting limit
does not show as long as no run of minus signs is long.
-/

namespace Reckoner

/-- How many signs an operand may have. Two more levels of nesting are spent on a product inside a
sum, and one on the number itself. -/
def signLimit : Nat := Parser.nestingLimit - 3

theorem Sentence.signs_le_signLimit {sentence : Sentence} {text : List Char}
    (runs : MinusRunsAtMost 201 text) (inside : sentence.text <:+: text) :
    ∀ operand ∈ sentence.operands, operand.signs ≤ signLimit := by
  intro operand member
  have short := runs.signs_le ((Sentence.operand_infix member).trans inside)
  exact Nat.le_trans short (by decide)

namespace Parser

variable {source : String} {tail : List Char}

theorem parse_ofString (source : String) :
    (ofString source).parse =
      nested (signLimit + 3) Precedence.lowest.level (onto ⟨source, 0, source.toList⟩ []) := rfl

/-- Behind a sentence the parser stops at the next token, if that is no operator. -/
theorem parse_ofString_sentence (sentence : Sentence) (text : source.toList = sentence.text ++ tail)
    (runs : MinusRunsAtMost 201 source.toList) (ends : EndsDigits tail)
    (noOperator : ∀ c ∈ tail.head?, Operator.ofChar? c = none) :
    ∃ last, (ofString source).parse =
      (.ok (sentence.treeAt 0), past last ⟨source, sentence.text.length, tail⟩ []) := by
  have inside : sentence.text <:+: source.toList := by
    rw [text]
    exact (List.prefix_append ..).isInfix
  have read : ∃ last, nested (signLimit + 3) Precedence.lowest.level
      (onto ⟨source, 0, sentence.text ++ tail⟩ []) =
        resume signLimit (sentence.climbAt 0)
          (past last ⟨source, 0 + sentence.text.length, tail⟩ []) :=
    nested_sentence sentence ends (Sentence.signs_le_signLimit runs inside)
  obtain ⟨last, read⟩ := read
  refine ⟨last, ?_⟩
  rw [parse_ofString, text, read, resume_stop _ ends noOperator, Sentence.close_climbAt, Nat.zero_add]

/-- Behind signs without digits the parser refuses what it finds. -/
theorem parse_ofString_opening (opening : Opening) {signs : Nat}
    (text : source.toList = opening.text ++ (List.replicate signs '-' ++ tail))
    (runs : MinusRunsAtMost 201 source.toList) (ends : EndsDigits tail)
    (noSign : ∀ c ∈ tail.head?, c ≠ '-') :
    (ofString source).parse =
      (onto ⟨source, opening.text.length + signs, tail⟩ []).refuse (refusal tail) := by
  have room : ∀ operand ∈ opening.operands, operand.signs ≤ signLimit := by
    cases opening with
    | empty => simp [Opening.operands]
    | behind sentence operator =>
      apply Sentence.signs_le_signLimit runs
      rw [text, Opening.text, List.append_assoc]
      exact (List.prefix_append ..).isInfix
  have roomSigns : signs ≤ signLimit := by
    have short : signs ≤ 201 := by
      apply runs.count_le
      rw [text]
      exact ⟨opening.text, tail, List.append_assoc ..⟩
    exact Nat.le_trans short (by decide)
  rw [parse_ofString, text, nested_opening opening ends noSign room roomSigns, Nat.zero_add]

end Parser

/-- A sentence is read as its tree, every node with the token it comes from. -/
theorem parse_eq_treeAt (sentence : Sentence) (runs : MinusRunsAtMost 201 sentence.text) :
    parse sentence.source = .ok (sentence.treeAt 0) := by
  have text : sentence.source.toList = sentence.text ++ [] := by
    rw [List.append_nil, Sentence.source, String.toList_ofList]
  obtain ⟨last, read⟩ := Parser.parse_ofString_sentence sentence text
    (by rwa [text, List.append_nil]) endsDigits_nil (by simp)
  rw [parse, read]
  rfl

/-- Behind a sentence, a character that neither belongs to it nor is an operator is left over. -/
theorem parse_leftover {source : String} (sentence : Sentence) {c : Char} {rest : List Char}
    (text : source.toList = sentence.text ++ c :: rest)
    (runs : MinusRunsAtMost 201 source.toList) (notDigit : Decimal.isDigit c = false)
    (noOperator : Operator.ofChar? c = none) :
    parse source = .error
      ⟨.leftover, ⟨.ofChar c, String.singleton c, sentence.text.length⟩, source⟩ := by
  obtain ⟨last, read⟩ := Parser.parse_ofString_sentence sentence text runs
    (endsDigits_cons notDigit rest) (by simpa using noOperator)
  rw [parse, read]
  simp only [Parser.whole, Parser.atEnd, Parser.past, Lexer.next_char notDigit,
    decide_eq_false (Token.Kind.ofChar_ne_endOfInput c)]
  rfl

/-- Signs without digits are refused at what is behind them. -/
theorem parse_refused {source : String} (opening : Opening) {signs : Nat} {tail : List Char}
    (text : source.toList = opening.text ++ (List.replicate signs '-' ++ tail))
    (runs : MinusRunsAtMost 201 source.toList) (ends : EndsDigits tail)
    (noSign : ∀ c ∈ tail.head?, c ≠ '-') :
    parse source = .error ⟨Parser.refusal tail,
      (Lexer.next ⟨source, opening.text.length + signs, tail⟩).1, source⟩ := by
  rw [parse, Parser.parse_ofString_opening opening text runs ends noSign, Parser.refuse_onto]
  rfl

/-- Every sentence is read as its tree: one negation for each sign, products folded from the left,
and sums of products folded from the left. -/
theorem parse_sentence (sentence : Sentence) (runs : MinusRunsAtMost 201 sentence.text) :
    ∃ tree, parse sentence.source = .ok tree ∧ tree.bare = sentence.tree :=
  ⟨sentence.treeAt 0, parse_eq_treeAt sentence runs, sentence.bare_treeAt 0⟩

theorem parse_sentence_mixed :
    MinusRunsAtMost 201 "--7*05--10/3".toList ∧
      ∃ tree, parse "--7*05--10/3" = .ok tree ∧ tree.bare =
        .binary
          (.binary (.unary "-" (.unary "-" (.integer 7 none) none) none) "*" (.integer 5 none) none)
          "-" (.binary (.unary "-" (.integer 10 none) none) "/" (.integer 3 none) none) none := by
  let sentence : Sentence :=
    ⟨⟨2, ['7'], by decide, by decide⟩,
      [(.times, ⟨0, ['0', '5'], by decide, by decide⟩),
        (.minus, ⟨1, ['1', '0'], by decide, by decide⟩),
        (.divide, ⟨0, ['3'], by decide, by decide⟩)]⟩
  have runs : MinusRunsAtMost 201 sentence.text := by decide
  exact ⟨runs, parse_sentence sentence runs⟩

theorem Token.label_char (c : Char) (location : Int) :
    label ⟨.ofChar c, String.singleton c, location⟩ = Text.quote (String.singleton c) :=
  if_neg (Kind.ofChar_ne_endOfInput c)

/-- What is said of a text of which no more than `length` characters begin a sentence. -/
def complaint (text : List Char) (length : Nat) : String :=
  match text[length]? with
  | none => "expected an expression"
  | some c =>
    (if IsSentence (text.take length) then "unexpected " else "no prefix parse rule for ") ++
      Text.quote (String.singleton c)

theorem complaint_length (text : List Char) : complaint text text.length = "expected an expression" := by
  simp [complaint]

theorem complaint_blocked (known rest : List Char) (c : Char) :
    complaint (known ++ c :: rest) known.length =
      (if IsSentence known then "unexpected " else "no prefix parse rule for ") ++
        Text.quote (String.singleton c) := by
  simp [complaint]

theorem parse_of_isSentence {source : String} (runs : MinusRunsAtMost 201 source.toList)
    (spelled : IsSentence source.toList) : ∃ tree, parse source = .ok tree := by
  obtain ⟨sentence, text⟩ := spelled
  have same : sentence.source = source := by rw [Sentence.source, text, String.ofList_toList]
  rw [← text] at runs
  exact ⟨sentence.treeAt 0, same ▸ parse_eq_treeAt sentence runs⟩

theorem parse_of_unfinished {source : String} (runs : MinusRunsAtMost 201 source.toList)
    (through : Phase.signs.run source.toList = some .signs) :
    parse source = .error
      ⟨.missingExpression, ⟨.endOfInput, "", source.toList.length⟩, source⟩ := by
  obtain ⟨opening, count, text⟩ := (Reached.start through).exists_opening
  have split : source.toList = opening.text ++ (List.replicate count '-' ++ []) := by
    rw [text, List.append_nil]
  rw [parse_refused opening split runs endsDigits_nil (by simp), text, List.length_append,
    List.length_replicate]
  rfl

theorem parse_of_blocked {source : String} (runs : MinusRunsAtMost 201 source.toList)
    {known rest : List Char} {c : Char} {before : Phase} (text : source.toList = known ++ c :: rest)
    (reached : Phase.signs.run known = some before) (blocked : before.next c = none) :
    parse source = .error
      ⟨if IsSentence known then .leftover else .noExpression,
        ⟨.ofChar c, String.singleton c, known.length⟩, source⟩ := by
  cases before with
  | digits =>
    obtain ⟨notDigit, noOperator⟩ := Phase.next_digits_eq_none blocked
    rw [if_pos (isSentence_iff_run.mpr reached)]
    obtain ⟨sentence, rfl⟩ := (Reached.start reached).exists_sentence
    exact parse_leftover sentence text runs notDigit noOperator
  | signs =>
    obtain ⟨notDigit, notMinus⟩ := Phase.next_signs_eq_none blocked
    have unfinished : ¬ IsSentence known := by
      rw [isSentence_iff_run, reached]
      decide
    rw [if_neg unfinished]
    obtain ⟨opening, count, rfl⟩ := (Reached.start reached).exists_opening
    rw [List.append_assoc] at text
    rw [parse_refused opening text runs (endsDigits_cons notDigit rest) (by simpa using notMinus),
      Lexer.next_char notDigit, List.length_append, List.length_replicate]
    rfl

/-- Any text but a sentence is refused at the end of the longest part that begins one. -/
theorem parse_of_not_isSentence {source : String} (runs : MinusRunsAtMost 201 source.toList)
    (other : ¬ IsSentence source.toList) :
    ∃ error length, parse source = .error error ∧ BeginsUpTo source.toList length ∧
      error.diagnostic = ⟨complaint source.toList length, some source, length⟩ := by
  cases through : Phase.signs.run source.toList with
  | some phase =>
    cases phase with
    | digits => exact absurd (isSentence_iff_run.mpr through) other
    | signs =>
      refine ⟨_, _, parse_of_unfinished runs through, beginsUpTo_length through, ?_⟩
      rw [complaint_length]
      rfl
  | none =>
    obtain ⟨known, c, rest, before, text, reached, blocked⟩ := Phase.run_eq_none through
    refine ⟨_, known.length, parse_of_blocked runs text reached blocked, ?_, ?_⟩
    · rw [text]
      exact beginsUpTo_of_blocked reached blocked
    · rw [text, complaint_blocked, ParseError.diagnostic]
      split
      · rw [ParseError.message, Token.label_char]
      · rw [ParseError.message, Token.label_char]

/-- Exactly the sentences are accepted. Any other text is refused at the end of the longest part
that begins a sentence, with the complaint that is due there. -/
theorem parse_decides (source : String) (runs : MinusRunsAtMost 201 source.toList) :
    ((∃ tree, parse source = .ok tree) ↔ IsSentence source.toList) ∧
      (¬ IsSentence source.toList → ∃ error length, parse source = .error error ∧
        BeginsUpTo source.toList length ∧
        error.diagnostic = ⟨complaint source.toList length, some source, length⟩) := by
  refine ⟨⟨?_, parse_of_isSentence runs⟩, parse_of_not_isSentence runs⟩
  rintro ⟨tree, accepted⟩
  by_contra other
  obtain ⟨error, length, refused, _⟩ := parse_of_not_isSentence runs other
  rw [accepted] at refused
  cases refused

theorem parse_decides_blocked :
    MinusRunsAtMost 201 "3-*4".toList ∧ ¬ IsSentence "3-*4".toList ∧
      ∃ error length, parse "3-*4" = .error error ∧ BeginsUpTo "3-*4".toList length ∧
        error.diagnostic = ⟨complaint "3-*4".toList length, some "3-*4", length⟩ := by
  have runs : MinusRunsAtMost 201 "3-*4".toList := by decide
  have other : ¬ IsSentence "3-*4".toList := by decide
  exact ⟨runs, other, (parse_decides "3-*4" runs).2 other⟩

end Reckoner
