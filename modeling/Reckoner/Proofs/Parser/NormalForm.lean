import Reckoner.Proofs.Evaluation.Arithmetic
import Reckoner.Proofs.Parser.RoundTrip

/-! # What a tree keeps of its source

The normal form of a text has every digit run without its leading zeros, and all else as it is. It is
spelled by the normal forms of the tokens (`Lexer.flatMap_normalText_dropLast_tokens`), and so is the
flat text of the tree of an accepted source (`flat_of_parse`). Since well-shaped trees are told apart
by their flat texts, the tree tells the source up to leading zeros.
-/

namespace Reckoner

/-- The text with each maximal digit run without its leading zeros. -/
def normalForm : List Char → List Char
  | [] => []
  | c :: rest =>
    if Decimal.isDigit c then
      Decimal.withoutLeadingZeros ((c :: rest).takeWhile Decimal.isDigit) ++
        normalForm (rest.dropWhile Decimal.isDigit)
    else c :: normalForm rest
termination_by text => text.length
decreasing_by
  · exact Nat.lt_succ_of_le (List.dropWhile_suffix _).length_le
  · exact Nat.lt_succ_self _

theorem normalForm_digits {digits tail : List Char} (nonempty : digits ≠ [])
    (decimal : digits.all Decimal.isDigit = true) (ends : EndsDigits tail) :
    normalForm (digits ++ tail) = Decimal.withoutLeadingZeros digits ++ normalForm tail := by
  have run := Decimal.takeWhile_digits decimal ends
  have behind := Decimal.dropWhile_digits decimal ends
  obtain ⟨c, rest, rfl⟩ := List.exists_cons_of_ne_nil nonempty
  have digit : Decimal.isDigit c = true := List.all_eq_true.mp decimal c (List.mem_cons_self ..)
  rw [List.cons_append] at run behind ⊢
  rw [List.dropWhile_cons, if_pos digit] at behind
  rw [normalForm, if_pos digit, run, behind]

theorem normalForm_run {digits : List Char} (nonempty : digits ≠ [])
    (decimal : digits.all Decimal.isDigit = true) :
    normalForm digits = Decimal.withoutLeadingZeros digits := by
  have alone := normalForm_digits nonempty decimal endsDigits_nil
  rwa [List.append_nil, normalForm, List.append_nil] at alone

theorem normalForm_other {c : Char} (other : Decimal.isDigit c = false) (tail : List Char) :
    normalForm (c :: tail) = c :: normalForm tail := by
  rw [normalForm, if_neg (by simp [other])]

namespace Token

/-- The literal of a token in normal form. -/
def normalText (token : Token) : List Char := normalForm token.literal.toList

end Token

namespace Lexer

theorem normalForm_rest (lexer : Lexer) :
    normalForm lexer.rest = lexer.next.1.normalText ++ normalForm lexer.behind.rest := by
  rw [← lexer.literal_append_rest_next]
  rcases lexer.kind_next_cases with ⟨_, _, literal⟩ | ⟨_, nonempty, decimal, ends⟩ | ⟨c, other, _, literal⟩
  · rw [Token.normalText, literal, String.toList_empty, normalForm]
    rfl
  · rw [Token.normalText, normalForm_run nonempty decimal]
    exact normalForm_digits nonempty decimal ends
  · rw [Token.normalText, literal, String.toList_singleton, normalForm_other other, normalForm]
    exact normalForm_other other _

/-- Tokens are never joined by normal forms, so that the whole is spelled token by token. -/
theorem flatMap_normalText_dropLast_tokens (lexer : Lexer) :
    lexer.tokens.dropLast.flatMap Token.normalText = normalForm lexer.rest := by
  induction lexer using tokens_induction with
  | done lexer ended =>
    rw [tokens_of_nil ended, ended, normalForm]
    rfl
  | more lexer started ih =>
    rw [dropLast_tokens_of_ne_nil started, List.flatMap_cons, ih, ← normalForm_rest]

end Lexer

namespace Expr

variable {tree : Expr}

/-- The normal forms of the tokens, a sign before its operand and an operator between its operands. -/
def normalText (tree : Expr) : List Char :=
  tree.inorder.flatMap fun token => token.elim [] Token.normalText

theorem normalText_unary (operator : String) (operand : Expr) (own : Token) :
    (unary operator operand (some own)).normalText = own.normalText ++ operand.normalText := rfl

theorem normalText_binary (left : Expr) (operator : String) (right : Expr) (own : Token) :
    (binary left operator right (some own)).normalText =
      left.normalText ++ (own.normalText ++ right.normalText) := by
  simp only [normalText, inorder, List.flatMap_append, List.flatMap_cons, Option.elim_some]

/-- The literal of an operator is in normal form, and is written as it is. -/
theorem flatten_eq_normalText {operator : String} {token : Token}
    (known : operator ∈ ["+", "-", "*", "/"]) (own : operator = token.literal) :
    flatten operator = String.ofList token.normalText := by
  rw [Token.normalText, ← own]
  simp only [List.mem_cons, List.not_mem_nil, or_false] at known
  rcases known with rfl | rfl | rfl | rfl <;> decide +kernel

/-- The flat text of a tree is spelled by its tokens in normal form. -/
theorem flat_of_spelled (arithmetic : tree.IsArithmetic) (spelled : tree.SpelledByTokens)
    (nonempty : ∀ token, some token ∈ tree.inorder → token.literal.toList ≠ []) :
    tree.flat = .ok (String.ofList tree.normalText) := by
  induction tree with
  | integer value token =>
    obtain ⟨own, rfl, decimal, rfl⟩ := spelled
    have run := normalForm_run (nonempty own (List.mem_singleton_self _)) decimal
    rw [flat_integer (Int.natCast_nonneg _), Int.natAbs_natCast, Decimal.writeBlocks_eq_toDigits,
      Decimal.toDigits_ofDigitChars decimal, ← run, normalText, inorder, List.flatMap_singleton]
    rfl
  | unary operator operand token ih =>
    obtain ⟨minus, inner⟩ := arithmetic
    obtain ⟨⟨own, rfl, literal⟩, spelledInner⟩ := spelled
    have flatInner := ih inner spelledInner fun other member => nonempty other (List.mem_cons_of_mem _ member)
    have known : operator ∈ ["+", "-", "*", "/"] := by simp [minus]
    rw [flat_unary flatInner, flatten_eq_normalText known literal, normalText_unary, String.ofList_append]
  | binary left operator right token ihLeft ihRight =>
    obtain ⟨known, arithmeticLeft, arithmeticRight⟩ := arithmetic
    obtain ⟨spelledLeft, ⟨own, rfl, literal⟩, spelledRight⟩ := spelled
    have flatLeft := ihLeft arithmeticLeft spelledLeft fun other member =>
      nonempty other (List.mem_append_left _ member)
    have flatRight := ihRight arithmeticRight spelledRight fun other member =>
      nonempty other (List.mem_append_right _ (List.mem_cons_of_mem _ member))
    rw [flat_binary flatLeft flatRight, flatten_eq_normalText known literal, normalText_binary,
      String.ofList_append, String.ofList_append, String.append_assoc]
  | hole => exact arithmetic.elim

end Expr

/-- A token before the end of the input has a text. -/
theorem IsDivision.literal_ne_nil {text : List Char} {tokens : List Token} {token : Token}
    (division : IsDivision text tokens) (member : token ∈ tokens.dropLast) : token.literal.toList ≠ [] := by
  by_cases number : token.kind = .int
  · exact ((division.numbers token ((List.dropLast_subset tokens) member)).mp number).1
  · obtain ⟨c, literal, _⟩ := division.others token member number
    rw [literal, String.toList_singleton]
    exact List.cons_ne_nil c []

/-- The tree of an accepted source has the source in normal form as its flat text. -/
theorem flat_of_parse {source : String} {tree : Expr} (accepted : parse source = .ok tree) :
    tree.flat = .ok (String.ofList (normalForm source.toList)) := by
  obtain ⟨after, read, _⟩ := read_of_parse accepted
  have reads : Parser.Reads .expression Precedence.lowest.level (Parser.ofString source) tree after :=
    Parser.reads_of_nested read
  have all := inorder_of_parse accepted
  rw [Lexer.filter_tokens] at all
  have spelledBy : tree.normalText = normalForm source.toList := by
    rw [Expr.normalText, all, List.flatMap_map]
    exact (Lexer.ofString source).flatMap_normalText_dropLast_tokens
  rw [← spelledBy]
  refine Expr.flat_of_spelled (wellShaped_of_parse accepted).isArithmetic (reads.spelledByTokens trivial) ?_
  intro token member
  rw [all, List.mem_map_of_injective (Option.some_injective _)] at member
  exact (isDivision_tokens source).literal_ne_nil member

/-- Two accepted sources have the same tree exactly if they are the same up to leading zeros. -/
theorem sameTree_iff_normalForm {a b : String} {first second : Expr} (acceptedFirst : parse a = .ok first)
    (acceptedSecond : parse b = .ok second) :
    first.sameTree second = true ↔ normalForm a.toList = normalForm b.toList := by
  have flatFirst := flat_of_parse acceptedFirst
  have flatSecond := flat_of_parse acceptedSecond
  constructor
  · intro same
    have flat := Expr.flat_eq_of_sameTree same
    rw [flatFirst, flatSecond] at flat
    exact String.ofList_injective (Except.ok.inj flat)
  · intro same
    have shapedFirst := wellShaped_of_parse acceptedFirst
    have shapedSecond := wellShaped_of_parse acceptedSecond
    refine shapedFirst.sameTree_of_flat_eq shapedSecond ?_
    rw [flatFirst, flatSecond, same]

theorem sameTree_iff_normalForm_zeros :
    ∃ first second third, parse "007-0*--000" = .ok first ∧ parse "7-00*--0" = .ok second ∧
      parse "7-0*--10" = .ok third ∧
      first.sameTree second = true ∧ ¬ first.sameTree third = true := by
  have accepted (source : String) (spelled : IsSentence source.toList)
      (runs : MinusRunsAtMost 201 source.toList) : ∃ tree, parse source = .ok tree :=
    parse_of_isSentence runs spelled
  obtain ⟨first, acceptedFirst⟩ := accepted "007-0*--000" (by decide +kernel) (by decide +kernel)
  obtain ⟨second, acceptedSecond⟩ := accepted "7-00*--0" (by decide +kernel) (by decide +kernel)
  obtain ⟨third, acceptedThird⟩ := accepted "7-0*--10" (by decide +kernel) (by decide +kernel)
  refine ⟨first, second, third, acceptedFirst, acceptedSecond, acceptedThird, ?_, ?_⟩
  · exact (sameTree_iff_normalForm acceptedFirst acceptedSecond).mpr (by decide +kernel)
  · rw [sameTree_iff_normalForm acceptedFirst acceptedThird]
    decide +kernel

end Reckoner
