import Mathlib.Data.List.Chain
import Reckoner.Proofs.Grammar.Sentence
import Reckoner.Proofs.Lexer.Tokens

/-! # Tokens as a division of the text

A text is divided into tokens in one way: digit runs as long as they can be, and all other
characters by themselves, each with the place where it starts, and the end of the input behind
them. `IsDivision` says so of a list of tokens without a lexer. The tokens that a lexer takes are
such a division (`isDivision_tokens`), because each token has the right kind and text, and no digit
follows a digit run.
-/

namespace Reckoner

namespace Token

/-- The characters that are tokens of a kind of their own. -/
def operatorKinds : List (Char × Kind) :=
  [('+', .plus), ('-', .minus), ('*', .asterisk), ('/', .slash), ('%', .percent)]

theorem Kind.ofChar_eq_lookup (c : Char) : ofChar c = (operatorKinds.lookup c).getD .illegal := by
  unfold ofChar
  split
  case h_6 plus minus asterisk slash percent =>
    simp [operatorKinds, List.lookup_cons, beq_false_of_ne plus, beq_false_of_ne minus,
      beq_false_of_ne asterisk, beq_false_of_ne slash, beq_false_of_ne percent]
  all_goals rfl

end Token

/-- The tokens are those of the text, with the end of the input as the last one. -/
structure IsDivision (text : List Char) (tokens : List Token) : Prop where
  /-- Nothing is left out or added. -/
  spelled : (tokens.flatMap fun token => token.literal.toList) = text
  /-- A token starts where the ones before it end. -/
  located : ∀ (place : Nat) (token : Token), tokens[place]? = some token →
    token.location = ((tokens.take place).flatMap fun earlier => earlier.literal.toList).length
  ended : tokens.getLast? = some ⟨.endOfInput, "", text.length⟩
  /-- There is one end. -/
  going : ∀ token ∈ tokens.dropLast, token.kind ≠ .endOfInput
  numbers : ∀ token ∈ tokens, token.kind = .int ↔
    token.literal.toList ≠ [] ∧ token.literal.toList.all Decimal.isDigit = true
  /-- Digit runs are not cut. -/
  maximal : tokens.IsChain fun first second => first.kind = .int → second.kind ≠ .int
  others : ∀ token ∈ tokens.dropLast, token.kind ≠ .int →
    ∃ c, token.literal = String.singleton c ∧
      token.kind = (Token.operatorKinds.lookup c).getD .illegal

namespace Lexer

variable {lexer : Lexer} {token : Token}

theorem next_of_nil (done : lexer.rest = []) : lexer.next = (⟨.endOfInput, "", lexer.index⟩, lexer) := by
  simp [next, char?, done]

/-- A token is the end of the input, a digit run, or a single other character. -/
theorem kind_next_cases (lexer : Lexer) :
    (lexer.rest = [] ∧ lexer.next.1.kind = .endOfInput ∧ lexer.next.1.literal = "") ∨
      (lexer.next.1.kind = .int ∧ lexer.next.1.literal.toList ≠ [] ∧
        lexer.next.1.literal.toList.all Decimal.isDigit = true ∧ EndsDigits lexer.behind.rest) ∨
      ∃ c, Decimal.isDigit c = false ∧ lexer.next.1.kind = .ofChar c ∧
        lexer.next.1.literal = String.singleton c := by
  obtain ⟨source, index, rest⟩ := lexer
  cases rest with
  | nil => exact .inl ⟨rfl, rfl, rfl⟩
  | cons c tail =>
    right
    cases digit : Decimal.isDigit c with
    | true =>
      left
      simp only [behind, next, char?, List.head?_cons, digit, ↓reduceIte, digits, skipDigits,
        String.toList_ofList]
      refine ⟨trivial, ?_, List.all_takeWhile, ?_⟩
      · simp [digit]
      · intro d first
        have ended := List.head?_dropWhile_not Decimal.isDigit (c :: tail)
        rw [Option.mem_def.mp first] at ended
        exact ended
    | false =>
      right
      refine ⟨c, digit, ?_⟩
      simp [next, char?, digit]

theorem kind_next_eq_int_iff :
    lexer.next.1.kind = .int ↔ lexer.next.1.literal.toList ≠ [] ∧
      lexer.next.1.literal.toList.all Decimal.isDigit = true := by
  rcases lexer.kind_next_cases with ⟨_, kind, literal⟩ | ⟨kind, nonempty, decimal, _⟩ | ⟨c, other, kind, literal⟩
  · simp [kind, literal]
  · exact iff_of_true kind ⟨nonempty, decimal⟩
  · simp [kind, literal, Token.Kind.ofChar_ne_int, other]

/-- No digit run follows a digit run. -/
theorem kind_next_behind_ne_int (number : lexer.next.1.kind = .int) :
    lexer.behind.next.1.kind ≠ .int := by
  rcases lexer.kind_next_cases with ⟨_, kind, _⟩ | ⟨_, _, _, ends⟩ | ⟨c, _, kind, _⟩
  · rw [kind] at number
    cases number
  · intro again
    obtain ⟨nonempty, decimal⟩ := kind_next_eq_int_iff.mp again
    obtain ⟨d, rest, literal⟩ := List.exists_cons_of_ne_nil nonempty
    have digit : Decimal.isDigit d = true := List.all_eq_true.mp decimal d (by simp [literal])
    have first : d ∈ lexer.behind.rest.head? := by
      rw [← lexer.behind.literal_append_rest_next, literal]
      rfl
    rw [ends d first] at digit
    cases digit
  · rw [kind] at number
    exact absurd number (Token.Kind.ofChar_ne_int c)

/-- What a lexer takes first from a text that it has not read to the end. -/
theorem exists_char_of_ne_int (more : lexer.rest ≠ []) (other : lexer.next.1.kind ≠ .int) :
    ∃ c, lexer.next.1.literal = String.singleton c ∧
      lexer.next.1.kind = (Token.operatorKinds.lookup c).getD .illegal := by
  rcases lexer.kind_next_cases with ⟨done, _⟩ | ⟨number, _⟩ | ⟨c, _, kind, literal⟩
  · exact absurd done more
  · exact absurd number other
  · exact ⟨c, literal, by rw [kind, Token.Kind.ofChar_eq_lookup]⟩

/-- Induction over the tokens: what holds at the end, and at each token that is taken before it,
holds of all. -/
theorem forall_mem_tokens {property : Token → Prop} (each : ∀ lexer : Lexer, property lexer.next.1)
    (lexer : Lexer) : ∀ token ∈ lexer.tokens, property token := by
  induction lexer using tokens_induction with
  | done lexer ended =>
    rw [tokens_of_nil ended, List.forall_mem_singleton]
    exact each lexer
  | more lexer started ih =>
    rw [tokens_of_ne_nil started, List.forall_mem_cons]
    exact ⟨each lexer, ih⟩

theorem forall_mem_dropLast_tokens {property : Token → Prop}
    (each : ∀ lexer : Lexer, lexer.rest ≠ [] → property lexer.next.1) (lexer : Lexer) :
    ∀ token ∈ lexer.tokens.dropLast, property token := by
  induction lexer using tokens_induction with
  | done lexer ended =>
    rw [tokens_of_nil ended]
    exact List.forall_mem_nil _
  | more lexer started ih =>
    rw [dropLast_tokens_of_ne_nil started, List.forall_mem_cons]
    exact ⟨each lexer started, ih⟩

theorem isChain_tokens (lexer : Lexer) :
    lexer.tokens.IsChain fun first second => first.kind = .int → second.kind ≠ .int := by
  induction lexer using tokens_induction with
  | done lexer ended =>
    rw [tokens_of_nil ended]
    exact List.isChain_singleton _
  | more lexer started ih =>
    rw [tokens_of_ne_nil started, List.isChain_cons]
    refine ⟨?_, ih⟩
    intro second first number
    rw [head?_tokens] at first
    obtain rfl := Option.some.inj first
    exact kind_next_behind_ne_int number

/-- Each token takes a character, and the end of the input comes behind them. -/
theorem length_tokens_le (lexer : Lexer) : lexer.tokens.length ≤ lexer.rest.length + 1 := by
  induction lexer using tokens_induction with
  | done lexer ended => rw [tokens_of_nil ended, ended, List.length_singleton, List.length_nil]
  | more lexer started ih =>
    have shorter : lexer.behind.rest.length < lexer.rest.length := length_rest_next_lt started
    rw [tokens_of_ne_nil started, List.length_cons]
    omega

theorem index_add_length_rest_behind (lexer : Lexer) :
    lexer.behind.index + lexer.behind.rest.length = lexer.index + lexer.rest.length := by
  have whole := congrArg List.length lexer.literal_append_rest_next
  rw [List.length_append, String.length_toList] at whole
  rw [behind, lexer.index_next]
  omega

theorem getLast?_tokens (lexer : Lexer) :
    lexer.tokens.getLast? = some ⟨.endOfInput, "", (lexer.index + lexer.rest.length : Nat)⟩ := by
  induction lexer using tokens_induction with
  | done lexer ended =>
    rw [tokens_of_nil ended, next_of_nil ended, ended]
    rfl
  | more lexer started ih =>
    rw [tokens_of_ne_nil started, List.getLast?_cons, ih, index_add_length_rest_behind,
      Option.getD_some]

/-- Locations count the characters of the tokens before. -/
theorem location_of_getElem?_tokens {place : Nat} (found : lexer.tokens[place]? = some token) :
    token.location =
      lexer.index + ((lexer.tokens.take place).flatMap fun earlier => earlier.literal.toList).length := by
  induction place generalizing lexer with
  | zero =>
    rw [← List.head?_eq_getElem?, head?_tokens] at found
    obtain rfl := Option.some.inj found
    simpa using lexer.location_next
  | succ place ih =>
    have started : lexer.rest ≠ [] := by
      intro ended
      rw [tokens_of_nil ended] at found
      cases found
    rw [tokens_of_ne_nil started, List.getElem?_cons_succ] at found
    have behind := ih found
    have moved : lexer.behind.index = lexer.index + lexer.next.1.literal.length := lexer.index_next
    rw [tokens_of_ne_nil started, List.take_succ_cons, List.flatMap_cons, List.length_append,
      String.length_toList, behind, moved]
    omega

/-- The end of the input has no text. -/
theorem flatMap_literal_tokens (lexer : Lexer) :
    (lexer.tokens.flatMap fun token => token.literal.toList) = lexer.rest := by
  induction lexer using tokens_induction with
  | done lexer ended =>
    rw [tokens_of_nil ended, next_of_nil ended, ended]
    rfl
  | more lexer started ih =>
    rw [tokens_of_ne_nil started, List.flatMap_cons, ih]
    exact lexer.literal_append_rest_next

/-- No call takes anything once the last token has been taken. -/
theorem next_iterate_behind {count : Nat} (past : lexer.tokens.length ≤ count + 1) :
    (behind^[count] lexer).next =
      (⟨.endOfInput, "", (lexer.index + lexer.rest.length : Nat)⟩, behind^[count] lexer) := by
  induction lexer using tokens_induction generalizing count with
  | done lexer ended =>
    rw [iterate_behind_of_nil ended, next_of_nil ended, ended]
    rfl
  | more lexer started ih =>
    have later := lexer.behind.length_tokens_pos
    rw [tokens_of_ne_nil started, List.length_cons] at past
    obtain ⟨count, rfl⟩ := Nat.exists_eq_succ_of_ne_zero (by omega : count ≠ 0)
    rw [Function.iterate_succ_apply, ih (by omega), index_add_length_rest_behind]

end Lexer

/-- The tokens that a lexer takes from the start of a text divide it. -/
theorem isDivision_tokens (source : String) :
    IsDivision source.toList (Lexer.ofString source).tokens where
  spelled := (Lexer.ofString source).flatMap_literal_tokens
  located place token found := by
    rw [Lexer.location_of_getElem?_tokens found]
    exact Int.zero_add _
  ended := by
    rw [Lexer.getLast?_tokens, Lexer.ofString, Nat.zero_add]
  going := by
    refine Lexer.forall_mem_dropLast_tokens ?_ _
    intro lexer started
    exact mt Lexer.kind_next_eq_endOfInput_iff.mp started
  numbers := Lexer.forall_mem_tokens (fun _ => Lexer.kind_next_eq_int_iff) _
  maximal := (Lexer.ofString source).isChain_tokens
  others := Lexer.forall_mem_dropLast_tokens (fun _ => Lexer.exists_char_of_ne_int) _

/-- A token stands in the text where its location says. -/
theorem IsDivision.exists_text {text : List Char} {tokens : List Token} {token : Token}
    (division : IsDivision text tokens) (member : token ∈ tokens) :
    ∃ before after, text = before ++ (token.literal.toList ++ after) ∧ token.location = before.length := by
  obtain ⟨place, inside, rfl⟩ := List.getElem_of_mem member
  refine ⟨(tokens.take place).flatMap fun earlier => earlier.literal.toList,
    (tokens.drop (place + 1)).flatMap fun later => later.literal.toList, ?_,
    division.located place _ (List.getElem?_eq_getElem inside)⟩
  calc
    text = (tokens.take place ++ tokens.drop place).flatMap fun token => token.literal.toList := by
      rw [List.take_append_drop, division.spelled]
    _ = _ := by
      rw [List.flatMap_append, List.drop_eq_getElem_cons inside, List.flatMap_cons]

/-- Taking token after token from a source ends after one call more than it has characters at most,
and gives the tokens of the source, which divide it: nothing is lost, digit runs are whole, and all
other characters stand alone. Each further call gives the end of the input again and leaves the
lexer as it is. -/
theorem tokens_divide (source : String) :
    (Lexer.ofString source).tokens.length ≤ source.length + 1 ∧
      (∀ count < (Lexer.ofString source).tokens.length,
        (Lexer.ofString source).tokens[count]? =
          some (Lexer.behind^[count] (Lexer.ofString source)).next.1) ∧
      IsDivision source.toList (Lexer.ofString source).tokens ∧
      ∀ count, (Lexer.ofString source).tokens.length ≤ count + 1 →
        (Lexer.behind^[count] (Lexer.ofString source)).next =
          (⟨.endOfInput, "", source.length⟩, Lexer.behind^[count] (Lexer.ofString source)) := by
  refine ⟨?_, ?_, isDivision_tokens source, ?_⟩
  · rw [← String.length_toList]
    exact (Lexer.ofString source).length_tokens_le
  · intro count inside
    exact Lexer.getElem?_tokens inside
  · intro count past
    rw [Lexer.next_iterate_behind past, Lexer.ofString, Nat.zero_add, String.length_toList]

theorem tokens_divide_superscript :
    IsDivision "07²%8".toList [⟨.int, "07", 0⟩, ⟨.illegal, "²", 2⟩, ⟨.percent, "%", 3⟩, ⟨.int, "8", 4⟩,
        ⟨.endOfInput, "", 5⟩] ∧
      (Lexer.behind^[3] (Lexer.ofString "07²%8")).next.1 = ⟨.int, "8", 4⟩ ∧
      (Lexer.behind^[9] (Lexer.ofString "07²%8")).next =
        (⟨.endOfInput, "", 5⟩, Lexer.behind^[9] (Lexer.ofString "07²%8")) := by
  have tokens : (Lexer.ofString "07²%8").tokens =
      [⟨.int, "07", 0⟩, ⟨.illegal, "²", 2⟩, ⟨.percent, "%", 3⟩, ⟨.int, "8", 4⟩, ⟨.endOfInput, "", 5⟩] := by
    decide +kernel
  obtain ⟨_, taken, divided, further⟩ := tokens_divide "07²%8"
  rw [tokens] at taken divided further
  exact ⟨divided, (Option.some.inj (taken 3 (by decide))).symm, further 9 (by decide)⟩

end Reckoner
