import Reckoner.Proofs.Lexer.Lexemes
import Reckoner.Proofs.Parser.Reachable
import Reckoner.Proofs.Parser.Reading

/-! # What is passed before a tree is read or refused

A parser only moves past tokens that belong to expressions: numbers, signs and operators. It ends
either at the last number of a tree, or at the token that it refuses, for a reason that fits the
kind of the token (`ParseError.Cause.Due`). `Attempt` says both at once, and holds of every call of
`nested`, however deep and whatever the threshold (`attempt_nested`). So the text before a place
where a parser stops consists of digits and operators (`Passes.exists_text`), and a digit run is
never refused as a number.
-/

namespace Reckoner

/-- The tokens that belong to expressions. -/
def Token.Kind.isPart (kind : Kind) : Bool := kind = .int || kind.isInfix

/-- The characters that belong to expressions. -/
def IsPartChar (c : Char) : Prop := Decimal.isDigit c = true ∨ ∃ operator : Operator, c = operator.char

namespace Lexer

/-- The second lexer is reached from the first over tokens that belong to expressions. -/
inductive Passes : Lexer → Lexer → Prop
  | done (lexer : Lexer) : Passes lexer lexer
  | token {lexer further : Lexer} (part : lexer.next.1.kind.isPart = true)
      (rest : Passes lexer.behind further) : Passes lexer further

variable {lexer between further : Lexer}

theorem Passes.trans (first : lexer.Passes between) (second : between.Passes further) :
    lexer.Passes further := by
  induction first with
  | done => exact second
  | token part rest ih => exact .token part (ih second)

theorem passes_number (number : lexer.next.1.kind = .int) : lexer.Passes lexer.behind := by
  refine .token ?_ (.done _)
  rw [number]
  rfl

theorem passes_operator (operator : lexer.next.1.kind.isInfix = true) : lexer.Passes lexer.behind := by
  refine .token ?_ (.done _)
  rw [Token.Kind.isPart, operator, Bool.or_true]

theorem Passes.source_eq (passed : lexer.Passes further) : further.source = lexer.source := by
  induction passed with
  | done lexer => rfl
  | @token lexer further part rest ih => exact ih.trans lexer.source_next

/-- A token that belongs to expressions is made of characters that do. -/
theorem isPartChar_of_mem_literal (part : lexer.next.1.kind.isPart = true) :
    ∀ c ∈ lexer.next.1.literal.toList, IsPartChar c := by
  intro c member
  rcases Bool.or_eq_true_iff.mp part with number | infixed
  · obtain ⟨_, decimal⟩ := kind_next_eq_int_iff.mp (of_decide_eq_true number)
    exact .inl (List.all_eq_true.mp decimal c member)
  · obtain ⟨source, location, operator, tail, rfl⟩ := exists_operator infixed
    rw [next_operator, Operator.token, Operator.text, String.toList_singleton,
      List.mem_singleton] at member
    exact .inr ⟨operator, member⟩

/-- What is passed is part of the text, and is made of digits and operators. -/
theorem Passes.exists_text (passed : lexer.Passes further) :
    ∃ known, lexer.rest = known ++ further.rest ∧ further.index = lexer.index + known.length ∧
      ∀ c ∈ known, IsPartChar c := by
  induction passed with
  | done lexer => exact ⟨[], rfl, rfl, List.forall_mem_nil _⟩
  | @token lexer further part rest ih =>
    obtain ⟨known, text, index, parts⟩ := ih
    have moved : lexer.behind.index = lexer.index + lexer.next.1.literal.length := lexer.index_next
    refine ⟨lexer.next.1.literal.toList ++ known, ?_, ?_, ?_⟩
    · rw [List.append_assoc, ← text]
      exact lexer.literal_append_rest_next.symm
    · rw [index, moved, List.length_append, String.length_toList, Nat.add_assoc]
    · intro c member
      rcases List.mem_append.mp member with own | later
      · exact isPartChar_of_mem_literal part c own
      · exact parts c later

end Lexer

/-- The kinds of tokens for which an expression is refused with this cause. -/
def ParseError.Cause.Due : ParseError.Cause → Token.Kind → Prop
  | .missingExpression, kind => kind = .endOfInput
  | .noExpression, kind => kind ≠ .int ∧ kind ≠ .minus ∧ kind ≠ .endOfInput
  | .tooDeep, _ => True
  | .unreadableInteger, _ | .leftover, _ => False

namespace Parser

/-- How an expression that begins at the next token of a lexer can end. -/
inductive Attempt (lexer : Lexer) (errors : List ParseError) : Outcome → Prop
  | read (tree : Expr) {last : Lexer} (passed : lexer.Passes last)
      (number : last.next.1.kind = .int) : Attempt lexer errors (.ok tree, onto last errors)
  | refused {cause : ParseError.Cause} {place : Lexer} (passed : lexer.Passes place)
      (due : cause.Due place.next.1.kind) : Attempt lexer errors ((onto place errors).refuse cause)

variable {lexer place : Lexer} {errors : List ParseError} {outcome : Outcome}
variable {depth : Nat} {threshold : Int}

namespace Attempt

theorem behind (passed : lexer.Passes place) (attempt : Attempt place errors outcome) :
    Attempt lexer errors outcome := by
  cases attempt with
  | read tree later number => exact .read tree (passed.trans later) number
  | refused later due => exact .refused (passed.trans later) due

theorem andThen {proceed : Expr → Parser → Outcome} (first : Attempt lexer errors outcome)
    (second : ∀ tree last, last.next.1.kind = .int → outcome = (.ok tree, onto last errors) →
      Attempt last errors (proceed tree (onto last errors))) :
    Attempt lexer errors (andThen outcome proceed) := by
  cases first with
  | read tree passed number => exact (second tree _ number rfl).behind passed
  | refused passed due => exact .refused passed due

end Attempt

/-- A digit run is read as its value. -/
theorem attempt_integer (number : lexer.next.1.kind = .int) :
    Attempt lexer errors (onto lexer errors).integer := by
  have numeral : Decimal.read lexer.next.1.literal =
      .ok (Nat.ofDigitChars 10 lexer.next.1.literal.toList 0) := by
    obtain ⟨nonempty, decimal⟩ := Lexer.kind_next_eq_int_iff.mp number
    exact Decimal.read_eq_ok_iff.mpr ⟨nonempty, decimal, rfl⟩
  rw [integer, current_onto, numeral]
  exact .read _ (.done lexer) number

/-- The loop passes each operator on to its operand. -/
private theorem attempt_extend
    (operands : ∀ {threshold lexer}, Attempt lexer errors (nested depth threshold (onto lexer errors)))
    (number : lexer.next.1.kind = .int) (left : Expr) :
    Attempt lexer errors (extend depth threshold left (onto lexer errors)) := by
  generalize place : onto lexer errors = parser
  induction left, parser using joined_induction depth generalizing lexer with
  | joined left parser ih =>
    subst place
    rw [extend_eq]
    split
    · next goesOn =>
      have operator : lexer.behind.next.1.kind.isInfix = true := (Bool.and_eq_true_iff.mp goesOn).1
      have passed : lexer.Passes lexer.behind.behind :=
        (Lexer.passes_number number).trans (Lexer.passes_operator operator)
      have joined : Attempt lexer.behind.behind errors
          (joinedWith (nested depth) left (onto lexer errors).advance) := by
        rw [joinedWith_eq]
        refine Attempt.andThen operands ?_
        intro right last number _
        exact .read _ (.done last) number
      refine (joined.behind passed).andThen ?_
      intro tree last number taken
      exact ih tree _ taken number rfl
    · exact .read left (.done lexer) number

theorem attempt_nested (depth : Nat) (threshold : Int) (lexer : Lexer) (errors : List ParseError) :
    Attempt lexer errors (nested depth threshold (onto lexer errors)) := by
  induction depth generalizing threshold lexer with
  | zero => exact .refused (.done lexer) trivial
  | succ depth ih =>
    have rest (tree : Expr) (last : Lexer) (number : last.next.1.kind = .int) :
        Attempt last errors (extend depth threshold tree (onto last errors)) :=
      attempt_extend (ih _ _) number tree
    cases kind : (onto lexer errors).current.kind with
    | int =>
      rw [nested_int kind]
      exact (attempt_integer kind).andThen fun tree last number _ => rest tree last number
    | minus =>
      have sign : lexer.next.1.kind.isInfix = true := congrArg Token.Kind.isInfix kind
      rw [nested_minus kind, signedWith_eq, andThen_assoc]
      refine ((ih _ lexer.behind).andThen ?_).behind (Lexer.passes_operator sign)
      intro operand last number _
      exact rest _ last number
    | endOfInput =>
      rw [nested_endOfInput kind]
      exact .refused (.done lexer) kind
    | _ =>
      rw [nested_other (by simp [kind]) (by simp [kind]) (by simp [kind])]
      rw [current_onto] at kind
      exact .refused (.done lexer) (by simp [ParseError.Cause.Due, kind])

/-- In every state that a parser can get into, an expression is attempted where it stands. -/
theorem Reachable.exists_attempt {source : String} {parser : Parser}
    (reachable : Reachable source parser) (threshold : Int) :
    ∃ lexer errors, parser = onto lexer errors ∧ Attempt lexer errors (parser.expression threshold) := by
  obtain ⟨count, errors, rfl⟩ := reachable.exists_onto
  exact ⟨_, errors, rfl, attempt_nested ..⟩

theorem attempt_parse (source : String) :
    Attempt (.ofString source) [] (Parser.ofString source).parse :=
  attempt_nested ..

end Parser

variable {source : String}

/-- A source that is accepted is passed to its end. -/
theorem exists_end_of_parse {tree : Expr} (accepted : parse source = .ok tree) :
    ∃ place, (Lexer.ofString source).Passes place ∧ place.rest = [] := by
  obtain ⟨after, read, ended⟩ := read_of_parse accepted
  have attempt := Parser.attempt_parse source
  rw [read] at attempt
  cases attempt with
  | read tree passed number =>
    exact ⟨_, passed.trans (Lexer.passes_number number), Lexer.kind_next_eq_endOfInput_iff.mp ended⟩

/-- A source that is refused is passed up to the token that the refusal names. -/
theorem exists_place_of_parse {error : ParseError} (refused : parse source = .error error) :
    ∃ place, (Lexer.ofString source).Passes place ∧ error.token = place.next.1 ∧ error.source = source ∧
      (error.cause.Due place.next.1.kind ∨ error.cause = .leftover) := by
  have attempt := Parser.attempt_parse source
  rw [parse] at refused
  generalize (Parser.ofString source).parse = outcome at attempt refused
  cases attempt with
  | @read last tree passed number =>
    have further := passed.trans (Lexer.passes_number number)
    rw [Parser.whole] at refused
    split at refused
    · cases refused
    · cases refused
      exact ⟨_, further, rfl, (Lexer.source_next _).trans further.source_eq, .inr rfl⟩
  | @refused cause place passed due =>
    rw [Parser.refuse_onto] at refused
    cases refused
    exact ⟨place, passed, rfl, passed.source_eq, .inl due⟩

end Reckoner
