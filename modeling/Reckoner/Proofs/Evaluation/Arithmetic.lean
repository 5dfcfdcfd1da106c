import Reckoner.Calculator
import Reckoner.Proofs.Evaluation.Recursion
import Reckoner.Proofs.Parser.Attempts
import Reckoner.Proofs.Parser.Shape
import Reckoner.Proofs.Rendering.Recursion

/-! # What can go wrong with a tree that was read

A tree can be built by hand in ways that cannot be written or evaluated: with holes, with signs or
operators that mean nothing. No such tree is read (`WellShaped.isArithmetic`), so a tree that was
read can always be written, and the only failure of its evaluation is a division by zero, reported
at a `/` of the source (`Expr.sound_of_reachable`). All other failures of an evaluation, and the
refusal of a digit run, are never met, from whatever state a parser is asked.
-/

namespace Reckoner

namespace Expr

/-- Integers are not negative, signs are minus signs, and every operator has a meaning. -/
def IsArithmetic : Expr → Prop
  | integer value _ => 0 ≤ value
  | unary operator operand _ => operator = "-" ∧ operand.IsArithmetic
  | binary left operator right _ =>
    operator ∈ ["+", "-", "*", "/"] ∧ left.IsArithmetic ∧ right.IsArithmetic
  | hole => False

variable {tree : Expr} {given : Option String}

theorem WellShaped.isArithmetic (shaped : tree.WellShaped) : tree.IsArithmetic := by
  have known (operator : Operator) : operator.text ∈ ["+", "-", "*", "/"] := by
    cases operator <;> decide
  induction shaped with
  | integer nonnegative => exact nonnegative
  | negation inner single ih => exact ⟨rfl, ih⟩
  | sum loose shapedLeft shapedRight group ihLeft ihRight => exact ⟨known _, ihLeft, ihRight⟩
  | product tight shapedLeft shapedRight group single ihLeft ihRight =>
    exact ⟨known _, ihLeft, ihRight⟩

theorem IsArithmetic.not_hasHole (arithmetic : tree.IsArithmetic) : ¬ tree.HasHole := by
  induction tree with
  | integer value token => exact not_false
  | unary operator operand token ih => exact ih arithmetic.2
  | binary left operator right token ihLeft ihRight =>
    exact not_or.mpr ⟨ihLeft arithmetic.2.1, ihRight arithmetic.2.2⟩
  | hole => exact arithmetic.elim

theorem IsArithmetic.exists_render (arithmetic : tree.IsArithmetic) :
    ∃ text, tree.render = .ok text :=
  exists_render_of_not_hasHole arithmetic.not_hasHole

/-- A value, or a division by zero at a `/` among the tokens. -/
inductive Settled (given : Option String) (tokens : List (Option Token)) : Except EvalError Int → Prop
  | value (number : Int) : Settled given tokens (.ok number)
  | zeroDivision {token : Token} (member : some token ∈ tokens) (quotient : token.literal = "/") :
      Settled given tokens (.error (.divisionByZero given token.location))

theorem Settled.mono {tokens more : List (Option Token)} {result : Except EvalError Int}
    (settled : Settled given tokens result) (included : tokens ⊆ more) : Settled given more result := by
  cases settled with
  | value number => exact .value number
  | zeroDivision member quotient => exact .zeroDivision (included member) quotient

theorem settled_applyOperator {operator : String} {token : Token} {tokens : List (Option Token)}
    (known : operator ∈ ["+", "-", "*", "/"]) (own : operator = token.literal)
    (member : some token ∈ tokens) (left right : Int) :
    Settled given tokens (applyOperator given operator (some token) left right) := by
  simp only [List.mem_cons, List.not_mem_nil, or_false] at known
  rcases known with rfl | rfl | rfl | rfl
  · exact .value _
  · exact .value _
  · exact .value _
  · have quotient : applyOperator given "/" (some token) left right =
        if right = 0 then .error (.divisionByZero given token.location) else .ok (left.fdiv right) := rfl
    rw [quotient]
    split
    · exact .zeroDivision member own.symm
    · exact .value _

/-- The first failure of a node comes from an operand, or it is a division by the node itself. -/
theorem settled_reduce (given : Option String) (arithmetic : tree.IsArithmetic)
    (spelled : tree.SpelledByTokens) : Settled given tree.inorder (tree.reduce (evaluation given)) := by
  induction tree with
  | integer value token => exact .value value
  | unary operator operand token ih =>
    obtain ⟨rfl, inner⟩ := arithmetic
    have settled := (ih inner spelled.2).mono (List.subset_cons_self token operand.inorder)
    rw [reduce_unary, if_pos rfl]
    generalize operand.reduce (evaluation given) = result at settled
    cases settled with
    | value number => exact .value _
    | zeroDivision member quotient => exact .zeroDivision member quotient
  | binary left operator right token ihLeft ihRight =>
    obtain ⟨known, arithmeticLeft, arithmeticRight⟩ := arithmetic
    obtain ⟨spelledLeft, ⟨own, rfl, literal⟩, spelledRight⟩ := spelled
    have settledLeft := (ihLeft arithmeticLeft spelledLeft).mono
      (List.subset_append_left left.inorder (some own :: right.inorder))
    have settledRight := (ihRight arithmeticRight spelledRight).mono
      (List.subset_append_of_subset_right left.inorder (List.subset_cons_self (some own) right.inorder))
    rw [reduce]
    generalize left.reduce (evaluation given) = leftResult at settledLeft
    generalize right.reduce (evaluation given) = rightResult at settledRight
    cases settledLeft with
    | zeroDivision member quotient => exact .zeroDivision member quotient
    | value a =>
      cases settledRight with
      | zeroDivision member quotient => exact .zeroDivision member quotient
      | value b =>
        exact settled_applyOperator known literal (by simp [inorder]) a b
  | hole => exact arithmetic.elim

/-- A tree that can be written, and fails to have a value only for a quotient of the source. -/
structure Sound (source : String) (tree : Expr) : Prop where
  arithmetic : tree.IsArithmetic
  written : ∃ text, tree.render = .ok text
  valued : ∀ given, (∃ value, tree.evaluate given = .ok value) ∨
    ∃ index : Nat, source.toList[index]? = some '/' ∧
      tree.evaluate given = .error (.divisionByZero given index)

/-- A token `/` stands at a `/`. -/
theorem exists_slash {source : String} {token : Token}
    (member : token ∈ (Lexer.ofString source).tokens) (quotient : token.literal = "/") :
    ∃ index : Nat, source.toList[index]? = some '/' ∧ token.location = index := by
  obtain ⟨before, after, text, location⟩ := (isDivision_tokens source).exists_text member
  refine ⟨before.length, ?_, location⟩
  rw [text, quotient, List.getElem?_append_right (Nat.le_refl _), Nat.sub_self]
  rfl

theorem sound_of_tokens {source : String} (shaped : tree.WellShaped) (spelled : tree.SpelledByTokens)
    (own : ∀ token, some token ∈ tree.inorder → token ∈ (Lexer.ofString source).tokens) :
    tree.Sound source where
  arithmetic := shaped.isArithmetic
  written := shaped.isArithmetic.exists_render
  valued given := by
    have settled := settled_reduce given shaped.isArithmetic spelled
    rw [evaluate, run_eq_reduce]
    generalize tree.reduce (evaluation given) = result at settled
    cases settled with
    | value number => exact .inl ⟨number, rfl⟩
    | zeroDivision member quotient =>
      obtain ⟨index, slash, location⟩ := exists_slash (own _ member) quotient
      exact .inr ⟨index, slash, by rw [location]⟩

/-- Whatever a parser reads, it is sound, from whatever state it is asked. -/
theorem sound_of_reachable {source : String} {parser after : Parser} {threshold : Int}
    (reachable : Parser.Reachable source parser)
    (read : parser.expression threshold = (.ok tree, after)) : tree.Sound source := by
  have reads : Parser.Reads .expression threshold parser tree after := Parser.reads_of_nested read
  obtain ⟨count, errors, placed⟩ := reachable.exists_onto
  obtain ⟨start, length, _, _, _, passed⟩ := Parser.inorder_of_reachable reachable read
  refine sound_of_tokens (reads.wellShaped ⟨_, _, placed⟩ trivial).1 (reads.spelledByTokens trivial) ?_
  intro token member
  rw [passed, List.mem_map_of_injective (Option.some_injective _)] at member
  exact List.mem_of_mem_drop (List.mem_of_mem_take member)

end Expr

namespace ParseError

/-- Only the refusal of a digit run is told with these words. -/
theorem not_prefix_message {error : ParseError} (other : error.cause ≠ .unreadableInteger) :
    ¬ "could not parse ".toList <+: error.message.toList := by
  obtain ⟨cause, token, source⟩ := error
  cases cause with
  | unreadableInteger => contradiction
  | noExpression | leftover => simp [message, String.toList_append, List.cons_prefix_cons]
  | missingExpression | tooDeep => simp [message, List.cons_prefix_cons]

end ParseError

namespace Parser

variable {source : String} {parser : Parser} {outcome : Outcome}

theorem Attempt.cause_ne {lexer : Lexer} {errors : List ParseError} {error : ParseError}
    (attempt : Attempt lexer errors outcome) (refused : outcome.1 = .error error) :
    error.cause ≠ .unreadableInteger := by
  cases attempt with
  | read tree passed number => cases refused
  | @refused cause place passed due =>
    cases refused
    rintro rfl
    exact due

theorem Attempt.cause_ne_of_mem {lexer : Lexer} {errors : List ParseError} {error : ParseError}
    (attempt : Attempt lexer errors outcome) (member : error ∈ outcome.2.errors) :
    error ∈ errors ∨ error.cause ≠ .unreadableInteger := by
  cases attempt with
  | read tree passed number => exact .inl member
  | @refused cause place passed due =>
    rcases List.mem_append.mp member with earlier | own
    · exact .inl earlier
    · obtain rfl := List.mem_singleton.mp own
      refine .inr ?_
      rintro rfl
      exact due

end Parser

/-- A source that is accepted gives a sound tree. -/
theorem sound_of_parse {source : String} {tree : Expr} (accepted : parse source = .ok tree) :
    tree.Sound source := by
  obtain ⟨after, read, _⟩ := read_of_parse accepted
  exact Expr.sound_of_reachable .start read

theorem cause_ne_of_parse {source : String} {error : ParseError} (refused : parse source = .error error) :
    error.cause ≠ .unreadableInteger := by
  obtain ⟨place, _, _, _, due⟩ := exists_place_of_parse refused
  intro number
  rw [number] at due
  rcases due with due | leftover
  · exact due
  · cases leftover

/-- A source has no value because it is refused, or because of one of its quotients. -/
theorem fault_of_evaluate {source : String} {error : CalcError} (failed : evaluate source = .error error) :
    (∃ refusal, parse source = .error refusal ∧ error = .parse refusal) ∨
      ∃ tree, parse source = .ok tree ∧ ∃ index : Nat, source.toList[index]? = some '/' ∧
        error = .eval (.divisionByZero (some source) index) := by
  rw [evaluate_eq_bind] at failed
  cases parsed : parse source with
  | error refusal =>
    rw [parsed] at failed
    cases failed
    exact .inl ⟨refusal, rfl, rfl⟩
  | ok tree =>
    rw [parsed] at failed
    rcases (sound_of_parse parsed).valued (some source) with ⟨value, evaluated⟩ | ⟨index, slash, evaluated⟩
    · simp only [Except.mapError, Except.bind, valueOf, evaluated] at failed
      cases failed
    · simp only [Except.mapError, Except.bind, valueOf, evaluated] at failed
      cases failed
      exact .inr ⟨tree, rfl, index, slash, rfl⟩

/-- The author of the source is told about every failure. -/
theorem exists_diagnostic_of_evaluate {source : String} {error : CalcError}
    (failed : evaluate source = .error error) : ∃ diagnostic, error.diagnostic? = some diagnostic := by
  rcases fault_of_evaluate failed with ⟨refusal, _, rfl⟩ | ⟨tree, _, index, _, rfl⟩
  · exact ⟨_, rfl⟩
  · exact ⟨_, rfl⟩

/-- Whatever is asked of a parser, in whatever state, a tree that it returns can be written and has a
value unless a quotient of the source divides by zero, and no digit run is refused. So the only
failures that a source can cause are the other refusals of the parser and divisions by zero. -/
theorem only_user_errors (source : String) :
    (∀ parser outcome, Parser.Reachable source parser → parser.Answers outcome →
      (∀ tree, outcome.1 = .ok tree → tree.Sound source) ∧
      (∀ error, outcome.1 = .error error → ¬ "could not parse ".toList <+: error.message.toList) ∧
      ∀ error ∈ outcome.2.errors, error ∈ parser.errors ∨
        ¬ "could not parse ".toList <+: error.message.toList) ∧
    (∀ tree, parse source = .ok tree → tree.Sound source) ∧
    (∀ error, parse source = .error error → ¬ "could not parse ".toList <+: error.message.toList) ∧
    ∀ error, evaluate source = .error error →
      (∃ refusal, parse source = .error refusal ∧ error = .parse refusal) ∨
      ∃ index : Nat, source.toList[index]? = some '/' ∧
        error = .eval (.divisionByZero (some source) index) := by
  refine ⟨?_, fun _ => sound_of_parse, ?_, ?_⟩
  · intro parser outcome reachable answers
    obtain ⟨threshold, rfl⟩ := answers.exists_threshold
    obtain ⟨lexer, errors, rfl, attempt⟩ := reachable.exists_attempt threshold
    refine ⟨?_, ?_, ?_⟩
    · intro tree read
      exact Expr.sound_of_reachable reachable (Prod.ext read rfl)
    · intro error refused
      exact ParseError.not_prefix_message (attempt.cause_ne refused)
    · intro error member
      exact (attempt.cause_ne_of_mem member).imp id ParseError.not_prefix_message
  · intro error refused
    exact ParseError.not_prefix_message (cause_ne_of_parse refused)
  · intro error failed
    exact (fault_of_evaluate failed).imp id fun ⟨_, _, quotient⟩ => quotient

theorem only_user_errors_midway :
    Parser.Reachable "1-8/0%" (Parser.ofString "1-8/0%").advance.advance ∧
      (∃ tree after, (Parser.ofString "1-8/0%").advance.advance.expression 1 = (.ok tree, after) ∧
        tree.Sound "1-8/0%") ∧
      (∃ refusal, parse "1-8/0%" = .error refusal ∧
        ¬ "could not parse ".toList <+: refusal.message.toList) ∧
      ∃ error, evaluate "1-8/0" = .error error ∧
        ∃ index : Nat, "1-8/0".toList[index]? = some '/' ∧
          error = .eval (.divisionByZero (some "1-8/0") index) := by
  have reachable : Parser.Reachable "1-8/0%" (Parser.ofString "1-8/0%").advance.advance :=
    .step (.step .start .advance) .advance
  have read : (Parser.ofString "1-8/0%").advance.advance.expression 1 =
      (.ok (.binary (.integer 8 (some ⟨.int, "8", 2⟩)) "/" (.integer 0 (some ⟨.int, "0", 4⟩))
        (some ⟨.slash, "/", 3⟩)),
        ⟨⟨"1-8/0%", 6, []⟩, ⟨.int, "0", 4⟩, ⟨.percent, "%", 5⟩, []⟩) := by decide +kernel
  have refused : parse "1-8/0%" = .error ⟨.leftover, ⟨.percent, "%", 5⟩, "1-8/0%"⟩ := by decide +kernel
  have failed : evaluate "1-8/0" = .error (.eval (.divisionByZero (some "1-8/0") 3)) := by decide +kernel
  obtain ⟨midways, _, refusals, _⟩ := only_user_errors "1-8/0%"
  refine ⟨reachable, ⟨_, _, read, ?_⟩, ⟨_, refused, refusals _ refused⟩, ⟨_, failed, ?_⟩⟩
  · exact (midways _ _ reachable (.expression 1)).1 _ (congrArg Prod.fst read)
  · rcases (only_user_errors "1-8/0").2.2.2 _ failed with ⟨refusal, _, other⟩ | quotient
    · cases other
    · exact quotient

end Reckoner
