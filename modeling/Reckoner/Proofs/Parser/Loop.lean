import Mathlib.Logic.Function.Iterate
import Reckoner.Parser.Basic
import Reckoner.Proofs.Lexer.Tokens

/-! # The loop over operators without its bound

`chain` takes a bound on the number of operands, and `chainBound` supplies one. Every step leaves the
parser some tokens further on (`Onward`), and each operand that is joined takes at least one
character from the lexer, so the bound is never reached: any larger one gives the same outcome.
`extend` is the loop with its bound filled in, `extend_eq` is the equation of an unbounded loop, and
`joined_induction` is the induction along it. With `nested_succ`, which splits an expression into
what it begins with and that loop, and the equations of `nested` for each kind of token, later proofs
need neither the bound nor the definitions.
-/

namespace Reckoner

namespace Lexer

theorem length_rest_next_le (lexer : Lexer) : lexer.next.2.rest.length ≤ lexer.rest.length := by
  have whole := congrArg List.length lexer.literal_append_rest_next
  rw [List.length_append] at whole
  omega

end Lexer

namespace Parser

/-- Goes on with the tree that was read, and not after an error. -/
def andThen (outcome : Outcome) (proceed : Expr → Parser → Outcome) : Outcome :=
  match outcome with
  | (.ok tree, after) => proceed tree after
  | (.error error, after) => (.error error, after)

@[simp] theorem andThen_ok (tree : Expr) (after : Parser) (proceed : Expr → Parser → Outcome) :
    andThen (.ok tree, after) proceed = proceed tree after := rfl

@[simp] theorem andThen_error (error : ParseError) (after : Parser)
    (proceed : Expr → Parser → Outcome) :
    andThen (.error error, after) proceed = (.error error, after) := rfl

@[simp] theorem andThen_refuse (parser : Parser) (cause : ParseError.Cause)
    (proceed : Expr → Parser → Outcome) :
    andThen (parser.refuse cause) proceed = parser.refuse cause := rfl

theorem andThen_assoc (outcome : Outcome) (first second : Expr → Parser → Outcome) :
    andThen (andThen outcome first) second =
      andThen outcome fun tree after => andThen (first tree after) second := by
  obtain ⟨_ | _, after⟩ := outcome <;> rfl

theorem signedWith_eq (operand : Int → Parser → Outcome) (parser : Parser) :
    signedWith operand parser =
      andThen (operand Precedence.sign.level parser.advance) fun tree after =>
        (.ok (.unary parser.current.literal tree (some parser.current)), after) := by
  rw [signedWith]
  rcases operand Precedence.sign.level parser.advance with ⟨_ | _, after⟩ <;> rfl

theorem joinedWith_eq (operand : Int → Parser → Outcome) (left : Expr) (parser : Parser) :
    joinedWith operand left parser =
      andThen (operand parser.current.precedence.level parser.advance) fun right after =>
        (.ok (.binary left parser.current.literal right (some parser.current)), after) := by
  rw [joinedWith]
  rcases operand parser.current.precedence.level parser.advance with ⟨_ | _, after⟩ <;> rfl

theorem chain_succ (operand : Int → Parser → Outcome) (threshold : Int) (bound : Nat) (left : Expr)
    (parser : Parser) :
    chain operand threshold (bound + 1) left parser =
      if parser.continues threshold then
        andThen (joinedWith operand left parser.advance) (chain operand threshold bound)
      else (.ok left, parser) := by
  rw [chain]
  split
  · rcases joinedWith operand left parser.advance with ⟨_ | _, after⟩ <;> rfl
  · rfl

theorem length_rest_advance_le (parser : Parser) :
    parser.advance.lexer.rest.length ≤ parser.lexer.rest.length :=
  parser.lexer.length_rest_next_le

/-- What a step leaves behind: a tree with the parser further on, or a token further on refused. -/
inductive Onward (parser : Parser) : Outcome → Prop
  | read (tree : Expr) (count : Nat) : Onward parser (.ok tree, advance^[count] parser)
  | refused (cause : ParseError.Cause) (count : Nat) :
      Onward parser ((advance^[count] parser).refuse cause)

namespace Onward

variable {parser : Parser} {outcome : Outcome}

theorem of_iterate (count : Nat) (onward : Onward (Parser.advance^[count] parser) outcome) :
    Onward parser outcome := by
  cases onward with
  | read tree more =>
    rw [← Function.iterate_add_apply]
    exact .read tree _
  | refused cause more =>
    rw [← Function.iterate_add_apply]
    exact .refused cause _

theorem andThen {proceed : Expr → Parser → Outcome} (first : Onward parser outcome)
    (second : ∀ tree after, Onward after (proceed tree after)) :
    Onward parser (andThen outcome proceed) := by
  cases first with
  | read tree count => exact (second tree _).of_iterate count
  | refused cause count => exact .refused cause count

end Onward

theorem length_rest_iterate_advance_le (count : Nat) (parser : Parser) :
    (advance^[count] parser).lexer.rest.length ≤ parser.lexer.rest.length := by
  induction count generalizing parser with
  | zero => exact Nat.le_refl _
  | succ count ih =>
    rw [Function.iterate_succ_apply]
    exact Nat.le_trans (ih parser.advance) parser.length_rest_advance_le

/-- No characters are taken back. -/
theorem Onward.length_rest_le {parser : Parser} {outcome : Outcome}
    (onward : Onward parser outcome) :
    outcome.2.lexer.rest.length ≤ parser.lexer.rest.length := by
  cases onward with
  | read tree count => exact length_rest_iterate_advance_le count parser
  | refused cause count => exact length_rest_iterate_advance_le count parser

section Operand

variable {operand : Int → Parser → Outcome}
variable (onward : ∀ threshold parser, Onward parser (operand threshold parser))

include onward

theorem onward_signedWith (parser : Parser) : Onward parser (signedWith operand parser) := by
  rw [signedWith_eq]
  refine Onward.andThen ((onward _ parser.advance).of_iterate 1) ?_
  intro tree after
  exact .read _ 0

theorem onward_joinedWith (left : Expr) (parser : Parser) :
    Onward parser (joinedWith operand left parser) := by
  rw [joinedWith_eq]
  refine Onward.andThen ((onward _ parser.advance).of_iterate 1) ?_
  intro right after
  exact .read _ 0

theorem onward_chain (threshold : Int) (bound : Nat) (left : Expr) (parser : Parser) :
    Onward parser (chain operand threshold bound left parser) := by
  induction bound generalizing left parser with
  | zero => exact .read left 0
  | succ bound ih =>
    rw [chain_succ]
    split
    · exact ((onward_joinedWith onward left parser.advance).of_iterate 1).andThen ih
    · exact .read left 0

end Operand

/-- Joins further operands to `left`, as long as the next operator binds tighter than the
threshold. -/
def extend (depth : Nat) (threshold : Int) (left : Expr) (parser : Parser) : Outcome :=
  chain (nested depth) threshold parser.chainBound left parser

/-- What an expression begins with: a number, or a sign with its operand. -/
def leading (depth : Nat) (parser : Parser) : Outcome :=
  match parser.current.kind with
  | .int => parser.integer
  | .minus => signedWith (nested depth) parser
  | .endOfInput => parser.refuse .missingExpression
  | _ => parser.refuse .noExpression

/-- The threshold only counts from the first operator on. -/
theorem nested_succ (depth : Nat) (threshold : Int) (parser : Parser) :
    nested (depth + 1) threshold parser = andThen (leading depth parser) (extend depth threshold) := by
  change (match leading depth parser with
    | (.ok left, after) => extend depth threshold left after
    | (.error error, after) => (.error error, after)) = _
  rcases leading depth parser with ⟨_ | _, after⟩ <;> rfl

/-- The nesting limit leaves room for the outermost expression. -/
theorem exists_expression_eq : ∃ depth, ∀ (threshold : Int) (parser : Parser),
    parser.expression threshold = nested (depth + 1) threshold parser :=
  ⟨_, fun _ _ => rfl⟩

section Kinds

variable {depth : Nat} {threshold : Int} {parser : Parser}

theorem nested_int (kind : parser.current.kind = .int) :
    nested (depth + 1) threshold parser = andThen parser.integer (extend depth threshold) := by
  rw [nested_succ, leading, kind]

theorem nested_minus (kind : parser.current.kind = .minus) :
    nested (depth + 1) threshold parser =
      andThen (signedWith (nested depth) parser) (extend depth threshold) := by
  rw [nested_succ, leading, kind]

theorem nested_endOfInput (kind : parser.current.kind = .endOfInput) :
    nested (depth + 1) threshold parser = parser.refuse .missingExpression := by
  rw [nested_succ, leading, kind, andThen_refuse]

theorem nested_other (notInt : parser.current.kind ≠ .int) (notMinus : parser.current.kind ≠ .minus)
    (notEnd : parser.current.kind ≠ .endOfInput) :
    nested (depth + 1) threshold parser = parser.refuse .noExpression := by
  rw [nested_succ, leading]
  cases kind : parser.current.kind <;> first | contradiction | rfl

end Kinds

theorem onward_integer (parser : Parser) : Onward parser parser.integer := by
  rw [integer]
  split
  · exact .read _ 0
  · exact .refused _ 0

theorem onward_nested (depth : Nat) (threshold : Int) (parser : Parser) :
    Onward parser (nested depth threshold parser) := by
  induction depth generalizing threshold parser with
  | zero => exact .refused .tooDeep 0
  | succ depth ih =>
    rw [nested_succ]
    apply Onward.andThen
    · rw [leading]
      cases parser.current.kind with
      | int => exact parser.onward_integer
      | minus => exact onward_signedWith ih parser
      | _ => exact .refused _ 0
    · intro left after
      exact onward_chain ih threshold _ left after

/-- An operator with its operand takes a character from the lexer, since what follows the operator
must have been read from there. -/
theorem length_rest_joined_lt {depth : Nat} {left tree : Expr} {parser after : Parser}
    (joined : joinedWith (nested depth) left parser.advance = (.ok tree, after)) :
    after.lexer.rest.length < parser.lexer.rest.length := by
  have shorter := (onward_joinedWith (onward_nested depth) left parser.advance).length_rest_le
  rw [joined] at shorter
  by_cases done : parser.lexer.rest = []
  · have kind : parser.advance.advance.current.kind = .endOfInput :=
      Lexer.kind_next_eq_endOfInput_iff.mpr done
    rw [joinedWith_eq] at joined
    cases depth with
    | zero => cases joined
    | succ depth =>
      rw [nested_endOfInput kind] at joined
      cases joined
  · have taken : parser.advance.lexer.rest.length < parser.lexer.rest.length :=
      Lexer.length_rest_next_lt done
    exact Nat.lt_of_le_of_lt shorter taken

/-- Induction along the loop: a property of a tree and a parser follows from that of the tree which the
next operator makes and the parser behind its operand. There the lexer holds less. -/
theorem joined_induction (depth : Nat) {motive : Expr → Parser → Prop}
    (joined : ∀ left parser, (∀ tree after, joinedWith (nested depth) left parser.advance =
      (.ok tree, after) → motive tree after) → motive left parser)
    (left : Expr) (parser : Parser) : motive left parser := by
  induction size : parser.lexer.rest.length using Nat.strongRecOn generalizing left parser with
  | _ size ih =>
    subst size
    apply joined
    intro tree after taken
    exact ih _ (length_rest_joined_lt taken) tree after rfl

/-- All sufficient bounds give the same outcome. -/
theorem chain_bound_irrelevant (depth : Nat) (threshold : Int) {first second : Nat} (left : Expr)
    (parser : Parser) (firstBound : parser.lexer.rest.length < first)
    (secondBound : parser.lexer.rest.length < second) :
    chain (nested depth) threshold first left parser =
      chain (nested depth) threshold second left parser := by
  induction first generalizing second left parser with
  | zero => omega
  | succ first ih =>
    obtain ⟨second, rfl⟩ := Nat.exists_eq_succ_of_ne_zero (by omega : second ≠ 0)
    rw [chain_succ, chain_succ]
    split
    · cases joined : joinedWith (nested depth) left parser.advance with
      | mk result after =>
        cases result with
        | error error => rfl
        | ok tree =>
          have taken := length_rest_joined_lt joined
          exact ih tree after (by omega) (by omega)
    · rfl

theorem extend_eq (depth : Nat) (threshold : Int) (left : Expr) (parser : Parser) :
    extend depth threshold left parser =
      if parser.continues threshold then
        andThen (joinedWith (nested depth) left parser.advance) (extend depth threshold)
      else (.ok left, parser) := by
  rw [extend, chainBound, chain_succ]
  split
  · cases joined : joinedWith (nested depth) left parser.advance with
    | mk result after =>
      cases result with
      | error error => rfl
      | ok tree =>
        have taken := length_rest_joined_lt joined
        exact chain_bound_irrelevant depth threshold tree after (by omega) (Nat.lt_succ_self _)
  · rfl

theorem extend_of_stop {depth : Nat} {threshold : Int} {left : Expr} {parser : Parser}
    (stop : parser.continues threshold = false) :
    extend depth threshold left parser = (.ok left, parser) := by
  rw [extend_eq, if_neg (by simp [stop])]

end Parser

end Reckoner
