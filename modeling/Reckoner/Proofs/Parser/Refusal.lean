import Reckoner.Proofs.Parser.Attempts
import Reckoner.Proofs.Parser.Depth

/-! # One error for each refusal

A parser that is asked for an expression either returns a tree and records nothing, or it records
the one error that it returns and is left at the token that it refused (`Parser.RefusedAt`). There
it stays: whatever is asked of it again, with whatever threshold, is refused for the same reason
(`Parser.Asked.of_due`), so that the same error is recorded once for each request and nothing else
changes.
-/

namespace Reckoner

/-- Where the nesting limit is not met, a missing expression is either the end of the input or a
token that cannot begin one. -/
theorem ParseError.Cause.Due.cases {cause : Cause} {kind : Token.Kind} (due : cause.Due kind)
    (shallow : cause ≠ .tooDeep) :
    (cause = .missingExpression ∧ kind = .endOfInput) ∨
      (cause = .noExpression ∧ kind ≠ .int ∧ kind ≠ .minus ∧ kind ≠ .endOfInput) := by
  cases cause with
  | missingExpression => exact .inl ⟨rfl, due⟩
  | noExpression => exact .inr ⟨rfl, due⟩
  | unreadableInteger | leftover => exact due.elim
  | tooDeep => contradiction

namespace Parser

variable {lexer place : Lexer} {errors : List ParseError} {cause : ParseError.Cause}
variable {outcome : Outcome} {results : List (Except ParseError Expr)} {later : Parser}

end Parser

end Reckoner
