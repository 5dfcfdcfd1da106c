import Reckoner.Diagnostic
import Reckoner.Token

/-! # Reasons to refuse an expression

A parse error names a cause and the token it was found at, which gives the location and, where the
message shows one, the offending text.
-/

namespace Reckoner

inductive ParseError.Cause where
  | missingExpression
  | noExpression
  | unreadableInteger
  | leftover
  | tooDeep
deriving DecidableEq, Repr

structure ParseError where
  cause : ParseError.Cause
  token : Token
  source : String
deriving DecidableEq, Repr

namespace ParseError

def message (error : ParseError) : String :=
  match error.cause with
  | .missingExpression => "expected an expression"
  | .noExpression => "no prefix parse rule for " ++ error.token.label
  | .unreadableInteger => "could not parse " ++ error.token.label ++ " as integer"
  | .leftover => "unexpected " ++ error.token.label
  | .tooDeep => "expression is nested too deeply"

def diagnostic (error : ParseError) : Diagnostic :=
  ⟨error.message, some error.source, error.token.location⟩

end ParseError

end Reckoner
