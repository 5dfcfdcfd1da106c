import Reckoner.Diagnostic
import Reckoner.Expr.Walk

/-! # The value of a tree

Integers are exact and division rounds down. Dividing by zero is the fault of the expression, and
is reported at the operator. A tree built by hand can fail in further ways: at a sign other than
minus, before its operand is evaluated; at an operator without a meaning, after both operands are;
and at a hole. The first failure in the order of evaluation is the one reported.
-/

namespace Reckoner

inductive EvalError where
  | divisionByZero (source : Option String) (location : Int)
  | unknownSign (operator : String)
  | unknownOperator (operator : String)
  | missingExpression
  | missingOperand
deriving DecidableEq, Repr

namespace EvalError

def message : EvalError → String
  | divisionByZero _ _ => "division by zero"
  | unknownSign operator => "unexpected prefix operator: " ++ Text.quote operator
  | unknownOperator operator => "unexpected infix operator: " ++ Text.quote operator
  | missingExpression => "unexpected node: None"
  | missingOperand => "missing operand"

/-- Only a division by zero is blamed on the expression. -/
def diagnostic? : EvalError → Option Diagnostic
  | divisionByZero source location => some ⟨message (divisionByZero source location), source, location⟩
  | _ => none

end EvalError

namespace Expr

/-- Applies an operator to two values. A division by zero without a token is placed at the start. -/
def applyOperator (source : Option String) (operator : String) (token : Option Token)
    (left right : Int) : Except EvalError Int :=
  match operator with
  | "+" => .ok (left + right)
  | "-" => .ok (left - right)
  | "*" => .ok (left * right)
  | "/" =>
    if right = 0 then .error (.divisionByZero source (token.elim 0 Token.location))
    else .ok (left.fdiv right)
  | _ => .error (.unknownOperator operator)

def evaluation (source : Option String) : Reduction EvalError Int where
  integer value := .ok value
  enter operator := if operator = "-" then .ok () else .error (.unknownSign operator)
  unary _ value := .ok (-value)
  binary operator token left right := applyOperator source operator token left right
  hole := .missingExpression
  underflow := .missingOperand

/-- The value of a tree that was read from `source`. -/
def evaluate (source : Option String) (tree : Expr) : Except EvalError Int :=
  tree.run (evaluation source)

end Expr

end Reckoner
