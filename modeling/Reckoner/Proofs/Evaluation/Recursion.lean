import Reckoner.Expr.Evaluate

/-! # The loop computes what plain recursion computes

`value` evaluates a tree by recursion on it and says of each failure what is reported: the message,
and what the author of the expression is shown if the expression is to blame. The loop over pending
tasks has the same outcome for every tree, malformed ones included. Since the recursion knows no
failure of a stack, the loop never takes an operand that is not there.
-/

namespace Reckoner

/-- What is told about a failure: its message, and what is shown to the author of the expression if
the failure is their mistake. -/
structure EvalReport where
  message : String
  diagnostic? : Option Diagnostic
deriving DecidableEq, Repr

def EvalError.report (error : EvalError) : EvalReport := ⟨error.message, error.diagnostic?⟩

namespace EvalReport

/-- A division by zero is a mistake in the expression. -/
def zeroDivision (source : Option String) (location : Int) : EvalReport :=
  ⟨"division by zero", some ⟨"division by zero", source, location⟩⟩

/-- Any other failure is a fault of the tree. -/
def violation (message : String) : EvalReport := ⟨message, none⟩

end EvalReport

namespace Expr

/-- The result of an operator between two values. -/
def combine (source : Option String) (operator : String) (token : Option Token) (left right : Int) :
    Except EvalReport Int :=
  if operator = "+" then .ok (left + right)
  else if operator = "-" then .ok (left - right)
  else if operator = "*" then .ok (left * right)
  else if operator ≠ "/" then
    .error (.violation ("unexpected infix operator: " ++ Text.quote operator))
  else if right = 0 then
    .error <| .zeroDivision source <|
      match token with
      | some own => own.location
      | none => 0
  else .ok (left.fdiv right)

/-- The value of a tree by recursion, operands from left to right, up to the first failure. -/
def value (source : Option String) : Expr → Except EvalReport Int
  | integer number _ => .ok number
  | unary operator operand _ =>
    if operator = "-" then
      match operand.value source with
      | .ok a => .ok (-a)
      | .error report => .error report
    else .error (.violation ("unexpected prefix operator: " ++ Text.quote operator))
  | binary left operator right token =>
    match left.value source with
    | .error report => .error report
    | .ok a =>
      match right.value source with
      | .error report => .error report
      | .ok b => combine source operator token a b
  | hole => .error (.violation "unexpected node: None")

variable {source : Option String}

theorem report_applyOperator (operator : String) (token : Option Token) (left right : Int) :
    (applyOperator source operator token left right).mapError EvalError.report =
      combine source operator token left right := by
  unfold applyOperator
  split
  · rfl
  · rfl
  · rfl
  · have quotient : combine source "/" token left right =
        if right = 0 then .error (.zeroDivision source (token.elim 0 Token.location))
        else .ok (left.fdiv right) := by
      cases token <;> rfl
    rw [quotient]
    split <;> rfl
  · next notSum notDifference notProduct notQuotient =>
    unfold combine
    rw [if_neg notSum, if_neg notDifference, if_neg notProduct, if_pos notQuotient]
    rfl

/-- A sign is looked at before its operand. -/
theorem reduce_unary (operator : String) (operand : Expr) (token : Option Token) :
    (unary operator operand token).reduce (evaluation source) =
      if operator = "-" then (operand.reduce (evaluation source)).map fun a => -a
      else .error (.unknownSign operator) := by
  rw [reduce]
  by_cases minus : operator = "-"
  · rw [if_pos minus, minus]
    cases operand.reduce (evaluation source) <;> rfl
  · have refused : (evaluation source).enter operator = .error (.unknownSign operator) := if_neg minus
    rw [if_neg minus, refused]
    rfl

/-- Each node of the recursion reports what the rule of the loop for it gives. -/
theorem report_reduce (source : Option String) (tree : Expr) :
    (tree.reduce (evaluation source)).mapError EvalError.report = tree.value source := by
  induction tree with
  | integer number token => rfl
  | unary operator operand token ih =>
    rw [value, ← ih, reduce_unary]
    split
    · cases operand.reduce (evaluation source) <;> rfl
    · rfl
  | binary left operator right token ihLeft ihRight =>
    rw [value, ← ihLeft, ← ihRight, reduce]
    cases left.reduce (evaluation source) with
    | error error => rfl
    | ok a =>
      cases right.reduce (evaluation source) with
      | error error => rfl
      | ok b => exact report_applyOperator operator token a b
  | hole => rfl

theorem applyOperator_ne_missingOperand (operator : String) (token : Option Token) (left right : Int) :
    applyOperator source operator token left right ≠ .error .missingOperand := by
  intro missing
  unfold applyOperator at missing
  split at missing
  case h_4 => split at missing <;> cases missing
  all_goals cases missing

/-- The recursion has no stack that could be empty. -/
theorem reduce_ne_missingOperand (source : Option String) (tree : Expr) :
    tree.reduce (evaluation source) ≠ .error .missingOperand := by
  induction tree with
  | integer number token =>
    intro missing
    cases missing
  | unary operator operand token ih =>
    rw [reduce_unary]
    split
    · cases result : operand.reduce (evaluation source) with
      | error error =>
        rw [result] at ih
        exact ih
      | ok a =>
        intro missing
        cases missing
    · intro missing
      cases missing
  | binary left operator right token ihLeft ihRight =>
    rw [reduce]
    cases leftResult : left.reduce (evaluation source) with
    | error error =>
      rw [leftResult] at ihLeft
      exact ihLeft
    | ok a =>
      cases rightResult : right.reduce (evaluation source) with
      | error error =>
        rw [rightResult] at ihRight
        exact ihRight
      | ok b => exact applyOperator_ne_missingOperand operator token a b
  | hole =>
    intro missing
    cases missing

end Expr

/-- The loop over pending tasks has the outcome of the recursion: the same value, or the same first
failure. It never takes an operand that is not there, and where it ends without a failure, the value
is all that is left on the stack. -/
theorem evaluate_eq_value (source : Option String) (tree : Expr) :
    (tree.evaluate source).mapError EvalError.report = tree.value source ∧
      tree.evaluate source ≠ .error .missingOperand ∧
      Expr.walk (Expr.evaluation source) [.visit tree] [] =
        (tree.evaluate source).map fun value => [value] := by
  refine ⟨?_, ?_, Expr.walk_eq_map_run (Expr.evaluation source) tree⟩
  · rw [Expr.evaluate, Expr.run_eq_reduce]
    exact tree.report_reduce source
  · rw [Expr.evaluate, Expr.run_eq_reduce]
    exact tree.reduce_ne_missingOperand source

end Reckoner
