import Reckoner.Decimal
import Reckoner.Expr.Walk

/-! # Fully parenthesised text of a tree

Every operator is written with its operands between parentheses, so that the text shows the shape
of the tree: `(-x)` and `(a + b)`. Any operator can be written, with a meaning or without; only a
hole cannot.
-/

namespace Reckoner

inductive RenderError where
  | missingExpression
  | missingOperand
deriving DecidableEq, Repr

def RenderError.message : RenderError → String
  | missingExpression => "not an expression: None"
  | missingOperand => "missing operand"

namespace Expr

def rendering : Reduction RenderError String where
  integer value := .ok (Decimal.write value)
  enter _ := .ok ()
  unary operator operand := .ok ("(" ++ operator ++ operand ++ ")")
  binary operator _ left right := .ok ("(" ++ left ++ " " ++ operator ++ " " ++ right ++ ")")
  hole := .missingExpression
  underflow := .missingOperand

def render (tree : Expr) : Except RenderError String := tree.run rendering

variable {token : Option Token}

theorem render_integer (value : Int) : (integer value token).render = .ok (Decimal.write value) := by
  rw [render, run_eq_reduce]
  rfl

theorem render_unary (operator : String) (operand : Expr) :
    (unary operator operand token).render =
      operand.render.map fun text => "(" ++ operator ++ text ++ ")" := by
  simp only [render, run_eq_reduce, reduce]
  cases operand.reduce rendering <;> rfl

theorem render_binary (left : Expr) (operator : String) (right : Expr) :
    (binary left operator right token).render =
      left.render.bind fun a =>
        right.render.map fun b => "(" ++ a ++ " " ++ operator ++ " " ++ b ++ ")" := by
  simp only [render, run_eq_reduce, reduce]
  cases left.reduce rendering with
  | error failure => rfl
  | ok a => cases right.reduce rendering <;> rfl

theorem render_hole : hole.render = .error .missingExpression := by
  rw [render, run_eq_reduce]
  rfl

/-- The tokens are not written. -/
theorem render_bare (tree : Expr) : tree.bare.render = tree.render := by
  induction tree with
  | integer value token => rw [bare, render_integer, render_integer]
  | unary operator operand token ih => rw [bare, render_unary, render_unary, ih]
  | binary left operator right token ihLeft ihRight =>
    rw [bare, render_binary, render_binary, ihLeft, ihRight]
  | hole => rfl

end Expr

end Reckoner
