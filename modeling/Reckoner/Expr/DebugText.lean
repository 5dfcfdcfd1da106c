import Reckoner.Decimal
import Reckoner.Expr.Basic

/-! # Debug text of tokens and trees

The debug text of a value is the name of its constructor with all fields named, texts quoted. For a
tree it leaves the tokens out, so trees that are the same tree have the same debug text.
-/

namespace Reckoner

/-- A constructor applied to named fields. -/
def constructorText (constructor : String) (fields : List (String × String)) : String :=
  constructor ++ "(" ++ ", ".intercalate (fields.map fun (name, text) => name ++ "=" ++ text) ++ ")"

def Token.Kind.debugText (kind : Kind) : String :=
  "<TokenKind." ++ kind.name ++ ": " ++ Decimal.write kind.number ++ ">"

def Token.debugText (token : Token) : String :=
  constructorText "Token"
    [("kind", token.kind.debugText), ("literal", Text.quote token.literal),
      ("location", Decimal.write token.location)]

def Expr.debugText : Expr → String
  | integer value _ => constructorText "IntegerLiteral" [("value", Decimal.write value)]
  | unary operator operand _ =>
    constructorText "PrefixExpression"
      [("operator", Text.quote operator), ("operand", operand.debugText)]
  | binary left operator right _ =>
    constructorText "InfixExpression"
      [("left", left.debugText), ("operator", Text.quote operator), ("right", right.debugText)]
  | hole => "None"

theorem Expr.debugText_bare (tree : Expr) : tree.bare.debugText = tree.debugText := by
  induction tree <;> simp_all [bare, debugText]

end Reckoner
