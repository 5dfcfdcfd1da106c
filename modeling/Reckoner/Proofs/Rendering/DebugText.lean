import Reckoner.Expr.DebugText
import Reckoner.Proofs.Rendering.Unambiguous
import Reckoner.Proofs.Text.Quoting

/-! # The debug text tells the tree

A debug text begins with the name of its constructor, and each field ends where its value ends: a
numeral at the closing parenthesis, a quoted operator at its delimiter, a tree with its own text. What
an operator holds does not matter, be it a parenthesis, a comma or the text of a whole tree, because
it is quoted. So a text begins with the debug text of one tree only, whatever is behind it
(`Expr.debugText_append_inj`).
-/

namespace Reckoner

namespace Expr

variable {first second : Expr} {token : Option Token} {tail rest : List Char}

@[simp] theorem debugText_integer_append (value : Int) (tail : List Char) :
    (integer value token).debugText.toList ++ tail =
      "IntegerLiteral(value=".toList ++ ((Decimal.write value).toList ++ ')' :: tail) := by
  simp [debugText, constructorText]

@[simp] theorem debugText_unary_append (operator : String) (operand : Expr) (tail : List Char) :
    (unary operator operand token).debugText.toList ++ tail =
      "PrefixExpression(operator=".toList ++ ((Text.quote operator).toList ++
        (", operand=".toList ++ (operand.debugText.toList ++ ')' :: tail))) := by
  simp [debugText, constructorText]

@[simp] theorem debugText_binary_append (left : Expr) (operator : String) (right : Expr) (tail : List Char) :
    (binary left operator right token).debugText.toList ++ tail =
      "InfixExpression(left=".toList ++ (left.debugText.toList ++
        (", operator=".toList ++ ((Text.quote operator).toList ++
          (", right=".toList ++ (right.debugText.toList ++ ')' :: tail))))) := by
  simp [debugText, constructorText]

@[simp] theorem debugText_hole_append (tail : List Char) :
    hole.debugText.toList ++ tail = "None".toList ++ tail := rfl

/-- What a text begins with is the debug text of one tree, up to the tokens. -/
theorem debugText_append_inj
    (same : first.debugText.toList ++ tail = second.debugText.toList ++ rest) :
    first.bare = second.bare ∧ tail = rest := by
  induction first generalizing second tail rest with
  | integer value token =>
    rw [debugText_integer_append] at same
    cases second with
    | integer other _ =>
      rw [debugText_integer_append] at same
      obtain ⟨rfl, behind⟩ := Decimal.write_append_inj (endsDigits_cons rfl _) (endsDigits_cons rfl _)
        (List.append_cancel_left same)
      exact ⟨rfl, (List.cons.inj behind).2⟩
    | unary | binary | hole => simp at same
  | unary operator operand token ih =>
    rw [debugText_unary_append] at same
    cases second with
    | unary other operandOther _ =>
      rw [debugText_unary_append] at same
      obtain ⟨rfl, field⟩ := Text.quote_append_inj (List.append_cancel_left same)
      obtain ⟨sameOperand, behind⟩ := ih (List.append_cancel_left field)
      rw [bare, bare, sameOperand]
      exact ⟨rfl, (List.cons.inj behind).2⟩
    | integer | binary | hole => simp at same
  | binary left operator right token ihLeft ihRight =>
    rw [debugText_binary_append] at same
    cases second with
    | binary leftOther other rightOther _ =>
      rw [debugText_binary_append] at same
      obtain ⟨sameLeft, fields⟩ := ihLeft (List.append_cancel_left same)
      obtain ⟨rfl, field⟩ := Text.quote_append_inj (List.append_cancel_left fields)
      obtain ⟨sameRight, behind⟩ := ihRight (List.append_cancel_left field)
      rw [bare, bare, sameLeft, sameRight]
      exact ⟨rfl, (List.cons.inj behind).2⟩
    | integer | unary | hole => simp at same
  | hole =>
    rw [debugText_hole_append] at same
    cases second with
    | hole => exact ⟨rfl, List.append_cancel_left same⟩
    | integer | unary | binary => simp at same

end Expr

/-- Two trees have the same debug text exactly if they are the same tree, whatever their integers and
operators are, and whether something is missing in them or not. -/
theorem debugText_unambiguous (first second : Expr) :
    first.debugText = second.debugText ↔ first.sameTree second = true := by
  constructor
  · intro same
    have characters : first.debugText.toList ++ [] = second.debugText.toList ++ [] := by rw [same]
    exact decide_eq_true (Expr.debugText_append_inj characters).1
  · intro same
    rw [← first.debugText_bare, ← second.debugText_bare, of_decide_eq_true same]

/-- An operator that reads as the end of its own field. -/
example : (Expr.unary "'," .hole none).debugText = "PrefixExpression(operator=\"',\", operand=None)" := by
  decide +kernel

end Reckoner
