import Reckoner.Expr.Render
import Reckoner.Proofs.Decimal.Numerals

/-! # The loop writes what plain recursion writes

`written` writes a tree by recursion on it, parentheses around every operator with its operands, and
gives up at a hole. The loop over pending tasks has the same outcome for every tree. A hole is all that
can stop it: the text of each operand is there when its operator is written, and one text is left at
the end.
-/

namespace Reckoner

namespace Expr

/-- An expression is missing somewhere in the tree. -/
def HasHole : Expr → Prop
  | integer _ _ => False
  | unary _ operand _ => operand.HasHole
  | binary left _ right _ => left.HasHole ∨ right.HasHole
  | hole => True

/-- The text of a tree by recursion, or what is said of the first hole in it. -/
def written : Expr → Except String String
  | integer value _ => .ok (toString value)
  | unary operator operand _ =>
    match operand.written with
    | .ok text => .ok ("(" ++ operator ++ text ++ ")")
    | .error message => .error message
  | binary left operator right _ =>
    match left.written with
    | .error message => .error message
    | .ok a =>
      match right.written with
      | .error message => .error message
      | .ok b => .ok ("(" ++ a ++ " " ++ operator ++ " " ++ b ++ ")")
  | hole => .error "not an expression: None"

variable {tree : Expr}

theorem message_render (tree : Expr) : tree.render.mapError RenderError.message = tree.written := by
  induction tree with
  | integer value token =>
    rw [render_integer, written, Decimal.write_eq_toString]
    rfl
  | unary operator operand token ih =>
    rw [render_unary, written, ← ih]
    cases operand.render <;> rfl
  | binary left operator right token ihLeft ihRight =>
    rw [render_binary, written, ← ihLeft, ← ihRight]
    cases left.render with
    | error failure => rfl
    | ok a => cases right.render <;> rfl
  | hole =>
    rw [render_hole, written]
    rfl

/-- Operands without holes have texts, and with them the operator has one. -/
theorem exists_render_of_not_hasHole (complete : ¬ tree.HasHole) : ∃ text, tree.render = .ok text := by
  induction tree with
  | integer value token => exact ⟨_, render_integer value⟩
  | unary operator operand token ih =>
    obtain ⟨text, inner⟩ := ih complete
    rw [render_unary, inner]
    exact ⟨_, rfl⟩
  | binary left operator right token ihLeft ihRight =>
    obtain ⟨completeLeft, completeRight⟩ := not_or.mp complete
    obtain ⟨a, textLeft⟩ := ihLeft completeLeft
    obtain ⟨b, textRight⟩ := ihRight completeRight
    rw [render_binary, textLeft, textRight]
    exact ⟨_, rfl⟩
  | hole => exact (complete trivial).elim

theorem render_of_hasHole (holed : tree.HasHole) : tree.render = .error .missingExpression := by
  induction tree with
  | integer value token => exact holed.elim
  | unary operator operand token ih =>
    rw [render_unary, ih holed]
    rfl
  | binary left operator right token ihLeft ihRight =>
    by_cases holedLeft : left.HasHole
    · rw [render_binary, ihLeft holedLeft]
      rfl
    · obtain ⟨a, textLeft⟩ := exists_render_of_not_hasHole holedLeft
      rw [render_binary, textLeft, ihRight (holed.resolve_left holedLeft)]
      rfl
  | hole => exact render_hole

theorem render_eq_error_iff {error : RenderError} :
    tree.render = .error error ↔ tree.HasHole ∧ error = .missingExpression := by
  by_cases holed : tree.HasHole
  · rw [render_of_hasHole holed, Except.error.injEq, and_iff_right holed]
    exact eq_comm
  · obtain ⟨text, rendered⟩ := exists_render_of_not_hasHole holed
    simp [rendered, holed]

end Expr

/-- The loop over pending tasks has the outcome of the recursion: the same text, or the failure at a
hole, exactly if the tree has one. It never takes a text that is not there, and where it ends without a
failure, the text is all that is left on the stack. -/
theorem render_eq_written (tree : Expr) :
    tree.render.mapError RenderError.message = tree.written ∧
      (tree.render = .error .missingExpression ↔ tree.HasHole) ∧
      tree.render ≠ .error .missingOperand ∧
      Expr.walk Expr.rendering [.visit tree] [] = tree.render.map fun text => [text] := by
  refine ⟨tree.message_render, ?_, ?_, Expr.walk_eq_map_run Expr.rendering tree⟩
  · rw [Expr.render_eq_error_iff, and_iff_left rfl]
  · intro missing
    cases (Expr.render_eq_error_iff.mp missing).2

end Reckoner
