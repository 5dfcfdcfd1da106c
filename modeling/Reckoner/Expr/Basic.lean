import Reckoner.Token

/-! # Expression trees

Trees of integers, signs and operators between two operands. A node may carry the token it was read
from; a tree that was built by hand has none. Operators are kept as their text, so that a tree can
hold one that has no meaning, and a place where an expression is missing is a `hole`.
-/

namespace Reckoner

inductive Expr where
  | integer (value : Int) (token : Option Token)
  | unary (operator : String) (operand : Expr) (token : Option Token)
  | binary (left : Expr) (operator : String) (right : Expr) (token : Option Token)
  | hole
deriving DecidableEq, Repr, Inhabited

namespace Expr

/-- The token of the root. -/
def token? : Expr → Option Token
  | integer _ token | unary _ _ token | binary _ _ _ token => token
  | hole => none

/-- The tree without its tokens. -/
def bare : Expr → Expr
  | integer value _ => integer value none
  | unary operator operand _ => unary operator operand.bare none
  | binary left operator right _ => binary left.bare operator right.bare none
  | hole => hole

/-- Equality of shape, operators and integers. Where the parts were read does not count. -/
def sameTree (a b : Expr) : Bool := a.bare = b.bare

/-- A hash that agrees with `sameTree`. -/
def hash : Expr → UInt64
  | integer value _ => mixHash 3 (Hashable.hash value)
  | unary operator operand _ => mixHash 5 (mixHash (Hashable.hash operator) operand.hash)
  | binary left operator right _ =>
    mixHash 7 (mixHash left.hash (mixHash (Hashable.hash operator) right.hash))
  | hole => 11

/-- All nodes, operands before their operator and left before right. -/
def postorder : Expr → List Expr
  | integer value token => [integer value token]
  | unary operator operand token => operand.postorder ++ [unary operator operand token]
  | binary left operator right token =>
    left.postorder ++ (right.postorder ++ [binary left operator right token])
  | hole => []

theorem bare_bare (tree : Expr) : tree.bare.bare = tree.bare := by
  induction tree <;> simp_all [bare]

theorem hash_bare (tree : Expr) : tree.bare.hash = tree.hash := by
  induction tree <;> simp_all [bare, hash]

theorem hash_eq_of_sameTree {a b : Expr} (same : a.sameTree b = true) : a.hash = b.hash := by
  rw [← hash_bare a, ← hash_bare b, of_decide_eq_true same]

end Expr

end Reckoner
