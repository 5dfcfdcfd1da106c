import Reckoner.Expr.Basic

/-! # Walking a tree with an explicit stack

A long sum is a tree as deep as it has terms, so trees are reduced by a loop over pending tasks and
a stack of results instead of by recursion. The loop is the same for evaluating and for writing a
tree; what is done at a node is a `Reduction`. `walk_visit` shows that visiting a tree pushes what
the plain recursion `reduce` computes, and hence `run_eq_reduce`: the stack of results is never too
short, and one result is left at the end.
-/

namespace Reckoner.Expr

/-- What becomes of each node, given the results of its operands. -/
structure Reduction (ε α : Type) where
  integer : Int → Except ε α
  /-- Looks at a sign before its operand is visited. -/
  enter : String → Except ε Unit
  unary : String → α → Except ε α
  binary : String → Option Token → α → α → Except ε α
  /-- The failure at a missing expression. -/
  hole : ε
  /-- The failure of a task that finds too few results. -/
  underflow : ε

/-- What is left to do; the first task of a list is next. -/
inductive Task where
  | visit (tree : Expr)
  | unary (operator : String)
  | binary (operator : String) (token : Option Token)
deriving DecidableEq, Repr

/-- The number of steps that visiting a tree takes. -/
def steps : Expr → Nat
  | integer _ _ | hole => 1
  | unary _ operand _ => operand.steps + 2
  | binary left _ right _ => left.steps + right.steps + 2

def Task.steps : Task → Nat
  | visit tree => tree.steps
  | unary _ | binary _ _ => 1

variable {ε α : Type}

/-- Works off the tasks; a task takes its operands from the stack of results, the right one first,
and pushes its own result. -/
def walk (rule : Reduction ε α) : List Task → List α → Except ε (List α)
  | [], results => .ok results
  | .visit (.integer value _) :: work, results => do
    let result ← rule.integer value
    walk rule work (result :: results)
  | .visit (.unary operator operand _) :: work, results => do
    rule.enter operator
    walk rule (.visit operand :: .unary operator :: work) results
  | .visit (.binary left operator right token) :: work, results =>
    walk rule (.visit left :: .visit right :: .binary operator token :: work) results
  | .visit .hole :: _, _ => .error rule.hole
  | .unary operator :: work, a :: results => do
    let result ← rule.unary operator a
    walk rule work (result :: results)
  | .binary operator token :: work, b :: a :: results => do
    let result ← rule.binary operator token a b
    walk rule work (result :: results)
  | _ :: _, _ => .error rule.underflow
termination_by work => work.foldr (fun task total => task.steps + total) 0
decreasing_by all_goals simp [Task.steps, Expr.steps]; try omega

/-- Visits a tree and takes the one result that is left. -/
def run (rule : Reduction ε α) (tree : Expr) : Except ε α := do
  match ← walk rule [.visit tree] [] with
  | [result] => .ok result
  | _ => .error rule.underflow

/-- The plain recursion: operands before their operator and left before right, so that the first
failure in this order wins. -/
def reduce (rule : Reduction ε α) : Expr → Except ε α
  | integer value _ => rule.integer value
  | unary operator operand _ => do
    rule.enter operator
    let a ← operand.reduce rule
    rule.unary operator a
  | binary left operator right token => do
    let a ← left.reduce rule
    let b ← right.reduce rule
    rule.binary operator token a b
  | hole => .error rule.hole

/-- Visiting a tree leaves all other tasks and results alone. -/
theorem walk_visit (rule : Reduction ε α) (tree : Expr) (work : List Task) (results : List α) :
    walk rule (.visit tree :: work) results =
      (tree.reduce rule).bind fun result => walk rule work (result :: results) := by
  induction tree generalizing work results with
  | integer value token =>
    rw [walk, reduce]
    rfl
  | unary operator operand token ih =>
    rw [walk, reduce]
    simp only [bind, Except.bind]
    cases rule.enter operator with
    | error failure => rfl
    | ok entered =>
      simp only [ih, Except.bind]
      cases operand.reduce rule with
      | error failure => rfl
      | ok a => simp [walk, bind, Except.bind]
  | binary left operator right token ihLeft ihRight =>
    rw [walk, reduce, ihLeft]
    simp only [bind, Except.bind]
    cases left.reduce rule with
    | error failure => rfl
    | ok a =>
      simp only [ihRight, Except.bind]
      cases right.reduce rule with
      | error failure => rfl
      | ok b => simp [walk, bind, Except.bind]
  | hole =>
    rw [walk, reduce]
    rfl

theorem run_eq_reduce (rule : Reduction ε α) (tree : Expr) :
    tree.run rule = tree.reduce rule := by
  rw [run, walk_visit]
  cases tree.reduce rule with
  | error failure => rfl
  | ok result => simp [walk, bind, Except.bind]

/-- One result is left, and it is the one that is taken. -/
theorem walk_eq_map_run (rule : Reduction ε α) (tree : Expr) :
    walk rule [.visit tree] [] = (tree.run rule).map fun result => [result] := by
  rw [run_eq_reduce, walk_visit]
  cases tree.reduce rule with
  | error failure => rfl
  | ok result =>
    simp only [Except.bind, walk]
    rfl

end Reckoner.Expr
