import Mathlib.Tactic.SplitIfs
import Reckoner.Expr.Evaluate
import Reckoner.Proofs.Grammar.Sentence

/-! # Evaluating the tree of a sentence in the order of its text

The tree of a sentence is made by a climb, and its evaluation follows the same climb over values: as
long as no division by zero is met, the trees of a climb have the values of the other
(`Evaluates.step`). The right operand of a quotient is a single operand, so whether it is zero can be
seen in the sentence. The first quotient with a zero operand makes the climb fail, and it stays
failed with that error whatever comes after it (`Fails.step`), because left operands are evaluated
before right ones.
-/

namespace Reckoner

/-- Joins two values by an operator that has a location. -/
def applyAt (operator : Operator × Nat) (left right : Int) : Int := operator.1.apply left right

/-- The operators with their locations, each with the value of its right operand. -/
def valuesAt (location : Nat) (items : List (Operator × Operand)) : List ((Operator × Nat) × Int) :=
  (locate location items).map (Prod.map id fun operand => operand.1.value)

/-- The locations of the quotients whose right operand is zero. -/
def zeroDivisions (location : Nat) (items : List (Operator × Operand)) : List Nat :=
  ((locate location items).filter fun item => item.1.1 = .divide ∧ item.2.1.value = 0).map fun item =>
    item.1.2

theorem valuesAt_cons (location : Nat) (operator : Operator) (operand : Operand)
    (rest : List (Operator × Operand)) :
    valuesAt location ((operator, operand) :: rest) =
      ((operator, location), operand.value) ::
        valuesAt (location + 1 + operand.text.length) rest := rfl

theorem zeroDivisions_cons (location : Nat) (operator : Operator) (operand : Operand)
    (rest : List (Operator × Operand)) :
    zeroDivisions location ((operator, operand) :: rest) =
      if operator = .divide ∧ operand.value = 0 then
        location :: zeroDivisions (location + 1 + operand.text.length) rest
      else zeroDivisions (location + 1 + operand.text.length) rest := by
  simp only [zeroDivisions, locate, List.filter_cons, decide_eq_true_eq]
  split <;> rfl

theorem zeroDivisions_eq_nil_iff {location : Nat} {items : List (Operator × Operand)} :
    zeroDivisions location items = [] ↔ ∀ item ∈ items, item.1 = .divide → item.2.value ≠ 0 := by
  induction items generalizing location with
  | nil => simp [zeroDivisions, locate]
  | cons item rest ih =>
    obtain ⟨operator, operand⟩ := item
    rw [zeroDivisions_cons, List.forall_mem_cons]
    split_ifs with zero
    · refine iff_of_false not_false ?_
      rintro ⟨nonzero, _⟩
      exact nonzero zero.1 zero.2
    · rw [ih]
      exact (and_iff_right (not_and.mp zero)).symm

namespace Operand

variable (operand : Operand) (source : String)

theorem reduce_negateAt {signs location : Nat} {inner : Expr} {value : Int}
    (evaluated : inner.reduce (Expr.evaluation (some source)) = .ok value) :
    (negateAt signs location inner).reduce (Expr.evaluation (some source)) =
      .ok ((-1) ^ signs * value) := by
  induction signs generalizing location with
  | zero => rw [negateAt, evaluated, Int.pow_zero, Int.one_mul]
  | succ signs ih =>
    rw [negateAt, Expr.reduce, ih, Int.pow_succ, Int.mul_neg_one, Int.neg_mul]
    rfl

theorem reduce_treeAt (location : Nat) :
    (operand.treeAt location).reduce (Expr.evaluation (some source)) = .ok operand.value :=
  reduce_negateAt source rfl

end Operand

theorem applyOperator_text (source : String) (operator : Operator) (location : Nat)
    (left right : Int) :
    Expr.applyOperator (some source) operator.text (some (operator.token location)) left right =
      if operator = .divide ∧ right = 0 then .error (.divisionByZero (some source) location)
      else .ok (operator.apply left right) := by
  cases operator with
  | divide =>
    by_cases zero : right = 0
    · simp [Expr.applyOperator, Operator.text, Operator.char, zero, Operator.token]
    · simp [Expr.applyOperator, Operator.text, Operator.char, zero, Operator.apply]
  | _ => rfl

section Join

variable {source : String} {operator : Operator × Nat} {left right : Expr} {a b : Int}
variable {error : EvalError}

theorem reduce_joinAt (leftValue : left.reduce (Expr.evaluation (some source)) = .ok a)
    (rightValue : right.reduce (Expr.evaluation (some source)) = .ok b) :
    (joinAt operator left right).reduce (Expr.evaluation (some source)) =
      if operator.1 = .divide ∧ b = 0 then .error (.divisionByZero (some source) operator.2)
      else .ok (applyAt operator a b) := by
  rw [joinAt, Expr.reduce, leftValue, rightValue]
  exact applyOperator_text source operator.1 operator.2 a b

theorem reduce_joinAt_of_left (leftError : left.reduce (Expr.evaluation (some source)) = .error error) :
    (joinAt operator left right).reduce (Expr.evaluation (some source)) = .error error := by
  rw [joinAt, Expr.reduce, leftError]
  rfl

theorem reduce_joinAt_of_right (leftValue : left.reduce (Expr.evaluation (some source)) = .ok a)
    (rightError : right.reduce (Expr.evaluation (some source)) = .error error) :
    (joinAt operator left right).reduce (Expr.evaluation (some source)) = .error error := by
  rw [joinAt, Expr.reduce, leftValue, rightError]
  rfl

theorem reduce_joinAt_of_loose (loose : isTightAt operator = false)
    (leftValue : left.reduce (Expr.evaluation (some source)) = .ok a)
    (rightValue : right.reduce (Expr.evaluation (some source)) = .ok b) :
    (joinAt operator left right).reduce (Expr.evaluation (some source)) =
      .ok (applyAt operator a b) := by
  have noQuotient : ¬ (operator.1 = .divide ∧ b = 0) := by
    rintro ⟨quotient, _⟩
    rw [isTightAt, quotient] at loose
    cases loose
  rw [reduce_joinAt leftValue rightValue, if_neg noQuotient]

end Join

/-- The trees of a climb have the values of another one with the same operators. -/
inductive Evaluates (source : String) :
    Climb (Operator × Nat) Expr → Climb (Operator × Nat) Int → Prop
  | first {group : Expr} {value : Int}
      (groupValue : group.reduce (Expr.evaluation (some source)) = .ok value) :
      Evaluates source ⟨none, group⟩ ⟨none, value⟩
  | later {groups group : Expr} {operator : Operator × Nat} {total value : Int}
      (loose : isTightAt operator = false)
      (groupsValue : groups.reduce (Expr.evaluation (some source)) = .ok total)
      (groupValue : group.reduce (Expr.evaluation (some source)) = .ok value) :
      Evaluates source ⟨some (groups, operator), group⟩ ⟨some (total, operator), value⟩

/-- The trees of a climb end in an error, whatever is still to come. -/
inductive Fails (source : String) (error : EvalError) : Climb (Operator × Nat) Expr → Prop
  | first {group : Expr} (groupError : group.reduce (Expr.evaluation (some source)) = .error error) :
      Fails source error ⟨none, group⟩
  | later {groups group : Expr} {operator : Operator × Nat} {total : Int}
      (groupsValue : groups.reduce (Expr.evaluation (some source)) = .ok total)
      (groupError : group.reduce (Expr.evaluation (some source)) = .error error) :
      Fails source error ⟨some (groups, operator), group⟩
  | waiting {groups group : Expr} {operator : Operator × Nat}
      (groupsError : groups.reduce (Expr.evaluation (some source)) = .error error) :
      Fails source error ⟨some (groups, operator), group⟩

theorem Evaluates.start (source : String) (operand : Operand) (location : Nat) :
    Evaluates source (Climb.start (operand.treeAt location)) (Climb.start operand.value) :=
  .first (operand.reduce_treeAt source location)

section Steps

variable {source : String} {error : EvalError} {trees : Climb (Operator × Nat) Expr}
variable {values : Climb (Operator × Nat) Int}

theorem Evaluates.close (evaluates : Evaluates source trees values) :
    (trees.close joinAt).reduce (Expr.evaluation (some source)) = .ok (values.close applyAt) := by
  cases evaluates with
  | first groupValue => exact groupValue
  | later loose groupsValue groupValue => exact reduce_joinAt_of_loose loose groupsValue groupValue

theorem Fails.close (fails : Fails source error trees) :
    (trees.close joinAt).reduce (Expr.evaluation (some source)) = .error error := by
  cases fails with
  | first groupError => exact groupError
  | later groupsValue groupError => exact reduce_joinAt_of_right groupsValue groupError
  | waiting groupsError => exact reduce_joinAt_of_left groupsError

/-- An operand that does not divide by zero keeps the trees at their values. -/
theorem Evaluates.step (evaluates : Evaluates source trees values) {operator : Operator × Nat}
    {operand : Expr} {value : Int}
    (operandValue : operand.reduce (Expr.evaluation (some source)) = .ok value)
    (defined : ¬ (operator.1 = .divide ∧ value = 0)) :
    Evaluates source (trees.step isTightAt joinAt (operator, operand))
      (values.step isTightAt applyAt (operator, value)) := by
  have joined {left : Expr} {a : Int} (leftValue : left.reduce (Expr.evaluation (some source)) = .ok a) :
      (joinAt operator left operand).reduce (Expr.evaluation (some source)) =
        .ok (applyAt operator a value) := by
    rw [reduce_joinAt leftValue operandValue, if_neg defined]
  simp only [Climb.step]
  split
  · cases evaluates with
    | first groupValue => exact .first (joined groupValue)
    | later loose groupsValue groupValue => exact .later loose groupsValue (joined groupValue)
  · next loose => exact .later (Bool.eq_false_iff.mpr loose) evaluates.close operandValue

/-- Dividing by a zero operand fails at the operator. -/
theorem Evaluates.step_zero (evaluates : Evaluates source trees values) (operator : Operator × Nat)
    {operand : Expr} (quotient : operator.1 = .divide)
    (zero : operand.reduce (Expr.evaluation (some source)) = .ok 0) :
    Fails source (.divisionByZero (some source) operator.2)
      (trees.step isTightAt joinAt (operator, operand)) := by
  have joined {left : Expr} {a : Int} (leftValue : left.reduce (Expr.evaluation (some source)) = .ok a) :
      (joinAt operator left operand).reduce (Expr.evaluation (some source)) =
        .error (.divisionByZero (some source) operator.2) := by
    rw [reduce_joinAt leftValue zero, if_pos ⟨quotient, rfl⟩]
  have tight : isTightAt operator = true := by rw [isTightAt, quotient]; rfl
  rw [Climb.step, if_pos tight]
  cases evaluates with
  | first groupValue => exact .first (joined groupValue)
  | later _ groupsValue groupValue => exact .later groupsValue (joined groupValue)

/-- Nothing that comes later undoes an error. -/
theorem Fails.step (fails : Fails source error trees) (item : (Operator × Nat) × Expr) :
    Fails source error (trees.step isTightAt joinAt item) := by
  simp only [Climb.step]
  split
  · cases fails with
    | first groupError => exact .first (reduce_joinAt_of_left groupError)
    | later groupsValue groupError => exact .later groupsValue (reduce_joinAt_of_left groupError)
    | waiting groupsError => exact .waiting groupsError
  · exact .waiting fails.close

theorem Fails.run (fails : Fails source error trees) (items : List ((Operator × Nat) × Expr)) :
    Fails source error (trees.run isTightAt joinAt items) := by
  induction items generalizing trees with
  | nil => exact fails
  | cons item rest ih => exact ih (fails.step item)

variable {location : Nat} {items : List (Operator × Operand)}

theorem Evaluates.run (evaluates : Evaluates source trees values)
    (defined : zeroDivisions location items = []) :
    Evaluates source (trees.run isTightAt joinAt (treesAt location items))
      (values.run isTightAt applyAt (valuesAt location items)) := by
  induction items generalizing trees values location with
  | nil => exact evaluates
  | cons item rest ih =>
    obtain ⟨operator, operand⟩ := item
    rw [zeroDivisions_cons] at defined
    split_ifs at defined with zero
    rw [treesAt_cons, valuesAt_cons, Climb.run_cons, Climb.run_cons]
    exact ih (evaluates.step (operand.reduce_treeAt source (location + 1)) zero) defined

/-- The first quotient with a zero operand decides. -/
theorem Evaluates.run_zero (evaluates : Evaluates source trees values) {index : Nat}
    (first : (zeroDivisions location items).head? = some index) :
    Fails source (.divisionByZero (some source) index)
      (trees.run isTightAt joinAt (treesAt location items)) := by
  induction items generalizing trees values location with
  | nil => cases first
  | cons item rest ih =>
    obtain ⟨operator, operand⟩ := item
    have operandValue := operand.reduce_treeAt source (location + 1)
    rw [zeroDivisions_cons] at first
    rw [treesAt_cons, Climb.run_cons]
    split_ifs at first with zero
    · obtain rfl := Option.some.inj first
      rw [zero.2] at operandValue
      have fails := evaluates.step_zero (operator, location) zero.1 operandValue
      exact fails.run _
    · exact ih (evaluates.step operandValue zero) first

end Steps

namespace Sentence

/-- The locations of the quotients whose right operand is zero, from left to right. -/
def zeroDivisions (sentence : Sentence) : List Nat :=
  Reckoner.zeroDivisions sentence.first.text.length sentence.rest

theorem value_eq_close (sentence : Sentence) (location : Nat) :
    sentence.value =
      ((Climb.start sentence.first.value).run isTightAt applyAt
        (valuesAt (location + sentence.first.text.length) sentence.rest)).close applyAt := by
  have forgotten : ((sentence.located location).map id fun operand => operand.1.value).map Prod.fst id =
      sentence.map id Operand.value := by
    rw [← map_located Operand.value sentence location, Series.map_map]
    rfl
  have folded : ((sentence.located location).map id fun operand => operand.1.value).foldGroups
      isTightAt applyAt = sentence.value := by
    rw [value, ← forgotten]
    refine Eq.symm (Series.foldGroups_map ?_ ?_ _)
    · intro operator
      rfl
    · intro operator left right
      rfl
  rw [← folded, ← Climb.close_climb]
  rfl

variable {sentence : Sentence} (source : String)

theorem reduce_treeAt (defined : sentence.zeroDivisions = []) :
    (sentence.treeAt 0).reduce (Expr.evaluation (some source)) = .ok sentence.value := by
  rw [← close_climbAt, sentence.value_eq_close 0]
  apply Evaluates.close
  apply (Evaluates.start source sentence.first 0).run
  rw [Nat.zero_add]
  exact defined

theorem reduce_treeAt_of_zero {index : Nat} (first : sentence.zeroDivisions.head? = some index) :
    (sentence.treeAt 0).reduce (Expr.evaluation (some source)) =
      .error (.divisionByZero (some source) index) := by
  rw [← close_climbAt]
  apply Fails.close
  apply (Evaluates.start source sentence.first 0).run_zero
  rw [Nat.zero_add]
  exact first

end Sentence

end Reckoner
