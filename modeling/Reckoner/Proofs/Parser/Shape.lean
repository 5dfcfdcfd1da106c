import Reckoner.Proofs.Parser.Conservation

/-! # The shape of the trees that are read

No parentheses are read, so a tree only nests as the strengths of its operators allow: a sign has no
operator below it, no sum stands to the right of a sum or to the left of a product, and nothing but
a signed number stands to the right of a product. This is shown for each rule of `Reads`. The right
operand of an operator is read with the strength of that operator as threshold, so its root binds
tighter (`Expr.Above`); and behind a tree whose root is an operator, no tighter operator follows
(`Grown.complete`), because the loop for its right operand would have taken it.
-/

namespace Reckoner

namespace Expr

/-- The operator at the root, if that has two operands. -/
def operator? : Expr → Option String
  | binary _ operator _ _ => some operator
  | _ => none

/-- The root is a sum or a difference. -/
def IsSum (tree : Expr) : Prop := tree.operator? = some "+" ∨ tree.operator? = some "-"

instance (tree : Expr) : Decidable tree.IsSum := inferInstanceAs (Decidable (_ ∨ _))

/-- The trees whose nesting can be told without parentheses. -/
inductive WellShaped : Expr → Prop
  | integer {value : Int} {token : Option Token} (nonnegative : 0 ≤ value) :
      WellShaped (.integer value token)
  | negation {operand : Expr} {token : Option Token} (inner : WellShaped operand)
      (single : operand.operator? = none) : WellShaped (.unary "-" operand token)
  | sum {left right : Expr} {operator : Operator} {token : Option Token}
      (loose : operator.isTight = false) (shapedLeft : WellShaped left)
      (shapedRight : WellShaped right) (group : ¬ right.IsSum) :
      WellShaped (.binary left operator.text right token)
  | product {left right : Expr} {operator : Operator} {token : Option Token}
      (tight : operator.isTight = true) (shapedLeft : WellShaped left)
      (shapedRight : WellShaped right) (group : ¬ left.IsSum) (single : right.operator? = none) :
      WellShaped (.binary left operator.text right token)

/-- An operator at the root binds tighter than the threshold. -/
def Above (threshold : Int) (tree : Expr) : Prop :=
  ∀ operator : Operator, tree.operator? = some operator.text →
    threshold < operator.kind.precedence.level

variable {tree : Expr} {threshold : Int}

theorem isSum_iff :
    tree.IsSum ↔ ∃ operator : Operator, operator.isTight = false ∧ tree.operator? = some operator.text := by
  constructor
  · rintro (plus | minus)
    · exact ⟨.plus, rfl, plus⟩
    · exact ⟨.minus, rfl, minus⟩
  · rintro ⟨operator, loose, root⟩
    cases operator with
    | plus => exact .inl root
    | minus => exact .inr root
    | times | divide => cases loose

theorem above_of_operator?_eq_none (single : tree.operator? = none) : tree.Above threshold := by
  intro operator root
  rw [single] at root
  cases root

theorem Above.not_isSum (above : tree.Above Precedence.sum.level) : ¬ tree.IsSum := by
  rw [isSum_iff]
  rintro ⟨operator, loose, root⟩
  have tighter := above operator root
  rw [Parser.level_of_loose loose] at tighter
  exact Int.lt_irrefl _ tighter

theorem WellShaped.operator?_eq (shaped : tree.WellShaped) :
    tree.operator? = none ∨ ∃ operator : Operator, tree.operator? = some operator.text := by
  cases shaped with
  | integer | negation => exact .inl rfl
  | @sum _ _ operator | @product _ _ operator => exact .inr ⟨operator, rfl⟩

/-- Nothing binds tighter than a product. -/
theorem WellShaped.operator?_eq_none (shaped : tree.WellShaped) (above : tree.Above threshold)
    (high : Precedence.product.level ≤ threshold) : tree.operator? = none := by
  rcases shaped.operator?_eq with single | ⟨operator, root⟩
  · exact single
  · have tighter := above operator root
    have bound : operator.kind.precedence.level ≤ Precedence.product.level := by
      cases operator <;> decide
    omega

end Expr

namespace Parser

/-- The parser stands at a token of some text, with the next one behind it. Only then is the literal of
a token between operands sure to be that of an operator. -/
def Placed (parser : Parser) : Prop := ∃ lexer errors, parser = onto lexer errors

variable {part : Part} {threshold : Int} {parser after : Parser} {left tree : Expr}

theorem Placed.iterate (placed : parser.Placed) (count : Nat) : (advance^[count] parser).Placed := by
  obtain ⟨lexer, errors, rfl⟩ := placed
  exact ⟨_, _, iterate_advance_onto count lexer errors⟩

theorem Reads.placed (reads : Reads part threshold parser tree after) (placed : parser.Placed) :
    after.Placed := by
  obtain ⟨count, rfl, _⟩ := reads.inorder_eq
  exact placed.iterate count

theorem Placed.literal_current (placed : parser.Placed) (minus : parser.current.kind = .minus) :
    parser.current.literal = "-" := by
  obtain ⟨lexer, errors, rfl⟩ := placed
  rw [current_onto] at minus ⊢
  obtain ⟨source, location, operator, tail, rfl⟩ := Lexer.exists_operator (by rw [minus]; rfl)
  rw [Lexer.next_operator] at minus ⊢
  cases operator with
  | minus => rfl
  | plus | times | divide => cases minus

theorem Placed.exists_operator (placed : parser.Placed) (goesOn : parser.continues threshold = true) :
    ∃ (operator : Operator) (location : Nat), parser.next = operator.token location ∧
      threshold < operator.kind.precedence.level := by
  obtain ⟨lexer, errors, rfl⟩ := placed
  obtain ⟨between, tighter⟩ := Bool.and_eq_true_iff.mp goesOn
  obtain ⟨source, location, operator, tail, behind⟩ := Lexer.exists_operator between
  have next : (onto lexer errors).next = operator.token location := by
    change lexer.next.2.next.1 = _
    rw [behind, Lexer.next_operator]
  refine ⟨operator, location, next, ?_⟩
  rw [next] at tighter
  exact of_decide_eq_true tighter

/-- The invariant of the loop: a tree that may still become the left operand of what follows. -/
structure Grown (threshold : Int) (parser : Parser) (left : Expr) : Prop where
  shaped : left.WellShaped
  above : left.Above threshold
  complete : ∀ operator : Operator, left.operator? = some operator.text →
    parser.continues operator.kind.precedence.level = false

theorem Grown.of_single (shaped : left.WellShaped) (single : left.operator? = none) :
    Grown threshold parser left := by
  refine ⟨shaped, Expr.above_of_operator?_eq_none single, ?_⟩
  intro operator root
  rw [single] at root
  cases root

/-- A product does not take a sum as its left operand. -/
theorem Grown.not_isSum (grown : Grown threshold parser left) {operator : Operator} {location : Nat}
    (next : parser.next = operator.token location) (tight : operator.isTight = true) :
    ¬ left.IsSum := by
  rw [Expr.isSum_iff]
  rintro ⟨root, loose, isRoot⟩
  have stops := grown.complete root isRoot
  have goesOn : parser.continues Precedence.sum.level = true := by
    have level := level_of_tight tight
    simp only [continues, next, Token.precedence, Operator.token, Operator.isInfix_kind, level]
    decide
  rw [level_of_loose loose, goesOn] at stops
  cases stops

/-- An operator with its right operand makes a tree that may again become a left operand. -/
theorem Grown.join {between : Parser} {right : Expr} {operator : Operator} {location : Nat}
    (grown : Grown threshold parser left) (next : parser.next = operator.token location)
    (tighter : threshold < operator.kind.precedence.level) (shapedRight : right.WellShaped)
    (aboveRight : right.Above operator.kind.precedence.level)
    (stops : between.continues operator.kind.precedence.level = false) :
    Grown threshold between (.binary left operator.text right (some (operator.token location))) := by
  constructor
  · cases strength : operator.isTight with
    | true =>
      have level := level_of_tight strength
      exact .product strength grown.shaped shapedRight (grown.not_isSum next strength)
        (shapedRight.operator?_eq_none aboveRight (Int.le_of_eq level.symm))
    | false =>
      rw [level_of_loose strength] at aboveRight
      exact .sum strength grown.shaped shapedRight aboveRight.not_isSum
  · intro root same
    obtain rfl := Operator.text_injective (Option.some.inj same)
    exact tighter
  · intro root same
    obtain rfl := Operator.text_injective (Option.some.inj same)
    exact stops

def Part.Grown (threshold : Int) (parser : Parser) : Part → Prop
  | .expression => True
  | .behind left => Parser.Grown threshold parser left

/-- What is read is well shaped and binds tighter than the threshold, and behind it nothing does. -/
theorem Reads.wellShaped (reads : Reads part threshold parser tree after) (placed : parser.Placed)
    (grown : part.Grown threshold parser) :
    tree.WellShaped ∧ tree.Above threshold ∧ after.continues threshold = false := by
  induction reads with
  | @number threshold parser after value tree kind numeral rest ih =>
    exact ih placed (.of_single (.integer (Int.natCast_nonneg value)) rfl)
  | sign kind inner rest ihInner ihRest =>
    have placedInner := placed.iterate 1
    obtain ⟨shaped, above, _⟩ := ihInner placedInner trivial
    -- a sign binds tighter than every operator, so none is at the root of its operand
    have single := shaped.operator?_eq_none above (by decide)
    rw [placed.literal_current kind] at ihRest
    exact ihRest (inner.placed placedInner) (.of_single (.negation shaped single) rfl)
  | operator goesOn inner rest ihInner ihRest =>
    have placedInner := placed.iterate 2
    obtain ⟨operator, location, next, tighter⟩ := placed.exists_operator goesOn
    obtain ⟨shaped, above, stops⟩ := ihInner placedInner trivial
    rw [next] at ihRest above stops
    exact ihRest (inner.placed placedInner) (grown.join next tighter shaped above stops)
  | stop stops => exact ⟨grown.shaped, grown.above, stops⟩

end Parser

theorem wellShaped_of_parse {source : String} {tree : Expr} (accepted : parse source = .ok tree) :
    tree.WellShaped := by
  obtain ⟨after, read, _⟩ := read_of_parse accepted
  have reads : Parser.Reads .expression Precedence.lowest.level (Parser.ofString source) tree after :=
    Parser.reads_of_nested read
  exact (reads.wellShaped ⟨_, _, rfl⟩ trivial).1

end Reckoner
