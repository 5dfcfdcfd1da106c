import Reckoner.Proofs.Parser.Shape

/-! # Where reading stops, and what binds tighter inside

The strength of an operator is the number that its level is compared by. An expression that is read
with a threshold ends before a token that is no stronger than the threshold, or no operator at all
(`Parser.continues_iff`), and the operator at its root is stronger. Inside, the operators lie in
layers: none stands to the left of a stronger one, or to the right of one that is as strong
(`Expr.Layered`). This says by numbers, for every state and threshold, what well-shaped trees are.
-/

namespace Reckoner

namespace Token.Kind

/-- How strongly a token binds the operands beside it. -/
def strength : Kind → Int
  | plus | minus => 1
  | asterisk | slash => 2
  | _ => 0

theorem level_precedence (kind : Kind) : kind.precedence.level = kind.strength := by
  cases kind <;> rfl

end Token.Kind

namespace Operator

variable {operator : Operator}

theorem strength_of_loose (loose : operator.isTight = false) : operator.kind.strength = 1 := by
  rw [← Token.Kind.level_precedence, Parser.level_of_loose loose]
  rfl

theorem strength_of_tight (tight : operator.isTight = true) : operator.kind.strength = 2 := by
  rw [← Token.Kind.level_precedence, Parser.level_of_tight tight]
  rfl

end Operator

namespace Expr

/-- The strength of an operator by its text. -/
def strengthOf (operator : String) : Int :=
  match operator.toList with
  | [c] => (Token.Kind.ofChar c).strength
  | _ => 0

/-- The strength of the operator at the root, if that has two operands. -/
def strength? (tree : Expr) : Option Int := tree.operator?.map strengthOf

/-- No operator stands to the left of a stronger one, or to the right of one that is as strong, and
none below a sign. -/
def Layered : Expr → Prop
  | integer _ _ => True
  | unary _ operand _ => operand.strength? = none ∧ operand.Layered
  | binary left operator right _ =>
    (∀ inner ∈ left.strength?, strengthOf operator ≤ inner) ∧
      (∀ inner ∈ right.strength?, strengthOf operator < inner) ∧ left.Layered ∧ right.Layered
  | hole => False

theorem strengthOf_text (operator : Operator) : strengthOf operator.text = operator.kind.strength := by
  rw [strengthOf, Operator.text, String.toList_singleton]
  exact congrArg Token.Kind.strength operator.ofChar_char

variable {tree : Expr} {threshold : Int}

/-- A well-shaped tree has no operators but the four. -/
theorem WellShaped.exists_operator {strength : Int} (shaped : tree.WellShaped)
    (member : strength ∈ tree.strength?) :
    ∃ operator : Operator, tree.operator? = some operator.text ∧ strength = operator.kind.strength := by
  rcases shaped.operator?_eq with single | ⟨operator, root⟩
  · rw [strength?, single] at member
    cases member
  · rw [strength?, root, Option.map_some, strengthOf_text] at member
    exact ⟨operator, root, (Option.some.inj member).symm⟩

theorem Above.lt_strength (above : tree.Above threshold) (shaped : tree.WellShaped) :
    ∀ strength ∈ tree.strength?, threshold < strength := by
  intro strength member
  obtain ⟨operator, root, rfl⟩ := shaped.exists_operator member
  rw [← Token.Kind.level_precedence]
  exact above operator root

theorem WellShaped.one_le_strength (shaped : tree.WellShaped) :
    ∀ strength ∈ tree.strength?, 1 ≤ strength := by
  intro strength member
  obtain ⟨operator, _, rfl⟩ := shaped.exists_operator member
  cases operator <;> decide

/-- What is no sum binds as strongly as products do. -/
theorem WellShaped.two_le_strength (shaped : tree.WellShaped) (group : ¬ tree.IsSum) :
    ∀ strength ∈ tree.strength?, 2 ≤ strength := by
  intro strength member
  obtain ⟨operator, root, rfl⟩ := shaped.exists_operator member
  cases tightness : operator.isTight with
  | true => exact Int.le_of_eq (Operator.strength_of_tight tightness).symm
  | false => exact absurd (isSum_iff.mpr ⟨operator, tightness, root⟩) group

theorem WellShaped.layered (shaped : tree.WellShaped) : tree.Layered := by
  induction shaped with
  | integer nonnegative => trivial
  | negation inner single ih =>
    refine ⟨?_, ih⟩
    rw [strength?, single, Option.map_none]
  | @sum left right operator token loose shapedLeft shapedRight group ihLeft ihRight =>
    have own : strengthOf operator.text = 1 :=
      (strengthOf_text operator).trans (Operator.strength_of_loose loose)
    rw [Layered, own]
    exact ⟨shapedLeft.one_le_strength, shapedRight.two_le_strength group, ihLeft, ihRight⟩
  | @product left right operator token tight shapedLeft shapedRight group single ihLeft ihRight =>
    have own : strengthOf operator.text = 2 :=
      (strengthOf_text operator).trans (Operator.strength_of_tight tight)
    rw [Layered, own]
    refine ⟨shapedLeft.two_le_strength group, ?_, ihLeft, ihRight⟩
    intro inner member
    rw [strength?, single] at member
    cases member

end Expr

namespace Parser

variable {source : String} {parser after : Parser} {threshold : Int} {tree : Expr}

/-- Reading goes on at operators that are stronger than the threshold, and never at other tokens. -/
theorem continues_iff : parser.continues threshold = true ↔ max threshold 0 < parser.next.kind.strength := by
  have lowest : Precedence.lowest.level = 0 := rfl
  rw [continues, Bool.and_eq_true, decide_eq_true_eq, Token.Kind.isInfix_iff_lowest_lt, Token.precedence,
    Token.Kind.level_precedence, lowest]
  omega

theorem continues_eq_false_iff :
    parser.continues threshold = false ↔ parser.next.kind.strength ≤ max threshold 0 := by
  rw [← Bool.not_eq_true, continues_iff, Int.not_lt]

/-- In every state that a parser can get into, and whatever the threshold, an expression that is read
ends at the end of the input or before a token of at most the strength of the threshold, where a
threshold below zero counts as zero. The operator at its root is stronger than the threshold, and
those inside lie in layers. -/
theorem expression_layered (reachable : Reachable source parser)
    (read : parser.expression threshold = (.ok tree, after)) :
    (after.next.kind = .endOfInput ∨ after.next.kind.strength ≤ max threshold 0) ∧
      (∀ strength ∈ tree.strength?, threshold < strength) ∧ tree.Layered := by
  obtain ⟨count, errors, rfl⟩ := reachable.exists_onto
  have reads := reads_of_nested read
  obtain ⟨shaped, above, stops⟩ := reads.wellShaped ⟨_, _, rfl⟩ trivial
  exact ⟨.inr (continues_eq_false_iff.mp stops), above.lt_strength shaped, shaped.layered⟩

/-- A threshold below all levels does not make a percent sign an operator. -/
theorem expression_layered_percent :
    Reachable "1-2*-3+4%" (ofString "1-2*-3+4%").advance.advance ∧
      ∃ tree after, (ofString "1-2*-3+4%").advance.advance.expression (-5) = (.ok tree, after) ∧
        (after.next.kind = .endOfInput ∨ after.next.kind.strength ≤ max (-5) 0) ∧
        tree.strength? = some 1 ∧ (∀ strength ∈ tree.strength?, -5 < strength) ∧ tree.Layered := by
  have reachable : Reachable "1-2*-3+4%" (ofString "1-2*-3+4%").advance.advance :=
    .step (.step .start .advance) .advance
  have read : (ofString "1-2*-3+4%").advance.advance.expression (-5) =
      (.ok (.binary
        (.binary (.integer 2 (some ⟨.int, "2", 2⟩)) "*"
          (.unary "-" (.integer 3 (some ⟨.int, "3", 5⟩)) (some ⟨.minus, "-", 4⟩))
          (some ⟨.asterisk, "*", 3⟩))
        "+" (.integer 4 (some ⟨.int, "4", 7⟩)) (some ⟨.plus, "+", 6⟩)),
        ⟨⟨"1-2*-3+4%", 9, []⟩, ⟨.int, "4", 7⟩, ⟨.percent, "%", 8⟩, []⟩) := by decide +kernel
  obtain ⟨stops, above, layered⟩ := expression_layered reachable read
  exact ⟨reachable, _, _, read, stops, by decide +kernel, above, layered⟩

end Parser

end Reckoner
