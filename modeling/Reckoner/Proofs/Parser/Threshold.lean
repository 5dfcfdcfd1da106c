import Reckoner.Proofs.Parser.Cursor
import Reckoner.Proofs.Parser.Layers

/-! # The threshold only decides where to stop

Two expressions that are read from one state with different thresholds begin with the same operand
and take the same operators, as long as the higher threshold lets them. Where it does not any more,
the lower one may go on: reading with it is reading with the higher one first, and then extending
what that returned (`nested_eq_andThen`). All that follows is read off from this equation. A refusal
passes on unchanged, and a tree that is extended stays on the left spine of the result
(`Reads.mem_leftSpine`).
-/

namespace Reckoner

namespace Expr

/-- The tree, its left operand, the left operand of that, and so on. -/
def leftSpine : Expr → List Expr
  | binary left operator right token => binary left operator right token :: left.leftSpine
  | tree => [tree]

theorem mem_leftSpine_self (tree : Expr) : tree ∈ tree.leftSpine := by
  cases tree <;> exact List.mem_cons_self ..

/-- The left spine of a tree on the left spine is part of it. -/
theorem leftSpine_subset {inner tree : Expr} (member : inner ∈ tree.leftSpine) :
    inner.leftSpine ⊆ tree.leftSpine := by
  induction tree with
  | binary left operator right token ihLeft ihRight =>
    rcases List.mem_cons.mp member with rfl | later
    · exact List.Subset.refl _
    · exact List.subset_cons_of_subset _ (ihLeft later)
  | integer | unary | hole =>
    obtain rfl := List.mem_singleton.mp member
    exact List.Subset.refl _

end Expr

namespace Parser

variable {source : String} {parser after : Parser} {part : Part} {tree : Expr}
variable {depth : Nat} {low high threshold : Int}

theorem continues_of_le (lower : low ≤ high) (goesOn : parser.continues high = true) :
    parser.continues low = true := by
  rw [continues_iff] at goesOn ⊢
  omega

/-- The loop with the lower threshold goes on where that with the higher one stops. -/
theorem extend_eq_andThen (lower : low ≤ high) (left : Expr) (parser : Parser) :
    extend depth low left parser = andThen (extend depth high left parser) (extend depth low) := by
  induction left, parser using joined_induction depth with
  | joined left parser ih =>
    rw [extend_eq depth high]
    split
    · next goesOn =>
      -- both take the operator, with the same right operand: that is read at the operator's own level
      rw [extend_eq, if_pos (continues_of_le lower goesOn), andThen_assoc]
      cases taken : joinedWith (nested depth) left parser.advance with
      | mk result between =>
        cases result with
        | error error => rfl
        | ok tree => exact ih tree between taken
    · rw [andThen_ok]

/-- An expression with the lower threshold extends the one with the higher threshold. -/
theorem nested_eq_andThen (lower : low ≤ high) (parser : Parser) :
    nested (depth + 1) low parser =
      andThen (nested (depth + 1) high parser) (extend depth low) := by
  rw [nested_succ, nested_succ, andThen_assoc]
  congr 1
  funext left between
  exact extend_eq_andThen lower left between

/-- What is read ends where the loop stops. -/
theorem Reads.stops (reads : Reads part threshold parser tree after) :
    after.continues threshold = false := by
  induction reads with
  | number kind numeral rest ih => exact ih
  | sign kind inner rest ihInner ihRest => exact ihRest
  | operator goesOn inner rest ihInner ihRest => exact ihRest
  | stop stops => exact stops

/-- Where the lower threshold stops as well, it makes no difference. -/
theorem nested_eq_of_stop (lower : low ≤ high)
    (stops : ∀ tree after, nested (depth + 1) high parser = (.ok tree, after) →
      after.continues low = false) :
    nested (depth + 1) low parser = nested (depth + 1) high parser := by
  rw [nested_eq_andThen lower]
  rcases outcome : nested (depth + 1) high parser with ⟨error | tree, after⟩
  · rfl
  · rw [andThen_ok, extend_of_stop (stops tree after outcome)]

def Part.OnLeftSpine (tree : Expr) : Part → Prop
  | .expression => True
  | .behind left => left ∈ tree.leftSpine

/-- What is extended stays on the left spine. -/
theorem Reads.mem_leftSpine (reads : Reads part threshold parser tree after) : part.OnLeftSpine tree := by
  induction reads with
  | number kind numeral rest ih => trivial
  | sign kind inner rest ihInner ihRest => trivial
  | operator goesOn inner rest ihInner ihRest =>
    exact Expr.leftSpine_subset ihRest (List.mem_cons_of_mem _ (Expr.mem_leftSpine_self _))
  | stop stops => exact Expr.mem_leftSpine_self _

/-- No step leads back to an earlier token. -/
theorem Onward.place_le {outcome : Outcome} (reachable : Reachable source parser)
    (onward : Onward parser outcome) : parser.place source ≤ outcome.2.place source := by
  obtain ⟨count, errors, rfl⟩ := reachable.exists_onto
  obtain ⟨more, recorded, moved⟩ := onward.exists_iterate
  have further : outcome.2 = onto (Lexer.behind^[more + count] (.ofString source)) recorded := by
    rw [moved, iterate_advance_onto, Function.iterate_add_apply]
    rfl
  rw [further, place_onto, place_onto]
  omega

/-- What reading with a lower threshold comes to, against what reading with a higher one from the same
state comes to. -/
structure GoesOn (source : String) (low : Int) (higher lower : Outcome) : Prop where
  refused : ∀ error, higher.1 = .error error → lower = higher
  /-- A tree or a refusal, the reading ends at the same token or later. -/
  further : higher.2.place source ≤ lower.2.place source
  spine : ∀ tree whole, higher.1 = .ok tree → lower.1 = .ok whole → tree ∈ whole.leftSpine
  stopped : ∀ tree, higher.1 = .ok tree →
    higher.2.next.kind = .endOfInput ∨ higher.2.next.kind.strength ≤ max low 0 → lower = higher

theorem goesOn_expression (reachable : Reachable source parser) (lower : low ≤ high) :
    GoesOn source low (parser.expression high) (parser.expression low) := by
  obtain ⟨depth, expression_eq⟩ := exists_expression_eq
  have split : parser.expression low = andThen (parser.expression high) (extend depth low) := by
    rw [expression_eq, expression_eq, nested_eq_andThen lower]
  have reached : Reachable source (parser.expression high).2 := reachable.step (.expression high)
  rw [split]
  generalize parser.expression high = higher at reached ⊢
  obtain ⟨error | tree, after⟩ := higher
  · refine ⟨fun _ _ => rfl, Nat.le_refl _, ?_, ?_⟩
    · intro tree whole read
      cases read
    · intro tree read
      cases read
  · have onward : Onward after (extend depth low tree after) :=
      onward_chain (onward_nested depth) low after.chainBound tree after
    rw [andThen_ok]
    refine ⟨?_, onward.place_le reached, ?_, ?_⟩
    · intro error refused
      cases refused
    · rintro _ whole ⟨⟩ extended
      exact (reads_of_extended (Prod.ext extended rfl)).mem_leftSpine
    · rintro _ ⟨⟩ (ended | weak)
      · have weak : after.next.kind.strength ≤ max low 0 := by
          rw [ended]
          exact Int.le_max_right ..
        exact extend_of_stop (continues_eq_false_iff.mpr weak)
      · exact extend_of_stop (continues_eq_false_iff.mpr weak)

/-- Thresholds make no difference where the lower one stops wherever the higher one does. -/
theorem expression_eq_of_stop (lower : low ≤ high)
    (stops : ∀ after : Parser, after.continues high = false → after.continues low = false)
    (parser : Parser) : parser.expression low = parser.expression high := by
  obtain ⟨depth, expression_eq⟩ := exists_expression_eq
  rw [expression_eq, expression_eq]
  apply nested_eq_of_stop lower
  intro tree after read
  exact stops after (reads_of_nested read).stops

/-- In every state that a parser can get into, a lower threshold has the parser go on from where a
higher one has it stop: a refusal is the same refusal; a tree is extended, with the parser at the same
token or further on, or something behind it is refused; and it is returned as it is if no operator
above the lower threshold follows. Thresholds from zero down make no difference, and none from two
up. -/
theorem threshold_only_stops (reachable : Reachable source parser) :
    (∀ low high, low ≤ high →
      GoesOn source low (parser.expression high) (parser.expression low)) ∧
    (∀ threshold ≤ 0, parser.expression threshold = parser.expression 0) ∧
    ∀ threshold ≥ 2, parser.expression threshold = parser.expression 2 := by
  refine ⟨fun low high lower => goesOn_expression reachable lower, ?_, ?_⟩
  · intro threshold below
    apply expression_eq_of_stop below
    intro after stops
    rw [continues_eq_false_iff] at stops ⊢
    omega
  · intro threshold above
    symm
    apply expression_eq_of_stop above
    intro after stops
    exact continues_of_product_le after (Int.le_refl _)

theorem threshold_only_stops_behind_product :
    Reachable "8-2*3+4" (ofString "8-2*3+4").advance.advance ∧
      ∃ tree whole,
        ((ofString "8-2*3+4").advance.advance.expression 1).1 = .ok tree ∧
        ((ofString "8-2*3+4").advance.advance.expression 0).1 = .ok whole ∧
        tree.operator? = some "*" ∧ whole.operator? = some "+" ∧ tree ∈ whole.leftSpine ∧
        ((ofString "8-2*3+4").advance.advance.expression 1).2.place "8-2*3+4" ≤
          ((ofString "8-2*3+4").advance.advance.expression 0).2.place "8-2*3+4" ∧
        (ofString "8-2*3+4").advance.advance.expression 2 =
          (ofString "8-2*3+4").advance.advance.expression 9 := by
  have reachable : Reachable "8-2*3+4" (ofString "8-2*3+4").advance.advance :=
    .step (.step .start .advance) .advance
  have higher : ((ofString "8-2*3+4").advance.advance.expression 1).1 =
      .ok (.binary (.integer 2 (some ⟨.int, "2", 2⟩)) "*" (.integer 3 (some ⟨.int, "3", 4⟩))
        (some ⟨.asterisk, "*", 3⟩)) := by decide +kernel
  have lower : ((ofString "8-2*3+4").advance.advance.expression 0).1 =
      .ok (.binary
        (.binary (.integer 2 (some ⟨.int, "2", 2⟩)) "*" (.integer 3 (some ⟨.int, "3", 4⟩))
          (some ⟨.asterisk, "*", 3⟩))
        "+" (.integer 4 (some ⟨.int, "4", 6⟩)) (some ⟨.plus, "+", 5⟩)) := by decide +kernel
  obtain ⟨goesOn, _, tight⟩ := threshold_only_stops reachable
  have extended := goesOn 0 1 (by decide)
  exact ⟨reachable, _, _, higher, lower, rfl, rfl, extended.spine _ _ higher lower, extended.further,
    (tight 9 (by decide)).symm⟩

end Parser

end Reckoner
