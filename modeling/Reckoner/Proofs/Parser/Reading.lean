import Reckoner.Proofs.Parser.Loop

/-! # Derivations of the trees that are read

`Reads` says which tree a parser reads and where it stops, without a limit on nesting and without a
bound on the loop. It has one rule for each way to go on: a number, a sign with its operand, one more
operator with its operand, and the end of the loop. Every tree that `nested` returns has a
derivation (`reads_of_nested`), so what the four rules preserve holds of every tree that is read.
-/

namespace Reckoner

namespace Parser

/-- What is to be read: an expression, or the rest of one whose beginning is `left`. -/
inductive Part where
  | expression
  | behind (left : Expr)

inductive Reads : Part → Int → Parser → Expr → Parser → Prop
  | number {threshold : Int} {parser after : Parser} {value : Nat} {tree : Expr}
      (kind : parser.current.kind = .int)
      (numeral : Decimal.read parser.current.literal = .ok value)
      (rest : Reads (.behind (.integer value (some parser.current))) threshold parser tree after) :
      Reads .expression threshold parser tree after
  | sign {threshold : Int} {parser between after : Parser} {operand tree : Expr}
      (kind : parser.current.kind = .minus)
      (inner : Reads .expression Precedence.sign.level parser.advance operand between)
      (rest : Reads (.behind (.unary parser.current.literal operand (some parser.current)))
        threshold between tree after) :
      Reads .expression threshold parser tree after
  | operator {threshold : Int} {parser between after : Parser} {left right tree : Expr}
      (goesOn : parser.continues threshold = true)
      (inner : Reads .expression parser.next.precedence.level parser.advance.advance right between)
      (rest : Reads (.behind (.binary left parser.next.literal right (some parser.next)))
        threshold between tree after) :
      Reads (.behind left) threshold parser tree after
  | stop {threshold : Int} {parser : Parser} {left : Expr}
      (stops : parser.continues threshold = false) :
      Reads (.behind left) threshold parser left parser

variable {threshold : Int} {parser after : Parser} {tree : Expr}

theorem andThen_eq_ok {outcome : Outcome} {proceed : Expr → Parser → Outcome}
    (read : andThen outcome proceed = (.ok tree, after)) :
    ∃ first between, outcome = (.ok first, between) ∧ proceed first between = (.ok tree, after) := by
  obtain ⟨error | first, between⟩ := outcome
  · cases read
  · exact ⟨first, between, rfl, read⟩

theorem integer_eq_ok {number : Expr} (read : parser.integer = (.ok number, after)) :
    after = parser ∧ ∃ value : Nat, Decimal.read parser.current.literal = .ok value ∧
      number = .integer value (some parser.current) := by
  rw [integer] at read
  cases numeral : Decimal.read parser.current.literal with
  | error malformed =>
    rw [numeral] at read
    cases read
  | ok value =>
    rw [numeral] at read
    cases read
    exact ⟨rfl, value, rfl, rfl⟩

/-- The loop is derived from its operands. -/
private theorem reads_of_extend {depth : Nat}
    (operands : ∀ {threshold parser tree after},
      nested depth threshold parser = (.ok tree, after) → Reads .expression threshold parser tree after)
    {left : Expr} (read : extend depth threshold left parser = (.ok tree, after)) :
    Reads (.behind left) threshold parser tree after := by
  induction left, parser using joined_induction depth with
  | joined left parser ih =>
    rw [extend_eq] at read
    split at read
    · next goesOn =>
      obtain ⟨joined, between, operator, rest⟩ := andThen_eq_ok read
      have later := ih joined between operator rest
      rw [joinedWith_eq] at operator
      obtain ⟨right, _, inner, same⟩ := andThen_eq_ok operator
      cases same
      exact .operator goesOn (operands inner) later
    · next stops =>
      cases read
      exact .stop (Bool.eq_false_iff.mpr stops)

theorem reads_of_nested {depth : Nat} (read : nested depth threshold parser = (.ok tree, after)) :
    Reads .expression threshold parser tree after := by
  induction depth generalizing threshold parser tree after with
  | zero => cases read
  | succ depth ih =>
    cases kind : parser.current.kind with
    | int =>
      rw [nested_int kind] at read
      obtain ⟨number, between, first, rest⟩ := andThen_eq_ok read
      obtain ⟨rfl, value, numeral, rfl⟩ := integer_eq_ok first
      exact .number kind numeral (reads_of_extend ih rest)
    | minus =>
      rw [nested_minus kind, signedWith_eq, andThen_assoc] at read
      obtain ⟨operand, between, inner, rest⟩ := andThen_eq_ok read
      exact .sign kind (ih inner) (reads_of_extend ih rest)
    | endOfInput =>
      rw [nested_endOfInput kind] at read
      cases read
    | _ =>
      rw [nested_other (by simp [kind]) (by simp [kind]) (by simp [kind])] at read
      cases read

theorem reads_of_extended {depth : Nat} {left : Expr}
    (read : extend depth threshold left parser = (.ok tree, after)) :
    Reads (.behind left) threshold parser tree after :=
  reads_of_extend reads_of_nested read

end Parser

/-- A source that is accepted is read to its end. -/
theorem read_of_parse {source : String} {tree : Expr} (accepted : parse source = .ok tree) :
    ∃ after, (Parser.ofString source).parse = (.ok tree, after) ∧ after.next.kind = .endOfInput := by
  rw [parse] at accepted
  rcases outcome : (Parser.ofString source).parse with ⟨error | read, after⟩
  · rw [outcome] at accepted
    cases accepted
  · rw [outcome, Parser.whole] at accepted
    split at accepted
    · next ended =>
      cases accepted
      exact ⟨after, rfl, of_decide_eq_true ended⟩
    · cases accepted

end Reckoner
