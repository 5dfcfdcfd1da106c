import Reckoner.Proofs.Parser.Position

/-! # The states a parser can get into

A parser may be moved on and asked for expressions in any order, and its parts may be called where
they do not belong: a sign step at a digit run, an operator step with any tree to its left. Failed
steps count too. In every state that is reached so, the parser stands onto a lexer that has taken
some number of tokens from the source (`Reachable.exists_onto`).
-/

namespace Reckoner.Parser

/-- What can be asked of a parser. -/
inductive Step where
  | advance
  | parse
  | expression (threshold : Int)
  | integer
  | signed
  | joined (left : Expr)

/-- The parser after a step, whether the step fails or not. -/
def Step.perform : Step → Parser → Parser
  | advance, parser => parser.advance
  | parse, parser => parser.parse.2
  | expression threshold, parser => (parser.expression threshold).2
  | integer, parser => parser.integer.2
  | signed, parser => parser.signed.2
  | joined left, parser => (parser.joined left).2

inductive Reachable (source : String) : Parser → Prop
  | start : Reachable source (ofString source)
  | step {parser : Parser} (reached : Reachable source parser) (step : Step) :
      Reachable source (step.perform parser)

/-- What a parser returns when it is asked for an expression. -/
inductive Answers (parser : Parser) : Outcome → Prop
  | parse : Answers parser parser.parse
  | expression (threshold : Int) : Answers parser (parser.expression threshold)

variable {source : String} {parser : Parser} {outcome : Outcome}

theorem Answers.exists_threshold (answers : parser.Answers outcome) :
    ∃ threshold, outcome = parser.expression threshold := by
  cases answers with
  | parse => exact ⟨Precedence.lowest.level, rfl⟩
  | expression threshold => exact ⟨threshold, rfl⟩

/-- Apart from errors that are recorded, all that a step does to the parser is to move it on. -/
theorem Onward.exists_iterate (onward : Onward parser outcome) :
    ∃ count errors, outcome.2 = { advance^[count] parser with errors } := by
  cases onward with
  | read tree count => exact ⟨count, _, rfl⟩
  | refused cause count => exact ⟨count, _, rfl⟩

theorem Step.exists_iterate (step : Step) (parser : Parser) :
    ∃ count errors, step.perform parser = { Parser.advance^[count] parser with errors } := by
  cases step with
  | advance => exact ⟨1, _, rfl⟩
  | parse => exact (onward_nested nestingLimit _ parser).exists_iterate
  | expression threshold => exact (onward_nested nestingLimit threshold parser).exists_iterate
  | integer => exact (onward_integer parser).exists_iterate
  | signed => exact (onward_signedWith (onward_nested nestingLimit) parser).exists_iterate
  | joined left => exact (onward_joinedWith (onward_nested nestingLimit) left parser).exists_iterate

theorem iterate_advance_onto (count : Nat) (lexer : Lexer) (errors : List ParseError) :
    advance^[count] (onto lexer errors) = onto (Lexer.behind^[count] lexer) errors := by
  induction count generalizing lexer with
  | zero => rfl
  | succ count ih => exact ih lexer.behind

/-- A step moves the lexer on and may record errors. -/
theorem Step.exists_onto (step : Step) (lexer : Lexer) (errors : List ParseError) :
    ∃ count recorded, step.perform (onto lexer errors) = onto (Lexer.behind^[count] lexer) recorded := by
  obtain ⟨count, recorded, moved⟩ := step.exists_iterate (onto lexer errors)
  refine ⟨count, recorded, ?_⟩
  rw [moved, iterate_advance_onto]
  rfl

theorem Reachable.exists_onto (reachable : Reachable source parser) :
    ∃ count errors, parser = onto (Lexer.behind^[count] (.ofString source)) errors := by
  induction reachable with
  | start => exact ⟨0, [], rfl⟩
  | step reached step ih =>
    obtain ⟨count, errors, rfl⟩ := ih
    obtain ⟨more, recorded, moved⟩ := step.exists_onto (Lexer.behind^[count] (.ofString source)) errors
    refine ⟨more + count, recorded, ?_⟩
    rw [moved, Function.iterate_add_apply]

end Reckoner.Parser
