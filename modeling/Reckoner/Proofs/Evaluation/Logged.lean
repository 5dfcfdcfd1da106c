import Reckoner.Calculator
import Reckoner.Proofs.Evaluation.Arithmetic
import Reckoner.Proofs.Parser.Depth

/-! # What is logged on the way to a value

All records of a calculation are at debug level, whether the source is accepted or not. So a log at
any higher level stays empty. At debug level the log follows the parser: it has the error of a
refusal, the tree of a source that is read as a whole, and nothing about a source of which something
is left over (`Traced`). To write the tree is extra work that only a log at debug level asks for, but
every tree that is read can be written, so the value does not depend on the level (`exists_traced`).
-/

namespace Reckoner

variable {source : String} {level : Log.Level}

/-- All that a log can lose is lost at once, above debug level. -/
theorem keep_records (level : Log.Level) (errors : List ParseError) :
    Log.keep level (errors.map ParseError.record) =
      if level = .debug then errors.map ParseError.record else [] := by
  rw [Log.keep, List.filter_map]
  cases level with
  | debug => simp [Function.comp_def, ParseError.record, Log.Level.keeps]
  | info | warning | error =>
    simp [Function.comp_def, ParseError.record, Log.Level.keeps, Log.Level.rank]

namespace Parser

variable {outcome : Outcome} {tree : Expr}

theorem whole_of_atEnd (read : outcome.1 = .ok tree) (ended : outcome.2.atEnd = true) :
    whole outcome = .ok tree := by
  rw [← Prod.eta outcome, read]
  exact if_pos ended

theorem whole_of_not_atEnd (read : outcome.1 = .ok tree) (more : outcome.2.atEnd = false) :
    ∃ error, error.cause = .leftover ∧ whole outcome = .error error := by
  refine ⟨⟨.leftover, outcome.2.next, outcome.2.lexer.source⟩, rfl, ?_⟩
  rw [← Prod.eta outcome, read]
  exact if_neg (by simp [more])

/-- The parser has recorded the error that it returns and no other. -/
theorem errors_parse (source : String) :
    (ofString source).parse.2.errors = recorded (ofString source).parse.1 :=
  (onward_nested nestingLimit _ (.ofString source)).errors_eq

end Parser

theorem evaluateLogged_of_refused {error : ParseError}
    (failed : (Parser.ofString source).parse.1 = .error error) (level : Log.Level) :
    evaluateLogged level source = (.error (.parse error), if level = .debug then [error.record] else []) := by
  have refused : Parser.whole (Parser.ofString source).parse = .error error := by
    rw [← Prod.eta (Parser.ofString source).parse, failed]
    rfl
  simp only [evaluateLogged, refused, Parser.errors_parse, failed, keep_records]
  rfl

theorem evaluateLogged_of_leftover {tree : Expr} (read : (Parser.ofString source).parse.1 = .ok tree)
    (more : (Parser.ofString source).parse.2.atEnd = false) :
    ∃ error, error.cause = .leftover ∧
      ∀ level, evaluateLogged level source = (.error (.parse error), []) := by
  obtain ⟨error, cause, refused⟩ := Parser.whole_of_not_atEnd read more
  refine ⟨error, cause, ?_⟩
  intro level
  simp only [evaluateLogged, refused, Parser.errors_parse, read]
  rfl

/-- A tree that can be written has the same value at every level. -/
theorem valueLogged_of_written {tree : Expr} {text : String} (written : tree.render = .ok text)
    (level : Log.Level) (source : String) :
    valueLogged level source tree =
      (valueOf source tree, if level = .debug then [treeRecord source text] else []) := by
  cases level with
  | debug =>
    rw [valueLogged, written]
    rfl
  | info | warning | error => rfl

theorem evaluateLogged_of_whole {tree : Expr} {text : String}
    (read : (Parser.ofString source).parse.1 = .ok tree)
    (ended : (Parser.ofString source).parse.2.atEnd = true) (written : tree.render = .ok text)
    (level : Log.Level) :
    evaluateLogged level source =
      (valueOf source tree, if level = .debug then [treeRecord source text] else []) := by
  have accepted := Parser.whole_of_atEnd read ended
  simp only [evaluateLogged, accepted, Parser.errors_parse, read, valueLogged_of_written written]
  rfl

/-- The result of a calculation with its records: one for a refused source, with the error that is
then reported; none if something is left over; and one for a source that is read as a whole, with its
tree, whatever becomes of the tree. -/
inductive Traced (source : String) : Except CalcError Int → List Log.Record → Prop
  | refused {error : ParseError} (failed : (Parser.ofString source).parse.1 = .error error) :
      Traced source (.error (.parse error))
        [⟨"prattcalc.parse", .debug,
          "syntax error at " ++ toString error.token.location ++ ": " ++ error.message⟩]
  | leftover {tree : Expr} {error : ParseError} (read : (Parser.ofString source).parse.1 = .ok tree)
      (more : (Parser.ofString source).parse.2.atEnd = false) (cause : error.cause = .leftover) :
      Traced source (.error (.parse error)) []
  | whole {tree : Expr} {text : String} (read : (Parser.ofString source).parse.1 = .ok tree)
      (ended : (Parser.ofString source).parse.2.atEnd = true) (written : tree.render = .ok text) :
      Traced source (valueOf source tree)
        [⟨"prattcalc.evaluate", .debug, "parsed " ++ Text.quote source ++ " as " ++ text⟩]

theorem Traced.length_le {result : Except CalcError Int} {records : List Log.Record}
    (traced : Traced source result records) : records.length ≤ 1 := by
  cases traced with
  | refused | whole => exact Nat.le_refl 1
  | leftover => exact Nat.zero_le 1

/-- Neither the result nor what could be logged depends on the level. Every tree that is read can be
written, so that to log it does no harm. -/
theorem exists_traced (source : String) :
    ∃ result records, Traced source result records ∧
      ∀ level, evaluateLogged level source = (result, if level = .debug then records else []) := by
  cases result : (Parser.ofString source).parse.1 with
  | error error =>
    refine ⟨_, _, .refused result, ?_⟩
    intro level
    rw [evaluateLogged_of_refused result, ParseError.record, Decimal.write_eq_toString]
  | ok tree =>
    cases ended : (Parser.ofString source).parse.2.atEnd with
    | false =>
      obtain ⟨error, cause, refused⟩ := evaluateLogged_of_leftover result ended
      refine ⟨_, _, .leftover result ended cause, ?_⟩
      intro level
      rw [refused, ite_self]
    | true =>
      have accepted : parse source = .ok tree := by
        rw [parse, Parser.whole_of_atEnd result ended]
      obtain ⟨text, written⟩ := (sound_of_parse accepted).written
      exact ⟨_, _, .whole result ended written, evaluateLogged_of_whole result ended written⟩

theorem fst_evaluateLogged (level : Log.Level) (source : String) :
    (evaluateLogged level source).1 = evaluate source := by
  obtain ⟨result, records, _, logged⟩ := exists_traced source
  rw [evaluate, logged, logged]

/-- Above debug level nothing is kept. -/
theorem evaluateLogged_of_ne_debug (above : level ≠ .debug) (source : String) :
    evaluateLogged level source = (evaluate source, []) := by
  obtain ⟨result, records, _, logged⟩ := exists_traced source
  rw [← fst_evaluateLogged level, logged, if_neg above]

/-- The tree is logged before it is evaluated. -/
example : evaluateLogged .debug "8/0" =
    (.error (.eval (.divisionByZero (some "8/0") 1)),
      [⟨"prattcalc.evaluate", .debug, "parsed '8/0' as (8 / 0)"⟩]) := by
  decide +kernel

end Reckoner
