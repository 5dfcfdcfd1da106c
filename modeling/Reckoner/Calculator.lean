import Reckoner.Expr.Evaluate
import Reckoner.Expr.Render
import Reckoner.Log
import Reckoner.Parser.Basic

/-! # Calculating the value of a source

A source is parsed as a whole and its tree is evaluated. On the way the calculation logs, at debug
level, each error that the parser recorded, or else the tree that it read. What is left over after
an expression is refused without a record. Above debug level no tree is written.
-/

namespace Reckoner

inductive CalcError where
  | parse (error : ParseError)
  | eval (error : EvalError)
  | render (error : RenderError)
deriving DecidableEq, Repr

namespace CalcError

def message : CalcError → String
  | parse error => error.message
  | eval error => error.message
  | render error => error.message

/-- What to tell the author of the expression, if the mistake is theirs. -/
def diagnostic? : CalcError → Option Diagnostic
  | parse error => some error.diagnostic
  | eval error => error.diagnostic?
  | render _ => none

def text (error : CalcError) : String := (error.diagnostic?.map Diagnostic.text).getD error.message

/-- A mistake of the author is told as their diagnostic tells it. -/
theorem text_of_diagnostic {error : CalcError} {diagnostic : Diagnostic}
    (shown : error.diagnostic? = some diagnostic) : error.text = diagnostic.text := by
  rw [text, shown]
  rfl

end CalcError

/-- A record for each error of the parser. -/
def ParseError.record (error : ParseError) : Log.Record where
  logger := "prattcalc.parse"
  level := .debug
  message :=
    "syntax error at " ++ Decimal.write error.token.location ++ ": " ++ error.message

/-- A record for a tree that was read from `source`, with the tree as it is written. -/
def treeRecord (source written : String) : Log.Record :=
  ⟨"prattcalc.evaluate", .debug, "parsed " ++ Text.quote source ++ " as " ++ written⟩

/-- The value of a tree that was read from `source`. -/
def valueOf (source : String) (tree : Expr) : Except CalcError Int :=
  (tree.evaluate (some source)).mapError .eval

/-- The value of a tree that was read from `source`, and what a log at the given level keeps. The
tree is written only for a log that keeps its record. -/
def valueLogged (level : Log.Level) (source : String) (tree : Expr) :
    Except CalcError Int × List Log.Record :=
  if level.keeps .debug then
    match tree.render with
    | .ok written => (valueOf source tree, [treeRecord source written])
    | .error error => (.error (.render error), [])
  else (valueOf source tree, [])

/-- The value of a source, and what a log at the given level keeps. -/
def evaluateLogged (level : Log.Level) (source : String) :
    Except CalcError Int × List Log.Record :=
  let outcome := (Parser.ofString source).parse
  let failures := Log.keep level (outcome.2.errors.map ParseError.record)
  match Parser.whole outcome with
  | .ok tree =>
    let (value, records) := valueLogged level source tree
    (value, failures ++ records)
  | .error error => (.error (.parse error), failures)

/-- The value of a source if nothing is said about a log. -/
def evaluate (source : String) : Except CalcError Int := (evaluateLogged .warning source).1

theorem evaluate_eq_bind (source : String) :
    evaluate source = ((parse source).mapError CalcError.parse).bind (valueOf source) := by
  simp only [evaluate, evaluateLogged, parse]
  cases Parser.whole (Parser.ofString source).parse <;> rfl

end Reckoner
