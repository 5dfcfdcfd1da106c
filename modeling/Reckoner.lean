import Reckoner.Text.Line
import Reckoner.Text.Unprintable
import Reckoner.Text.Quoted
import Reckoner.Decimal
import Reckoner.Token
import Reckoner.Precedence
import Reckoner.Lexer
import Reckoner.Diagnostic
import Reckoner.Expr.Basic
import Reckoner.Expr.Walk
import Reckoner.Expr.Evaluate
import Reckoner.Expr.Render
import Reckoner.Expr.DebugText
import Reckoner.Parser.Error
import Reckoner.Parser.Basic
import Reckoner.Log
import Reckoner.Calculator
import Reckoner.Command.Files
import Reckoner.Command.Outcome
import Reckoner.Command.Batch
import Reckoner.Command.Inline
import Reckoner.Main
import Reckoner.Proofs.Text.LineEndings
import Reckoner.Proofs.Text.Quoting
import Reckoner.Proofs.Decimal.Numerals
import Reckoner.Proofs.Decimal.Canonical
import Reckoner.Proofs.Grammar.Series
import Reckoner.Proofs.Grammar.Sentence
import Reckoner.Proofs.Grammar.Recognizer
import Reckoner.Proofs.Lexer.Tokens
import Reckoner.Proofs.Lexer.Interleaving
import Reckoner.Proofs.Lexer.Lexemes
import Reckoner.Proofs.Rendering.Recursion
import Reckoner.Proofs.Rendering.Unambiguous
import Reckoner.Proofs.Rendering.DebugText
import Reckoner.Proofs.Parser.Loop
import Reckoner.Proofs.Parser.Position
import Reckoner.Proofs.Parser.Climbing
import Reckoner.Proofs.Parser.Recognition
import Reckoner.Proofs.Parser.Reading
import Reckoner.Proofs.Parser.Reachable
import Reckoner.Proofs.Parser.Cursor
import Reckoner.Proofs.Parser.Attempts
import Reckoner.Proofs.Parser.Conservation
import Reckoner.Proofs.Parser.Shape
import Reckoner.Proofs.Parser.Layers
import Reckoner.Proofs.Parser.Threshold
import Reckoner.Proofs.Parser.Relocation
import Reckoner.Proofs.Parser.RoundTrip
import Reckoner.Proofs.Parser.NormalForm
import Reckoner.Proofs.Parser.Depth
import Reckoner.Proofs.Parser.Refusal
import Reckoner.Proofs.Evaluation.Order
import Reckoner.Proofs.Evaluation.ZeroDivision
import Reckoner.Proofs.Evaluation.Sentences
import Reckoner.Proofs.Evaluation.Logged
import Reckoner.Proofs.Evaluation.Recursion
import Reckoner.Proofs.Evaluation.Arithmetic
import Reckoner.Proofs.Diagnostic.Lines
import Reckoner.Proofs.Diagnostic.Marks
import Reckoner.Proofs.Diagnostic.Parts
import Reckoner.Proofs.Command.Batch
import Reckoner.Proofs.Command.Routes
import Reckoner.Proofs.Command.Agreement
import Reckoner.Proofs.Rendering.DebugText
