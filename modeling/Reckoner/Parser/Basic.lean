import Reckoner.Expr.Basic
import Reckoner.Lexer
import Reckoner.Parser.Error
import Reckoner.Precedence

/-! # Parsing by precedence

A parser holds the token it is at and the one after it. `expression threshold` reads an operand and
then goes on, operator by operator, while the next operator binds tighter than the threshold. The
right operand of an operator is read with the operator's own precedence as threshold, so operators
of one precedence associate to the left; the operand of a sign is read with the sign's precedence,
above that of every operator.

Operands inside operands are limited to `nestingLimit`. The limit counts nesting alone: a chain of
operators, however long, comes back to the same depth after each operand. A parser keeps every error
it has met, and after an error it stays at the token that caused it.
-/

namespace Reckoner

structure Parser where
  lexer : Lexer
  current : Token
  next : Token
  errors : List ParseError
deriving DecidableEq, Repr

namespace Parser

/-- A parser at the first token. -/
def ofLexer (lexer : Lexer) : Parser :=
  let (current, lexer) := lexer.next
  let (next, lexer) := lexer.next
  ⟨lexer, current, next, []⟩

def ofString (source : String) : Parser := ofLexer (.ofString source)

/-- Moves on by one token. -/
def advance (parser : Parser) : Parser :=
  let (next, lexer) := parser.lexer.next
  { parser with lexer, current := parser.next, next }

/-- No token but the end of input follows the current one. -/
def atEnd (parser : Parser) : Bool := parser.next.kind = .endOfInput

/-- What a parse step leaves: a tree or an error, and the parser after it. -/
abbrev Outcome := Except ParseError Expr × Parser

/-- Refuses the current token, and records why. -/
def refuse (parser : Parser) (cause : ParseError.Cause) : Outcome :=
  let error := ⟨cause, parser.current, parser.lexer.source⟩
  (.error error, { parser with errors := parser.errors ++ [error] })

/-- The current token as an integer. -/
def integer (parser : Parser) : Outcome :=
  match Decimal.read parser.current.literal with
  | .ok value => (.ok (.integer value (some parser.current)), parser)
  | .error _ => parser.refuse .unreadableInteger

/-- The current token as a sign, before what `operand` reads. -/
def signedWith (operand : Int → Parser → Outcome) (parser : Parser) : Outcome :=
  let sign := parser.current
  match operand Precedence.sign.level parser.advance with
  | (.ok tree, after) => (.ok (.unary sign.literal tree (some sign)), after)
  | (.error error, after) => (.error error, after)

/-- The current token as an operator, between `left` and what `operand` reads. -/
def joinedWith (operand : Int → Parser → Outcome) (left : Expr) (parser : Parser) : Outcome :=
  let operator := parser.current
  match operand operator.precedence.level parser.advance with
  | (.ok right, after) => (.ok (.binary left operator.literal right (some operator)), after)
  | (.error error, after) => (.error error, after)

/-- The next token is an operator that binds tighter than the threshold. -/
def continues (parser : Parser) (threshold : Int) : Bool :=
  parser.next.kind.isInfix && threshold < parser.next.precedence.level

/-- Joins further operands to `left`, at most `bound` of them. -/
def chain (operand : Int → Parser → Outcome) (threshold : Int) : Nat → Expr → Parser → Outcome
  | 0, left, parser => (.ok left, parser)
  | bound + 1, left, parser =>
    if parser.continues threshold then
      match joinedWith operand left parser.advance with
      | (.ok tree, after) => chain operand threshold bound tree after
      | (.error error, after) => (.error error, after)
    else (.ok left, parser)

/-- More operands than can follow: each takes a character, and only the operator before the first
may have been read already. -/
def chainBound (parser : Parser) : Nat := parser.lexer.rest.length + 1

/-- An expression, with `depth` levels of nesting to spare. -/
def nested : Nat → Int → Parser → Outcome
  | 0, _, parser => parser.refuse .tooDeep
  | depth + 1, threshold, parser =>
    let first :=
      match parser.current.kind with
      | .int => parser.integer
      | .minus => signedWith (nested depth) parser
      | .endOfInput => parser.refuse .missingExpression
      | _ => parser.refuse .noExpression
    match first with
    | (.ok left, after) => chain (nested depth) threshold after.chainBound left after
    | (.error error, after) => (.error error, after)

/-- How many expressions may stand inside one another. -/
def nestingLimit : Nat := 500

/-- The expression at the current token, up to the first operator that does not bind tighter than
the threshold. -/
def expression : Int → Parser → Outcome := nested nestingLimit

/-- The current token, whatever its kind, as a sign before an operand. -/
def signed (parser : Parser) : Outcome := parser.signedWith expression

/-- The current token, whatever its kind, as an operator after `left` and before an operand. -/
def joined (left : Expr) (parser : Parser) : Outcome := parser.joinedWith expression left

/-- The longest expression at the current token. -/
def parse (parser : Parser) : Outcome := parser.expression Precedence.lowest.level

/-- Accepts a tree only if nothing is left after it. -/
def whole : Outcome → Except ParseError Expr
  | (.ok tree, after) =>
    if after.atEnd then .ok tree else .error ⟨.leftover, after.next, after.lexer.source⟩
  | (.error error, _) => .error error

end Parser

/-- Reads a whole source as one expression. -/
def parse (source : String) : Except ParseError Expr := Parser.whole (Parser.ofString source).parse

end Reckoner
