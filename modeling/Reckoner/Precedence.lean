import Reckoner.Token

/-! # Operators and how tightly they bind

Four operators stand between two operands: sums bind least, products more, and a sign before an
operand binds tighter than both. Levels are compared as integers, so that a threshold may lie
outside the four.
-/

namespace Reckoner

inductive Precedence where
  | lowest
  | sum
  | product
  | sign
deriving DecidableEq, Repr, Inhabited

def Precedence.level : Precedence → Int
  | lowest => 0
  | sum => 1
  | product => 2
  | sign => 3

namespace Token.Kind

/-- The strength with which a token between two operands binds them; one that is no operator binds
least. -/
def precedence : Kind → Precedence
  | plus | minus => .sum
  | asterisk | slash => .product
  | _ => .lowest

/-- The operators that stand between two operands. -/
def isInfix : Kind → Bool
  | plus | minus | asterisk | slash => true
  | _ => false

theorem isInfix_iff_lowest_lt {kind : Kind} :
    kind.isInfix = true ↔ Precedence.lowest.level < kind.precedence.level := by
  cases kind <;> decide

end Token.Kind

def Token.precedence (token : Token) : Precedence := token.kind.precedence

end Reckoner
