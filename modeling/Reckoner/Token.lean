import Reckoner.Text.Quoted

/-! # Tokens of an expression

A token is a piece of the source with its kind and the place where it starts. Two tokens are the
same lexeme when kind and literal agree: the location says where a token stands, not what it is.
-/

namespace Reckoner

inductive Token.Kind where
  | int
  | plus
  | minus
  | asterisk
  | slash
  | percent
  | illegal
  | endOfInput
deriving DecidableEq, Repr, Inhabited

structure Token where
  kind : Token.Kind
  literal : String
  location : Int
deriving DecidableEq, Repr, Inhabited

namespace Token.Kind

def all : List Kind := [int, plus, minus, asterisk, slash, percent, illegal, endOfInput]

def name : Kind → String
  | int => "Int"
  | plus => "Plus"
  | minus => "Minus"
  | asterisk => "Asterisk"
  | slash => "Slash"
  | percent => "Percent"
  | illegal => "Illegal"
  | endOfInput => "EndOfInput"

/-- The kinds are numbered from one. -/
def number (kind : Kind) : Nat := all.idxOf kind + 1

def ofName? (name : String) : Option Kind := all.find? fun kind => kind.name = name

theorem ofName?_name (kind : Kind) : ofName? kind.name = some kind := by
  cases kind <;> decide

/-- The kind of a character that is not a digit. The percent sign is known but belongs to no rule
of the grammar. -/
def ofChar : Char → Kind
  | '+' => plus
  | '-' => minus
  | '*' => asterisk
  | '/' => slash
  | '%' => percent
  | _ => illegal

end Token.Kind

namespace Token

/-- Equality of kind and literal, wherever the tokens stand. -/
def sameLexeme (a b : Token) : Bool := a.kind = b.kind ∧ a.literal = b.literal

/-- The position that a bound of a slice means: a negative one counts from the end, and one
beyond either end means that end. -/
def sliceBound (length : Nat) (bound : Int) : Nat :=
  if bound < 0 then (bound + length).toNat else min bound.toNat length

/-- The token that covers the characters of a source from `start` up to `stop`. -/
def ofSlice (kind : Kind) (source : String) (start stop : Int) : Token :=
  let chars := source.toList
  let first := sliceBound chars.length start
  let last := sliceBound chars.length stop
  ⟨kind, String.ofList ((chars.drop first).take (last - first)), start⟩

/-- How messages name a token: its quoted literal, except at the end of the input. -/
def label (token : Token) : String :=
  if token.kind = .endOfInput then "end of input" else Text.quote token.literal

end Token

end Reckoner
