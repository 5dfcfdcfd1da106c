import Reckoner.Decimal
import Reckoner.Token

/-! # Lexing from a position in the source

A lexer is a position in a source together with the characters from there on. A token is a maximal
run of digits or a single other character; nothing is skipped, blanks included. Moving past the end
still counts: the index grows, and the end of input is then reported at that index.
-/

namespace Reckoner

structure Lexer where
  source : String
  index : Nat
  rest : List Char
deriving DecidableEq, Repr

namespace Lexer

def ofString (source : String) : Lexer := ⟨source, 0, source.toList⟩

/-- The character at the index, if the source reaches so far. -/
def char? (lexer : Lexer) : Option Char := lexer.rest.head?

/-- Moves on by one character. -/
def advance (lexer : Lexer) : Lexer :=
  { lexer with index := lexer.index + 1, rest := lexer.rest.tail }

/-- The longest digit run at the index. -/
def digits (lexer : Lexer) : List Char := lexer.rest.takeWhile Decimal.isDigit

/-- Moves past the longest digit run at the index. -/
def skipDigits (lexer : Lexer) : Lexer :=
  { lexer with
    index := lexer.index + lexer.digits.length
    rest := lexer.rest.dropWhile Decimal.isDigit }

/-- Takes one token. At the end of the source the lexer stays where it is. -/
def next (lexer : Lexer) : Token × Lexer :=
  match lexer.char? with
  | none => (⟨.endOfInput, "", lexer.index⟩, lexer)
  | some c =>
    if Decimal.isDigit c then
      (⟨.int, String.ofList lexer.digits, lexer.index⟩, lexer.skipDigits)
    else (⟨.ofChar c, String.singleton c, lexer.index⟩, lexer.advance)

/-- Nothing is lost or added between a token and what is left after it. -/
theorem literal_append_rest_next (lexer : Lexer) :
    lexer.next.1.literal.toList ++ lexer.next.2.rest = lexer.rest := by
  obtain ⟨source, index, rest⟩ := lexer
  cases rest with
  | nil => rfl
  | cons head tail =>
    simp only [next, char?, List.head?_cons]
    split
    · simp [digits, skipDigits, List.takeWhile_append_dropWhile]
    · simp [advance]

/-- A token moves the lexer by its own length. -/
theorem index_next (lexer : Lexer) :
    lexer.next.2.index = lexer.index + lexer.next.1.literal.length := by
  obtain ⟨source, index, rest⟩ := lexer
  cases rest with
  | nil => rfl
  | cons head tail =>
    simp only [next, char?, List.head?_cons]
    split
    · simp [digits, skipDigits]
    · simp [advance]

theorem length_rest_next_lt {lexer : Lexer} (more : lexer.rest ≠ []) :
    lexer.next.2.rest.length < lexer.rest.length := by
  obtain ⟨source, index, rest⟩ := lexer
  cases rest with
  | nil => contradiction
  | cons head tail =>
    simp only [next, char?, List.head?_cons]
    split
    · next digit =>
      have : (tail.dropWhile Decimal.isDigit).length ≤ tail.length :=
        (List.dropWhile_suffix _).length_le
      simp only [skipDigits, List.dropWhile_cons, digit, ↓reduceIte, List.length_cons]
      omega
    · simp [advance]

/-- All tokens from here on, the last of them the end of input. -/
def tokens (lexer : Lexer) : List Token :=
  if more : lexer.rest = [] then [lexer.next.1]
  else
    have : lexer.next.2.rest.length < lexer.rest.length := length_rest_next_lt more
    lexer.next.1 :: lexer.next.2.tokens
termination_by lexer.rest.length

end Lexer

end Reckoner
