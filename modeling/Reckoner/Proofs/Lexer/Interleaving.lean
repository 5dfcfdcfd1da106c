import Reckoner.Proofs.Lexer.Tokens

/-! # Lexers under any sequence of calls

A lexer may be moved on by single characters and asked for tokens in any order, so that it comes to
stand inside a digit run or behind the end of its source. Wherever it stands, what is left is what
the source holds from the index on (`Follows`). So the lexer is that of the text from there on, with
all places counted from the start of the source (`Follows.eq_within`), and its tokens do not depend
on what stands before them.
-/

namespace Reckoner

/-- The token, so many characters further on. -/
def Token.moved (offset : Nat) (token : Token) : Token :=
  { token with location := token.location + offset }

/-- What a source holds from an index on. -/
def textFrom (index : Nat) (source : String) : String := String.ofList (source.toList.drop index)

namespace Lexer

/-- What can be asked of a lexer. -/
inductive Step where
  | advance
  | next

/-- The lexer after a step. -/
def Step.perform : Step → Lexer → Lexer
  | advance, lexer => lexer.advance
  | next, lexer => lexer.behind

/-- The lexer after some steps in a row. -/
def run (steps : List Step) (lexer : Lexer) : Lexer :=
  steps.foldl (fun lexer step => step.perform lexer) lexer

/-- The lexer of a text that stands in a source, behind so many characters. -/
def within (source : String) (offset : Nat) (lexer : Lexer) : Lexer :=
  ⟨source, lexer.index + offset, lexer.rest⟩

/-- A lexer takes the same token wherever its text stands. -/
theorem next_within (source : String) (offset : Nat) (lexer : Lexer) :
    (lexer.within source offset).next =
      (lexer.next.1.moved offset, lexer.next.2.within source offset) := by
  obtain ⟨own, index, rest⟩ := lexer
  cases rest with
  | nil => rfl
  | cons c tail =>
    cases digit : Decimal.isDigit c with
    | true => simp [within, next, char?, digit, digits, skipDigits, Token.moved, Nat.add_right_comm]
    | false => simp [within, next, char?, digit, advance, Token.moved, Nat.add_right_comm]

/-- What is left is what the source holds from the index on: nothing, where the index is behind the
end. -/
structure Follows (source : String) (lexer : Lexer) : Prop where
  source_eq : lexer.source = source
  rest_eq : lexer.rest = source.toList.drop lexer.index

variable {source : String} {lexer : Lexer}

theorem follows_ofString (source : String) : Follows source (ofString source) := ⟨rfl, rfl⟩

namespace Follows

theorem advance (follows : Follows source lexer) : Follows source lexer.advance := by
  refine ⟨follows.source_eq, ?_⟩
  rw [Lexer.advance, follows.rest_eq, List.tail_drop]

theorem behind (follows : Follows source lexer) : Follows source lexer.behind := by
  have moved : lexer.behind.index = lexer.index + lexer.next.1.literal.length := lexer.index_next
  refine ⟨lexer.source_next.trans follows.source_eq, ?_⟩
  rw [moved, ← List.drop_drop, ← follows.rest_eq, ← lexer.literal_append_rest_next,
    ← String.length_toList, List.drop_left]
  rfl

theorem perform (follows : Follows source lexer) (step : Step) : Follows source (step.perform lexer) := by
  cases step with
  | advance => exact follows.advance
  | next => exact follows.behind

theorem run (follows : Follows source lexer) (steps : List Step) : Follows source (run steps lexer) := by
  induction steps generalizing lexer with
  | nil => exact follows
  | cons step rest ih => exact ih (follows.perform step)

/-- The lexer is that of the text from its index on. -/
theorem eq_within (follows : Follows source lexer) :
    lexer = (ofString (textFrom lexer.index source)).within source lexer.index := by
  obtain ⟨own, index, rest⟩ := lexer
  obtain ⟨rfl, left⟩ := follows
  rw [within, ofString, textFrom, String.toList_ofList, Nat.zero_add]
  exact congrArg (Lexer.mk own index) left

theorem next_eq (follows : Follows source lexer) :
    lexer.next = ((ofString (textFrom lexer.index source)).next.1.moved lexer.index,
      (ofString (textFrom lexer.index source)).next.2.within source lexer.index) := by
  conv => lhs; rw [follows.eq_within]
  exact next_within ..

theorem char?_eq (follows : Follows source lexer) : lexer.char? = source.toList[lexer.index]? := by
  rw [char?, follows.rest_eq, List.head?_drop]

/-- A token that begins inside the source ends inside it. -/
theorem index_behind_le (follows : Follows source lexer) (inside : lexer.index ≤ source.length) :
    lexer.behind.index ≤ source.length := by
  have moved : lexer.behind.index = lexer.index + lexer.next.1.literal.length := lexer.index_next
  have left := congrArg List.length (lexer.literal_append_rest_next.trans follows.rest_eq)
  rw [List.length_append, String.length_toList, List.length_drop, String.length_toList] at left
  omega

end Follows

theorem index_le_perform (step : Step) (lexer : Lexer) : lexer.index ≤ (step.perform lexer).index := by
  cases step with
  | advance => exact Nat.le_succ _
  | next =>
    rw [Step.perform, behind, index_next]
    exact Nat.le_add_right ..

theorem index_le_run (steps : List Step) (lexer : Lexer) : lexer.index ≤ (run steps lexer).index := by
  induction steps generalizing lexer with
  | nil => exact Nat.le_refl _
  | cons step rest ih => exact Nat.le_trans (index_le_perform step lexer) (ih _)

theorem run_append (first second : List Step) (lexer : Lexer) :
    run (first ++ second) lexer = run second (run first lexer) :=
  List.foldl_append

/-- How a lexer answers that stands in a source or behind its end. -/
structure Answers (source : String) (lexer : Lexer) : Prop where
  /-- There is no character at an index behind the end. -/
  char : lexer.char? = source.toList[lexer.index]?
  /-- The next token is the first one of the text from here on. -/
  inside : lexer.index < source.length →
    ∃ first, (ofString (textFrom lexer.index source)).tokens.head? = some first ∧
      lexer.next.1 = first.moved lexer.index ∧
      lexer.next.2.index = lexer.index + first.literal.length ∧
      lexer.next.2.index ≤ source.length
  outside : source.length ≤ lexer.index → lexer.next = (⟨.endOfInput, "", lexer.index⟩, lexer)

theorem Follows.answers (follows : Follows source lexer) : Answers source lexer where
  char := follows.char?_eq
  inside started := by
    refine ⟨_, head?_tokens _, congrArg Prod.fst follows.next_eq, ?_, follows.index_behind_le (Nat.le_of_lt started)⟩
    rw [lexer.index_next, follows.next_eq]
    rfl
  outside ended := by
    have done : lexer.rest = [] := by
      rw [follows.rest_eq, List.drop_eq_nil_iff, String.length_toList]
      exact ended
    simp [next, char?, done]

/-- However a lexer has been moved on and asked for tokens, it shows the character at its index, takes
the token that the text from there on begins with, and has nothing to take behind the end. Whatever is
asked of it later, its index never decreases. -/
theorem interleaved_calls (source : String) (steps : List Step) :
    Answers source (run steps (ofString source)) ∧
      ∀ more, (run steps (ofString source)).index ≤ (run (steps ++ more) (ofString source)).index := by
  constructor
  · exact ((follows_ofString source).run steps).answers
  · intro more
    rw [run_append]
    exact index_le_run more _

theorem interleaved_calls_inside_digits :
    (run [.next, .advance, .advance] (ofString "+12345")).char? = some '3' ∧
      (run [.next, .advance, .advance] (ofString "+12345")).next.1 = ⟨.int, "345", 3⟩ ∧
      3 ≤ (run [.next, .advance, .advance, .next, .advance] (ofString "+12345")).index ∧
      (run [.next, .advance, .advance, .next, .advance] (ofString "+12345")).next =
        (⟨.endOfInput, "", 7⟩, ⟨"+12345", 7, []⟩) := by
  have midway : run [.next, .advance, .advance] (ofString "+12345") =
      ⟨"+12345", 3, ['3', '4', '5']⟩ := by decide +kernel
  have past : run [.next, .advance, .advance, .next, .advance] (ofString "+12345") =
      ⟨"+12345", 7, []⟩ := by decide +kernel
  have text : (ofString (textFrom 3 "+12345")).tokens.head? = some ⟨.int, "345", 0⟩ := by decide +kernel
  obtain ⟨here, later⟩ := interleaved_calls "+12345" [.next, .advance, .advance]
  have further := later [.next, .advance]
  obtain ⟨ended, _⟩ := interleaved_calls "+12345" [.next, .advance, .advance, .next, .advance]
  rw [midway] at here further ⊢
  rw [past] at ended ⊢
  obtain ⟨first, begins, taken, _⟩ := here.inside (by decide)
  obtain rfl := Option.some.inj (begins.symm.trans text)
  exact ⟨here.char, taken, further, ended.outside (by decide)⟩

end Lexer

end Reckoner
