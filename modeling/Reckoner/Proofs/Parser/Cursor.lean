import Reckoner.Proofs.Lexer.Interleaving
import Reckoner.Proofs.Lexer.Lexemes
import Reckoner.Proofs.Parser.Reachable

/-! # Where a parser stands in the tokens

Behind the last token of a source the end of the input comes again and again: `Lexer.stream` lists
the tokens of a source in this way. A parser stands at a place of the stream with its current token,
has the token of the next place as its next one, and has a lexer that ends right behind that
(`Parser.IsAt`). The place is told by the current token, since all tokens start at different
locations and only the end of the input comes twice. Every state that a parser can get into is at
its place, and no step leads back to an earlier one (`Parser.isAt_place`).
-/

namespace Reckoner

namespace Lexer

/-- The tokens of a source, and behind them the end of the input for ever. -/
def stream (source : String) (place : Nat) : Token :=
  ((ofString source).tokens[place]?).getD ⟨.endOfInput, "", source.length⟩

/-- The lexer is inside the source and holds what is left from its index on. -/
structure Holds (source : String) (lexer : Lexer) : Prop extends Follows source lexer where
  index_le : lexer.index ≤ source.length

variable {source : String} {lexer : Lexer}

theorem holds_ofString (source : String) : Holds source (ofString source) :=
  ⟨follows_ofString source, Nat.zero_le _⟩

/-- A token never ends past the source. -/
theorem Holds.behind (holds : Holds source lexer) : Holds source lexer.behind :=
  ⟨holds.toFollows.behind, holds.toFollows.index_behind_le holds.index_le⟩

theorem Holds.iterate_behind (holds : Holds source lexer) (count : Nat) :
    Holds source (Lexer.behind^[count] lexer) := by
  induction count generalizing lexer with
  | zero => exact holds
  | succ count ih => exact ih holds.behind

theorem stream_eq_next (source : String) (place : Nat) :
    stream source place = (behind^[place] (ofString source)).next.1 := by
  rw [stream]
  by_cases inside : place < (ofString source).tokens.length
  · rw [getElem?_tokens inside, Option.getD_some]
  · rw [next_iterate_behind (by omega), List.getElem?_eq_none (by omega), Option.getD_none, ofString,
      Nat.zero_add, String.length_toList]

/-- Behind all tokens but the last, the lexer does not move any more. -/
theorem iterate_behind_min (count : Nat) (lexer : Lexer) :
    behind^[min count (lexer.tokens.length - 1)] lexer = behind^[count] lexer := by
  by_cases inside : count ≤ lexer.tokens.length - 1
  · rw [Nat.min_eq_left inside]
  · have more : count = (count - (lexer.tokens.length - 1)) + (lexer.tokens.length - 1) := by omega
    have ended : (behind^[lexer.tokens.length - 1] lexer).rest = [] := by
      rw [← kind_next_eq_endOfInput_iff, next_iterate_behind (by omega)]
    rw [Nat.min_eq_right (by omega)]
    conv => rhs; rw [more, Function.iterate_add_apply, iterate_behind_of_nil ended]

end Lexer

namespace Parser

open Lexer (stream)

/-- The parser is at the token at this place of the source, and its lexer right behind the token
that comes next. -/
structure IsAt (source : String) (place : Nat) (parser : Parser) : Prop where
  current : parser.current = stream source place
  next : parser.next = stream source (place + 1)
  index : parser.lexer.index = parser.next.location + parser.next.literal.length
  holds : parser.lexer.Holds source
  atEnd : parser.atEnd = true ↔ (stream source (place + 1)).kind = .endOfInput

/-- The place of the current token among the tokens of the source. -/
def place (source : String) (parser : Parser) : Nat :=
  (Lexer.ofString source).tokens.idxOf parser.current

variable {source : String} {parser : Parser}

theorem isAt_onto (source : String) (count : Nat) (errors : List ParseError) :
    IsAt source count (onto (Lexer.behind^[count] (.ofString source)) errors) := by
  have further : Lexer.behind^[count + 1] (.ofString source) =
      (Lexer.behind^[count] (.ofString source)).behind := Function.iterate_succ_apply' ..
  have next : (onto (Lexer.behind^[count] (.ofString source)) errors).next = stream source (count + 1) := by
    rw [Lexer.stream_eq_next, further]
    rfl
  have moved := (Lexer.behind^[count] (.ofString source)).behind.index_next
  refine ⟨(Lexer.stream_eq_next source count).symm, next, ?_, ?_, ?_⟩
  · rw [next, Lexer.stream_eq_next, further, Lexer.location_next]
    exact congrArg Nat.cast moved
  · exact ((Lexer.holds_ofString source).iterate_behind count).behind.behind
  · rw [atEnd, decide_eq_true_eq, next]

/-- Past the last token, the place stays that of the last one. -/
theorem place_onto (source : String) (count : Nat) (errors : List ParseError) :
    (onto (Lexer.behind^[count] (.ofString source)) errors).place source =
      min count ((Lexer.ofString source).tokens.length - 1) := by
  have some := (Lexer.ofString source).length_tokens_pos
  have inside : min count ((Lexer.ofString source).tokens.length - 1) < (Lexer.ofString source).tokens.length := by
    omega
  have found := Lexer.getElem?_tokens inside
  rw [Lexer.iterate_behind_min, List.getElem?_eq_getElem inside, Option.some.injEq] at found
  rw [place, current_onto, ← found]
  exact (Lexer.ofString source).nodup_tokens.idxOf_getElem _ inside

/-- In every state that a parser can get into, it is at its place in the tokens of the source, with
the lexer behind the next one and never past the source. No step that it can take, failed ones
included, leads back to an earlier place. -/
theorem isAt_place (reachable : Reachable source parser) :
    IsAt source (parser.place source) parser ∧
      ∀ step : Step, parser.place source ≤ (step.perform parser).place source := by
  obtain ⟨count, errors, rfl⟩ := reachable.exists_onto
  constructor
  · have here := isAt_onto source (min count ((Lexer.ofString source).tokens.length - 1)) errors
    rw [Lexer.iterate_behind_min] at here
    rwa [place_onto]
  · intro step
    obtain ⟨more, recorded, moved⟩ := step.exists_onto (Lexer.behind^[count] (.ofString source)) errors
    rw [moved, ← Function.iterate_add_apply, place_onto, place_onto]
    omega

theorem isAt_place_refused :
    Reachable "2*(3" (ofString "2*(3").parse.2.advance ∧
      IsAt "2*(3" 3 (ofString "2*(3").parse.2.advance ∧
      3 ≤ ((ofString "2*(3").parse.2.advance.joined .hole).2.place "2*(3" := by
  have reachable : Reachable "2*(3" (ofString "2*(3").parse.2.advance :=
    .step (.step .start .parse) .advance
  have third : (ofString "2*(3").parse.2.advance.place "2*(3" = 3 := by decide +kernel
  obtain ⟨here, later⟩ := isAt_place reachable
  rw [third] at here later
  exact ⟨reachable, here, later (.joined .hole)⟩

end Parser

end Reckoner
