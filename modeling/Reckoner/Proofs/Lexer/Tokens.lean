import Mathlib.Data.List.Nodup
import Mathlib.Logic.Function.Iterate
import Reckoner.Lexer

/-! # The token list of a source

`tokens` lists what taking token after token gives, up to the end of the input. Here the list is
compared with the lexers on the way: dropping tokens from the list is the list of the lexer behind
them, only the last token is the end of the input, locations grow from token to token, and the
literals written one after the other are the source.
-/

namespace Reckoner

namespace Token.Kind

theorem ofChar_ne_int (c : Char) : ofChar c ≠ .int := by
  unfold ofChar
  split <;> decide

theorem ofChar_ne_endOfInput (c : Char) : ofChar c ≠ .endOfInput := by
  unfold ofChar
  split <;> decide

theorem ofChar_ne_minus {c : Char} (other : c ≠ '-') : ofChar c ≠ .minus := by
  unfold ofChar
  split
  case h_2 => contradiction
  all_goals decide

end Token.Kind

namespace Lexer

/-- The lexer behind its next token. -/
def behind (lexer : Lexer) : Lexer := lexer.next.2

variable {lexer : Lexer} {token : Token} {count : Nat}

theorem behind_of_nil (done : lexer.rest = []) : lexer.behind = lexer := by
  simp [behind, next, char?, done]

theorem iterate_behind_of_nil (done : lexer.rest = []) (count : Nat) :
    behind^[count] lexer = lexer := by
  induction count with
  | zero => rfl
  | succ count ih => rw [Function.iterate_succ_apply, behind_of_nil done, ih]

theorem location_next (lexer : Lexer) : lexer.next.1.location = lexer.index := by
  simp only [next]
  split
  · rfl
  · split <;> rfl

theorem source_next (lexer : Lexer) : lexer.next.2.source = lexer.source := by
  simp only [next]
  cases lexer.char? with
  | none => rfl
  | some c => cases digit : Decimal.isDigit c <;> simp [digit, skipDigits, advance]

theorem kind_next_eq_endOfInput_iff : lexer.next.1.kind = .endOfInput ↔ lexer.rest = [] := by
  obtain ⟨source, index, rest⟩ := lexer
  cases rest with
  | nil => simp [next, char?]
  | cons c rest =>
    simp only [next, char?, List.head?_cons, reduceCtorEq, iff_false]
    split
    · exact Token.Kind.noConfusion
    · exact Token.Kind.ofChar_ne_endOfInput c

/-- A token of a source that goes on takes part of it. -/
theorem index_lt_index_behind (more : lexer.rest ≠ []) : lexer.index < lexer.behind.index := by
  have whole := congrArg List.length lexer.literal_append_rest_next
  have shorter := length_rest_next_lt more
  rw [List.length_append, String.length_toList] at whole
  have moved := lexer.index_next
  rw [behind]
  omega

theorem tokens_of_nil (done : lexer.rest = []) : lexer.tokens = [lexer.next.1] := by
  rw [tokens, dif_pos done]

theorem tokens_of_ne_nil (more : lexer.rest ≠ []) :
    lexer.tokens = lexer.next.1 :: lexer.behind.tokens := by
  rw [tokens, dif_neg more, behind]

/-- Induction on the tokens that a lexer still takes. -/
theorem tokens_induction {motive : Lexer → Prop} (done : ∀ lexer, lexer.rest = [] → motive lexer)
    (more : ∀ lexer, lexer.rest ≠ [] → motive lexer.behind → motive lexer) (lexer : Lexer) :
    motive lexer := by
  induction size : lexer.rest.length using Nat.strongRecOn generalizing lexer with
  | _ size ih =>
    by_cases ended : lexer.rest = []
    · exact done lexer ended
    · refine more lexer ended (ih lexer.behind.rest.length ?_ _ rfl)
      rw [← size]
      exact length_rest_next_lt ended

theorem head?_tokens (lexer : Lexer) : lexer.tokens.head? = some lexer.next.1 := by
  by_cases done : lexer.rest = []
  · rw [tokens_of_nil done, List.head?_cons]
  · rw [tokens_of_ne_nil done, List.head?_cons]

theorem length_tokens_pos (lexer : Lexer) : 0 < lexer.tokens.length := by
  refine List.length_pos_of_mem (List.mem_of_head? lexer.head?_tokens)

/-- A token that is not the end of the input has another one behind it. -/
theorem lt_length_tokens (more : (behind^[count] lexer).rest ≠ []) :
    count + 1 < lexer.tokens.length := by
  induction count generalizing lexer with
  | zero =>
    have later := lexer.behind.length_tokens_pos
    rw [Function.iterate_zero_apply] at more
    rw [tokens_of_ne_nil more, List.length_cons]
    omega
  | succ count ih =>
    have started : lexer.rest ≠ [] := by
      intro done
      rw [iterate_behind_of_nil done] at more
      exact more done
    have later := @ih lexer.behind more
    rw [tokens_of_ne_nil started, List.length_cons]
    omega

/-- Dropping tokens gives the tokens of the lexer behind them. -/
theorem drop_tokens (inside : count < lexer.tokens.length) :
    lexer.tokens.drop count = (behind^[count] lexer).tokens := by
  induction count generalizing lexer with
  | zero => rfl
  | succ count ih =>
    have started : lexer.rest ≠ [] := by
      intro done
      rw [tokens_of_nil done, List.length_singleton] at inside
      omega
    rw [tokens_of_ne_nil started, List.length_cons] at inside
    rw [tokens_of_ne_nil started, List.drop_succ_cons, Function.iterate_succ_apply]
    exact ih (by omega)

theorem getElem?_tokens (inside : count < lexer.tokens.length) :
    lexer.tokens[count]? = some (behind^[count] lexer).next.1 := by
  rw [← List.head?_drop, drop_tokens inside, head?_tokens]

/-- No token starts before the lexer. -/
theorem index_le_of_mem_tokens (member : token ∈ lexer.tokens) : (lexer.index : Int) ≤ token.location := by
  induction lexer using tokens_induction with
  | done lexer ended =>
    rw [tokens_of_nil ended, List.mem_singleton] at member
    rw [member]
    exact Int.le_of_eq lexer.location_next.symm
  | more lexer started ih =>
    rw [tokens_of_ne_nil started] at member
    rcases List.mem_cons.mp member with rfl | later
    · exact Int.le_of_eq lexer.location_next.symm
    · have moved := index_lt_index_behind started
      have bound := ih later
      omega

theorem pairwise_location_tokens (lexer : Lexer) :
    lexer.tokens.Pairwise fun first second => first.location < second.location := by
  induction lexer using tokens_induction with
  | done lexer ended =>
    rw [tokens_of_nil ended]
    exact List.pairwise_singleton ..
  | more lexer started ih =>
    rw [tokens_of_ne_nil started]
    refine .cons ?_ ih
    intro token later
    have moved := index_lt_index_behind started
    have bound := index_le_of_mem_tokens later
    rw [location_next]
    omega

theorem nodup_tokens (lexer : Lexer) : lexer.tokens.Nodup := by
  refine lexer.pairwise_location_tokens.imp ?_
  rintro first _ before rfl
  exact Int.lt_irrefl _ before

theorem dropLast_tokens_of_ne_nil (more : lexer.rest ≠ []) :
    lexer.tokens.dropLast = lexer.next.1 :: lexer.behind.tokens.dropLast := by
  have nonempty : lexer.behind.tokens ≠ [] := List.ne_nil_of_length_pos lexer.behind.length_tokens_pos
  rw [tokens_of_ne_nil more, List.dropLast_cons_of_ne_nil nonempty]

/-- The last token is the end of the input, and no other is. -/
theorem filter_tokens (lexer : Lexer) :
    (lexer.tokens.filter fun token => token.kind ≠ .endOfInput) = lexer.tokens.dropLast := by
  induction lexer using tokens_induction with
  | done lexer ended =>
    have last := kind_next_eq_endOfInput_iff.mpr ended
    rw [tokens_of_nil ended, List.filter_cons_of_neg (by simpa using last)]
    rfl
  | more lexer started ih =>
    have notLast : lexer.next.1.kind ≠ .endOfInput := mt kind_next_eq_endOfInput_iff.mp started
    rw [dropLast_tokens_of_ne_nil started, tokens_of_ne_nil started,
      List.filter_cons_of_pos (by simpa using notLast), ih]

/-- The literals of the tokens before the end of the input spell the source. -/
theorem flatMap_literal_dropLast_tokens (lexer : Lexer) :
    (lexer.tokens.dropLast.flatMap fun token => token.literal.toList) = lexer.rest := by
  induction lexer using tokens_induction with
  | done lexer ended =>
    rw [tokens_of_nil ended, ended]
    rfl
  | more lexer started ih =>
    rw [dropLast_tokens_of_ne_nil started, List.flatMap_cons, ih]
    exact lexer.literal_append_rest_next

/-- Where one token is left, it is the last of the list. -/
theorem dropLast_tokens_of_behind_nil (inside : count < lexer.tokens.length)
    (done : (behind^[count] lexer).rest = []) : lexer.tokens.dropLast = lexer.tokens.take count := by
  have left := congrArg List.length (drop_tokens inside)
  rw [tokens_of_nil done, List.length_drop, List.length_singleton] at left
  rw [List.dropLast_eq_take]
  congr 1
  omega

end Lexer

end Reckoner
