import Reckoner.Proofs.Parser.Reachable
import Reckoner.Proofs.Parser.Reading
import Reckoner.Proofs.Parser.Recognition

/-! # Every token goes into the tree once

A tree is read in order when a sign comes before its operand and an operator between its operands.
The tokens of a tree in this order are the tokens that the parser passed, from the one it started at
to the one it stopped at: none is lost, repeated or given to another node. This is shown for each
rule of `Reads`, where an expression takes the current token and what lies ahead, and the rest of an
expression only what lies ahead.
-/

namespace Reckoner

namespace Expr

/-- The tokens of the nodes, a sign before its operand and an operator between its operands. -/
def inorder : Expr → List (Option Token)
  | integer _ token => [token]
  | unary _ operand token => token :: operand.inorder
  | binary left _ right token => left.inorder ++ token :: right.inorder
  | hole => [none]

/-- Every integer has a digit run as its token and is the value of it, and every sign and operator is
the literal of its token. -/
def SpelledByTokens : Expr → Prop
  | integer value token => ∃ own ∈ token, own.literal.toList.all Decimal.isDigit = true ∧
      value = Nat.ofDigitChars 10 own.literal.toList 0
  | unary operator operand token => (∃ own ∈ token, operator = own.literal) ∧ operand.SpelledByTokens
  | binary left operator right token =>
    left.SpelledByTokens ∧ (∃ own ∈ token, operator = own.literal) ∧ right.SpelledByTokens
  | hole => False

end Expr

namespace Parser

/-- The tokens that the parser comes to when it moves on so often. -/
def ahead : Nat → Parser → List Token
  | 0, _ => []
  | count + 1, parser => parser.next :: ahead count parser.advance

theorem ahead_add (first second : Nat) (parser : Parser) :
    ahead (first + second) parser = ahead first parser ++ ahead second (advance^[first] parser) := by
  induction first generalizing parser with
  | zero => rw [Nat.zero_add, ahead, List.nil_append, Function.iterate_zero_apply]
  | succ first ih =>
    rw [Nat.succ_add, ahead, ahead, ih, Function.iterate_succ_apply, List.cons_append]

/-- The tokens that go into a tree which is read in `count` moves. -/
def Part.tokens (count : Nat) (parser : Parser) : Part → List (Option Token)
  | .expression => (parser.current :: ahead count parser).map some
  | .behind left => left.inorder ++ (ahead count parser).map some

variable {part : Part} {threshold : Int} {parser after : Parser} {tree : Expr}

/-- What is read is made of the tokens that are passed, in their order. -/
theorem Reads.inorder_eq (reads : Reads part threshold parser tree after) :
    ∃ count, after = advance^[count] parser ∧ tree.inorder = part.tokens count parser := by
  induction reads with
  | number kind numeral rest ih => exact ih
  | @sign threshold parser between after operand tree kind inner rest ihInner ihRest =>
    obtain ⟨first, rfl, operandTokens⟩ := ihInner
    obtain ⟨second, rfl, treeTokens⟩ := ihRest
    have moves : advance^[first] parser.advance = advance^[1 + first] parser := by
      rw [Nat.add_comm, Function.iterate_succ_apply]
    refine ⟨1 + first + second, ?_, ?_⟩
    · rw [moves, ← Function.iterate_add_apply, Nat.add_comm second]
    · rw [treeTokens, moves]
      simp only [Part.tokens, Expr.inorder, operandTokens, ahead_add, List.map_cons, List.map_append]
      rfl
  | @operator threshold parser between after left right tree goesOn inner rest ihInner ihRest =>
    obtain ⟨first, rfl, rightTokens⟩ := ihInner
    obtain ⟨second, rfl, treeTokens⟩ := ihRest
    have moves : advance^[first] parser.advance.advance = advance^[2 + first] parser := by
      rw [Nat.add_comm, Function.iterate_add_apply]
      rfl
    refine ⟨2 + first + second, ?_, ?_⟩
    · rw [moves, ← Function.iterate_add_apply, Nat.add_comm second]
    · rw [treeTokens, moves]
      simp only [Part.tokens, Expr.inorder, rightTokens, ahead_add, List.map_cons, List.map_append,
        List.append_assoc]
      rfl
  | stop stops => exact ⟨0, rfl, (List.append_nil _).symm⟩

def Part.SpelledByTokens : Part → Prop
  | .expression => True
  | .behind left => left.SpelledByTokens

theorem Reads.spelledByTokens (reads : Reads part threshold parser tree after)
    (spelled : part.SpelledByTokens) : tree.SpelledByTokens := by
  induction reads with
  | number kind numeral rest ih =>
    obtain ⟨nonempty, decimal, rfl⟩ := Decimal.read_eq_ok_iff.mp numeral
    exact ih ⟨_, rfl, decimal, rfl⟩
  | sign kind inner rest ihInner ihRest => exact ihRest ⟨⟨_, rfl, rfl⟩, ihInner trivial⟩
  | operator goesOn inner rest ihInner ihRest =>
    exact ihRest ⟨spelled, ⟨_, rfl, rfl⟩, ihInner trivial⟩
  | stop stops => exact spelled

def Part.AtNumber (parser : Parser) : Part → Prop
  | .expression => True
  | .behind _ => parser.current.kind = .int

/-- What is read ends with a number. -/
theorem Reads.kind_current (reads : Reads part threshold parser tree after)
    (number : part.AtNumber parser) : after.current.kind = .int := by
  induction reads with
  | number kind numeral rest ih => exact ih kind
  | sign kind inner rest ihInner ihRest => exact ihRest (ihInner trivial)
  | operator goesOn inner rest ihInner ihRest => exact ihRest (ihInner trivial)
  | stop stops => exact number

theorem ahead_onto {count : Nat} {lexer : Lexer} (inside : count < lexer.tokens.length)
    (errors : List ParseError) :
    (onto lexer errors).current :: ahead count (onto lexer errors) = lexer.tokens.take (count + 1) := by
  induction count generalizing lexer with
  | zero =>
    rw [Nat.zero_add, List.take_one, lexer.head?_tokens]
    rfl
  | succ count ih =>
    have started : lexer.rest ≠ [] := by
      intro done
      rw [Lexer.tokens_of_nil done, List.length_singleton] at inside
      omega
    rw [Lexer.tokens_of_ne_nil started, List.length_cons] at inside
    rw [Lexer.tokens_of_ne_nil started, List.take_succ_cons, ← ih (by omega)]
    rfl

/-- An expression that is read onto a lexer takes up the tokens up to the one where the parser
stops, and that one is not the end of the input. -/
theorem inorder_onto {lexer : Lexer} {errors : List ParseError}
    (reads : Reads .expression threshold (onto lexer errors) tree after) :
    ∃ count, (Lexer.behind^[count] lexer).rest ≠ [] ∧
      after = onto (Lexer.behind^[count] lexer) errors ∧
      tree.inorder = (lexer.tokens.take (count + 1)).map some := by
  obtain ⟨count, moved, passed⟩ := reads.inorder_eq
  rw [iterate_advance_onto] at moved
  have number := reads.kind_current trivial
  have more : (Lexer.behind^[count] lexer).rest ≠ [] := by
    intro done
    rw [moved, current_onto, Lexer.kind_next_eq_endOfInput_iff.mpr done] at number
    cases number
  have inside := Nat.lt_of_succ_lt (Lexer.lt_length_tokens more)
  exact ⟨count, more, moved, passed.trans (congrArg (List.map some) (ahead_onto inside errors))⟩

variable {source : String}

/-- From any state on, the tree takes up the tokens from the one where the parser is to the one where
it stops. -/
theorem inorder_of_reachable (reachable : Reachable source parser)
    (read : parser.expression threshold = (.ok tree, after)) :
    ∃ start count, start + count < (Lexer.ofString source).tokens.length ∧
      (Lexer.ofString source).tokens[start]? = some parser.current ∧
      (Lexer.ofString source).tokens[start + count]? = some after.current ∧
      tree.inorder = (((Lexer.ofString source).tokens.drop start).take (count + 1)).map some := by
  obtain ⟨start, errors, rfl⟩ := reachable.exists_onto
  obtain ⟨count, more, rfl, passed⟩ := inorder_onto (reads_of_nested read)
  rw [← Function.iterate_add_apply, Nat.add_comm count] at more ⊢
  have inside := Lexer.lt_length_tokens more
  refine ⟨start, count, by omega, Lexer.getElem?_tokens (by omega), Lexer.getElem?_tokens (by omega), ?_⟩
  rw [Lexer.drop_tokens (by omega), passed]

/-- A place in the token list is told by the token. -/
private theorem eq_of_getElem?_tokens {lexer : Lexer} {first second : Nat} {token : Token}
    (inside : first < lexer.tokens.length) (atFirst : lexer.tokens[first]? = some token)
    (atSecond : lexer.tokens[second]? = some token) : second = first := by
  rw [← atFirst] at atSecond
  exact ((List.getElem?_inj inside lexer.nodup_tokens).mp atSecond.symm).symm

private theorem inorder_of_places {start stop : Nat} (reachable : Reachable source parser)
    (read : parser.expression threshold = (.ok tree, after))
    (first : (Lexer.ofString source).tokens[start]? = some parser.current)
    (last : (Lexer.ofString source).tokens[stop]? = some after.current) :
    start ≤ stop ∧
      tree.inorder = (((Lexer.ofString source).tokens.drop start).take (stop + 1 - start)).map some := by
  obtain ⟨place, count, inside, atPlace, atEnd, passed⟩ := inorder_of_reachable reachable read
  obtain rfl := eq_of_getElem?_tokens (by omega) atPlace first
  obtain rfl := eq_of_getElem?_tokens (by omega) atEnd last
  refine ⟨Nat.le_add_right .., ?_⟩
  have length : start + count + 1 - start = count + 1 := by omega
  rw [passed, length]

end Parser

/-- The tree of a source takes up all tokens but the end of the input. -/
theorem inorder_of_parse {source : String} {tree : Expr} (accepted : parse source = .ok tree) :
    tree.inorder =
      ((Lexer.ofString source).tokens.filter fun token => token.kind ≠ .endOfInput).map some := by
  obtain ⟨after, read, ended⟩ := read_of_parse accepted
  have reads : Parser.Reads .expression Precedence.lowest.level
      (Parser.onto (.ofString source) []) tree after := Parser.reads_of_nested read
  obtain ⟨count, more, rfl, passed⟩ := Parser.inorder_onto reads
  have done : (Lexer.behind^[count + 1] (.ofString source)).rest = [] := by
    rw [Function.iterate_succ_apply']
    exact Lexer.kind_next_eq_endOfInput_iff.mp ended
  rw [passed, Lexer.filter_tokens, Lexer.dropLast_tokens_of_behind_nil (Lexer.lt_length_tokens more) done]

/-- No token is lost, repeated or given to another node. In every state that a parser can get into, an
expression that is read takes up the tokens from the one where the parser is to the one where it
stops, and its operators and integers are those of its tokens. The tree of a whole source takes up
all tokens but the end of the input, so its literals spell the source. -/
theorem tokens_conserved (source : String) :
    (∀ parser threshold tree after, Parser.Reachable source parser →
        parser.expression threshold = (.ok tree, after) →
        tree.SpelledByTokens ∧
        (∃ start stop : Nat, (Lexer.ofString source).tokens[start]? = some parser.current ∧
          (Lexer.ofString source).tokens[stop]? = some after.current) ∧
        ∀ start stop : Nat, (Lexer.ofString source).tokens[start]? = some parser.current →
          (Lexer.ofString source).tokens[stop]? = some after.current →
          start ≤ stop ∧ tree.inorder =
            (((Lexer.ofString source).tokens.drop start).take (stop + 1 - start)).map some) ∧
      ∀ tree, parse source = .ok tree →
        tree.inorder = ((Lexer.ofString source).tokens.filter fun token =>
          token.kind ≠ .endOfInput).map some ∧
        (tree.inorder.flatMap fun token => token.elim [] fun own => own.literal.toList) =
          source.toList := by
  constructor
  · intro parser threshold tree after reachable read
    refine ⟨(Parser.reads_of_nested read).spelledByTokens trivial, ?_, ?_⟩
    · obtain ⟨start, count, _, first, last, _⟩ := Parser.inorder_of_reachable reachable read
      exact ⟨start, start + count, first, last⟩
    · intro start stop first last
      exact Parser.inorder_of_places reachable read first last
  · intro tree accepted
    have all := inorder_of_parse accepted
    refine ⟨all, ?_⟩
    rw [all, Lexer.filter_tokens, List.flatMap_map]
    exact (Lexer.ofString source).flatMap_literal_dropLast_tokens

theorem tokens_conserved_midway :
    Parser.Reachable "2--3*4" (Parser.ofString "2--3*4").advance.advance ∧
      ∃ tree after, (Parser.ofString "2--3*4").advance.advance.expression 1 = (.ok tree, after) ∧
        tree.inorder = [some ⟨.minus, "-", 2⟩, some ⟨.int, "3", 3⟩, some ⟨.asterisk, "*", 4⟩,
          some ⟨.int, "4", 5⟩] ∧
        ∃ whole, parse "2--3*4" = .ok whole ∧
          (whole.inorder.flatMap fun token => token.elim [] fun own => own.literal.toList) =
            "2--3*4".toList := by
  have reachable : Parser.Reachable "2--3*4" (Parser.ofString "2--3*4").advance.advance :=
    .step (.step .start .advance) .advance
  have read : (Parser.ofString "2--3*4").advance.advance.expression 1 =
      (.ok (.binary (.unary "-" (.integer 3 (some ⟨.int, "3", 3⟩)) (some ⟨.minus, "-", 2⟩)) "*"
        (.integer 4 (some ⟨.int, "4", 5⟩)) (some ⟨.asterisk, "*", 4⟩)),
        ⟨⟨"2--3*4", 6, []⟩, ⟨.int, "4", 5⟩, ⟨.endOfInput, "", 6⟩, []⟩) := by decide +kernel
  have tokens : (Lexer.ofString "2--3*4").tokens =
      [⟨.int, "2", 0⟩, ⟨.minus, "-", 1⟩, ⟨.minus, "-", 2⟩, ⟨.int, "3", 3⟩, ⟨.asterisk, "*", 4⟩,
        ⟨.int, "4", 5⟩, ⟨.endOfInput, "", 6⟩] := by decide +kernel
  have started : (Parser.ofString "2--3*4").advance.advance.current = ⟨.minus, "-", 2⟩ := by decide +kernel
  obtain ⟨whole, accepted⟩ : ∃ whole, parse "2--3*4" = .ok whole :=
    parse_of_isSentence (by decide +kernel) (by decide)
  obtain ⟨midways, sources⟩ := tokens_conserved "2--3*4"
  obtain ⟨_, _, stretch⟩ := midways _ _ _ _ reachable read
  rw [tokens, started] at stretch
  exact ⟨reachable, _, _, read, (stretch 2 5 rfl rfl).2, whole, accepted, (sources whole accepted).2⟩

end Reckoner
