import Reckoner.Proofs.Parser.Conservation
import Reckoner.Proofs.Parser.Cursor

/-! # Parsing does not depend on what stands before

A parser that has come to some token of a source, and a fresh parser of the text that begins there,
hold the same tokens at different places. To put a parser into a source moves all its places on by
as many characters as stand before its text (`Parser.within`). No step looks at a place or at a
source, so each does the same before and after that: this is shown for every function of the parser,
and of `nested` by induction on the depth (`nested_within`). What a parser returns somewhere in a
source is then what it returns for the text from there on, further on by what stands before.
-/

namespace Reckoner

namespace Expr

/-- The tree with all its tokens so many characters further on. -/
def moved (offset : Nat) : Expr → Expr
  | integer value token => integer value (token.map (Token.moved offset))
  | unary operator operand token =>
    unary operator (operand.moved offset) (token.map (Token.moved offset))
  | binary left operator right token =>
    binary (left.moved offset) operator (right.moved offset) (token.map (Token.moved offset))
  | hole => hole

theorem bare_moved (offset : Nat) (tree : Expr) : (tree.moved offset).bare = tree.bare := by
  induction tree with
  | integer value token => rfl
  | unary operator operand token ih => rw [moved, bare, bare, ih]
  | binary left operator right token ihLeft ihRight => rw [moved, bare, bare, ihLeft, ihRight]
  | hole => rfl

theorem inorder_moved (offset : Nat) (tree : Expr) :
    (tree.moved offset).inorder = tree.inorder.map (Option.map (Token.moved offset)) := by
  induction tree with
  | integer value token => rfl
  | unary operator operand token ih => rw [moved, inorder, inorder, ih, List.map_cons]
  | binary left operator right token ihLeft ihRight =>
    rw [moved, inorder, inorder, ihLeft, ihRight, List.map_append, List.map_cons]
  | hole => rfl

end Expr

namespace ParseError

/-- The error in a source where so many characters stand before the text. -/
def within (source : String) (offset : Nat) (error : ParseError) : ParseError :=
  ⟨error.cause, error.token.moved offset, source⟩

/-- A message shows the text of a token and not its place. -/
theorem message_within (source : String) (offset : Nat) (error : ParseError) :
    (error.within source offset).message = error.message := by
  obtain ⟨cause, token, own⟩ := error
  cases cause <;> rfl

end ParseError

namespace Parser

/-- The parser in a source where so many characters stand before its text. -/
def within (source : String) (offset : Nat) (parser : Parser) : Parser where
  lexer := parser.lexer.within source offset
  current := parser.current.moved offset
  next := parser.next.moved offset
  errors := parser.errors.map (ParseError.within source offset)

/-- The outcome in a source where so many characters stand before the text. -/
def relocate (source : String) (offset : Nat) : Outcome → Outcome
  | (.ok tree, after) => (.ok (tree.moved offset), after.within source offset)
  | (.error error, after) => (.error (error.within source offset), after.within source offset)

section Steps

variable {source : String} {offset : Nat}

theorem advance_within (parser : Parser) :
    (parser.within source offset).advance = parser.advance.within source offset := by
  rw [advance, within, Lexer.next_within]
  rfl

theorem refuse_within (parser : Parser) (cause : ParseError.Cause) :
    (parser.within source offset).refuse cause = relocate source offset (parser.refuse cause) := by
  simp only [refuse, within, relocate, List.map_append]
  rfl

theorem andThen_relocate {outcome : Outcome} {proceed further : Expr → Parser → Outcome}
    (commutes : ∀ tree after, further (tree.moved offset) (after.within source offset) =
      relocate source offset (proceed tree after)) :
    andThen (relocate source offset outcome) further =
      relocate source offset (andThen outcome proceed) := by
  obtain ⟨error | tree, after⟩ := outcome
  · rfl
  · exact commutes tree after

theorem integer_within (parser : Parser) :
    (parser.within source offset).integer = relocate source offset parser.integer := by
  have literal : (parser.within source offset).current.literal = parser.current.literal := rfl
  rw [integer, integer, literal]
  cases Decimal.read parser.current.literal with
  | ok value => rfl
  | error malformed => exact refuse_within parser .unreadableInteger

section Operand

variable {operand : Int → Parser → Outcome}
variable (commutes : ∀ threshold parser,
  operand threshold (parser.within source offset) = relocate source offset (operand threshold parser))

include commutes

theorem signedWith_within (parser : Parser) :
    signedWith operand (parser.within source offset) =
      relocate source offset (signedWith operand parser) := by
  rw [signedWith_eq, signedWith_eq, advance_within, commutes]
  exact andThen_relocate fun _ _ => rfl

theorem joinedWith_within (left : Expr) (parser : Parser) :
    joinedWith operand (left.moved offset) (parser.within source offset) =
      relocate source offset (joinedWith operand left parser) := by
  rw [joinedWith_eq, joinedWith_eq, advance_within, commutes]
  exact andThen_relocate fun _ _ => rfl

theorem chain_within (threshold : Int) (bound : Nat) (left : Expr) (parser : Parser) :
    chain operand threshold bound (left.moved offset) (parser.within source offset) =
      relocate source offset (chain operand threshold bound left parser) := by
  induction bound generalizing left parser with
  | zero => rfl
  | succ bound ih =>
    have same : (parser.within source offset).continues threshold = parser.continues threshold := rfl
    rw [chain_succ, chain_succ, same, advance_within, joinedWith_within commutes]
    split
    · exact andThen_relocate ih
    · rfl

end Operand

/-- A parser reads the same wherever its text stands. -/
theorem nested_within (depth : Nat) (threshold : Int) (parser : Parser) :
    nested depth threshold (parser.within source offset) =
      relocate source offset (nested depth threshold parser) := by
  induction depth generalizing threshold parser with
  | zero => exact refuse_within parser .tooDeep
  | succ depth ih =>
    have first : leading depth (parser.within source offset) =
        relocate source offset (leading depth parser) := by
      have same : (parser.within source offset).current.kind = parser.current.kind := rfl
      rw [leading, leading, same]
      cases parser.current.kind with
      | int => exact integer_within parser
      | minus => exact signedWith_within ih parser
      | endOfInput => exact refuse_within parser .missingExpression
      | _ => exact refuse_within parser .noExpression
    rw [nested_succ, nested_succ, first]
    exact andThen_relocate fun left after => chain_within ih threshold after.chainBound left after

theorem parse_within (parser : Parser) :
    (parser.within source offset).parse = relocate source offset parser.parse :=
  nested_within ..

end Steps

/-- The second outcome is the first one so many characters further on: nothing but places tells them
apart. -/
structure SameFurtherOn (offset : Nat) (first second : Outcome) : Prop where
  result :
    (∃ tree other, first.1 = .ok tree ∧ second.1 = .ok other ∧ tree.sameTree other = true ∧
      other.inorder = tree.inorder.map (Option.map (Token.moved offset))) ∨
    ∃ error other, first.1 = .error error ∧ second.1 = .error other ∧
      other.message = error.message ∧
      other.diagnostic.location = error.diagnostic.location + offset
  current : second.2.current = first.2.current.moved offset
  next : second.2.next = first.2.next.moved offset
  index : second.2.lexer.index = first.2.lexer.index + offset
  atEnd : second.2.atEnd = first.2.atEnd
  errors : second.2.errors.map (fun error => (error.message, error.diagnostic.location)) =
    first.2.errors.map fun error => (error.message, (error.diagnostic.location + offset : Int))

theorem sameFurtherOn_relocate (source : String) (offset : Nat) (outcome : Outcome) :
    SameFurtherOn offset outcome (relocate source offset outcome) := by
  have recorded (errors : List ParseError) :
      (errors.map (ParseError.within source offset)).map
          (fun error => (error.message, error.diagnostic.location)) =
        errors.map fun error => (error.message, (error.diagnostic.location + offset : Int)) := by
    rw [List.map_map]
    apply List.map_congr_left
    intro error member
    exact congrArg (·, _) (error.message_within source offset)
  obtain ⟨error | tree, after⟩ := outcome
  · have message := error.message_within source offset
    exact ⟨.inr ⟨error, _, rfl, rfl, message, rfl⟩, rfl, rfl, rfl, rfl, recorded after.errors⟩
  · have same : tree.sameTree (tree.moved offset) = true :=
      decide_eq_true (tree.bare_moved offset).symm
    exact ⟨.inl ⟨tree, _, rfl, rfl, same, tree.inorder_moved offset⟩, rfl, rfl, rfl, rfl,
      recorded after.errors⟩

/-- After some tokens of a source, a parser is the fresh parser of what is left, put into the
source. -/
theorem iterate_advance_ofString (source : String) (count : Nat) :
    advance^[count] (ofString source) =
      (ofString (textFrom (Lexer.behind^[count] (.ofString source)).index source)).within source
        (Lexer.behind^[count] (.ofString source)).index := by
  have follows := ((Lexer.holds_ofString source).iterate_behind count).toFollows
  have start : ofString source = onto (.ofString source) [] := rfl
  rw [start, iterate_advance_onto]
  conv => lhs; rw [follows.eq_within]
  rw [onto, Lexer.next_within, past, Lexer.next_within]
  rfl

/-- Wherever a parser has come to in a source, up to its end, it parses what is left as a fresh
parser does: the same tree or the same refusal, and the same state after it, with all places further
on by the place where it began. -/
theorem parse_elsewhere (source : String) (count : Nat)
    (before : count ≤ ((Lexer.ofString source).tokens.filter fun token =>
      token.kind ≠ .endOfInput).length) :
    ∃ (token : Token) (offset : Nat),
      (Lexer.ofString source).tokens[count]? = some token ∧ token.location = offset ∧
        SameFurtherOn offset (ofString (textFrom offset source)).parse
          (advance^[count] (ofString source)).parse := by
  have some := (Lexer.ofString source).length_tokens_pos
  rw [Lexer.filter_tokens, List.length_dropLast] at before
  refine ⟨_, _, Lexer.getElem?_tokens (by omega), Lexer.location_next _, ?_⟩
  rw [iterate_advance_ofString, parse_within]
  exact sameFurtherOn_relocate ..

theorem parse_elsewhere_behind_operator :
    2 ≤ ((Lexer.ofString "8*-3 %").tokens.filter fun token => token.kind ≠ .endOfInput).length ∧
      ∃ tree, (advance^[2] (ofString "8*-3 %")).parse.1 = .ok tree ∧
        tree.inorder = [some ⟨.minus, "-", 2⟩, some ⟨.int, "3", 3⟩] ∧
        (advance^[2] (ofString "8*-3 %")).parse.2.next = ⟨.illegal, " ", 4⟩ := by
  have before : 2 ≤ ((Lexer.ofString "8*-3 %").tokens.filter fun token =>
      token.kind ≠ .endOfInput).length := by decide +kernel
  have third : (Lexer.ofString "8*-3 %").tokens[2]? = some ⟨.minus, "-", 2⟩ := by decide +kernel
  have fresh : (ofString (textFrom 2 "8*-3 %")).parse =
      (.ok (.unary "-" (.integer 3 (some ⟨.int, "3", 1⟩)) (some ⟨.minus, "-", 0⟩)),
        ⟨⟨"-3 %", 3, ['%']⟩, ⟨.int, "3", 1⟩, ⟨.illegal, " ", 2⟩, []⟩) := by decide +kernel
  obtain ⟨token, offset, found, location, same⟩ := parse_elsewhere "8*-3 %" 2 before
  obtain rfl := Option.some.inj (third.symm.trans found)
  have place : (2 : Int) = offset := location
  obtain rfl : offset = 2 := by omega
  rw [fresh] at same
  refine ⟨before, ?_⟩
  rcases same.result with ⟨tree, other, read, elsewhere, _, tokens⟩ | ⟨error, _, refused, _⟩
  · cases read
    exact ⟨other, elsewhere, tokens, same.next⟩
  · cases refused

end Parser

end Reckoner
