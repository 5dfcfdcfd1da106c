import Reckoner.Proofs.Decimal.Numerals
import Reckoner.Proofs.Grammar.Sentence
import Reckoner.Proofs.Lexer.Tokens
import Reckoner.Proofs.Parser.Loop

/-! # Parsers at a place in the text

The lexer lemmas say which token a text of a given shape begins with. A parser is then described by
the token it is at and the lexer right behind that token (`past`), or by a lexer alone, at whose
next token it stands (`onto`). Advancing leads from the one to the other. From a place where an
operand begins, `nested` reads exactly that operand and goes on with what is behind it; where the
signs are followed by no digit, it refuses the character that it finds there.
-/

namespace Reckoner

namespace Token.Kind

/-- Exactly the characters of operators make tokens that stand between operands. -/
theorem isInfix_ofChar (c : Char) : (ofChar c).isInfix = (Operator.ofChar? c).isSome := by
  unfold ofChar
  split
  case h_6 => simp [Operator.ofChar?, isInfix]
  all_goals rfl

end Token.Kind

namespace Lexer

variable {source : String} {location : Nat}

theorem next_char {c : Char} {tail : List Char} (notDigit : Decimal.isDigit c = false) :
    next ⟨source, location, c :: tail⟩ =
      (⟨.ofChar c, String.singleton c, location⟩, ⟨source, location + 1, tail⟩) := by
  simp [next, char?, notDigit, advance]

theorem next_operator (operator : Operator) (tail : List Char) :
    next ⟨source, location, operator.char :: tail⟩ =
      (operator.token location, ⟨source, location + 1, tail⟩) := by
  rw [next_char operator.isDigit_char, operator.ofChar_char]
  rfl

/-- A token that stands between operands is the character of an operator. -/
theorem exists_operator {lexer : Lexer} (between : lexer.next.1.kind.isInfix = true) :
    ∃ (source : String) (location : Nat) (operator : Operator) (tail : List Char),
      lexer = ⟨source, location, operator.char :: tail⟩ := by
  obtain ⟨source, location, rest⟩ := lexer
  cases rest with
  | nil => cases between
  | cons c tail =>
    cases digit : Decimal.isDigit c with
    | true =>
      simp only [next, char?, List.head?_cons, digit, ↓reduceIte] at between
      cases between
    | false =>
      rw [next_char digit, Token.Kind.isInfix_ofChar] at between
      obtain ⟨operator, found⟩ := Option.isSome_iff_exists.mp between
      obtain rfl := Operator.ofChar?_eq_some_iff.mp found
      exact ⟨source, location, operator, tail, rfl⟩

theorem next_digits (operand : Operand) {tail : List Char} (ends : EndsDigits tail) :
    next ⟨source, location, operand.digits ++ tail⟩ =
      (⟨.int, String.ofList operand.digits, location⟩,
        ⟨source, location + operand.digits.length, tail⟩) := by
  have run := Decimal.takeWhile_digits operand.decimal ends
  have rest := Decimal.dropWhile_digits operand.decimal ends
  obtain ⟨c, more, cons⟩ := List.exists_cons_of_ne_nil operand.nonempty
  have digit : Decimal.isDigit c = true := operand.isDigit_of_mem (by simp [cons])
  have head : (operand.digits ++ tail).head? = some c := by simp [cons]
  simp only [next, char?, head, digit, ↓reduceIte, digits, skipDigits, run, rest]

end Lexer

namespace Parser

/-- The parser at a token, with the lexer right behind it. -/
def past (token : Token) (lexer : Lexer) (errors : List ParseError) : Parser :=
  ⟨lexer.next.2, token, lexer.next.1, errors⟩

/-- The parser at the next token of the lexer. -/
def onto (lexer : Lexer) (errors : List ParseError) : Parser :=
  past lexer.next.1 lexer.next.2 errors

variable {token : Token} {lexer : Lexer} {errors : List ParseError}
variable {source : String} {location depth : Nat} {threshold : Int} {tail : List Char}

theorem advance_past : (past token lexer errors).advance = onto lexer errors := rfl

theorem advance_onto : (onto lexer errors).advance = onto lexer.next.2 errors := rfl

theorem refuse_onto (cause : ParseError.Cause) :
    (onto lexer errors).refuse cause =
      (.error ⟨cause, lexer.next.1, lexer.source⟩,
        { onto lexer errors with errors := errors ++ [⟨cause, lexer.next.1, lexer.source⟩] }) := by
  have source : (onto lexer errors).lexer.source = lexer.source := by
    rw [onto, past, Lexer.source_next, Lexer.source_next]
  rw [refuse, source]
  rfl

theorem current_onto : (onto lexer errors).current = lexer.next.1 := rfl

/-- No operator binds tighter than products do. -/
theorem continues_of_product_le (parser : Parser) (tight : Precedence.product.level ≤ threshold) :
    parser.continues threshold = false := by
  have bound : parser.next.precedence.level ≤ Precedence.product.level := by
    rw [Token.precedence]
    cases parser.next.kind <;> decide
  simp only [continues, Bool.and_eq_false_iff, decide_eq_false_iff_not]
  exact .inr (by omega)

theorem level_of_tight {operator : Operator} (tight : operator.isTight = true) :
    operator.kind.precedence.level = Precedence.product.level := by
  cases operator <;> first | contradiction | rfl

theorem level_of_loose {operator : Operator} (loose : operator.isTight = false) :
    operator.kind.precedence.level = Precedence.sum.level := by
  cases operator <;> first | contradiction | rfl

theorem continues_operator (operator : Operator) (text : List Char) :
    (past token ⟨source, location, operator.char :: text⟩ errors).continues threshold =
      decide (threshold < operator.kind.precedence.level) := by
  simp only [continues, past, Lexer.next_operator, Operator.token, Token.precedence,
    Operator.isInfix_kind, Bool.true_and]

/-- An expression ends before a text that does not begin with an operator. -/
theorem continues_of_no_operator (ends : EndsDigits tail)
    (noOperator : ∀ c ∈ tail.head?, Operator.ofChar? c = none) :
    (past token ⟨source, location, tail⟩ errors).continues threshold = false := by
  cases tail with
  | nil => rfl
  | cons c rest =>
    have kind : (Token.Kind.ofChar c).isInfix = false := by
      rw [Token.Kind.isInfix_ofChar, noOperator c rfl, Option.isSome_none]
    simp only [continues, past, Lexer.next_char (ends c rfl), kind, Bool.false_and]

theorem onto_sign (signs : Nat) :
    onto ⟨source, location, List.replicate (signs + 1) '-' ++ tail⟩ errors =
      past ⟨.minus, "-", location⟩ ⟨source, location + 1, List.replicate signs '-' ++ tail⟩ errors :=
  rfl

/-- The signs of an operand are read one inside the other, and no operator is taken between them. -/
private theorem nested_signs {signs : Nat} {digits : List Char} {value : Nat}
    (read : Decimal.read (String.ofList digits) = .ok value)
    (next : ∀ location, Lexer.next ⟨source, location, digits ++ tail⟩ =
      (⟨.int, String.ofList digits, location⟩, ⟨source, location + digits.length, tail⟩))
    (room : signs ≤ depth) :
    nested (depth + 1) threshold
        (onto ⟨source, location, List.replicate signs '-' ++ (digits ++ tail)⟩ errors) =
      extend depth threshold
        (Operand.negateAt signs location (.integer value
          (some ⟨.int, String.ofList digits, (location + signs : Nat)⟩)))
        (past ⟨.int, String.ofList digits, (location + signs : Nat)⟩
          ⟨source, location + signs + digits.length, tail⟩ errors) := by
  induction signs generalizing depth threshold location with
  | zero =>
    have place : onto ⟨source, location, digits ++ tail⟩ errors =
        past ⟨.int, String.ofList digits, location⟩ ⟨source, location + digits.length, tail⟩ errors := by
      rw [onto, next]
    have number : (past ⟨.int, String.ofList digits, location⟩
        ⟨source, location + digits.length, tail⟩ errors).integer =
          (.ok (.integer value (some ⟨.int, String.ofList digits, location⟩)),
            past ⟨.int, String.ofList digits, location⟩ ⟨source, location + digits.length, tail⟩ errors) := by
      simp only [integer, past, read]
    rw [List.replicate_zero, List.nil_append, place, nested_int rfl, number, andThen_ok]
    rfl
  | succ signs ih =>
    obtain ⟨depth, rfl⟩ := Nat.exists_eq_succ_of_ne_zero (by omega : depth ≠ 0)
    rw [onto_sign, nested_minus rfl, signedWith_eq, advance_past, ih (by omega),
      extend_of_stop (continues_of_product_le _ (by decide)), andThen_ok, andThen_ok]
    have position : location + 1 + signs = location + (signs + 1) := by omega
    rw [position]
    rfl

/-- From its first character on, an operand is read with all its negations. -/
theorem nested_operand (operand : Operand) (ends : EndsDigits tail) (room : operand.signs ≤ depth) :
    nested (depth + 1) threshold (onto ⟨source, location, operand.text ++ tail⟩ errors) =
      extend depth threshold (operand.treeAt location)
        (past (operand.token location) ⟨source, location + operand.text.length, tail⟩ errors) := by
  have length : operand.text.length = operand.signs + operand.digits.length := by
    simp [Operand.text]
  rw [Operand.text, List.append_assoc, nested_signs
    (Decimal.read_digits operand.nonempty operand.decimal)
    (fun _ => Lexer.next_digits operand ends) room, ← Operand.text, length, ← Nat.add_assoc]
  rfl

/-- Why an operand cannot begin with a text that has neither a sign nor a digit in front. -/
def refusal (text : List Char) : ParseError.Cause :=
  if text = [] then .missingExpression else .noExpression

/-- Signs without digits are refused at the character behind them. -/
theorem nested_refused {signs : Nat} (ends : EndsDigits tail) (noSign : ∀ c ∈ tail.head?, c ≠ '-')
    (room : signs ≤ depth) :
    nested (depth + 1) threshold (onto ⟨source, location, List.replicate signs '-' ++ tail⟩ errors) =
      (onto ⟨source, location + signs, tail⟩ errors).refuse (refusal tail) := by
  induction signs generalizing depth threshold location with
  | zero =>
    rw [List.replicate_zero, List.nil_append, Nat.add_zero]
    cases tail with
    | nil => exact nested_endOfInput rfl
    | cons c rest =>
      have kind : (onto ⟨source, location, c :: rest⟩ errors).current.kind = .ofChar c := by
        rw [current_onto, Lexer.next_char (ends c rfl)]
      apply nested_other <;> rw [kind]
      · exact Token.Kind.ofChar_ne_int c
      · exact Token.Kind.ofChar_ne_minus (noSign c rfl)
      · exact Token.Kind.ofChar_ne_endOfInput c
  | succ signs ih =>
    obtain ⟨depth, rfl⟩ := Nat.exists_eq_succ_of_ne_zero (by omega : depth ≠ 0)
    rw [onto_sign, nested_minus rfl, signedWith_eq, advance_past, ih (by omega), andThen_refuse,
      andThen_refuse, Nat.add_assoc, Nat.add_comm 1 signs]

end Parser

end Reckoner
