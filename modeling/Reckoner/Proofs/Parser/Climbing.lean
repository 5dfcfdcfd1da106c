import Reckoner.Proofs.Grammar.Recognizer
import Reckoner.Proofs.Parser.Position

/-! # Parsing a sentence is one climb

Between two operands of a sentence, the parser is in one of two situations. Either it is in the loop
for the whole expression, with the tree folded so far; or it is in the loop for the right operand of
a sum, inside the one for the whole expression. These are the two forms of a `Climb` over trees, and
`resume` is what the parser still has to do in each. An operator with its operand takes the parser
from one climb to the next (`resume_step`), so any number of them is one run (`resume_run`). Where no
operator follows, the climb is closed; where one follows without an operand, it is given up.
-/

namespace Reckoner.Parser

/-- What is left to do at a climb: to extend the group, and then what waits for it, if anything
does. -/
def resume (depth : Nat) (climb : Climb (Operator × Nat) Expr) (parser : Parser) : Outcome :=
  match climb.waiting with
  | none => extend (depth + 2) Precedence.lowest.level climb.group parser
  | some (groups, operator) =>
    andThen (extend (depth + 1) Precedence.sum.level climb.group parser) fun right after =>
      extend (depth + 2) Precedence.lowest.level (joinAt operator groups right) after

/-- How many signs the next operand may have: one less where it goes into the right operand of a
sum, which is itself an operand. -/
def signRoom (depth : Nat) (climb : Climb (Operator × Nat) Expr) (operator : Operator) : Nat :=
  if climb.waiting.isSome = true ∧ operator.isTight = true then depth else depth + 1

theorem le_signRoom (depth : Nat) (climb : Climb (Operator × Nat) Expr) (operator : Operator) :
    depth ≤ signRoom depth climb operator := by
  rw [signRoom]
  split <;> omega

variable {token : Token} {errors : List ParseError} {source : String} {location depth : Nat}
variable {threshold : Int} {tail : List Char}

/-- An operator above the threshold takes a right operand at the operator's own level. -/
theorem extend_above {left : Expr} (operator : Operator) (text : List Char)
    (above : threshold < operator.kind.precedence.level) :
    extend depth threshold left (past token ⟨source, location, operator.char :: text⟩ errors) =
      andThen (nested depth operator.kind.precedence.level (onto ⟨source, location + 1, text⟩ errors))
        fun right after => extend depth threshold (joinAt (operator, location) left right) after := by
  have goesOn : (past token ⟨source, location, operator.char :: text⟩ errors).continues threshold =
      true := by
    rw [continues_operator]
    exact decide_eq_true above
  have level : (operator.token location).precedence = operator.kind.precedence := rfl
  rw [extend_eq, if_pos goesOn, joinedWith_eq, advance_past, advance_onto, current_onto,
    Lexer.next_operator, level, andThen_assoc]
  rfl

/-- The right operand is read as a whole and then extended. -/
theorem extend_operator {left : Expr} (operator : Operator) (operand : Operand)
    (above : threshold < operator.kind.precedence.level) (ends : EndsDigits tail)
    (room : operand.signs ≤ depth) :
    extend (depth + 1) threshold left
        (past token ⟨source, location, operator.char :: (operand.text ++ tail)⟩ errors) =
      andThen (extend depth operator.kind.precedence.level (operand.treeAt (location + 1))
          (past (operand.token (location + 1))
            ⟨source, location + 1 + operand.text.length, tail⟩ errors))
        fun right after => extend (depth + 1) threshold (joinAt (operator, location) left right) after := by
  rw [extend_above operator _ above, nested_operand operand ends room]

/-- A tight operator is taken in whichever loop the parser is, and its operand is complete. -/
private theorem extend_tight {left : Expr} {operator : Operator} (operand : Operand)
    (tight : operator.isTight = true) (low : threshold ≤ Precedence.sum.level)
    (ends : EndsDigits tail) (room : operand.signs ≤ depth) :
    extend (depth + 1) threshold left
        (past token ⟨source, location, operator.char :: (operand.text ++ tail)⟩ errors) =
      extend (depth + 1) threshold
        (joinAt (operator, location) left (operand.treeAt (location + 1)))
        (past (operand.token (location + 1)) ⟨source, location + 1 + operand.text.length, tail⟩
          errors) := by
  have level := level_of_tight tight
  have above : threshold < operator.kind.precedence.level := by
    rw [level]
    exact Int.lt_of_le_of_lt low (by decide)
  rw [extend_operator operator operand above ends room, level,
    extend_of_stop (continues_of_product_le _ (Int.le_refl _)), andThen_ok]

/-- A loose operator makes the tree so far wait, and the parser goes on with the right operand. -/
private theorem extend_loose {left : Expr} {operator : Operator} (operand : Operand)
    (loose : operator.isTight = false) (ends : EndsDigits tail) (room : operand.signs ≤ depth + 1) :
    extend (depth + 2) Precedence.lowest.level left
        (past token ⟨source, location, operator.char :: (operand.text ++ tail)⟩ errors) =
      resume depth ⟨some (left, (operator, location)), operand.treeAt (location + 1)⟩
        (past (operand.token (location + 1)) ⟨source, location + 1 + operand.text.length, tail⟩
          errors) := by
  have level := level_of_loose loose
  have above : Precedence.lowest.level < operator.kind.precedence.level := by
    rw [level]
    decide
  rw [extend_operator operator operand above ends room, level]
  rfl

/-- At a loose operator the loop for a right operand ends, and what waits is joined. -/
private theorem resume_loose {climb : Climb (Operator × Nat) Expr} {operator : Operator}
    (loose : operator.isTight = false) (text : List Char) :
    resume depth climb (past token ⟨source, location, operator.char :: text⟩ errors) =
      extend (depth + 2) Precedence.lowest.level (climb.close joinAt)
        (past token ⟨source, location, operator.char :: text⟩ errors) := by
  obtain ⟨_ | ⟨groups, waiting⟩, group⟩ := climb
  · rfl
  · have stop : (past token ⟨source, location, operator.char :: text⟩ errors).continues
        Precedence.sum.level = false := by
      rw [continues_operator, level_of_loose loose]
      exact decide_eq_false (Int.lt_irrefl _)
    simp only [resume, extend_of_stop stop, andThen_ok, Climb.close]

/-- An operator with its operand takes the parser from one climb to the next. -/
theorem resume_step (climb : Climb (Operator × Nat) Expr) (operator : Operator) (operand : Operand)
    (ends : EndsDigits tail) (room : operand.signs ≤ signRoom depth climb operator) :
    resume depth climb
        (past token ⟨source, location, operator.char :: (operand.text ++ tail)⟩ errors) =
      resume depth
        (climb.step isTightAt joinAt ((operator, location), operand.treeAt (location + 1)))
        (past (operand.token (location + 1)) ⟨source, location + 1 + operand.text.length, tail⟩
          errors) := by
  cases strength : operator.isTight with
  | true =>
    have next : climb.step isTightAt joinAt ((operator, location), operand.treeAt (location + 1)) =
        { climb with group := joinAt (operator, location) climb.group (operand.treeAt (location + 1)) } :=
      if_pos strength
    rw [next]
    obtain ⟨_ | ⟨groups, waiting⟩, group⟩ := climb
    · exact extend_tight operand strength (by decide) ends (by simpa [signRoom] using room)
    · simp only [resume]
      rw [extend_tight operand strength (Int.le_refl _) ends (by simpa [signRoom, strength] using room)]
  | false =>
    have next : climb.step isTightAt joinAt ((operator, location), operand.treeAt (location + 1)) =
        ⟨some (climb.close joinAt, (operator, location)), operand.treeAt (location + 1)⟩ :=
      if_neg (by simp [isTightAt, strength])
    rw [next, resume_loose strength,
      extend_loose operand strength ends (by simpa [signRoom, strength] using room)]

/-- Before anything else is done at an operator, its operand is read. -/
theorem resume_operator (climb : Climb (Operator × Nat) Expr) (operator : Operator)
    (text : List Char) :
    ∃ proceed, resume depth climb (past token ⟨source, location, operator.char :: text⟩ errors) =
      andThen (nested (signRoom depth climb operator + 1) operator.kind.precedence.level
        (onto ⟨source, location + 1, text⟩ errors)) proceed := by
  have above : Precedence.lowest.level < operator.kind.precedence.level := by
    cases operator <;> decide
  cases strength : operator.isTight with
  | true =>
    obtain ⟨_ | ⟨groups, waiting⟩, group⟩ := climb
    · exact ⟨_, extend_above operator text above⟩
    · have aboveSum : Precedence.sum.level < operator.kind.precedence.level := by
        rw [level_of_tight strength]
        decide
      have room : signRoom depth ⟨some (groups, waiting), group⟩ operator = depth := if_pos ⟨rfl, strength⟩
      simp only [resume, room]
      rw [extend_above operator text aboveSum, andThen_assoc]
      exact ⟨_, rfl⟩
  | false =>
    have room : signRoom depth climb operator = depth + 1 := if_neg (by simp [strength])
    rw [resume_loose strength, room]
    exact ⟨_, extend_above operator text above⟩

/-- Any number of operators with their operands is one run of climbs. -/
theorem resume_run (climb : Climb (Operator × Nat) Expr) (items : List (Operator × Operand))
    (ends : EndsDigits tail) (room : ∀ item ∈ items, item.2.signs ≤ depth) :
    ∃ last, resume depth climb (past token ⟨source, location, spell items ++ tail⟩ errors) =
      resume depth (climb.run isTightAt joinAt (treesAt location items))
        (past last ⟨source, location + (spell items).length, tail⟩ errors) := by
  induction items generalizing climb token location with
  | nil => exact ⟨token, rfl⟩
  | cons item rest ih =>
    obtain ⟨operator, operand⟩ := item
    have position : location + (spell ((operator, operand) :: rest)).length =
        location + 1 + operand.text.length + (spell rest).length := by
      simp only [spell_cons, List.length_cons, List.length_append]
      omega
    rw [position, spell_cons, List.cons_append, List.append_assoc, treesAt_cons, Climb.run_cons,
      resume_step climb operator operand (endsDigits_spell rest ends)
        (Nat.le_trans (room (operator, operand) (List.mem_cons_self ..)) (le_signRoom ..))]
    exact ih _ fun item member => room item (List.mem_cons_of_mem _ member)

/-- Where no operator follows, the climb is closed. -/
theorem resume_stop (climb : Climb (Operator × Nat) Expr) (ends : EndsDigits tail)
    (noOperator : ∀ c ∈ tail.head?, Operator.ofChar? c = none) :
    resume depth climb (past token ⟨source, location, tail⟩ errors) =
      (.ok (climb.close joinAt), past token ⟨source, location, tail⟩ errors) := by
  have stop (threshold : Int) :
      extend (depth + 2) threshold (climb.close joinAt) (past token ⟨source, location, tail⟩ errors) =
        (.ok (climb.close joinAt), past token ⟨source, location, tail⟩ errors) :=
    extend_of_stop (continues_of_no_operator ends noOperator)
  obtain ⟨_ | ⟨groups, waiting⟩, group⟩ := climb
  · exact stop _
  · simp only [resume]
    rw [extend_of_stop (continues_of_no_operator ends noOperator), andThen_ok]
    exact stop _

/-- Where an operator follows whose operand is refused, so is the whole climb, with the same error. -/
theorem resume_refused (climb : Climb (Operator × Nat) Expr) (operator : Operator)
    {text : List Char} {error : ParseError} {after : Parser}
    (refused : nested (signRoom depth climb operator + 1) operator.kind.precedence.level
      (onto ⟨source, location + 1, text⟩ errors) = (.error error, after)) :
    resume depth climb (past token ⟨source, location, operator.char :: text⟩ errors) =
      (.error error, after) := by
  obtain ⟨proceed, operandFirst⟩ := resume_operator climb operator text
  rw [operandFirst, refused, andThen_error]

/-- A sentence is read up to its last operand, whatever is behind it. -/
theorem nested_sentence (sentence : Sentence) (ends : EndsDigits tail)
    (room : ∀ operand ∈ sentence.operands, operand.signs ≤ depth) :
    ∃ last, nested (depth + 3) Precedence.lowest.level
        (onto ⟨source, location, sentence.text ++ tail⟩ errors) =
      resume depth (sentence.climbAt location)
        (past last ⟨source, location + sentence.text.length, tail⟩ errors) := by
  have roomFirst : sentence.first.signs ≤ depth := room _ (List.mem_cons_self ..)
  have roomRest (item : Operator × Operand) (member : item ∈ sentence.rest) :
      item.2.signs ≤ depth :=
    room _ (List.mem_cons_of_mem _ (List.mem_map_of_mem member))
  rw [Sentence.text, List.append_assoc,
    nested_operand sentence.first (endsDigits_spell _ ends) (by omega), List.length_append,
    ← Nat.add_assoc]
  exact resume_run (Climb.start (sentence.first.treeAt location)) sentence.rest ends roomRest

/-- Behind an opening, signs without digits are refused at the character behind them. -/
theorem nested_opening (opening : Opening) {signs : Nat} (ends : EndsDigits tail)
    (noSign : ∀ c ∈ tail.head?, c ≠ '-')
    (room : ∀ operand ∈ opening.operands, operand.signs ≤ depth) (roomSigns : signs ≤ depth) :
    nested (depth + 3) Precedence.lowest.level
        (onto ⟨source, location, opening.text ++ (List.replicate signs '-' ++ tail)⟩ errors) =
      (onto ⟨source, location + (opening.text.length + signs), tail⟩ errors).refuse
        (refusal tail) := by
  cases opening with
  | empty =>
    rw [Opening.text, List.nil_append, nested_refused ends noSign (by omega)]
    simp
  | behind sentence operator =>
    have ended : EndsDigits (operator.char :: (List.replicate signs '-' ++ tail)) :=
      endsDigits_cons operator.isDigit_char _
    have position : location + sentence.text.length + 1 + signs =
        location + ((sentence.text ++ [operator.char]).length + signs) := by
      simp only [List.length_append, List.length_singleton]
      omega
    obtain ⟨last, read⟩ := nested_sentence sentence ended room
    rw [Opening.text, List.append_assoc, List.singleton_append, read, ← position]
    exact resume_refused _ operator
      (nested_refused ends noSign (Nat.le_trans roomSigns (le_signRoom ..)))

end Reckoner.Parser
