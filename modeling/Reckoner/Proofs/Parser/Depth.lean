import Mathlib.Tactic.SplitIfs
import Reckoner.Calculator
import Reckoner.Proofs.Parser.Reachable
import Reckoner.Proofs.Parser.Reading
import Reckoner.Proofs.Parser.Recognition

/-! # What the nesting limit is spent on

An expression nests as deep as the signs in front of it. Operators add two levels at most, one for a
product and one more for a sum, and the loop is back at its own level after each operand. So a
parser with `bound + 3` levels does not meet the limit where no run of minus signs is longer than
`bound`, from whatever state it starts (`within_nested`). A run as long as the limit is met with the
one error for it, whatever stands before or behind the run: at each operand that comes first the
parser either goes on to the next climb or has met the limit already (`tooDeep_resume_run`).
-/

namespace Reckoner

namespace MinusRunsAtMost

variable {bound : Nat} {text part : List Char}

theorem of_suffix (runs : MinusRunsAtMost bound text) (inside : part <:+ text) :
    MinusRunsAtMost bound part := by
  intro long
  exact runs (long.trans inside.isInfix)

end MinusRunsAtMost

namespace Lexer

/-- The minus signs that come next. -/
def signs (lexer : Lexer) : Nat := (lexer.rest.takeWhile (· = '-')).length

variable {lexer : Lexer} {bound : Nat}

theorem signs_le (runs : MinusRunsAtMost bound lexer.rest) : lexer.signs ≤ bound := by
  have minuses : lexer.rest.takeWhile (· = '-') = List.replicate lexer.signs '-' := by
    rw [List.eq_replicate_iff]
    refine ⟨rfl, ?_⟩
    intro c member
    simpa using List.all_eq_true.mp List.all_takeWhile c member
  apply runs.count_le
  rw [← minuses]
  exact (List.takeWhile_prefix _).isInfix

theorem rest_behind_suffix (lexer : Lexer) : lexer.behind.rest <:+ lexer.rest :=
  ⟨_, lexer.literal_append_rest_next⟩

theorem rest_iterate_behind_suffix (count : Nat) (lexer : Lexer) :
    (behind^[count] lexer).rest <:+ lexer.rest := by
  induction count generalizing lexer with
  | zero => exact List.suffix_refl _
  | succ count ih => exact (ih lexer.behind).trans lexer.rest_behind_suffix

/-- A minus token is one sign. -/
theorem signs_of_minus (kind : lexer.next.1.kind = .minus) : lexer.signs = lexer.behind.signs + 1 := by
  obtain ⟨source, location, operator, tail, rfl⟩ := exists_operator (by rw [kind]; rfl)
  rw [next_operator] at kind
  cases operator with
  | minus => rfl
  | plus | times | divide => cases kind

end Lexer

namespace Parser

variable {depth bound : Nat} {threshold : Int} {lexer : Lexer} {errors : List ParseError}

/-- The nesting limit is not met. -/
def Within (outcome : Outcome) : Prop := ∀ error, outcome.1 = .error error → error.cause ≠ .tooDeep

theorem within_ok (tree : Expr) (after : Parser) : Within (.ok tree, after) := by
  intro error failed
  cases failed

theorem within_refuse {cause : ParseError.Cause} (other : cause ≠ .tooDeep) (parser : Parser) :
    Within (parser.refuse cause) := by
  intro error refused
  cases refused
  exact other

theorem within_integer (parser : Parser) : Within parser.integer := by
  rw [integer]
  split
  · exact within_ok _ _
  · exact within_refuse (by decide) parser

/-- What follows a first part goes on from a lexer further on. -/
theorem Within.andThen {outcome : Outcome} {proceed : Expr → Parser → Outcome}
    (onward : Onward (onto lexer errors) outcome) (first : Within outcome)
    (second : ∀ tree further, further.rest <:+ lexer.rest →
      outcome = (.ok tree, onto further errors) → Within (proceed tree (onto further errors))) :
    Within (andThen outcome proceed) := by
  cases onward with
  | read tree count =>
    rw [iterate_advance_onto] at second ⊢
    exact second tree _ (lexer.rest_iterate_behind_suffix count) rfl
  | refused cause count => exact first

/-- The levels that operators above the threshold need, where operands have at most `bound` signs. -/
def room (bound : Nat) (threshold : Int) : Nat :=
  if Precedence.product.level ≤ threshold then 0
  else if Precedence.sum.level ≤ threshold then bound + 2
  else bound + 3

/-- An operator above the threshold leaves room for its operand one level further down. -/
theorem room_of_continues {parser : Parser} (goesOn : parser.continues threshold = true)
    (enough : room bound threshold ≤ depth + 1) :
    bound < depth ∧ room bound parser.next.precedence.level ≤ depth := by
  simp only [continues, Bool.and_eq_true, decide_eq_true_eq] at goesOn
  obtain ⟨operator, above⟩ := goesOn
  have level : parser.next.precedence.level = 1 ∨ parser.next.precedence.level = 2 := by
    rw [Token.precedence]
    cases kind : parser.next.kind <;> rw [kind] at operator <;> first | contradiction | decide
  generalize parser.next.precedence.level = next at above level
  have sum : Precedence.sum.level = 1 := rfl
  have product : Precedence.product.level = 2 := rfl
  rw [room, sum, product] at enough ⊢
  rcases level with rfl | rfl <;> split_ifs at enough ⊢ <;> omega

/-- The loop comes back to its own level after each operand, so its length does not count. -/
private theorem within_extend
    (operands : ∀ {threshold lexer}, MinusRunsAtMost bound lexer.rest → lexer.signs < depth →
      room bound threshold ≤ depth → Within (nested depth threshold (onto lexer errors)))
    (runs : MinusRunsAtMost bound lexer.rest) (enough : room bound threshold ≤ depth + 1)
    (left : Expr) : Within (extend depth threshold left (onto lexer errors)) := by
  generalize place : onto lexer errors = parser
  induction left, parser using joined_induction depth generalizing lexer with
  | joined left parser ih =>
    subst place
    rw [extend_eq]
    split
    · next goesOn =>
      obtain ⟨short, room⟩ := room_of_continues goesOn enough
      have operandRuns : MinusRunsAtMost bound (Lexer.behind^[2] lexer).rest :=
        runs.of_suffix (lexer.rest_iterate_behind_suffix 2)
      have onward : Onward (onto lexer errors) (joinedWith (nested depth) left (onto lexer errors).advance) :=
        (onward_joinedWith (onward_nested depth) left _).of_iterate 1
      have operand : Within (joinedWith (nested depth) left (onto lexer errors).advance) := by
        rw [joinedWith_eq]
        refine Within.andThen (onward_nested depth _ _) ?_ fun _ _ _ _ => within_ok _ _
        exact operands operandRuns (Nat.lt_of_le_of_lt (Lexer.signs_le operandRuns) short) room
      refine operand.andThen onward ?_
      intro tree further later joined
      exact ih tree _ joined (runs.of_suffix later) rfl
    · exact within_ok _ _

/-- With levels for the signs that come next and for the operators above the threshold, the limit is
not met. -/
theorem within_nested (runs : MinusRunsAtMost bound lexer.rest) (own : lexer.signs < depth)
    (enough : room bound threshold ≤ depth) : Within (nested depth threshold (onto lexer errors)) := by
  induction depth generalizing threshold lexer with
  | zero => omega
  | succ depth ih =>
    have rest {lexer : Lexer} (runs : MinusRunsAtMost bound lexer.rest) (left : Expr) :
        Within (extend depth threshold left (onto lexer errors)) :=
      within_extend ih runs enough left
    cases kind : (onto lexer errors).current.kind with
    | int =>
      rw [nested_int kind]
      refine (within_integer _).andThen (onward_integer _) ?_
      intro number further later read
      exact rest (runs.of_suffix later) number
    | minus =>
      have fewer := Lexer.signs_of_minus kind
      have operandRuns := runs.of_suffix lexer.rest_behind_suffix
      have operand : Within (nested depth Precedence.sign.level (onto lexer.behind errors)) :=
        ih operandRuns (by omega) (Nat.zero_le _)
      rw [nested_minus kind, signedWith_eq, andThen_assoc]
      refine operand.andThen (onward_nested depth _ _) ?_
      intro tree further later read
      exact rest (operandRuns.of_suffix later) _
    | endOfInput =>
      rw [nested_endOfInput kind]
      exact within_refuse (by decide) _
    | _ =>
      rw [nested_other (by simp [kind]) (by simp [kind]) (by simp [kind])]
      exact within_refuse (by decide) _

/-- With the limit as it is, runs of at most 201 signs do not meet it, whatever the threshold. -/
theorem within_limit (runs : MinusRunsAtMost 201 lexer.rest) (threshold : Int) :
    Within (nested nestingLimit threshold (onto lexer errors)) := by
  refine within_nested runs (Nat.lt_of_le_of_lt (Lexer.signs_le runs) (by decide)) ?_
  rw [room]
  split_ifs <;> decide

/-- The error that a result leaves behind. -/
def recorded : Except ParseError Expr → List ParseError
  | .ok _ => []
  | .error error => [error]

theorem errors_iterate_advance (count : Nat) (parser : Parser) :
    (advance^[count] parser).errors = parser.errors := by
  induction count generalizing parser with
  | zero => rfl
  | succ count ih => exact ih parser.advance

/-- A step records the error that it returns, and keeps the earlier ones. -/
theorem Onward.errors_eq {parser : Parser} {outcome : Outcome} (onward : Onward parser outcome) :
    outcome.2.errors = parser.errors ++ recorded outcome.1 := by
  cases onward with
  | read tree count => exact (errors_iterate_advance count parser).trans (List.append_nil _).symm
  | refused cause count => exact congrArg (· ++ _) (errors_iterate_advance count parser)

/-- No error for meeting the limit has been recorded. -/
def Shallow (parser : Parser) : Prop := ∀ error ∈ parser.errors, error.cause ≠ .tooDeep

theorem Shallow.of_onward {parser : Parser} {outcome : Outcome} (shallow : Shallow parser)
    (onward : Onward parser outcome) (within : Within outcome) : Shallow outcome.2 := by
  intro error member
  rw [onward.errors_eq] at member
  rcases List.mem_append.mp member with earlier | new
  · exact shallow error earlier
  · obtain ⟨error' | tree, after⟩ := outcome
    · obtain rfl := List.mem_singleton.mp new
      exact within error rfl
    · cases new

variable {source : String} {parser : Parser}

/-- No step from a lexer in the source meets the limit. -/
theorem Shallow.step (runs : MinusRunsAtMost 201 lexer.rest) (shallow : Shallow (onto lexer errors))
    (step : Step) : Shallow (step.perform (onto lexer errors)) := by
  have operand (threshold : Int) : Within (nested nestingLimit threshold (onto lexer.behind errors)) :=
    within_limit (runs.of_suffix lexer.rest_behind_suffix) threshold
  have onward := onward_nested nestingLimit
  cases step with
  | advance => exact shallow
  | parse => exact shallow.of_onward (onward ..) (within_limit runs _)
  | expression threshold => exact shallow.of_onward (onward ..) (within_limit runs threshold)
  | integer => exact shallow.of_onward (onward_integer _) (within_integer _)
  | signed =>
    refine shallow.of_onward (onward_signedWith onward _) ?_
    rw [signed, signedWith_eq]
    exact (operand _).andThen (onward ..) fun _ _ _ _ => within_ok _ _
  | joined left =>
    refine shallow.of_onward (onward_joinedWith onward left _) ?_
    rw [joined, joinedWith_eq]
    exact (operand _).andThen (onward ..) fun _ _ _ _ => within_ok _ _

theorem Reachable.exists_onto_suffix (reachable : Reachable source parser) :
    ∃ lexer errors, lexer.rest <:+ source.toList ∧ parser = onto lexer errors := by
  obtain ⟨count, errors, rfl⟩ := reachable.exists_onto
  exact ⟨_, errors, (Lexer.ofString source).rest_iterate_behind_suffix count, rfl⟩

theorem Reachable.shallow (runs : MinusRunsAtMost 201 source.toList)
    (reachable : Reachable source parser) : Shallow parser := by
  induction reachable with
  | start =>
    intro error member
    cases member
  | step reached step ih =>
    obtain ⟨lexer, errors, inside, rfl⟩ := reached.exists_onto_suffix
    exact ih.step (runs.of_suffix inside) step

/-- The nesting limit is met. -/
def TooDeep (outcome : Outcome) : Prop :=
  ∃ error, outcome.1 = .error error ∧ error.cause = .tooDeep

theorem TooDeep.andThen {outcome : Outcome} (deep : TooDeep outcome)
    (proceed : Expr → Parser → Outcome) : TooDeep (andThen outcome proceed) := by
  obtain ⟨error, failed, cause⟩ := deep
  obtain ⟨result, after⟩ := outcome
  cases failed
  exact ⟨error, rfl, cause⟩

variable {token : Token} {location signs : Nat} {tail : List Char}

/-- As many signs as there are levels are too many, whatever is behind them. -/
theorem tooDeep_nested (long : depth ≤ signs) :
    TooDeep (nested depth threshold
      (onto ⟨source, location, List.replicate signs '-' ++ tail⟩ errors)) := by
  induction depth generalizing threshold signs location with
  | zero => exact ⟨_, rfl, rfl⟩
  | succ depth ih =>
    obtain ⟨signs, rfl⟩ := Nat.exists_eq_succ_of_ne_zero (by omega : signs ≠ 0)
    rw [onto_sign, nested_minus rfl, signedWith_eq, advance_past]
    exact ((ih (by omega)).andThen _).andThen _

theorem tooDeep_resume {climb : Climb (Operator × Nat) Expr} {operator : Operator}
    (long : signRoom depth climb operator < signs) :
    TooDeep (resume depth climb
      (past token ⟨source, location, operator.char :: (List.replicate signs '-' ++ tail)⟩ errors)) := by
  obtain ⟨proceed, operandFirst⟩ := resume_operator climb operator (List.replicate signs '-' ++ tail)
  rw [operandFirst]
  exact (tooDeep_nested long).andThen proceed

/-- A limit that is met behind some operands is met from before them: at each operand the parser goes
on to the next climb or has met the limit already. -/
theorem tooDeep_resume_run {climb : Climb (Operator × Nat) Expr} {items : List (Operator × Operand)}
    (ends : EndsDigits tail)
    (later : ∀ climb token location,
      TooDeep (resume depth climb (past token ⟨source, location, tail⟩ errors))) :
    TooDeep (resume depth climb (past token ⟨source, location, spell items ++ tail⟩ errors)) := by
  induction items generalizing climb token location with
  | nil => exact later climb token location
  | cons item rest ih =>
    obtain ⟨operator, operand⟩ := item
    rw [spell_cons, List.cons_append, List.append_assoc]
    by_cases room : operand.signs ≤ signRoom depth climb operator
    · rw [resume_step climb operator operand (endsDigits_spell rest ends) room]
      exact ih
    · rw [Operand.text, List.append_assoc]
      exact tooDeep_resume (Nat.lt_of_not_le room)

/-- A run of signs as long as the limit is too long behind any opening. -/
theorem tooDeep_opening (opening : Opening) (long : depth + 3 ≤ signs) :
    TooDeep (nested (depth + 3) Precedence.lowest.level
      (onto ⟨source, location, opening.text ++ (List.replicate signs '-' ++ tail)⟩ errors)) := by
  cases opening with
  | empty => exact tooDeep_nested long
  | behind sentence operator =>
    have ended : EndsDigits (operator.char :: (List.replicate signs '-' ++ tail)) :=
      endsDigits_cons operator.isDigit_char _
    simp only [Opening.text, Sentence.text, List.append_assoc, List.singleton_append]
    by_cases room : sentence.first.signs ≤ depth + 2
    · rw [nested_operand sentence.first (endsDigits_spell sentence.rest ended) room]
      change TooDeep (resume depth (Climb.start (sentence.first.treeAt location)) _)
      refine tooDeep_resume_run ended ?_
      intro climb token place
      have few : signRoom depth climb operator ≤ depth + 1 := by
        rw [signRoom]
        split <;> omega
      exact tooDeep_resume (by omega)
    · rw [Operand.text, List.append_assoc]
      exact tooDeep_nested (by omega)

end Parser

/-- What a run of signs ends is an opening and signs, and all of the run but its first sign are
signs. -/
theorem exists_opening_of_beginsSentence {known : List Char} {count : Nat}
    (begins : BeginsSentence (known ++ List.replicate (count + 1) '-')) :
    ∃ (opening : Opening) (signs : Nat), count ≤ signs ∧
      known ++ List.replicate (count + 1) '-' = opening.text ++ List.replicate signs '-' := by
  have through := beginsSentence_iff_run.mp begins
  rw [Phase.run_append] at through
  cases reached : Phase.signs.run known with
  | none =>
    rw [reached] at through
    cases through
  | some phase =>
    cases phase with
    | signs =>
      obtain ⟨opening, signs, rfl⟩ := (Reached.start reached).exists_opening
      refine ⟨opening, signs + (count + 1), by omega, ?_⟩
      rw [List.append_assoc, List.replicate_append_replicate]
    | digits =>
      obtain ⟨sentence, rfl⟩ := (Reached.start reached).exists_sentence
      refine ⟨.behind sentence .minus, count, Nat.le_refl _, ?_⟩
      rw [Opening.text, List.append_assoc]
      rfl

namespace ParseError

def tooDeepMessage : String := "expression is nested too deeply"

private theorem append_ne_tooDeepMessage {start : String} (rest : String)
    (other : ¬ start.toList <+: tooDeepMessage.toList) : start ++ rest ≠ tooDeepMessage := by
  intro same
  apply other
  rw [← same, String.toList_append]
  exact List.prefix_append ..

/-- No other error has the message for meeting the limit. -/
theorem message_ne_tooDeepMessage {error : ParseError} (other : error.cause ≠ .tooDeep) :
    error.message ≠ tooDeepMessage := by
  obtain ⟨cause, token, source⟩ := error
  cases cause with
  | missingExpression =>
    change "expected an expression" ≠ tooDeepMessage
    decide
  | noExpression => exact append_ne_tooDeepMessage _ (by decide)
  | unreadableInteger =>
    rw [message, String.append_assoc]
    exact append_ne_tooDeepMessage _ (by decide)
  | leftover => exact append_ne_tooDeepMessage _ (by decide)
  | tooDeep => contradiction

end ParseError

theorem Parser.Within.whole {outcome : Parser.Outcome} (within : Parser.Within outcome)
    {error : ParseError} (refused : Parser.whole outcome = .error error) : error.cause ≠ .tooDeep := by
  obtain ⟨failure | tree, after⟩ := outcome
  · cases refused
    exact within error rfl
  · rw [Parser.whole] at refused
    split at refused
    · cases refused
    · cases refused
      exact ParseError.Cause.noConfusion

theorem Parser.within_parse {source : String} {parser : Parser} (runs : MinusRunsAtMost 201 source.toList)
    (reachable : Parser.Reachable source parser) : Parser.Within parser.parse := by
  obtain ⟨lexer, errors, inside, rfl⟩ := reachable.exists_onto_suffix
  exact Parser.within_limit (runs.of_suffix inside) _

/-- A run of signs as long as the limit is met as such, whatever surrounds it. -/
theorem tooDeep_parse {source : String} {known rest : List Char} {count : Nat}
    (text : source.toList = known ++ List.replicate (count + 1) '-' ++ rest)
    (begins : BeginsSentence (known ++ List.replicate (count + 1) '-'))
    (long : Parser.nestingLimit ≤ count) : Parser.TooDeep (Parser.ofString source).parse := by
  obtain ⟨opening, signs, enough, split⟩ := exists_opening_of_beginsSentence begins
  rw [Parser.parse_ofString, text, split, List.append_assoc]
  exact Parser.tooDeep_opening opening (Nat.le_trans long enough)

/-- Where no run of signs is longer than 201, no state that a parser can get into lets it meet the
nesting limit. Where a sentence could begin with 5000 signs in a row at its end, the limit is met,
and this is the one error that is recorded and reported, whatever is behind the signs and whatever
was to be divided before them. -/
theorem nesting_limit (source : String) :
    (MinusRunsAtMost 201 source.toList →
      (∀ error, parse source = .error error → error.message ≠ "expression is nested too deeply") ∧
      ∀ parser, Parser.Reachable source parser →
        (∀ error, parser.parse.1 = .error error → error.message ≠ "expression is nested too deeply") ∧
        ∀ error ∈ parser.parse.2.errors, error.message ≠ "expression is nested too deeply") ∧
    ∀ known, BeginsSentence (known ++ List.replicate 5000 '-') →
      known ++ List.replicate 5000 '-' <+: source.toList →
      ∃ error, error.message = "expression is nested too deeply" ∧
        (Parser.ofString source).parse.1 = .error error ∧
        (Parser.ofString source).parse.2.errors = [error] ∧
        parse source = .error error ∧ evaluate source = .error (.parse error) := by
  constructor
  · intro runs
    constructor
    · intro error refused
      exact ParseError.message_ne_tooDeepMessage ((Parser.within_parse runs .start).whole refused)
    · intro parser reachable
      constructor
      · intro error refused
        exact ParseError.message_ne_tooDeepMessage (Parser.within_parse runs reachable error refused)
      · intro error member
        have shallow := (reachable.step .parse).shallow runs
        exact ParseError.message_ne_tooDeepMessage (shallow error member)
  · rintro known begins ⟨rest, text⟩
    obtain ⟨error, failed, cause⟩ := tooDeep_parse text.symm begins (by decide)
    have onward := Parser.onward_nested Parser.nestingLimit Precedence.lowest.level (.ofString source)
    have errors : (Parser.ofString source).parse.2.errors = [error] := by
      rw [Parser.parse, Parser.expression, onward.errors_eq]
      exact congrArg Parser.recorded failed
    have refused : parse source = .error error := by
      rw [parse, ← Prod.eta (Parser.ofString source).parse, failed]
      rfl
    refine ⟨error, ?_, failed, errors, refused, ?_⟩
    · rw [ParseError.message, cause]
    · rw [evaluate_eq_bind, refused]
      rfl

theorem nesting_limit_behind_quotient :
    (MinusRunsAtMost 201 "1+--2*-3/0".toList ∧
      Parser.Reachable "1+--2*-3/0" (Parser.ofString "1+--2*-3/0").advance ∧
      ∀ error ∈ (Parser.ofString "1+--2*-3/0").advance.parse.2.errors,
        error.message ≠ "expression is nested too deeply") ∧
    BeginsSentence (['8', '/', '0', '+'] ++ List.replicate 5000 '-') ∧
      ∃ error, error.message = "expression is nested too deeply" ∧
        evaluate (String.ofList (['8', '/', '0', '+'] ++ List.replicate 5000 '-' ++ ['%'])) =
          .error (.parse error) := by
  have runs : MinusRunsAtMost 201 "1+--2*-3/0".toList := by decide +kernel
  have started : Parser.Reachable "1+--2*-3/0" (Parser.ofString "1+--2*-3/0") := .start
  have reachable := started.step .advance
  have unlimited := (nesting_limit "1+--2*-3/0").1 runs
  refine ⟨⟨runs, reachable, (unlimited.2 _ reachable).2⟩, ?_⟩
  have starts (count : Nat) : BeginsSentence (['8', '/', '0', '+'] ++ List.replicate count '-') := by
    let sentence : Sentence :=
      ⟨⟨0, ['8'], by decide, by decide⟩,
        [(.divide, ⟨0, ['0'], by decide, by decide⟩), (.plus, ⟨count, ['1'], by decide, by decide⟩)]⟩
    refine ⟨sentence, ['1'], ?_⟩
    simp [sentence, Sentence.text, Operand.text, spell, Operator.char]
  have inside (count : Nat) : ['8', '/', '0', '+'] ++ List.replicate count '-' <+:
      (String.ofList (['8', '/', '0', '+'] ++ List.replicate count '-' ++ ['%'])).toList := by
    rw [String.toList_ofList]
    exact List.prefix_append ..
  have limited :=
    nesting_limit (String.ofList (['8', '/', '0', '+'] ++ List.replicate 5000 '-' ++ ['%']))
  obtain ⟨error, message, _, _, _, evaluated⟩ :=
    limited.2 ['8', '/', '0', '+'] (starts 5000) (inside 5000)
  exact ⟨starts 5000, error, message, evaluated⟩

end Reckoner
