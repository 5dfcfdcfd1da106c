import Mathlib.Algebra.Group.Int.Defs
import Mathlib.Logic.Function.Iterate
import Reckoner.Decimal
import Reckoner.Expr.Basic
import Reckoner.Precedence
import Reckoner.Proofs.Grammar.Series

/-! # Sentences of the grammar

A sentence is an operand followed by further operands behind operators, where an operand is a digit
run after any number of minus signs. Nothing here reads a text: a sentence is data, with the text
that spells it, the tree that it means and the value that it has. Products are folded before sums,
and both from the left.
-/

namespace Reckoner

inductive Operator where
  | plus
  | minus
  | times
  | divide
deriving DecidableEq, Repr

namespace Operator

def char : Operator → Char
  | plus => '+'
  | minus => '-'
  | times => '*'
  | divide => '/'

def ofChar? : Char → Option Operator
  | '+' => some plus
  | '-' => some minus
  | '*' => some times
  | '/' => some divide
  | _ => none

def text (operator : Operator) : String := String.singleton operator.char

/-- Products bind tighter than sums. -/
def isTight : Operator → Bool
  | plus | minus => false
  | times | divide => true

def kind : Operator → Token.Kind
  | plus => .plus
  | minus => .minus
  | times => .asterisk
  | divide => .slash

/-- The operator applied to two values; a quotient is rounded down. -/
def apply : Operator → Int → Int → Int
  | plus, left, right => left + right
  | minus, left, right => left - right
  | times, left, right => left * right
  | divide, left, right => left.fdiv right

def token (operator : Operator) (location : Nat) : Token := ⟨operator.kind, operator.text, location⟩

theorem ofChar?_eq_some_iff {c : Char} {operator : Operator} :
    ofChar? c = some operator ↔ c = operator.char := by
  constructor
  · intro found
    unfold ofChar? at found
    split at found <;> cases found <;> rfl
  · rintro rfl
    cases operator <;> rfl

theorem text_injective : Function.Injective text := by
  intro first second same
  cases first <;> cases second <;> first | rfl | (revert same; decide)

@[simp] theorem isInfix_kind (operator : Operator) : operator.kind.isInfix = true := by
  cases operator <;> rfl

@[simp] theorem isDigit_char (operator : Operator) : Decimal.isDigit operator.char = false := by
  cases operator <;> rfl

@[simp] theorem ofChar_char (operator : Operator) : Token.Kind.ofChar operator.char = operator.kind := by
  cases operator <;> rfl

end Operator

/-- A digit run behind minus signs. -/
structure Operand where
  signs : Nat
  digits : List Char
  nonempty : digits ≠ []
  decimal : digits.all Decimal.isDigit = true
deriving DecidableEq, Repr

namespace Operand

theorem isDigit_of_mem (operand : Operand) {c : Char} (member : c ∈ operand.digits) :
    Decimal.isDigit c = true :=
  List.all_eq_true.mp operand.decimal c member

def text (operand : Operand) : List Char := List.replicate operand.signs '-' ++ operand.digits

def magnitude (operand : Operand) : Nat := Nat.ofDigitChars 10 operand.digits 0

def value (operand : Operand) : Int := (-1) ^ operand.signs * operand.magnitude

/-- One negation for each sign, around the number. -/
def tree (operand : Operand) : Expr :=
  (fun inner => .unary "-" inner none)^[operand.signs] (.integer operand.magnitude none)

/-- The negations of signs that start at a location, each with its token. -/
def negateAt : Nat → Nat → Expr → Expr
  | 0, _, inner => inner
  | signs + 1, location, inner =>
    .unary "-" (negateAt signs (location + 1) inner) (some ⟨.minus, "-", location⟩)

/-- The token of the digits of an operand that starts at a location. -/
def token (operand : Operand) (location : Nat) : Token :=
  ⟨.int, String.ofList operand.digits, (location + operand.signs : Nat)⟩

/-- The tree with the tokens it is read from. -/
def treeAt (operand : Operand) (location : Nat) : Expr :=
  negateAt operand.signs location (.integer operand.magnitude (some (operand.token location)))

theorem bare_negateAt (signs location : Nat) (inner : Expr) :
    (negateAt signs location inner).bare =
      (fun inner => .unary "-" inner none)^[signs] inner.bare := by
  induction signs generalizing location with
  | zero => rfl
  | succ signs ih => rw [negateAt, Expr.bare, ih, Function.iterate_succ_apply']

theorem bare_treeAt (operand : Operand) (location : Nat) :
    (operand.treeAt location).bare = operand.tree :=
  bare_negateAt ..

end Operand

/-- A digit run before this text does not go on in it. -/
def EndsDigits (text : List Char) : Prop := ∀ c ∈ text.head?, Decimal.isDigit c = false

theorem endsDigits_nil : EndsDigits [] := by
  intro c member
  cases member

theorem endsDigits_cons {c : Char} (notDigit : Decimal.isDigit c = false) (rest : List Char) :
    EndsDigits (c :: rest) := by
  intro d member
  obtain rfl := Option.some.inj member
  exact notDigit

namespace Decimal

variable {digits tail : List Char}

theorem ne_of_isDigit {c d : Char} (digit : isDigit c = true) (other : isDigit d = false) : c ≠ d := by
  rintro rfl
  rw [digit] at other
  cases other

theorem takeWhile_digits (decimal : digits.all isDigit = true) (ends : EndsDigits tail) :
    (digits ++ tail).takeWhile isDigit = digits := by
  rw [List.takeWhile_append_of_pos (List.all_eq_true.mp decimal)]
  cases tail with
  | nil => simp
  | cons c rest => simp [ends c rfl]

theorem dropWhile_digits (decimal : digits.all isDigit = true) (ends : EndsDigits tail) :
    (digits ++ tail).dropWhile isDigit = tail := by
  rw [List.dropWhile_append_of_pos (List.all_eq_true.mp decimal)]
  cases tail with
  | nil => rfl
  | cons c rest => simp [ends c rfl]

end Decimal

/-- The text of operands behind operators. -/
def spell (items : List (Operator × Operand)) : List Char :=
  items.flatMap fun item => item.1.char :: item.2.text

@[simp] theorem spell_nil : spell [] = [] := rfl

@[simp] theorem spell_cons (operator : Operator) (operand : Operand)
    (rest : List (Operator × Operand)) :
    spell ((operator, operand) :: rest) = operator.char :: (operand.text ++ spell rest) := rfl

theorem endsDigits_spell (items : List (Operator × Operand)) {tail : List Char}
    (ends : EndsDigits tail) : EndsDigits (spell items ++ tail) := by
  cases items with
  | nil => exact ends
  | cons item rest => exact endsDigits_cons item.1.isDigit_char _

/-- The same operators and operands, each with the location where it starts. -/
def locate (location : Nat) :
    List (Operator × Operand) → List ((Operator × Nat) × (Operand × Nat))
  | [] => []
  | (operator, operand) :: rest =>
    ((operator, location), (operand, location + 1)) ::
      locate (location + 1 + operand.text.length) rest

theorem map_fst_locate (location : Nat) (items : List (Operator × Operand)) :
    (locate location items).map (Prod.map Prod.fst Prod.fst) = items := by
  induction items generalizing location with
  | nil => rfl
  | cons item rest ih => simp [locate, ih]

/-- The operators with their locations, each with the tree of its right operand. -/
def treesAt (location : Nat) (items : List (Operator × Operand)) : List ((Operator × Nat) × Expr) :=
  (locate location items).map (Prod.map id fun operand => operand.1.treeAt operand.2)

theorem treesAt_cons (location : Nat) (operator : Operator) (operand : Operand)
    (rest : List (Operator × Operand)) :
    treesAt location ((operator, operand) :: rest) =
      ((operator, location), operand.treeAt (location + 1)) ::
        treesAt (location + 1 + operand.text.length) rest := rfl

abbrev Sentence := Series Operator Operand

namespace Sentence

def text (sentence : Sentence) : List Char := sentence.first.text ++ spell sentence.rest

def source (sentence : Sentence) : String := String.ofList sentence.text

def operands (sentence : Sentence) : List Operand := sentence.first :: sentence.rest.map Prod.snd

/-- The tree of a sentence: products of operands from the left, then sums of products from the
left. -/
def tree (sentence : Sentence) : Expr :=
  (sentence.map id Operand.tree).foldGroups Operator.isTight
    fun operator left right => .binary left operator.text right none

/-- The value of a sentence, in the same order and without a tree. -/
def value (sentence : Sentence) : Int :=
  (sentence.map id Operand.value).foldGroups Operator.isTight Operator.apply

/-- The operators and operands of a sentence that starts at a location, each with its own. -/
def located (sentence : Sentence) (location : Nat) : Series (Operator × Nat) (Operand × Nat) :=
  ⟨(sentence.first, location), locate (location + sentence.first.text.length) sentence.rest⟩

/-- Forgetting the locations gives the sentence back. -/
theorem map_located {α : Type} (leaf : Operand → α) (sentence : Sentence) (location : Nat) :
    (sentence.located location).map Prod.fst (leaf ∘ Prod.fst) = sentence.map id leaf := by
  have forgotten : (sentence.located location).map Prod.fst Prod.fst = sentence := by
    simp only [located, Series.map, map_fst_locate]
  conv =>
    rhs
    rw [← forgotten]
  rw [Series.map_map]
  rfl

end Sentence

/-- Joins two trees by an operator with its token. -/
def joinAt (operator : Operator × Nat) (left right : Expr) : Expr :=
  .binary left operator.1.text right (some (operator.1.token operator.2))

def isTightAt (operator : Operator × Nat) : Bool := operator.1.isTight

namespace Sentence

/-- The tree with the tokens it is read from. -/
def treeAt (sentence : Sentence) (location : Nat) : Expr :=
  ((sentence.located location).map id fun operand => operand.1.treeAt operand.2).foldGroups
    isTightAt joinAt

theorem bare_treeAt (sentence : Sentence) (location : Nat) :
    (sentence.treeAt location).bare = sentence.tree := by
  have erased : ((sentence.located location).map id fun operand => operand.1.treeAt operand.2).map
      Prod.fst Expr.bare = sentence.map id Operand.tree := by
    rw [← map_located Operand.tree sentence location, Series.map_map]
    congr 1
    funext operand
    exact Operand.bare_treeAt ..
  rw [tree, ← erased]
  refine Eq.symm (Series.foldGroups_map ?_ ?_ _)
  · intro operator
    rfl
  · intro operator left right
    rfl

/-- The climb that ends at the tree of the sentence. -/
def climbAt (sentence : Sentence) (location : Nat) : Climb (Operator × Nat) Expr :=
  (Climb.start (sentence.first.treeAt location)).run isTightAt joinAt
    (treesAt (location + sentence.first.text.length) sentence.rest)

theorem close_climbAt (sentence : Sentence) (location : Nat) :
    (sentence.climbAt location).close joinAt = sentence.treeAt location := by
  rw [treeAt, ← Climb.close_climb]
  rfl

end Sentence

/-- A text that is spelled by a sentence. -/
def IsSentence (text : List Char) : Prop := ∃ sentence : Sentence, sentence.text = text

/-- A text with which some sentence begins. -/
def BeginsSentence (text : List Char) : Prop := ∃ sentence : Sentence, text <+: sentence.text

/-- No run of minus signs in the text is longer than `bound`. -/
def MinusRunsAtMost (bound : Nat) (text : List Char) : Prop :=
  ¬ List.replicate (bound + 1) '-' <:+: text

instance (bound : Nat) (text : List Char) : Decidable (MinusRunsAtMost bound text) :=
  inferInstanceAs (Decidable (¬ _))

namespace MinusRunsAtMost

variable {bound count : Nat} {text : List Char}

theorem count_le (runs : MinusRunsAtMost bound text) (inside : List.replicate count '-' <:+: text) :
    count ≤ bound := by
  by_contra long
  apply runs
  refine List.IsInfix.trans ?_ inside
  have split : List.replicate count '-' =
      List.replicate (bound + 1) '-' ++ List.replicate (count - (bound + 1)) '-' := by
    rw [List.replicate_append_replicate]
    congr 1
    omega
  rw [split]
  exact (List.prefix_append ..).isInfix

theorem signs_le {operand : Operand} (runs : MinusRunsAtMost bound text)
    (inside : operand.text <:+: text) : operand.signs ≤ bound := by
  apply runs.count_le
  exact (List.prefix_append ..).isInfix.trans inside

end MinusRunsAtMost

theorem Sentence.operand_infix {sentence : Sentence} {operand : Operand}
    (member : operand ∈ sentence.operands) : operand.text <:+: sentence.text := by
  rcases List.mem_cons.mp member with rfl | member
  · exact (List.prefix_append ..).isInfix
  · obtain ⟨item, present, rfl⟩ := List.mem_map.mp member
    obtain ⟨before, after, split⟩ := List.append_of_mem present
    refine ⟨sentence.first.text ++ spell before ++ [item.1.char], spell after, ?_⟩
    rw [Sentence.text, split]
    simp [spell]

end Reckoner
