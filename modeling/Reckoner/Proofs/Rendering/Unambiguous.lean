import Reckoner.Expr.Render
import Reckoner.Proofs.Decimal.Canonical
import Reckoner.Proofs.Grammar.Sentence

/-! # The written form tells the tree

A minus sign is written for a negative integer, for a negation and for a difference, but one text is
never two of them. A difference has its sign between blanks. A sign right behind an opening parenthesis
belongs to a negation if a closing one follows its operand, and to a negative left operand if a blank
follows the digits (`Begins.not_left`). So a text begins with one tree only, whatever is behind it, as
long as that does not go on with digits (`Begins.unique`).
-/

namespace Reckoner

namespace Decimal

variable {digits other tail rest : List Char}

/-- Digit runs before texts that end them. -/
theorem digits_append_inj (decimal : digits.all isDigit = true) (decimalOther : other.all isDigit = true)
    (ends : EndsDigits tail) (endsRest : EndsDigits rest) (same : digits ++ tail = other ++ rest) :
    digits = other ∧ tail = rest := by
  constructor
  · rw [← takeWhile_digits decimal ends, same, takeWhile_digits decimalOther endsRest]
  · rw [← dropWhile_digits decimal ends, same, dropWhile_digits decimalOther endsRest]

theorem writeBlocks_injective : Function.Injective writeBlocks := by
  intro first second same
  rw [← ofDigitChars_writeBlocks first, same, ofDigitChars_writeBlocks]

theorem writeBlocks_append_ne_cons (number : Nat) {c : Char} (notDigit : isDigit c = false) :
    writeBlocks number ++ tail ≠ c :: rest := by
  intro same
  obtain ⟨digit, digits, cons⟩ := List.exists_cons_of_ne_nil (writeBlocks_ne_nil number)
  have decimal : isDigit digit = true :=
    List.all_eq_true.mp (all_isDigit_writeBlocks number) digit (by simp [cons])
  rw [cons, List.cons_append] at same
  exact ne_of_isDigit decimal notDigit (List.cons.inj same).1

theorem write_append_ne_parenthesis (number : Int) : (write number).toList ++ tail ≠ '(' :: rest := by
  rw [toList_write]
  split_ifs
  · intro same
    exact absurd (List.cons.inj same).1 (by decide)
  · exact writeBlocks_append_ne_cons _ rfl

/-- Numerals before texts that end them. -/
theorem write_append_inj {first second : Int} (ends : EndsDigits tail) (endsRest : EndsDigits rest)
    (same : (write first).toList ++ tail = (write second).toList ++ rest) :
    first = second ∧ tail = rest := by
  have magnitudes (same : writeBlocks first.natAbs ++ tail = writeBlocks second.natAbs ++ rest) :
      first.natAbs = second.natAbs ∧ tail = rest := by
    obtain ⟨digits, behind⟩ :=
      digits_append_inj (all_isDigit_writeBlocks _) (all_isDigit_writeBlocks _) ends endsRest same
    exact ⟨writeBlocks_injective digits, behind⟩
  rw [toList_write, toList_write] at same
  split_ifs at same with negative negativeOther negativeOther
  · obtain ⟨magnitude, behind⟩ := magnitudes (List.cons.inj same).2
    exact ⟨by omega, behind⟩
  · exact absurd same.symm (writeBlocks_append_ne_cons _ rfl)
  · exact absurd same (writeBlocks_append_ne_cons _ rfl)
  · obtain ⟨magnitude, behind⟩ := magnitudes same
    exact ⟨by omega, behind⟩

end Decimal

namespace Expr

/-- Nothing is missing, and each sign and operator is one of the characters that a lexer knows. -/
def IsPlain : Expr → Prop
  | integer _ _ => True
  | unary operator operand _ => operator ∈ ["+", "-", "*", "/", "%"] ∧ operand.IsPlain
  | binary left operator right _ =>
    operator ∈ ["+", "-", "*", "/", "%"] ∧ left.IsPlain ∧ right.IsPlain
  | hole => False

/-- The text begins with the written form of a plain tree, and the tail is left behind it. -/
inductive Begins : List Char → Expr → List Char → Prop
  | integer {value : Int} {token : Option Token} {text tail : List Char}
      (spelled : text = (Decimal.write value).toList ++ tail) :
      Begins text (.integer value token) tail
  | unary {sign : Char} {operand : Expr} {token : Option Token} {text tail : List Char}
      (known : sign ∈ ['+', '-', '*', '/', '%']) (inner : Begins text operand (')' :: tail)) :
      Begins ('(' :: sign :: text) (.unary (String.singleton sign) operand token) tail
  | binary {left right : Expr} {sign : Char} {token : Option Token} {text between tail : List Char}
      (known : sign ∈ ['+', '-', '*', '/', '%'])
      (first : Begins text left (' ' :: sign :: ' ' :: between))
      (second : Begins between right (')' :: tail)) :
      Begins ('(' :: text) (.binary left (String.singleton sign) right token) tail

variable {tree first second : Expr} {text tail rest : List Char}

theorem exists_sign {operator : String} (known : operator ∈ ["+", "-", "*", "/", "%"]) :
    ∃ sign ∈ ['+', '-', '*', '/', '%'], operator = String.singleton sign := by
  simp only [List.mem_cons, List.not_mem_nil, or_false] at known
  rcases known with rfl | rfl | rfl | rfl | rfl
  · exact ⟨'+', by decide, rfl⟩
  · exact ⟨'-', by decide, rfl⟩
  · exact ⟨'*', by decide, rfl⟩
  · exact ⟨'/', by decide, rfl⟩
  · exact ⟨'%', by decide, rfl⟩

theorem IsPlain.exists_begins (plain : tree.IsPlain) :
    ∃ written, tree.render = .ok written ∧ ∀ tail, Begins (written.toList ++ tail) tree tail := by
  induction tree with
  | integer value token => exact ⟨_, render_integer value, fun tail => .integer rfl⟩
  | unary operator operand token ih =>
    obtain ⟨sign, known, rfl⟩ := exists_sign plain.1
    obtain ⟨inner, rendered, begins⟩ := ih plain.2
    refine ⟨_, by rw [render_unary, rendered, Except.map], ?_⟩
    intro tail
    simpa using Begins.unary known (begins (')' :: tail))
  | binary left operator right token ihLeft ihRight =>
    obtain ⟨sign, known, rfl⟩ := exists_sign plain.1
    obtain ⟨a, renderedLeft, beginsLeft⟩ := ihLeft plain.2.1
    obtain ⟨b, renderedRight, beginsRight⟩ := ihRight plain.2.2
    refine ⟨_, by rw [render_binary, renderedLeft, renderedRight, Except.bind, Except.map], ?_⟩
    intro tail
    simpa using Begins.binary known (beginsLeft _) (beginsRight (')' :: tail))
  | hole => exact plain.elim

/-- What ends at a parenthesis does not end at a blank, even if it is a numeral. -/
theorem Begins.ne_digits (operand : Begins text first (')' :: tail)) (number : Nat) :
    text ≠ Decimal.writeBlocks number ++ ' ' :: rest := by
  intro digits
  cases operand with
  | unary | binary => exact Decimal.writeBlocks_append_ne_cons number rfl digits.symm
  | integer spelled =>
    have magnitude := Decimal.toList_write_of_nonneg (Int.natCast_nonneg number)
    rw [Int.natAbs_natCast] at magnitude
    rw [spelled, ← magnitude] at digits
    obtain ⟨_, ends⟩ := Decimal.write_append_inj (endsDigits_cons rfl _) (endsDigits_cons rfl _) digits
    exact absurd (List.cons.inj ends).1 (by decide)

/-- A sign with the operand that it negates is never read as a negative left operand. -/
theorem Begins.not_left {sign : Char} (known : sign ∈ ['+', '-', '*', '/', '%'])
    (operand : Begins text first (')' :: tail)) : ¬ Begins (sign :: text) second (' ' :: rest) := by
  obtain ⟨notDigit, notParenthesis⟩ : Decimal.isDigit sign = false ∧ sign ≠ '(' := by
    simp only [List.mem_cons, List.not_mem_nil, or_false] at known
    rcases known with rfl | rfl | rfl | rfl | rfl <;> decide
  intro left
  cases left with
  | unary | binary => exact notParenthesis rfl
  | integer spelled =>
    rw [Decimal.toList_write] at spelled
    split_ifs at spelled
    · exact operand.ne_digits _ (List.cons.inj spelled).2
    · exact Decimal.writeBlocks_append_ne_cons _ notDigit spelled.symm

/-- A text begins with one tree only. What may be left behind it is where digits have ended, as they
do before the blanks and parentheses inside a tree. -/
theorem Begins.unique (begins : Begins text first tail) (other : Begins text second rest)
    (ends : EndsDigits tail) (endsRest : EndsDigits rest) : first.bare = second.bare ∧ tail = rest := by
  induction begins generalizing second rest with
  | integer spelled =>
    cases other with
    | integer spelledOther =>
      obtain ⟨rfl, behind⟩ := Decimal.write_append_inj ends endsRest (spelled.symm.trans spelledOther)
      exact ⟨rfl, behind⟩
    | unary | binary => exact absurd spelled.symm (Decimal.write_append_ne_parenthesis _)
  | unary known inner ih =>
    cases other with
    | integer spelled => exact absurd spelled.symm (Decimal.write_append_ne_parenthesis _)
    | unary knownOther innerOther =>
      obtain ⟨sameOperand, behind⟩ := ih innerOther (endsDigits_cons rfl _) (endsDigits_cons rfl _)
      rw [bare, bare, sameOperand]
      exact ⟨rfl, (List.cons.inj behind).2⟩
    | binary knownOther left right => exact absurd left (not_left known inner)
  | binary known left right ihLeft ihRight =>
    cases other with
    | integer spelled => exact absurd spelled.symm (Decimal.write_append_ne_parenthesis _)
    | unary knownOther innerOther => exact absurd left (not_left knownOther innerOther)
    | binary knownOther leftOther rightOther =>
      obtain ⟨sameLeft, operators⟩ := ihLeft leftOther (endsDigits_cons rfl _) (endsDigits_cons rfl _)
      simp only [List.cons.injEq, true_and] at operators
      obtain ⟨rfl, rfl⟩ := operators
      obtain ⟨sameRight, behind⟩ := ihRight rightOther (endsDigits_cons rfl _) (endsDigits_cons rfl _)
      rw [bare, bare, sameLeft, sameRight]
      exact ⟨rfl, (List.cons.inj behind).2⟩

end Expr

/-- Two plain trees can be written, and their texts are the same exactly if the trees are. -/
theorem render_unambiguous {first second : Expr} (plainFirst : first.IsPlain)
    (plainSecond : second.IsPlain) :
    ∃ a b, first.render = .ok a ∧ second.render = .ok b ∧ (a = b ↔ first.sameTree second = true) := by
  obtain ⟨a, renderedFirst, begins⟩ := plainFirst.exists_begins
  obtain ⟨b, renderedSecond, beginsOther⟩ := plainSecond.exists_begins
  refine ⟨a, b, renderedFirst, renderedSecond, ?_⟩
  constructor
  · rintro rfl
    exact decide_eq_true ((begins []).unique (beginsOther []) endsDigits_nil endsDigits_nil).1
  · intro same
    have rendered : first.render = second.render := by
      rw [← first.render_bare, ← second.render_bare, of_decide_eq_true same]
    rw [renderedFirst, renderedSecond] at rendered
    exact Except.ok.inj rendered

/-- A negative left operand, the negation of a left operand and the negation of a difference. -/
theorem render_unambiguous_minus :
    let negative : Expr := .binary (.integer (-1) (some ⟨.int, "1", 1⟩)) "-" (.integer 2 none) none
    let inner : Expr := .binary (.unary "-" (.integer 1 none) none) "-" (.integer 2 none) none
    let outer : Expr := .unary "-" (.binary (.integer 1 none) "-" (.integer 2 none) none) none
    ∃ a b c, negative.render = .ok a ∧ inner.render = .ok b ∧ outer.render = .ok c ∧ a ≠ b ∧ a ≠ c ∧
      negative.bare.render = .ok a := by
  intro negative inner outer
  have plainNegative : negative.IsPlain := ⟨by decide, trivial, trivial⟩
  have plainInner : inner.IsPlain := ⟨by decide, ⟨by decide, trivial⟩, trivial⟩
  have plainOuter : outer.IsPlain := ⟨by decide, by decide, trivial, trivial⟩
  obtain ⟨a, b, textNegative, textInner, toldInner⟩ := render_unambiguous plainNegative plainInner
  obtain ⟨_, c, again, textOuter, toldOuter⟩ := render_unambiguous plainNegative plainOuter
  obtain rfl := Except.ok.inj (textNegative.symm.trans again)
  refine ⟨a, b, c, textNegative, textInner, textOuter, ?_, ?_, ?_⟩
  · rw [Ne, toldInner]
    decide
  · rw [Ne, toldOuter]
    decide
  · rw [Expr.render_bare, textNegative]

end Reckoner
