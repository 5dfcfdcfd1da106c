import Mathlib.Order.Bounds.Basic
import Mathlib.Tactic.SplitIfs
import Reckoner.Proofs.Evaluation.Order

/-! # Seeing divisions by zero in a text

A `/` divides by zero if signs and then a digit run of nothing but zeros come next to it. Whether
it does is seen in the characters alone. A scan from the left collects the places of all such
characters in a text. For the text of a sentence these are the quotients whose right operand is
zero, in the same order (`Sentence.zeroDivisions_eq`), so the first of those quotients is the
leftmost place.
-/

namespace Reckoner

/-- The digit run behind the signs with which a text begins. -/
def leadingDigits (text : List Char) : List Char :=
  (text.dropWhile (· = '-')).takeWhile Decimal.isDigit

/-- The text begins with signs and a whole digit run that has only zeros. -/
def BeginsZero (text : List Char) : Prop :=
  leadingDigits text ≠ [] ∧ (leadingDigits text).all (· = '0') = true

instance (text : List Char) : Decidable (BeginsZero text) :=
  inferInstanceAs (Decidable (_ ∧ _))

/-- The character at this place is a `/`, and a zero comes next to it. -/
def DividesByZeroAt (text : List Char) (index : Nat) : Prop :=
  text[index]? = some '/' ∧ BeginsZero (text.drop (index + 1))

instance (text : List Char) (index : Nat) : Decidable (DividesByZeroAt text index) :=
  inferInstanceAs (Decidable (_ ∧ _))

theorem dividesByZeroAt_zero {c : Char} {rest : List Char} :
    DividesByZeroAt (c :: rest) 0 ↔ c = '/' ∧ BeginsZero rest := by
  simp [DividesByZeroAt]

theorem dividesByZeroAt_succ {c : Char} {rest : List Char} {index : Nat} :
    DividesByZeroAt (c :: rest) (index + 1) ↔ DividesByZeroAt rest index := by
  simp [DividesByZeroAt]

/-- The places where a text that starts at a location divides by zero, from left to right. -/
def zeroDivisionsIn (location : Nat) : List Char → List Nat
  | [] => []
  | c :: rest =>
    if c = '/' ∧ BeginsZero rest then location :: zeroDivisionsIn (location + 1) rest
    else zeroDivisionsIn (location + 1) rest

section Scan

variable {location index : Nat} {text : List Char}

theorem le_of_mem_zeroDivisionsIn (member : index ∈ zeroDivisionsIn location text) :
    location ≤ index := by
  induction text generalizing location with
  | nil => cases member
  | cons c rest ih =>
    rw [zeroDivisionsIn] at member
    split_ifs at member with here
    · rcases List.mem_cons.mp member with rfl | member
      · exact Nat.le_refl _
      · exact Nat.le_of_succ_le (ih member)
    · exact Nat.le_of_succ_le (ih member)

theorem pairwise_zeroDivisionsIn (location : Nat) (text : List Char) :
    (zeroDivisionsIn location text).Pairwise (· < ·) := by
  induction text generalizing location with
  | nil => exact .nil
  | cons c rest ih =>
    rw [zeroDivisionsIn]
    split_ifs
    · refine .cons ?_ (ih (location + 1))
      intro later member
      exact le_of_mem_zeroDivisionsIn member
    · exact ih (location + 1)

/-- The scan finds exactly the places where the text divides by zero. -/
theorem add_mem_zeroDivisionsIn (location : Nat) (text : List Char) (offset : Nat) :
    location + offset ∈ zeroDivisionsIn location text ↔ DividesByZeroAt text offset := by
  induction text generalizing location offset with
  | nil => simp [zeroDivisionsIn, DividesByZeroAt]
  | cons c rest ih =>
    cases offset with
    | zero =>
      have before : location ∉ zeroDivisionsIn (location + 1) rest := by
        intro member
        exact absurd (le_of_mem_zeroDivisionsIn member) (Nat.not_succ_le_self location)
      rw [dividesByZeroAt_zero, zeroDivisionsIn, Nat.add_zero]
      split_ifs with here
      · exact iff_of_true (List.mem_cons_self ..) here
      · exact iff_of_false before here
    | succ offset =>
      have after : location + (offset + 1) ∈ zeroDivisionsIn (location + 1) rest ↔
          DividesByZeroAt rest offset := by
        rw [← ih (location + 1) offset]
        congr! 1
        omega
      have other : location + (offset + 1) ≠ location := by omega
      rw [dividesByZeroAt_succ, ← after, zeroDivisionsIn]
      split_ifs
      · rw [List.mem_cons, or_iff_right other]
      · rfl

theorem mem_zeroDivisionsIn_zero : index ∈ zeroDivisionsIn 0 text ↔ DividesByZeroAt text index := by
  rw [← add_mem_zeroDivisionsIn 0 text index, Nat.zero_add]

/-- The scan begins with the leftmost place. -/
theorem isLeast_of_head? (first : (zeroDivisionsIn 0 text).head? = some index) :
    IsLeast {place | DividesByZeroAt text place} index := by
  obtain ⟨later, found⟩ := List.head?_eq_some_iff.mp first
  have sorted := pairwise_zeroDivisionsIn 0 text
  rw [found, List.pairwise_cons] at sorted
  constructor
  · rw [Set.mem_ofPred_eq, ← mem_zeroDivisionsIn_zero, found]
    exact List.mem_cons_self ..
  · intro place divides
    rw [Set.mem_ofPred_eq, ← mem_zeroDivisionsIn_zero, found] at divides
    rcases List.mem_cons.mp divides with rfl | member
    · exact Nat.le_refl _
    · exact Nat.le_of_lt (sorted.1 place member)

/-- A part of the text without `/` is passed. -/
theorem zeroDivisionsIn_append (location : Nat) {part : List Char} (rest : List Char)
    (noQuotient : ∀ c ∈ part, c ≠ '/') :
    zeroDivisionsIn location (part ++ rest) = zeroDivisionsIn (location + part.length) rest := by
  induction part generalizing location with
  | nil => rfl
  | cons c part ih =>
    have other : ¬ (c = '/' ∧ BeginsZero (part ++ rest)) := by
      rintro ⟨quotient, _⟩
      exact noQuotient c (List.mem_cons_self ..) quotient
    rw [List.cons_append, zeroDivisionsIn, if_neg other,
      ih _ fun d member => noQuotient d (List.mem_cons_of_mem _ member), List.length_cons]
    congr 1
    omega

end Scan

/-- A digit run has the value zero only if all its digits are zeros. -/
theorem Decimal.ofDigitChars_eq_zero_iff {digits : List Char}
    (decimal : ∀ c ∈ digits, isDigit c = true) (start : Nat) :
    Nat.ofDigitChars 10 digits start = 0 ↔ start = 0 ∧ ∀ c ∈ digits, c = '0' := by
  induction digits generalizing start with
  | nil => simp
  | cons c rest ih =>
    have atLeast : '0'.toNat ≤ c.toNat := by
      have digit := decimal c (List.mem_cons_self ..)
      simp only [isDigit, Char.isDigit, Bool.and_eq_true, decide_eq_true_eq] at digit
      exact UInt32.le_iff_toNat_le.mp digit.1
    have zero : c = '0' ↔ c.toNat = '0'.toNat := Char.toNat_inj.symm
    rw [Nat.ofDigitChars_cons, ih fun d member => decimal d (List.mem_cons_of_mem _ member),
      List.forall_mem_cons, zero, ← and_assoc]
    refine and_congr_left' ?_
    omega

namespace Operand

variable (operand : Operand)

theorem value_eq_zero_iff : operand.value = 0 ↔ ∀ c ∈ operand.digits, c = '0' := by
  have sign : (-1 : Int) ^ operand.signs ≠ 0 := Int.pow_ne_zero (by decide)
  rw [value, Int.mul_eq_zero, or_iff_right sign, Int.natCast_eq_zero, magnitude,
    Decimal.ofDigitChars_eq_zero_iff fun _ => operand.isDigit_of_mem]
  exact and_iff_right rfl

theorem leadingDigits_text {tail : List Char} (ends : EndsDigits tail) :
    leadingDigits (operand.text ++ tail) = operand.digits := by
  have signs : (operand.text ++ tail).dropWhile (· = '-') = operand.digits ++ tail := by
    rw [text, List.append_assoc, List.dropWhile_append_of_pos (by simp)]
    cases digits : operand.digits with
    | nil => exact absurd digits operand.nonempty
    | cons c rest =>
      have digit : Decimal.isDigit c = true := operand.isDigit_of_mem (by simp [digits])
      have notMinus : c ≠ '-' := Decimal.ne_of_isDigit digit rfl
      simp [notMinus]
  rw [leadingDigits, signs, Decimal.takeWhile_digits operand.decimal ends]

theorem beginsZero_text {tail : List Char} (ends : EndsDigits tail) :
    BeginsZero (operand.text ++ tail) ↔ operand.value = 0 := by
  rw [BeginsZero, operand.leadingDigits_text ends, operand.value_eq_zero_iff,
    and_iff_right operand.nonempty, List.all_eq_true]
  simp only [decide_eq_true_eq]

theorem ne_slash_of_mem_text {c : Char} (member : c ∈ operand.text) : c ≠ '/' := by
  rcases List.mem_append.mp member with sign | digit
  · rw [List.eq_of_mem_replicate sign]
    decide
  · exact Decimal.ne_of_isDigit (operand.isDigit_of_mem digit) rfl

end Operand

/-- The quotients of zero operands are seen in the text. -/
theorem zeroDivisionsIn_spell (location : Nat) (items : List (Operator × Operand)) :
    zeroDivisionsIn location (spell items) = zeroDivisions location items := by
  induction items generalizing location with
  | nil => rfl
  | cons item rest ih =>
    obtain ⟨operator, operand⟩ := item
    have slash : operator.char = '/' ↔ operator = .divide := by cases operator <;> decide
    have ends : EndsDigits (spell rest) := by
      simpa using endsDigits_spell rest endsDigits_nil
    simp only [spell_cons, zeroDivisionsIn, zeroDivisions_cons, slash, operand.beginsZero_text ends,
      zeroDivisionsIn_append _ _ fun _ => operand.ne_slash_of_mem_text, ih]

theorem Sentence.zeroDivisions_eq (sentence : Sentence) :
    sentence.zeroDivisions = zeroDivisionsIn 0 sentence.text := by
  rw [zeroDivisions, text, zeroDivisionsIn_append _ _ fun _ => sentence.first.ne_slash_of_mem_text,
    zeroDivisionsIn_spell, Nat.zero_add]

end Reckoner
