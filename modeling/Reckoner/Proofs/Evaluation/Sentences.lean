import Reckoner.Calculator
import Reckoner.Proofs.Evaluation.ZeroDivision
import Reckoner.Proofs.Parser.Recognition

/-! # The value of a sentence

From source to value in one step: a sentence in which nothing is divided by zero has the value
that its operands and operators give, and any other sentence fails for its leftmost division by
zero and for nothing else.
-/

namespace Reckoner

/-- The quotient of `a` by `b`, rounded down: `a` exceeds `b * q` by less than `b`, in the direction
of `b`. -/
def IsFloorQuotient (a b q : Int) : Prop :=
  (0 < b → b * q ≤ a ∧ a < b * q + b) ∧ (b < 0 → a ≤ b * q ∧ b * q + b < a)

theorem isFloorQuotient_neg {a b q : Int} : IsFloorQuotient (-a) (-b) q ↔ IsFloorQuotient a b q := by
  simp only [IsFloorQuotient, Int.neg_mul]
  omega

theorem isFloorQuotient_of_pos {a b q : Int} (positive : 0 < b) :
    IsFloorQuotient a b q ↔ b * q ≤ a ∧ a < b * q + b := by
  simp only [IsFloorQuotient]
  omega

theorem fdiv_eq_iff_of_pos {a b q : Int} (positive : 0 < b) :
    a.fdiv b = q ↔ IsFloorQuotient a b q := by
  rw [isFloorQuotient_of_pos positive]
  have divided := Int.mul_fdiv_add_fmod a b
  have notNegative := Int.fmod_nonneg_of_pos a positive
  have lessThan := Int.fmod_lt_of_pos a positive
  constructor
  · rintro rfl
    omega
  · rintro ⟨atMost, above⟩
    -- two multiples of `b` that are both the last one up to `a`
    have upper : a.fdiv b < q + 1 := by
      apply Int.lt_of_mul_lt_mul_left _ positive.le
      rw [Int.mul_add, Int.mul_one]
      omega
    have lower : q < a.fdiv b + 1 := by
      apply Int.lt_of_mul_lt_mul_left _ positive.le
      rw [Int.mul_add, Int.mul_one]
      omega
    omega

/-- Division rounds down, whatever the signs of its operands. -/
theorem Operator.apply_divide_iff {a b q : Int} (nonzero : b ≠ 0) :
    divide.apply a b = q ↔ IsFloorQuotient a b q := by
  rw [apply]
  rcases Int.lt_or_gt_of_ne nonzero with negative | positive
  · rw [← Int.neg_fdiv_neg, ← isFloorQuotient_neg]
    exact fdiv_eq_iff_of_pos (Int.neg_pos_of_neg negative)
  · exact fdiv_eq_iff_of_pos positive

theorem evaluate_of_parse {source : String} {tree : Expr} (accepted : parse source = .ok tree) :
    evaluate source = (tree.reduce (Expr.evaluation (some source))).mapError .eval := by
  rw [evaluate_eq_bind, accepted, ← Expr.run_eq_reduce]
  rfl

namespace Sentence

variable {sentence : Sentence}

theorem evaluate_of_defined (runs : MinusRunsAtMost 201 sentence.text)
    (defined : sentence.zeroDivisions = []) : evaluate sentence.source = .ok sentence.value := by
  rw [evaluate_of_parse (parse_eq_treeAt sentence runs), sentence.reduce_treeAt _ defined]
  rfl

theorem evaluate_of_zero {index : Nat} (runs : MinusRunsAtMost 201 sentence.text)
    (first : sentence.zeroDivisions.head? = some index) :
    evaluate sentence.source =
      .error (.eval (.divisionByZero (some sentence.source) index)) := by
  rw [evaluate_of_parse (parse_eq_treeAt sentence runs), sentence.reduce_treeAt_of_zero _ first]
  rfl

/-- Nothing is divided by zero. -/
def Defined (sentence : Sentence) : Prop := ∀ item ∈ sentence.rest, item.1 = .divide → item.2.value ≠ 0

end Sentence

/-- Exactly the sentences in which nothing is divided by zero have a value. -/
theorem evaluate_eq_ok_iff {source : String} {value : Int} (runs : MinusRunsAtMost 201 source.toList) :
    evaluate source = .ok value ↔
      ∃ sentence : Sentence, sentence.text = source.toList ∧ sentence.Defined ∧ sentence.value = value := by
  have sourceOf {sentence : Sentence} (text : sentence.text = source.toList) : sentence.source = source := by
    rw [Sentence.source, text, String.ofList_toList]
  constructor
  · intro evaluated
    have spelled : IsSentence source.toList := by
      by_contra other
      obtain ⟨error, _, refused, _⟩ := parse_of_not_isSentence runs other
      rw [evaluate_eq_bind, refused] at evaluated
      cases evaluated
    obtain ⟨sentence, text⟩ := spelled
    rw [← text] at runs
    rw [← sourceOf text] at evaluated
    cases first : sentence.zeroDivisions.head? with
    | none =>
      have nowhere := List.head?_eq_none_iff.mp first
      rw [sentence.evaluate_of_defined runs nowhere] at evaluated
      exact ⟨sentence, text, zeroDivisions_eq_nil_iff.mp nowhere, Except.ok.inj evaluated⟩
    | some index =>
      rw [sentence.evaluate_of_zero runs first] at evaluated
      cases evaluated
  · rintro ⟨sentence, text, defined, rfl⟩
    rw [← text] at runs
    rw [← sourceOf text]
    exact sentence.evaluate_of_defined runs (zeroDivisions_eq_nil_iff.mpr defined)

/-- Where nothing is divided by zero, the value of a sentence is that of its text: each operand has
its sign, products are formed from the left, then sums from the left, and quotients are rounded
down. -/
theorem evaluate_sentence (sentence : Sentence) (runs : MinusRunsAtMost 201 sentence.text)
    (defined : ∀ item ∈ sentence.rest, item.1 = .divide → item.2.value ≠ 0) :
    evaluate sentence.source = .ok sentence.value ∧
      ∀ a b q, b ≠ 0 → (Operator.divide.apply a b = q ↔ IsFloorQuotient a b q) :=
  ⟨sentence.evaluate_of_defined runs (zeroDivisions_eq_nil_iff.mpr defined),
    fun _ _ _ => Operator.apply_divide_iff⟩

theorem evaluate_sentence_rounded :
    MinusRunsAtMost 201 "-7/2+8/-3*2".toList ∧ evaluate "-7/2+8/-3*2" = .ok (-10) := by
  let sentence : Sentence :=
    ⟨⟨1, ['7'], by decide, by decide⟩,
      [(.divide, ⟨0, ['2'], by decide, by decide⟩), (.plus, ⟨0, ['8'], by decide, by decide⟩),
        (.divide, ⟨1, ['3'], by decide, by decide⟩), (.times, ⟨0, ['2'], by decide, by decide⟩)]⟩
  have runs : MinusRunsAtMost 201 sentence.text := by decide
  have defined : ∀ item ∈ sentence.rest, item.1 = .divide → item.2.value ≠ 0 := by decide
  exact ⟨runs, (evaluate_sentence sentence runs defined).1⟩

/-- A sentence fails exactly if its text shows a division by zero, and then for the leftmost one. -/
theorem evaluate_zero_division (sentence : Sentence) (runs : MinusRunsAtMost 201 sentence.text) :
    ((∃ error, evaluate sentence.source = .error error) ↔
        ∃ index, DividesByZeroAt sentence.text index) ∧
      ∀ error, evaluate sentence.source = .error error →
        ∃ index, IsLeast {place | DividesByZeroAt sentence.text place} index ∧
          error = .eval (.divisionByZero (some sentence.source) index) ∧
          error.diagnostic? = some ⟨"division by zero", some sentence.source, index⟩ := by
  cases first : sentence.zeroDivisions.head? with
  | none =>
    have nowhere := List.head?_eq_none_iff.mp first
    have evaluated := sentence.evaluate_of_defined runs nowhere
    rw [sentence.zeroDivisions_eq] at nowhere
    refine ⟨⟨?_, ?_⟩, ?_⟩
    · rintro ⟨error, failed⟩
      rw [evaluated] at failed
      cases failed
    · rintro ⟨index, divides⟩
      rw [← mem_zeroDivisionsIn_zero, nowhere] at divides
      cases divides
    · intro error failed
      rw [evaluated] at failed
      cases failed
  | some index =>
    have evaluated := sentence.evaluate_of_zero runs first
    rw [sentence.zeroDivisions_eq] at first
    have leftmost := isLeast_of_head? first
    refine ⟨iff_of_true ⟨_, evaluated⟩ ⟨index, leftmost.1⟩, ?_⟩
    intro error failed
    rw [evaluated] at failed
    cases failed
    exact ⟨index, leftmost, rfl, rfl⟩

theorem evaluate_zero_division_twice :
    ∃ error, evaluate "6/3-1/-00+2/0" = .error error ∧
      error = .eval (.divisionByZero (some "6/3-1/-00+2/0") 5) := by
  let sentence : Sentence :=
    ⟨⟨0, ['6'], by decide, by decide⟩,
      [(.divide, ⟨0, ['3'], by decide, by decide⟩), (.minus, ⟨0, ['1'], by decide, by decide⟩),
        (.divide, ⟨1, ['0', '0'], by decide, by decide⟩), (.plus, ⟨0, ['2'], by decide, by decide⟩),
        (.divide, ⟨0, ['0'], by decide, by decide⟩)]⟩
  have runs : MinusRunsAtMost 201 sentence.text := by decide
  have divides : DividesByZeroAt sentence.text 5 := by decide
  have notBefore : ∀ place < 5, ¬ DividesByZeroAt sentence.text place := by decide
  obtain ⟨decided, located⟩ := evaluate_zero_division sentence runs
  obtain ⟨error, failed⟩ := decided.mpr ⟨5, divides⟩
  obtain ⟨index, leftmost, cause, _⟩ := located error failed
  have first : index = 5 := by
    refine Nat.le_antisymm (leftmost.2 divides) (Nat.not_lt.mp ?_)
    intro before
    exact notBefore index before leftmost.1
  rw [first] at cause
  exact ⟨error, failed, cause⟩

end Reckoner
