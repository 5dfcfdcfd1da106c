import Mathlib.Order.Bounds.Basic
import Mathlib.Tactic.SplitIfs
import Reckoner.Proofs.Grammar.Sentence

/-! # Recognizing sentences and their beginnings

Read character by character, a sentence has only two phases: either the digits of an operand are
still to come, or they have begun. `Phase.next` tells the phase after one more character, and is
undefined exactly where no sentence goes on. So a text is a sentence if it can be run through and
ends among digits, and it begins a sentence if it can be run through at all; both are decided by the
run. A text that cannot be run through is cut at the character where the run stops, and what stands
before that character is the longest part that begins a sentence.
-/

namespace Reckoner

/-- Whether the digits of an operand are still to come or have begun. -/
inductive Phase where
  | signs
  | digits
deriving DecidableEq, Repr

namespace Phase

def next : Phase → Char → Option Phase
  | signs, c => if c = '-' then some signs else if Decimal.isDigit c then some digits else none
  | digits, c => if Decimal.isDigit c then some digits else (Operator.ofChar? c).map fun _ => signs

def run (phase : Phase) (text : List Char) : Option Phase := text.foldlM next phase

@[simp] theorem run_nil (phase : Phase) : phase.run [] = some phase := rfl

@[simp] theorem run_cons (phase : Phase) (c : Char) (text : List Char) :
    phase.run (c :: text) = (phase.next c).bind fun after => after.run text :=
  List.foldlM_cons

theorem run_append (phase : Phase) (first second : List Char) :
    phase.run (first ++ second) = (phase.run first).bind fun after => after.run second :=
  List.foldlM_append

private theorem run_signs (count : Nat) (text : List Char) :
    signs.run (List.replicate count '-' ++ text) = signs.run text := by
  induction count with
  | zero => rfl
  | succ count ih => simpa [List.replicate_succ, next] using ih

private theorem run_digits {phase : Phase} {text : List Char} (nonempty : text ≠ [])
    (decimal : ∀ c ∈ text, Decimal.isDigit c = true) : phase.run text = some digits := by
  induction text generalizing phase with
  | nil => contradiction
  | cons c rest ih =>
    have digit : Decimal.isDigit c = true := decimal c (List.mem_cons_self ..)
    have step : phase.next c = some digits := by
      have notMinus : c ≠ '-' := Decimal.ne_of_isDigit digit rfl
      cases phase <;> simp [next, digit, notMinus]
    rw [run_cons, step, Option.bind_some]
    cases rest with
    | nil => rfl
    | cons c' rest' => exact ih (by simp) fun d member => decimal d (List.mem_cons_of_mem _ member)

theorem run_operand (operand : Operand) : signs.run operand.text = some digits := by
  rw [Operand.text, run_signs]
  exact run_digits operand.nonempty fun _ => operand.isDigit_of_mem

theorem next_signs_eq_none {c : Char} (blocked : signs.next c = none) :
    Decimal.isDigit c = false ∧ c ≠ '-' := by
  simp only [next] at blocked
  split_ifs at blocked with minus digit
  exact ⟨Bool.eq_false_iff.mpr digit, minus⟩

theorem next_digits_eq_none {c : Char} (blocked : digits.next c = none) :
    Decimal.isDigit c = false ∧ Operator.ofChar? c = none := by
  simp only [next] at blocked
  split_ifs at blocked with digit
  exact ⟨Bool.eq_false_iff.mpr digit, Option.map_eq_none_iff.mp blocked⟩

theorem next_operator (operator : Operator) : digits.next operator.char = some signs := by
  cases operator <;> rfl

theorem run_spell (items : List (Operator × Operand)) : digits.run (spell items) = some digits := by
  induction items with
  | nil => rfl
  | cons item rest ih =>
    obtain ⟨operator, operand⟩ := item
    rw [spell_cons, run_cons, next_operator, Option.bind_some, run_append, run_operand,
      Option.bind_some, ih]

theorem run_sentence (sentence : Sentence) : signs.run sentence.text = some digits := by
  rw [Sentence.text, run_append, run_operand, Option.bind_some, run_spell]

/-- A run that stops does so at some character, which the phase before it does not allow. -/
theorem run_eq_none {phase : Phase} {text : List Char} (stopped : phase.run text = none) :
    ∃ known c rest before, text = known ++ c :: rest ∧ phase.run known = some before ∧
      before.next c = none := by
  induction text generalizing phase with
  | nil => contradiction
  | cons c rest ih =>
    rw [run_cons] at stopped
    cases step : phase.next c with
    | none => exact ⟨[], c, rest, phase, rfl, rfl, step⟩
    | some after =>
      rw [step, Option.bind_some] at stopped
      obtain ⟨known, d, rest', before, rfl, reached, blocked⟩ := ih stopped
      refine ⟨c :: known, d, rest', before, rfl, ?_, blocked⟩
      rw [run_cons, step, Option.bind_some, reached]

end Phase

/-- What can stand before an operand: nothing, or a sentence and an operator. -/
inductive Opening where
  | empty
  | behind (sentence : Sentence) (operator : Operator)
deriving DecidableEq, Repr

namespace Opening

def text : Opening → List Char
  | empty => []
  | behind sentence operator => sentence.text ++ [operator.char]

def operands : Opening → List Operand
  | empty => []
  | behind sentence _ => sentence.operands

/-- The sentence that ends with the given operand. -/
def close (operand : Operand) : Opening → Sentence
  | empty => ⟨operand, []⟩
  | behind sentence operator => ⟨sentence.first, sentence.rest ++ [(operator, operand)]⟩

theorem text_close (opening : Opening) (operand : Operand) :
    (opening.close operand).text = opening.text ++ operand.text := by
  cases opening with
  | empty => simp [close, text, Sentence.text, spell]
  | behind sentence operator => simp [close, text, Sentence.text, spell]

end Opening

/-- The texts that are run through from the start to a phase. -/
inductive Reached : Phase → List Char → Prop
  | signs (opening : Opening) (count : Nat) :
      Reached .signs (opening.text ++ List.replicate count '-')
  | digits (opening : Opening) (operand : Operand) :
      Reached .digits (opening.text ++ operand.text)

namespace Reached

/-- One more character adds a sign, begins or extends the digits of the last operand, or puts an
operator behind the sentence so far. -/
theorem step {phase after : Phase} {known : List Char} {c : Char} (reached : Reached phase known)
    (next : phase.next c = some after) : Reached after (known ++ [c]) := by
  cases reached with
  | signs opening count =>
    simp only [Phase.next] at next
    split_ifs at next with minus digit
    · cases next
      subst minus
      rw [List.append_assoc, ← List.replicate_succ']
      exact .signs opening (count + 1)
    · cases next
      rw [List.append_assoc]
      exact .digits opening ⟨count, [c], by simp, by simpa using digit⟩
  | digits opening operand =>
    simp only [Phase.next] at next
    split_ifs at next with digit
    · cases next
      rw [List.append_assoc, Operand.text, List.append_assoc]
      refine .digits opening ⟨operand.signs, operand.digits ++ [c], by simp, ?_⟩
      rw [List.all_append, operand.decimal]
      simpa using digit
    · obtain ⟨operator, found, rfl⟩ := Option.map_eq_some_iff.mp next
      obtain rfl := Operator.ofChar?_eq_some_iff.mp found
      rw [← Opening.text_close]
      simpa [Opening.text] using Reached.signs (.behind (opening.close operand) operator) 0

theorem of_run {phase after : Phase} {known text : List Char} (reached : Reached phase known)
    (through : phase.run text = some after) : Reached after (known ++ text) := by
  induction text generalizing phase known with
  | nil =>
    cases through
    simpa using reached
  | cons c rest ih =>
    rw [Phase.run_cons] at through
    obtain ⟨between, next, through⟩ := Option.bind_eq_some_iff.mp through
    simpa using ih (reached.step next) through

theorem exists_opening {text : List Char} (reached : Reached .signs text) :
    ∃ (opening : Opening) (count : Nat), text = opening.text ++ List.replicate count '-' := by
  cases reached with
  | signs opening count => exact ⟨opening, count, rfl⟩

theorem exists_sentence {text : List Char} (reached : Reached .digits text) :
    ∃ sentence : Sentence, sentence.text = text := by
  cases reached with
  | digits opening operand => exact ⟨opening.close operand, opening.text_close operand⟩

theorem start {phase : Phase} {text : List Char} (through : Phase.signs.run text = some phase) :
    Reached phase text :=
  of_run (Reached.signs .empty 0) through

end Reached

theorem isSentence_iff_run {text : List Char} :
    IsSentence text ↔ Phase.signs.run text = some .digits := by
  constructor
  · rintro ⟨sentence, rfl⟩
    exact Phase.run_sentence sentence
  · intro through
    exact (Reached.start through).exists_sentence

instance (text : List Char) : Decidable (IsSentence text) := decidable_of_iff _ isSentence_iff_run.symm

/-- A sentence has only digits and operators. -/
theorem IsSentence.not_mem {text : List Char} (spelled : IsSentence text) {c : Char}
    (notDigit : Decimal.isDigit c = false) (noOperator : Operator.ofChar? c = none) : c ∉ text := by
  intro member
  obtain ⟨before, after, rfl⟩ := List.append_of_mem member
  have notMinus : c ≠ '-' := by
    rintro rfl
    cases noOperator
  have blocked (phase : Phase) : phase.next c = none := by
    cases phase <;> simp [Phase.next, notDigit, noOperator, notMinus]
  have through := isSentence_iff_run.mp spelled
  rw [Phase.run_append] at through
  obtain ⟨phase, _, further⟩ := Option.bind_eq_some_iff.mp through
  rw [Phase.run_cons, blocked] at further
  cases further

/-- A text that is run through begins the sentence that it is, or one that a digit completes. -/
theorem beginsSentence_iff_run {text : List Char} :
    BeginsSentence text ↔ (Phase.signs.run text).isSome = true := by
  constructor
  · rintro ⟨sentence, rest, whole⟩
    have through := Phase.run_sentence sentence
    rw [← whole, Phase.run_append] at through
    obtain ⟨phase, reached, _⟩ := Option.bind_eq_some_iff.mp through
    rw [reached, Option.isSome_some]
  · intro through
    obtain ⟨phase, through⟩ := Option.isSome_iff_exists.mp through
    cases phase with
    | signs =>
      obtain ⟨opening, count, rfl⟩ := (Reached.start through).exists_opening
      refine ⟨opening.close ⟨count, ['0'], by simp, rfl⟩, ['0'], ?_⟩
      rw [Opening.text_close, Operand.text, List.append_assoc]
    | digits =>
      obtain ⟨sentence, rfl⟩ := (Reached.start through).exists_sentence
      exact ⟨sentence, List.prefix_refl _⟩

instance (text : List Char) : Decidable (BeginsSentence text) :=
  decidable_of_iff _ beginsSentence_iff_run.symm

/-- How much of a text begins a sentence: the length of the longest such part. -/
def BeginsUpTo (text : List Char) (length : Nat) : Prop :=
  IsGreatest {length | length ≤ text.length ∧ BeginsSentence (text.take length)} length

theorem beginsUpTo_length {text : List Char} {phase : Phase}
    (through : Phase.signs.run text = some phase) : BeginsUpTo text text.length := by
  refine ⟨⟨le_rfl, ?_⟩, fun length bound => bound.1⟩
  rw [List.take_length, beginsSentence_iff_run, through, Option.isSome_some]

theorem beginsUpTo_of_blocked {known rest : List Char} {c : Char} {phase : Phase}
    (through : Phase.signs.run known = some phase) (blocked : phase.next c = none) :
    BeginsUpTo (known ++ c :: rest) known.length := by
  constructor
  · refine ⟨by simp, ?_⟩
    rw [List.take_left', beginsSentence_iff_run, through, Option.isSome_some]
    rfl
  · rintro length ⟨_, begins⟩
    by_contra beyond
    -- A longer part would contain the character at which the run stops.
    obtain ⟨extra, rfl⟩ : ∃ extra, length = known.length + (extra + 1) :=
      ⟨length - known.length - 1, by omega⟩
    rw [beginsSentence_iff_run, List.take_length_add_append, List.take_succ_cons, Phase.run_append,
      through, Option.bind_some, Phase.run_cons, blocked] at begins
    exact absurd begins (by simp)

end Reckoner
