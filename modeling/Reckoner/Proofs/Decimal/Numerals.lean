import Mathlib.Algebra.Group.Nat.Defs
import Mathlib.Data.List.Basic
import Reckoner.Decimal

/-! # Numerals as they are read and written

A text is read as a number exactly if it is a non-empty run of digits, and then as its positional
value. The blocks that are written put together are the ordinary digits of the number
(`writeBlocks_eq_toDigits`), wherever they are cut, so reading what was written gives the number
back. Writing what was read gives the digit run back without its leading zeros
(`toDigits_ofDigitChars`).
-/

namespace Reckoner.Decimal

theorem read_eq_ok_iff {text : String} {value : Nat} :
    read text = .ok value ↔
      text.toList ≠ [] ∧ text.toList.all isDigit = true ∧ value = Nat.ofDigitChars 10 text.toList 0 := by
  simp only [read]
  split
  · next accepted =>
    rw [readBlocks_eq_ofDigitChars, Except.ok.injEq, and_iff_right accepted.1, and_iff_right accepted.2]
    exact eq_comm
  · next refused =>
    apply iff_of_false
    · intro accepted
      cases accepted
    · rintro ⟨nonempty, decimal, _⟩
      exact refused ⟨nonempty, decimal⟩

theorem read_digits {digits : List Char} (nonempty : digits ≠ [])
    (decimal : digits.all isDigit = true) :
    read (String.ofList digits) = .ok (Nat.ofDigitChars 10 digits 0) := by
  rw [read_eq_ok_iff, String.toList_ofList]
  exact ⟨nonempty, decimal, rfl⟩

private theorem leftpad_concat (width : Nat) (digits : List Char) (last : Char) :
    (digits ++ [last]).leftpad (width + 1) '0' = digits.leftpad width '0' ++ [last] := by
  have missing : width + 1 - (digits ++ [last]).length = width - digits.length := by
    rw [List.length_append, List.length_singleton]
    omega
  rw [List.leftpad, List.leftpad, missing, List.append_assoc]

/-- A digit behind a number. -/
private theorem toDigits_concat {leading digit : Nat} (positive : 0 < leading) (small : digit < 10) :
    Nat.toDigits 10 (10 * leading + digit) = Nat.toDigits 10 leading ++ [Nat.digitChar digit] := by
  rw [← Nat.toDigits_append_toDigits (by decide) positive small, Nat.toDigits_of_lt_base small]

private theorem toDigits_padded (width number : Nat) :
    (Nat.toDigits 10 number).leftpad (width + 2) '0' =
      (Nat.toDigits 10 (number / 10)).leftpad (width + 1) '0' ++ [Nat.digitChar (number % 10)] := by
  by_cases small : number < 10
  · have padded := leftpad_concat (width + 1) [] (Nat.digitChar number)
    have zeros : ([] : List Char).leftpad (width + 1) '0' = ['0'].leftpad (width + 1) '0' := by
      simp [List.leftpad, ← List.replicate_succ']
    rw [List.nil_append, zeros] at padded
    rw [Nat.toDigits_of_lt_base small, Nat.div_eq_of_lt small, Nat.mod_eq_of_lt small, Nat.toDigits_zero,
      padded]
  · rw [Nat.toDigits_of_base_le (by decide) (Nat.le_of_not_lt small), leftpad_concat]

/-- The digits of a number whose last part has a fixed width. -/
private theorem toDigits_append_leftpad (width : Nat) {leading rest : Nat} (positive : 0 < leading)
    (small : rest < 10 ^ (width + 1)) :
    Nat.toDigits 10 (leading * 10 ^ (width + 1) + rest) =
      Nat.toDigits 10 leading ++ (Nat.toDigits 10 rest).leftpad (width + 1) '0' := by
  induction width generalizing rest with
  | zero =>
    rw [Nat.zero_add, Nat.pow_one] at *
    rw [Nat.mul_comm, toDigits_concat positive small, Nat.toDigits_of_lt_base small]
    rfl
  | succ width ih =>
    have shifted : leading * 10 ^ (width + 2) + rest =
        10 * (leading * 10 ^ (width + 1) + rest / 10) + rest % 10 := by
      rw [Nat.pow_succ 10 (width + 1), ← Nat.mul_assoc]
      omega
    have shorter : rest / 10 < 10 ^ (width + 1) := by
      rw [Nat.pow_succ 10 (width + 1)] at small
      omega
    have larger : 0 < leading * 10 ^ (width + 1) + rest / 10 :=
      Nat.add_pos_left (Nat.mul_pos positive (Nat.pow_pos (by decide))) _
    rw [shifted, toDigits_concat larger (Nat.mod_lt _ (by decide)), ih shorter, List.append_assoc,
      ← toDigits_padded]

theorem writeBlocks_eq_toDigits (number : Nat) : writeBlocks number = Nat.toDigits 10 number := by
  fun_induction writeBlocks number with
  | case1 number small => rfl
  | case2 number large ih =>
    obtain ⟨width, length⟩ : ∃ width, blockLength = width + 1 := ⟨599, rfl⟩
    have power : blockBase = 10 ^ (width + 1) := by
      unfold blockBase
      exact congrArg (Nat.pow 10) length
    have leading : 0 < number / blockBase :=
      Nat.div_pos (Nat.le_of_not_lt large) (Nat.lt_trans Nat.zero_lt_one one_lt_blockBase)
    have small : number % blockBase < 10 ^ (width + 1) := by
      rw [← power]
      exact Nat.mod_lt _ (Nat.lt_trans Nat.zero_lt_one one_lt_blockBase)
    rw [ih, length, ← toDigits_append_leftpad width leading small, ← power, Nat.div_add_mod']

theorem writeBlocks_ne_nil (number : Nat) : writeBlocks number ≠ [] := by
  rw [writeBlocks_eq_toDigits]
  exact Nat.toDigits_ne_nil

theorem all_isDigit_writeBlocks (number : Nat) : (writeBlocks number).all isDigit = true := by
  rw [writeBlocks_eq_toDigits, List.all_eq_true]
  intro c member
  exact Nat.isDigit_of_mem_toDigits (by decide) (by decide) member

theorem ofDigitChars_writeBlocks (number : Nat) : Nat.ofDigitChars 10 (writeBlocks number) 0 = number := by
  rw [writeBlocks_eq_toDigits, Nat.ofDigitChars_ten_toDigits]

/-- A digit run without its leading zeros. Of zeros alone, one is left. -/
def withoutLeadingZeros (digits : List Char) : List Char :=
  match digits.dropWhile (· = '0') with
  | [] => ['0']
  | first :: rest => first :: rest

/-- The value of a digit, and the digit of that value. -/
private theorem exists_digitChar {c : Char} (digit : isDigit c = true) :
    ∃ value < 10, c.toNat - '0'.toNat = value ∧ Nat.digitChar value = c := by
  have bounds : '0'.toNat ≤ c.toNat ∧ c.toNat ≤ '9'.toNat := by
    simp only [isDigit, Char.isDigit, Bool.and_eq_true, decide_eq_true_eq] at digit
    exact ⟨UInt32.le_iff_toNat_le.mp digit.1, UInt32.le_iff_toNat_le.mp digit.2⟩
  have zero : '0'.toNat = 48 := rfl
  have nine : '9'.toNat = 57 := rfl
  have each : ∀ value < 10, (Nat.digitChar value).toNat = 48 + value := by decide
  refine ⟨c.toNat - '0'.toNat, by omega, rfl, ?_⟩
  rw [← Char.toNat_inj, each _ (by omega)]
  omega

/-- There are ten digits, whatever else other scripts or signs may stand for. -/
theorem isDigit_iff_mem {c : Char} : isDigit c = true ↔ c ∈ "0123456789".toList := by
  constructor
  · intro digit
    obtain ⟨value, small, _, char⟩ := exists_digitChar digit
    have each : ∀ value < 10, Nat.digitChar value ∈ "0123456789".toList := by decide
    exact char ▸ each value small
  · have all : "0123456789".toList.all isDigit = true := by decide
    exact List.all_eq_true.mp all c

/-- Digits behind a number that is not zero are digits of the whole. -/
private theorem toDigits_ofDigitChars_of_pos {digits : List Char}
    (decimal : ∀ c ∈ digits, isDigit c = true) {start : Nat} (positive : 0 < start) :
    Nat.toDigits 10 (Nat.ofDigitChars 10 digits start) = Nat.toDigits 10 start ++ digits := by
  induction digits generalizing start with
  | nil => rw [Nat.ofDigitChars_nil, List.append_nil]
  | cons c rest ih =>
    obtain ⟨digit, small, value, char⟩ := exists_digitChar (decimal c (List.mem_cons_self ..))
    rw [Nat.ofDigitChars_cons, value, ih (fun d member => decimal d (List.mem_cons_of_mem _ member)) (by omega),
      toDigits_concat positive small, char, List.append_assoc, List.singleton_append]

/-- A number is written with the digits it is read from, if the first of them is not zero. -/
private theorem toDigits_ofDigitChars_of_ne_zero {first : Char} {digits : List Char} (notZero : first ≠ '0')
    (decimal : ∀ c ∈ first :: digits, isDigit c = true) :
    Nat.toDigits 10 (Nat.ofDigitChars 10 (first :: digits) 0) = first :: digits := by
  obtain ⟨digit, others⟩ := List.forall_mem_cons.mp decimal
  obtain ⟨value, small, own, char⟩ := exists_digitChar digit
  have positive : 0 < value := by
    refine Nat.pos_of_ne_zero ?_
    rintro rfl
    exact notZero char.symm
  rw [Nat.ofDigitChars_cons, own, Nat.mul_zero, Nat.zero_add, toDigits_ofDigitChars_of_pos others positive,
    Nat.toDigits_of_lt_base small, char]
  rfl

/-- Leading zeros do not count. -/
theorem ofDigitChars_dropWhile_zero (digits : List Char) :
    Nat.ofDigitChars 10 (digits.dropWhile (· = '0')) 0 = Nat.ofDigitChars 10 digits 0 := by
  have zeros : digits.takeWhile (· = '0') = List.replicate (digits.takeWhile (· = '0')).length '0' := by
    refine List.eq_replicate_of_mem ?_
    intro c member
    simpa using List.all_eq_true.mp List.all_takeWhile c member
  conv => rhs; rw [← List.takeWhile_append_dropWhile (p := (· = '0')) (l := digits)]
  rw [Nat.ofDigitChars_append, zeros, Nat.ofDigitChars_replicate_zero, Nat.mul_zero]

theorem ofDigitChars_withoutLeadingZeros (digits : List Char) :
    Nat.ofDigitChars 10 (withoutLeadingZeros digits) 0 = Nat.ofDigitChars 10 digits 0 := by
  rw [← ofDigitChars_dropWhile_zero digits, withoutLeadingZeros]
  cases digits.dropWhile (· = '0') <;> rfl

/-- A zero alone, or a digit run that starts with another digit. -/
inductive IsCanonical : List Char → Prop
  | zero : IsCanonical ['0']
  | run {first : Char} {rest : List Char} (decimal : (first :: rest).all isDigit = true)
      (notZero : first ≠ '0') : IsCanonical (first :: rest)

theorem isCanonical_withoutLeadingZeros {digits : List Char} (decimal : digits.all isDigit = true) :
    IsCanonical (withoutLeadingZeros digits) := by
  have kept : ∀ c ∈ digits.dropWhile (· = '0'), isDigit c = true := by
    intro c member
    exact List.all_eq_true.mp decimal c ((List.dropWhile_suffix _).subset member)
  have stopped := List.head?_dropWhile_not (· = '0') digits
  rw [withoutLeadingZeros]
  generalize digits.dropWhile (· = '0') = rest at kept stopped
  cases rest with
  | nil => exact .zero
  | cons first rest => exact .run (List.all_eq_true.mpr kept) (by simpa using stopped)

theorem IsCanonical.toDigits_ofDigitChars {digits : List Char} (canonical : IsCanonical digits) :
    Nat.toDigits 10 (Nat.ofDigitChars 10 digits 0) = digits := by
  cases canonical with
  | zero => rfl
  | run decimal notZero =>
    exact toDigits_ofDigitChars_of_ne_zero notZero (List.all_eq_true.mp decimal)

/-- The number that a digit run is read as is written without leading zeros. -/
theorem toDigits_ofDigitChars {digits : List Char} (decimal : digits.all isDigit = true) :
    Nat.toDigits 10 (Nat.ofDigitChars 10 digits 0) = withoutLeadingZeros digits := by
  rw [← ofDigitChars_withoutLeadingZeros]
  exact (isCanonical_withoutLeadingZeros decimal).toDigits_ofDigitChars

theorem toList_write (number : Int) :
    (write number).toList =
      if number < 0 then '-' :: writeBlocks number.natAbs else writeBlocks number.natAbs := by
  rw [write, String.toList_ofList]

/-- An integer that is not negative is written by its digits alone. -/
theorem toList_write_of_nonneg {number : Int} (notNegative : 0 ≤ number) :
    (write number).toList = writeBlocks number.natAbs := by
  rw [toList_write, if_neg (Int.not_lt.mpr notNegative)]

/-- What is written is the ordinary numeral. -/
theorem write_eq_toString (number : Int) : write number = toString number := by
  rw [write, writeBlocks_eq_toDigits]
  cases number with
  | ofNat magnitude =>
    have notNegative : ¬ Int.ofNat magnitude < 0 := Int.not_lt.mpr (Int.natCast_nonneg magnitude)
    rw [if_neg notNegative]
    rfl
  | negSucc magnitude =>
    have sign : String.ofList ['-'] = "-" := rfl
    rw [if_pos (Int.negSucc_lt_zero magnitude), ← List.singleton_append, String.ofList_append, sign]
    rfl

end Reckoner.Decimal
