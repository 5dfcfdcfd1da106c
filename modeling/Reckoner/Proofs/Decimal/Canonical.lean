import Mathlib.Algebra.Group.Int.Defs
import Reckoner.Proofs.Decimal.Numerals

/-! # Values and canonical numerals

Blocks do not show. What is read is the value of the whole digit run, so a number goes on with further
digits wherever its blocks end (`read_positional`). What is written is the one canonical numeral of the
integer, so a digit run that is read and written again has only lost its leading zeros
(`write_canonical`).
-/

namespace Reckoner.Decimal

theorem all_isDigit_iff {digits : List Char} :
    digits.all isDigit = true ↔ ∀ c ∈ digits, c ∈ "0123456789".toList := by
  simp only [List.all_eq_true, isDigit_iff_mem]

theorem read_eq_error_iff {text : String} :
    read text = .error ⟨text⟩ ↔ text = "" ∨ ∃ c ∈ text.toList, c ∉ "0123456789".toList := by
  rw [read]
  split
  · next accepted =>
    apply iff_of_false
    · intro refused
      cases refused
    · rintro (rfl | ⟨c, member, other⟩)
      · exact accepted.1 String.toList_empty
      · exact other (all_isDigit_iff.mp accepted.2 c member)
  · next refused =>
    apply iff_of_true rfl
    by_contra! numeral
    exact refused ⟨mt String.toList_eq_nil_iff.mp numeral.1, all_isDigit_iff.mpr numeral.2⟩

/-- What was read so far moves up by as many places as there are further digits. -/
theorem read_append {first second : String} {a b : Nat} (readFirst : read first = .ok a)
    (readSecond : read second = .ok b) : read (first ++ second) = .ok (a * 10 ^ second.length + b) := by
  obtain ⟨nonempty, decimalFirst, valueFirst⟩ := read_eq_ok_iff.mp readFirst
  obtain ⟨_, decimalSecond, valueSecond⟩ := read_eq_ok_iff.mp readSecond
  rw [read_eq_ok_iff, String.toList_append]
  refine ⟨List.append_ne_nil_of_left_ne_nil nonempty _, ?_, ?_⟩
  · rw [List.all_append, decimalFirst, decimalSecond]
    rfl
  · rw [Nat.ofDigitChars_append, ← valueFirst, Nat.ofDigitChars_eq_ofDigitChars_zero, ← valueSecond,
      String.length_toList, Nat.mul_comm]

/-- A text is refused exactly if it is empty or holds a character that is none of the ten digits.
Otherwise it is read as its positional value, folded digit by digit from the left. So two digit runs
are read together as the first one, shifted by the length of the second, and the second one. -/
theorem read_positional :
    (∀ text : String, read text = .error ⟨text⟩ ↔
      text = "" ∨ ∃ c ∈ text.toList, c ∉ "0123456789".toList) ∧
      (∀ text : String, text ≠ "" → (∀ c ∈ text.toList, c ∈ "0123456789".toList) →
        read text =
          .ok (text.toList.foldl (fun value c => 10 * value + (c.toNat - '0'.toNat)) 0)) ∧
      ∀ (first second : String) (a b : Nat), read first = .ok a → read second = .ok b →
        read (first ++ second) = .ok (a * 10 ^ second.length + b) := by
  refine ⟨?_, ?_, ?_⟩
  · intro text
    exact read_eq_error_iff
  · intro text nonempty decimal
    rw [read_eq_ok_iff]
    exact ⟨mt String.toList_eq_nil_iff.mp nonempty, all_isDigit_iff.mpr decimal, rfl⟩
  · intro first second a b readFirst readSecond
    exact read_append readFirst readSecond

/-- The second run begins in the first block and ends in the next one. -/
theorem read_positional_across_blocks :
    read (String.ofList ('9' :: List.replicate 598 '0')) = .ok (9 * 10 ^ 598) ∧
      read (String.ofList ('9' :: List.replicate 598 '0') ++ "0021") = .ok (9 * 10 ^ 598 * 10 ^ 4 + 21) ∧
      read "12²" = .error ⟨"12²"⟩ := by
  obtain ⟨refused, value, together⟩ := read_positional
  have readFirst : read (String.ofList ('9' :: List.replicate 598 '0')) = .ok (9 * 10 ^ 598) := by
    rw [value, String.toList_ofList]
    · rw [Except.ok.injEq]
      decide +kernel
    · rw [← String.ofList_nil, Ne, String.ofList_inj]
      exact List.cons_ne_nil _ _
    · rw [String.toList_ofList]
      exact all_isDigit_iff.mp (by decide +kernel)
  have readSecond : read "0021" = .ok 21 :=
    (value "0021" (by decide) (all_isDigit_iff.mp (by decide))).trans (congrArg Except.ok (by decide))
  have readBoth := together _ _ _ _ readFirst readSecond
  have places : "0021".length = 4 := rfl
  rw [places] at readBoth
  exact ⟨readFirst, readBoth, (refused "12²").mpr (.inr ⟨'²', by decide, by decide⟩)⟩

theorem isCanonical_writeBlocks (number : Nat) : IsCanonical (writeBlocks number) := by
  have written := isCanonical_withoutLeadingZeros (all_isDigit_writeBlocks number)
  rwa [← toDigits_ofDigitChars (all_isDigit_writeBlocks number), ofDigitChars_writeBlocks,
    ← writeBlocks_eq_toDigits] at written

theorem read_writeBlocks (number : Nat) : read (String.ofList (writeBlocks number)) = .ok number := by
  rw [read_digits (writeBlocks_ne_nil number) (all_isDigit_writeBlocks number), ofDigitChars_writeBlocks]

/-- No other canonical digit run has the value. -/
theorem IsCanonical.eq_writeBlocks {digits : List Char} {number : Nat} (canonical : IsCanonical digits)
    (value : read (String.ofList digits) = .ok number) : digits = writeBlocks number := by
  obtain ⟨_, _, rfl⟩ := read_eq_ok_iff.mp value
  rw [String.toList_ofList, writeBlocks_eq_toDigits, canonical.toDigits_ofDigitChars]

/-- An integer is written as its canonical numeral: a minus sign if it is negative, then the only
canonical digit run that is read as its magnitude. A digit run that is read and written again is the
same without its leading zeros. -/
theorem write_canonical :
    (∀ number : Int, ∃ digits,
      (write number).toList = (if number < 0 then '-' :: digits else digits) ∧
        IsCanonical digits ∧ read (String.ofList digits) = .ok number.natAbs ∧
        ∀ other, IsCanonical other → read (String.ofList other) = .ok number.natAbs → other = digits) ∧
      ∀ digits : List Char, digits ≠ [] → digits.all isDigit = true →
        ∃ number : Nat, read (String.ofList digits) = .ok number ∧
          (write number).toList = withoutLeadingZeros digits := by
  constructor
  · intro number
    refine ⟨writeBlocks number.natAbs, toList_write number, isCanonical_writeBlocks _,
      read_writeBlocks _, ?_⟩
    intro other canonical value
    exact canonical.eq_writeBlocks value
  · intro digits nonempty decimal
    refine ⟨_, read_digits nonempty decimal, ?_⟩
    rw [toList_write_of_nonneg (Int.natCast_nonneg _), Int.natAbs_natCast, writeBlocks_eq_toDigits,
      toDigits_ofDigitChars decimal]

theorem write_canonical_block_of_zeros :
    let zeros := List.replicate 600 '0'
    (write (-(10 ^ 600))).toList = '-' :: '1' :: zeros ∧
      ∃ number : Nat, read (String.ofList (zeros ++ '7' :: zeros)) = .ok number ∧
        (write number).toList = '7' :: zeros := by
  intro zeros
  obtain ⟨written, again⟩ := write_canonical
  constructor
  · obtain ⟨digits, numeral, _, _, unique⟩ := written (-(10 ^ 600))
    have canonical : IsCanonical ('1' :: zeros) := .run (by decide +kernel) (by decide)
    have value : read (String.ofList ('1' :: zeros)) = .ok (-(10 ^ 600) : Int).natAbs := by
      rw [read_digits (List.cons_ne_nil _ _) (by decide +kernel)]
      decide +kernel
    rw [numeral, unique _ canonical value, if_pos (by decide +kernel)]
  · obtain ⟨number, value, numeral⟩ := again (zeros ++ '7' :: zeros) (by simp) (by decide +kernel)
    exact ⟨number, value, numeral.trans (by decide +kernel)⟩

end Reckoner.Decimal
