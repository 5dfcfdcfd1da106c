import Reckoner.Text.Quoted

/-! # Decimal numerals of any length

A numeral is a non-empty run of the ten ASCII digits; signs, spaces and the digits of other scripts
are refused. Numerals are read and written in blocks of 600 digits, so that a long one costs few
operations on large numbers. Reading cuts blocks from the front and leaves the short one last;
writing cuts them from the back and pads all but the first.
-/

namespace Reckoner.Decimal

def isDigit (c : Char) : Bool := c.isDigit

def blockLength : Nat := 600

/-- One more than the largest number that a block can hold. -/
def blockBase : Nat := Nat.pow 10 blockLength

theorem one_lt_blockBase : 1 < blockBase := by
  have large (length : Nat) (nonzero : length ≠ 0) : 1 < Nat.pow 10 length :=
    Nat.one_lt_pow nonzero (by decide)
  unfold blockBase
  exact large blockLength (by decide)

/-- Appends the blocks of a digit run to a number read so far. -/
def readBlocks (value : Nat) : List Char → Nat
  | [] => value
  | digit :: rest =>
    let block := (digit :: rest).take blockLength
    readBlocks (value * Nat.pow 10 block.length + Nat.ofDigitChars 10 block 0)
      ((digit :: rest).drop blockLength)
termination_by digits => digits.length
decreasing_by
  simp only [List.length_drop, List.length_cons, blockLength]
  omega

/-- However a digit run is cut into blocks, its value is the positional one. -/
theorem readBlocks_eq_ofDigitChars (value : Nat) (digits : List Char) :
    readBlocks value digits = Nat.ofDigitChars 10 digits value := by
  fun_induction readBlocks value digits with
  | case1 value => rfl
  | case2 value digit rest block ih =>
    rw [ih]
    have cut : digit :: rest =
        (digit :: rest).take blockLength ++ (digit :: rest).drop blockLength :=
      (List.take_append_drop ..).symm
    conv => rhs; rw [cut, Nat.ofDigitChars_append]
    congr 1
    simp only [block]
    rw [@Nat.ofDigitChars_eq_ofDigitChars_zero _ value, Nat.pow_eq, Nat.mul_comm]

/-- A text that is no numeral. -/
structure Malformed where
  text : String
deriving DecidableEq, Repr

/-- Only the first twenty characters are shown. -/
def Malformed.message (malformed : Malformed) : String :=
  "not a decimal digit run: " ++ Text.quote (String.ofList (malformed.text.toList.take 20))

def read (text : String) : Except Malformed Nat :=
  let digits := text.toList
  if digits ≠ [] ∧ digits.all isDigit then .ok (readBlocks 0 digits) else .error ⟨text⟩

/-- The digits of a number, without leading zeros. -/
def writeBlocks (number : Nat) : List Char :=
  if number < blockBase then Nat.toDigits 10 number
  else
    writeBlocks (number / blockBase) ++
      (Nat.toDigits 10 (number % blockBase)).leftpad blockLength '0'
termination_by number
decreasing_by
  have := one_lt_blockBase
  exact Nat.div_lt_self (by omega) this

/-- The numeral of an integer: a minus sign before the digits of a negative one. -/
def write (number : Int) : String :=
  String.ofList <|
    if number < 0 then '-' :: writeBlocks number.natAbs else writeBlocks number.natAbs

end Reckoner.Decimal
