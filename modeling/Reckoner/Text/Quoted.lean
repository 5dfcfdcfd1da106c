import Reckoner.Text.Unprintable

/-! # Quoted text

A text in a message stands between apostrophes, or between double quotes if that spares escaping an
apostrophe. The delimiter and the backslash are escaped, tab, line feed and carriage return have
letters, and every other unprintable character is written by its code point, with two, four or
eight hexadecimal digits.
-/

namespace Reckoner.Text

/-- The last `width` hexadecimal digits of a number, the most significant first. -/
def hexDigits : Nat → Nat → List Char
  | 0, _ => []
  | width + 1, number => hexDigits width (number / 16) ++ [Nat.digitChar (number % 16)]

/-- An escape by code point names its width by its letter. -/
def escapeByNumber (c : Char) : List Char :=
  if c.toNat < 0x100 then '\\' :: 'x' :: hexDigits 2 c.toNat
  else if c.toNat < 0x10000 then '\\' :: 'u' :: hexDigits 4 c.toNat
  else '\\' :: 'U' :: hexDigits 8 c.toNat

def escape (delimiter c : Char) : List Char :=
  if c = delimiter ∨ c = '\\' then ['\\', c]
  else if c = '\t' then ['\\', 't']
  else if c = '\n' then ['\\', 'n']
  else if c = '\r' then ['\\', 'r']
  else if isUnprintable c then escapeByNumber c
  else [c]

/-- An apostrophe, unless the text holds an apostrophe and no double quote. -/
def delimiterFor (text : List Char) : Char :=
  if '\x27' ∈ text ∧ '\x22' ∉ text then '\x22' else '\x27'

def quoteChars (text : List Char) : List Char :=
  delimiterFor text :: (text.flatMap (escape (delimiterFor text)) ++ [delimiterFor text])

def quote (text : String) : String :=
  String.ofList (quoteChars text.toList)

private theorem isLineBreak_digitChar {digit : Nat} (small : digit < 16) :
    isLineBreak (Nat.digitChar digit) = false := by
  have : ∀ d : Fin 16, isLineBreak (Nat.digitChar d) = false := by decide
  exact this ⟨digit, small⟩

private theorem isLineBreak_of_mem_hexDigits {width number : Nat} {c : Char}
    (member : c ∈ hexDigits width number) : isLineBreak c = false := by
  induction width generalizing number with
  | zero => simp [hexDigits] at member
  | succ width ih =>
    simp only [hexDigits, List.mem_append, List.mem_singleton] at member
    rcases member with member | rfl
    · exact ih member
    · exact isLineBreak_digitChar (Nat.mod_lt _ (by decide))

private theorem isLineBreak_of_mem_escapeByNumber {c d : Char} (member : d ∈ escapeByNumber c) :
    isLineBreak d = false := by
  have digits : ∀ letter width, isLineBreak letter = false →
      d ∈ '\\' :: letter :: hexDigits width c.toNat → isLineBreak d = false := by
    intro letter width named member
    simp only [List.mem_cons] at member
    rcases member with rfl | rfl | member
    · decide
    · exact named
    · exact isLineBreak_of_mem_hexDigits member
  simp only [escapeByNumber] at member
  split at member
  · exact digits 'x' 2 (by decide) member
  · split at member
    · exact digits 'u' 4 (by decide) member
    · exact digits 'U' 8 (by decide) member

private theorem isLineBreak_of_mem_escape {delimiter c d : Char}
    (plain : isLineBreak delimiter = false) (member : d ∈ escape delimiter c) :
    isLineBreak d = false := by
  have letter : ∀ named, isLineBreak named = false → d ∈ ['\\', named] → isLineBreak d = false := by
    intro named safe member
    simp only [List.mem_cons, List.not_mem_nil, or_false] at member
    rcases member with rfl | rfl
    · decide
    · exact safe
  simp only [escape] at member
  split at member
  · next special =>
    rcases special with rfl | rfl
    · exact letter _ plain member
    · exact letter _ (by decide) member
  split at member
  · exact letter _ (by decide) member
  split at member
  · exact letter _ (by decide) member
  split at member
  · exact letter _ (by decide) member
  split at member
  · exact isLineBreak_of_mem_escapeByNumber member
  · next printable =>
    obtain rfl := List.mem_singleton.mp member
    exact Bool.eq_false_iff.mpr fun lineBreak => printable (isUnprintable_of_isLineBreak lineBreak)

/-- A quoted text stays on one line, whatever it quotes. -/
theorem isLineBreak_of_mem_quoteChars {text : List Char} {c : Char} (member : c ∈ quoteChars text) :
    isLineBreak c = false := by
  have plain : isLineBreak (delimiterFor text) = false := by
    simp only [delimiterFor]
    split <;> decide
  simp only [quoteChars, List.mem_cons, List.mem_append, List.mem_flatMap, List.not_mem_nil,
    or_false] at member
  rcases member with rfl | ⟨quoted, _, member⟩ | rfl
  · exact plain
  · exact isLineBreak_of_mem_escape plain member
  · exact plain

end Reckoner.Text
