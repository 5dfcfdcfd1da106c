import Mathlib.Algebra.Group.Nat.Defs
import Mathlib.Data.List.Nodup
import Mathlib.Tactic.SplitIfs
import Reckoner.Text.Quoted

/-! # What a quoted text tells

An escape is a mark behind a backslash, and for some marks as many digits as the mark says. So a text
begins with the escape of one character only (`Escapes.append_inj`). The delimiter stands unescaped only
at the end of a quoted text, so that the text and its end can be seen, whatever is behind it
(`quote_append_inj`).
-/

namespace Reckoner.Text

variable {delimiter c d mark : Char} {text other tail rest : List Char} {width a b : Nat}

theorem length_hexDigits (width number : Nat) : (hexDigits width number).length = width := by
  induction width generalizing number with
  | zero => rfl
  | succ width ih => simp [hexDigits, ih]

theorem digitChar_inj (smallA : a < 16) (smallB : b < 16) (same : Nat.digitChar a = Nat.digitChar b) :
    a = b := by
  have table : ∀ i j : Fin 16, Nat.digitChar i = Nat.digitChar j → i = j := by decide
  exact Fin.mk.inj (table ⟨a, smallA⟩ ⟨b, smallB⟩ same)

/-- Numbers that fit into the width are told apart by their digits. -/
theorem hexDigits_inj (fitsA : a < 16 ^ width) (fitsB : b < 16 ^ width)
    (same : hexDigits width a = hexDigits width b) : a = b := by
  induction width generalizing a b with
  | zero => omega
  | succ width ih =>
    rw [Nat.pow_succ] at fitsA fitsB
    obtain ⟨high, low⟩ := List.append_inj' same rfl
    have sameHigh : a / 16 = b / 16 := ih (by omega) (by omega) high
    have sameLow : a % 16 = b % 16 := digitChar_inj (by omega) (by omega) (List.cons.inj low).1
    omega

/-- What may stand around a quoted text. -/
def delimiters : List Char := ['\x27', '\x22']

/-- The characters that are escaped by a mark alone, each with its mark. -/
def marks (delimiter : Char) : List (Char × Char) :=
  [(delimiter, delimiter), ('\\', '\\'), ('\t', 't'), ('\n', 'n'), ('\r', 'r')]

/-- The marks before digits, each with the number of the digits. -/
def widths : List (Char × Nat) := [('x', 2), ('u', 4), ('U', 8)]

theorem delimiterFor_mem (text : List Char) : delimiterFor text ∈ delimiters := by
  rw [delimiterFor]
  split_ifs <;> decide

theorem backslash_ne_delimiter (quotes : delimiter ∈ delimiters) : '\\' ≠ delimiter := by
  rcases List.mem_pair.mp quotes with rfl | rfl <;> decide

/-- No mark is used twice. -/
theorem nodup_marks (quotes : delimiter ∈ delimiters) :
    ((marks delimiter).map Prod.snd ++ widths.map Prod.fst).Nodup := by
  rcases List.mem_pair.mp quotes with rfl | rfl <;> decide

theorem eq_of_mem_marks (quotes : delimiter ∈ delimiters) (first : (c, mark) ∈ marks delimiter)
    (second : (d, mark) ∈ marks delimiter) : c = d := by
  have nodup := (nodup_marks quotes).of_append_left
  exact congrArg Prod.fst (List.inj_on_of_nodup_map nodup first second rfl)

theorem eq_of_mem_widths (quotes : delimiter ∈ delimiters) (first : (mark, a) ∈ widths)
    (second : (mark, b) ∈ widths) : a = b := by
  have nodup := (nodup_marks quotes).of_append_right
  exact congrArg Prod.snd (List.inj_on_of_nodup_map nodup first second rfl)

theorem not_mem_widths (quotes : delimiter ∈ delimiters) (single : (c, mark) ∈ marks delimiter) :
    (mark, width) ∉ widths := by
  intro numbered
  obtain ⟨_, _, different⟩ := List.nodup_append.mp (nodup_marks quotes)
  exact different _ (List.mem_map_of_mem single) _ (List.mem_map_of_mem numbered) rfl

/-- The ways in which a character is written between delimiters. -/
inductive Escapes (delimiter c : Char) : List Char → Prop
  | plain (notDelimiter : c ≠ delimiter) (notBackslash : c ≠ '\\') : Escapes delimiter c [c]
  | marked {mark : Char} (known : (c, mark) ∈ marks delimiter) : Escapes delimiter c ['\\', mark]
  | numbered {mark : Char} {width : Nat} (known : (mark, width) ∈ widths) (fits : c.toNat < 16 ^ width) :
      Escapes delimiter c ('\\' :: mark :: hexDigits width c.toNat)

/-- Eight digits are enough for every code point. -/
theorem toNat_lt (c : Char) : c.toNat < 16 ^ 8 := by
  have valid := c.valid
  simp only [UInt32.isValidChar, Nat.isValidChar] at valid
  change c.val.toNat < 16 ^ 8
  omega

theorem escapes_escapeByNumber (delimiter c : Char) : Escapes delimiter c (escapeByNumber c) := by
  rw [escapeByNumber]
  split_ifs with short medium
  · exact .numbered (by decide) short
  · exact .numbered (by decide) medium
  · exact .numbered (by decide) (toNat_lt c)

theorem escapes_escape (delimiter c : Char) : Escapes delimiter c (escape delimiter c) := by
  rw [escape]
  split_ifs with special tab feed carriageReturn unprintable
  · rcases special with rfl | rfl <;> exact .marked (by simp [marks])
  · exact .marked (by simp [marks, tab])
  · exact .marked (by simp [marks, feed])
  · exact .marked (by simp [marks, carriageReturn])
  · exact escapes_escapeByNumber delimiter c
  · obtain ⟨notDelimiter, notBackslash⟩ := not_or.mp special
    exact .plain notDelimiter notBackslash

namespace Escapes

theorem append_ne_cons (quotes : delimiter ∈ delimiters) (escapes : Escapes delimiter c text) :
    text ++ tail ≠ delimiter :: rest := by
  intro same
  cases escapes with
  | plain notDelimiter => exact notDelimiter (List.cons.inj same).1
  | marked | numbered => exact backslash_ne_delimiter quotes (List.cons.inj same).1

/-- What a text begins with is the escape of one character. -/
theorem append_inj (quotes : delimiter ∈ delimiters) (first : Escapes delimiter c text)
    (second : Escapes delimiter d other) (same : text ++ tail = other ++ rest) : c = d ∧ tail = rest := by
  cases first with
  | plain _ notBackslash =>
    cases second with
    | plain => exact List.cons.inj same
    | marked | numbered => exact absurd (List.cons.inj same).1 notBackslash
  | marked known =>
    simp only [List.cons_append, List.nil_append] at same
    cases second with
    | plain _ notBackslash => exact absurd (List.cons.inj same).1.symm notBackslash
    | marked knownOther =>
      obtain ⟨rfl, behind⟩ := List.cons.inj (List.cons.inj same).2
      exact ⟨eq_of_mem_marks quotes known knownOther, behind⟩
    | numbered knownOther =>
      obtain ⟨rfl, _⟩ := List.cons.inj (List.cons.inj same).2
      exact absurd knownOther (not_mem_widths quotes known)
  | numbered known fits =>
    simp only [List.cons_append] at same
    cases second with
    | plain _ notBackslash => exact absurd (List.cons.inj same).1.symm notBackslash
    | marked knownOther =>
      obtain ⟨rfl, _⟩ := List.cons.inj (List.cons.inj same).2
      exact absurd known (not_mem_widths quotes knownOther)
    | numbered knownOther fitsOther =>
      obtain ⟨rfl, digits⟩ := List.cons.inj (List.cons.inj same).2
      obtain rfl := eq_of_mem_widths quotes known knownOther
      obtain ⟨number, behind⟩ := List.append_inj digits (by simp only [length_hexDigits])
      exact ⟨Char.toNat_inj.mp (hexDigits_inj fits fitsOther number), behind⟩

end Escapes

/-- The first delimiter that is not part of an escape ends the text. -/
theorem flatMap_escape_append_inj (quotes : delimiter ∈ delimiters)
    (same : text.flatMap (escape delimiter) ++ delimiter :: tail =
      other.flatMap (escape delimiter) ++ delimiter :: rest) : text = other ∧ tail = rest := by
  induction text generalizing other with
  | nil =>
    cases other with
    | nil => exact ⟨rfl, (List.cons.inj same).2⟩
    | cons d other =>
      rw [List.flatMap_cons, List.append_assoc] at same
      exact absurd same.symm ((escapes_escape delimiter d).append_ne_cons quotes)
  | cons c text ih =>
    rw [List.flatMap_cons, List.append_assoc] at same
    cases other with
    | nil => exact absurd same ((escapes_escape delimiter c).append_ne_cons quotes)
    | cons d other =>
      rw [List.flatMap_cons, List.append_assoc] at same
      obtain ⟨rfl, later⟩ :=
        (escapes_escape delimiter c).append_inj quotes (escapes_escape delimiter d) same
      obtain ⟨rfl, behind⟩ := ih later
      exact ⟨rfl, behind⟩

/-- A quoted text and what is behind it can be told from the whole. -/
theorem quote_append_inj {first second : String}
    (same : (quote first).toList ++ tail = (quote second).toList ++ rest) : first = second ∧ tail = rest := by
  simp only [quote, String.toList_ofList, quoteChars, List.cons_append, List.append_assoc,
    List.nil_append] at same
  obtain ⟨delimiter, inner⟩ := List.cons.inj same
  rw [← delimiter] at inner
  obtain ⟨characters, behind⟩ := flatMap_escape_append_inj (delimiterFor_mem _) inner
  exact ⟨String.toList_inj.mp characters, behind⟩

end Reckoner.Text
