import Mathlib.Data.List.DropRight
import Reckoner.Diagnostic
import Reckoner.Text.Quoted

/-! # The lines of a diagnostic

`Text.splitLines` cuts a text at its line breaks, of which a carriage return with a line feed behind
it is one. A diagnostic shows the first line of its source, so no break of the source gets into it.
If its message has none either, its text has exactly two lines (`Diagnostic.splitLines_text`).
-/

namespace Reckoner

namespace Text

/-- Puts a character in front of the first line. -/
def extendFirst (c : Char) : List (List Char) → List (List Char)
  | [] => [[c]]
  | line :: lines => (c :: line) :: lines

/-- The lines of a text, without their breaks. A break at the end of the text ends the last line and
begins no other. -/
def splitLines : List Char → List (List Char)
  | [] => []
  | '\r' :: '\n' :: rest => [] :: splitLines rest
  | c :: rest => if isLineBreak c then [] :: splitLines rest else extendFirst c (splitLines rest)

/-- A text without line breaks. -/
def OneLine (text : List Char) : Prop := ∀ c ∈ text, isLineBreak c = false

instance (text : List Char) : Decidable (OneLine text) :=
  List.decidableBAll (fun c => isLineBreak c = false) text

variable {c : Char} {line rest text : List Char}

theorem OneLine.append (first : OneLine line) (second : OneLine rest) : OneLine (line ++ rest) :=
  List.forall_mem_append.mpr ⟨first, second⟩

theorem oneLine_firstLine (text : List Char) : OneLine (firstLine text) :=
  fun _ => isLineBreak_of_mem_firstLine

theorem oneLine_quote (text : String) : OneLine (quote text).toList := by
  intro c member
  rw [quote, String.toList_ofList] at member
  exact isLineBreak_of_mem_quoteChars member

/-- What comes before the first line break is the first line. -/
theorem headD_splitLines (text : List Char) : (splitLines text).headD [] = firstLine text := by
  fun_induction splitLines text with
  | case1 => rfl
  | case2 rest ih => rfl
  | case3 c rest notPair lineBreak ih =>
    rw [firstLine, List.takeWhile_cons_of_neg (by simp [lineBreak])]
    rfl
  | case4 c rest notPair plain ih =>
    rw [firstLine, List.takeWhile_cons_of_pos (by simp [plain]), ← firstLine, ← ih]
    cases splitLines rest <;> rfl

theorem splitLines_cons (plain : isLineBreak c = false) :
    splitLines (c :: rest) = extendFirst c (splitLines rest) := by
  rw [splitLines]
  · rw [plain]
    rfl
  · rintro tail rfl rfl
    cases plain

theorem splitLines_oneLine (plain : OneLine line) (nonempty : line ≠ []) : splitLines line = [line] := by
  induction line with
  | nil => contradiction
  | cons c line ih =>
    obtain ⟨first, others⟩ := List.forall_mem_cons.mp plain
    rw [splitLines_cons first]
    cases line with
    | nil => rfl
    | cons d line => rw [ih others (List.cons_ne_nil d line), extendFirst]

theorem splitLines_append_newline (plain : OneLine line) (rest : List Char) :
    splitLines (line ++ '\n' :: rest) = line :: splitLines rest := by
  induction line with
  | nil => rfl
  | cons c line ih =>
    obtain ⟨first, others⟩ := List.forall_mem_cons.mp plain
    rw [List.cons_append, splitLines_cons first, ih others, extendFirst]

/-- A part of a text without line breaks belongs to the first line. -/
theorem OneLine.firstLine_append (plain : OneLine line) (rest : List Char) :
    firstLine (line ++ rest) = line ++ firstLine rest := by
  apply List.takeWhile_append_of_pos
  simpa [OneLine] using plain

theorem OneLine.length_le_firstLine (plain : OneLine line) (rest : List Char) :
    line.length ≤ (firstLine (line ++ rest)).length := by
  rw [plain.firstLine_append, List.length_append]
  exact Nat.le_add_right ..

theorem OneLine.firstLine_eq (plain : OneLine text) : firstLine text = text :=
  List.takeWhile_eq_self_iff.mpr (by simpa [OneLine] using plain)

theorem trimNewlines_eq_rdropWhile (text : List Char) : trimNewlines text = text.rdropWhile (· = '\n') := rfl

/-- Of the line feeds around a line that is not empty, the one behind it is dropped. -/
theorem trimNewlines_append (plain : OneLine line) (nonempty : line ≠ []) (text : List Char) :
    trimNewlines (text ++ '\n' :: line ++ ['\n']) = text ++ '\n' :: line := by
  have last : line.getLast nonempty ≠ '\n' := by
    intro newline
    have := plain _ (List.getLast_mem nonempty)
    rw [newline] at this
    cases this
  rw [trimNewlines_eq_rdropWhile, List.rdropWhile_concat_pos _ _ _ (by decide), List.rdropWhile_eq_self_iff]
  intro _
  rw [List.getLast_append_of_ne_nil _ (List.cons_ne_nil _ _), List.getLast_cons nonempty]
  simpa using last

end Text

/-- The second line of a diagnostic: the caret in its column, and the message. -/
def caretLine (column : Nat) (message : String) : List Char :=
  List.replicate column ' ' ++ '^' :: ' ' :: message.toList

theorem oneLine_caretLine {message : String} (plain : Text.OneLine message.toList) (column : Nat) :
    Text.OneLine (caretLine column message) := by
  have margin : Text.OneLine (List.replicate column ' ') := by
    intro c member
    rw [List.eq_of_mem_replicate member]
    rfl
  have caret : Text.OneLine ['^', ' '] := by decide
  exact margin.append (caret.append plain)

theorem caretLine_ne_nil (column : Nat) (message : String) : caretLine column message ≠ [] := by
  simp [caretLine]

theorem toList_caretText (source : String) (location : Int) (message : String) :
    (caretText source location message).toList =
      Text.firstLine source.toList ++
        '\n' :: caretLine (caretColumn (Text.firstLine source.toList).length location) message ++ ['\n'] := by
  simp [caretText, caretLine]

namespace Diagnostic

variable {source : String} {diagnostic : Diagnostic}

/-- The first line of the source, and below it the caret and the message. -/
theorem toList_text (own : diagnostic.source = some source)
    (plain : Text.OneLine diagnostic.message.toList) :
    diagnostic.text.toList = Text.firstLine source.toList ++ '\n' ::
      caretLine (caretColumn (Text.firstLine source.toList).length diagnostic.location)
        diagnostic.message := by
  simp only [text, own]
  rw [String.toList_ofList, toList_caretText,
    Text.trimNewlines_append (oneLine_caretLine plain _) (caretLine_ne_nil _ _)]

theorem splitLines_text (own : diagnostic.source = some source)
    (plain : Text.OneLine diagnostic.message.toList) :
    Text.splitLines diagnostic.text.toList = [Text.firstLine source.toList,
      caretLine (caretColumn (Text.firstLine source.toList).length diagnostic.location)
        diagnostic.message] := by
  rw [toList_text own plain, Text.splitLines_append_newline (Text.oneLine_firstLine _),
    Text.splitLines_oneLine (oneLine_caretLine plain _) (caretLine_ne_nil _ _)]

end Diagnostic

end Reckoner
