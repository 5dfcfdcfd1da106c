import Reckoner.Proofs.Diagnostic.Lines

/-! # The parts of a diagnostic

What is said about a place in a source consists of a line, a column and a message, and can be taken
apart again: the line has no line feed, so it ends at the first one, and the margin has no caret, so it
ends at the first one below the line. A location is only kept up to the ends of the line, and of a
source only its first line is kept (`points_iff`). For a diagnostic with a source, nothing is dropped
but the line feeds at the end.
-/

namespace Reckoner

namespace Text

variable {line other text : List Char}

/-- Every part without line breaks at the beginning of a text belongs to the first line. -/
theorem OneLine.prefix_firstLine (plain : OneLine line) (begins : line <+: text) : line <+: firstLine text := by
  obtain ⟨rest, rfl⟩ := begins
  rw [plain.firstLine_append]
  exact List.prefix_append ..

/-- What is dropped at the end of a text are line feeds, and none is left there. -/
theorem exists_trimNewlines (text : List Char) :
    ∃ feeds, text = trimNewlines text ++ List.replicate feeds '\n' ∧
      (trimNewlines text).getLast? ≠ some '\n' := by
  have dropped : text.rtakeWhile (· = '\n') =
      List.replicate (text.rtakeWhile (· = '\n')).length '\n' := by
    apply List.eq_replicate_of_mem
    intro c member
    simpa using List.mem_rtakeWhile_imp member
  rw [trimNewlines_eq_rdropWhile]
  refine ⟨(text.rtakeWhile (· = '\n')).length, ?_, ?_⟩
  · rw [← dropped, List.rdropWhile_append_rtakeWhile]
  · intro last
    have nonempty := List.ne_nil_of_mem (List.mem_of_getLast? last)
    rw [List.getLast?_eq_some_getLast nonempty] at last
    apply List.rdropWhile_last_not _ _ nonempty
    simpa using last

end Text

/-- The margin before a caret tells its column. -/
theorem margin_append_inj {column other : Nat} {tail rest : List Char}
    (same : List.replicate column ' ' ++ '^' :: tail = List.replicate other ' ' ++ '^' :: rest) :
    column = other ∧ tail = rest := by
  induction column generalizing other with
  | zero =>
    cases other with
    | zero => exact ⟨rfl, (List.cons.inj same).2⟩
    | succ other => simp [List.replicate_succ] at same
  | succ column ih =>
    cases other with
    | zero => simp [List.replicate_succ] at same
    | succ other =>
      rw [List.replicate_succ, List.replicate_succ] at same
      obtain ⟨rfl, behind⟩ := ih (List.cons.inj same).2
      exact ⟨rfl, behind⟩

theorem caretLine_inj {column other : Nat} {message second : String}
    (same : caretLine column message = caretLine other second) : column = other ∧ message = second := by
  obtain ⟨columns, behind⟩ := margin_append_inj same
  exact ⟨columns, String.toList_inj.mp (List.cons.inj behind).2⟩

/-- What a diagnostic shows of a source and a location: the longest part at the beginning of the source
that has no line break, and the location, moved to the nearer end of this line if it is outside. -/
structure Points (source : String) (location : Int) (line : List Char) (column : Nat) : Prop where
  begins : line <+: source.toList
  oneLine : Text.OneLine line
  longest : ∀ other, other <+: source.toList → Text.OneLine other → other <+: line
  clamped : (column : Int) = max 0 (min location line.length)

variable {source otherSource : String} {location otherLocation : Int} {line otherLine : List Char}
variable {column otherColumn : Nat}

theorem points_iff :
    Points source location line column ↔
      line = Text.firstLine source.toList ∧ column = caretColumn line.length location := by
  have column_iff : (column : Int) = max 0 (min location line.length) ↔
      column = caretColumn line.length location := by
    rw [caretColumn]
    omega
  constructor
  · rintro ⟨begins, oneLine, longest, clamped⟩
    refine ⟨?_, column_iff.mp clamped⟩
    have whole : Text.firstLine source.toList <+: line :=
      longest _ (List.takeWhile_prefix _) (Text.oneLine_firstLine _)
    exact (oneLine.prefix_firstLine begins).eq_of_length_le whole.length_le
  · rintro ⟨rfl, clamped⟩
    refine ⟨List.takeWhile_prefix _, Text.oneLine_firstLine _, ?_, column_iff.mpr clamped⟩
    intro other begins plain
    exact plain.prefix_firstLine begins

theorem exists_points (source : String) (location : Int) :
    ∃ line column, Points source location line column :=
  ⟨_, _, points_iff.mpr ⟨rfl, rfl⟩⟩

namespace Points

theorem toList_caretText (points : Points source location line column) (message : String) :
    (caretText source location message).toList = line ++ '\n' :: caretLine column message ++ ['\n'] := by
  obtain ⟨rfl, rfl⟩ := points_iff.mp points
  exact Reckoner.toList_caretText source location message

theorem caretText_inj {message other : String} (points : Points source location line column)
    (pointsOther : Points otherSource otherLocation otherLine otherColumn)
    (same : caretText source location message = caretText otherSource otherLocation other) :
    line = otherLine ∧ column = otherColumn ∧ message = other := by
  have characters := congrArg String.toList same
  rw [points.toList_caretText, pointsOther.toList_caretText] at characters
  have whole := List.append_cancel_right characters
  have lines := congrArg Text.firstLine whole
  rw [points.oneLine.firstLine_append, pointsOther.oneLine.firstLine_append] at lines
  obtain rfl : line = otherLine := by simpa [Text.firstLine, Text.isLineBreak] using lines
  exact ⟨rfl, caretLine_inj (List.cons.inj (List.append_cancel_left whole)).2⟩

end Points

/-- Whatever the source, the location and the message are, what is said are the first line of the
source, and below it the caret in the column that is nearest to the location, and the message. The
line, the column and the message can be told from it, and nothing else of the source and the
location. What is said of a diagnostic with a source is the same without the line feeds at its end,
whether they are the message's own or not. -/
theorem caretText_tells_parts :
    (∀ (source : String) (location : Int) (message : String),
      ∃ line column, Points source location line column ∧
        (caretText source location message).toList =
          line ++ ['\n'] ++ List.replicate column ' ' ++ ['^', ' '] ++ message.toList ++ ['\n']) ∧
      (∀ (source otherSource : String) (location otherLocation : Int) (line otherLine : List Char)
        (column otherColumn : Nat) (message otherMessage : String),
        Points source location line column → Points otherSource otherLocation otherLine otherColumn →
          (caretText source location message = caretText otherSource otherLocation otherMessage ↔
            line = otherLine ∧ column = otherColumn ∧ message = otherMessage)) ∧
      ∀ (diagnostic : Diagnostic) (source : String), diagnostic.source = some source →
        ∃ feeds, (caretText source diagnostic.location diagnostic.message).toList =
            diagnostic.text.toList ++ List.replicate feeds '\n' ∧
          diagnostic.text.toList.getLast? ≠ some '\n' := by
  refine ⟨?_, ?_, ?_⟩
  · intro source location message
    obtain ⟨line, column, points⟩ := exists_points source location
    refine ⟨line, column, points, ?_⟩
    rw [points.toList_caretText, caretLine]
    simp
  · intro source otherSource location otherLocation line otherLine column otherColumn message otherMessage
      points pointsOther
    constructor
    · exact points.caretText_inj pointsOther
    · rintro ⟨rfl, rfl, rfl⟩
      apply String.toList_inj.mp
      rw [points.toList_caretText, pointsOther.toList_caretText]
  · intro diagnostic source own
    have text : diagnostic.text.toList =
        Text.trimNewlines (caretText source diagnostic.location diagnostic.message).toList := by
      rw [Diagnostic.text, own, String.toList_ofList]
    rw [text]
    exact Text.exists_trimNewlines _

/-- Two sources with the same first line, a location far behind it, and a message that ends in line
feeds. -/
theorem caretText_tells_parts_behind_line :
    Points "7 \r\n8" 99 ['7', ' '] 2 ∧ Points "7 \u2028" 2 ['7', ' '] 2 ∧ Points "7" (-3) ['7'] 0 ∧
      caretText "7 \r\n8" 99 "so\n\n" = caretText "7 \u2028" 2 "so\n\n" ∧
      caretText "7 \r\n8" 99 "so\n\n" ≠ caretText "7" (-3) "so\n\n" ∧
      (Diagnostic.text ⟨"so\n\n", some "7 \r\n8", 99⟩).toList.getLast? ≠ some '\n' := by
  have behind : Points "7 \r\n8" 99 ['7', ' '] 2 := points_iff.mpr (by decide +kernel)
  have ended : Points "7 \u2028" 2 ['7', ' '] 2 := points_iff.mpr (by decide +kernel)
  have before : Points "7" (-3) ['7'] 0 := points_iff.mpr (by decide +kernel)
  obtain ⟨_, told, trimmed⟩ := caretText_tells_parts
  obtain ⟨_, _, last⟩ := trimmed ⟨"so\n\n", some "7 \r\n8", 99⟩ "7 \r\n8" rfl
  refine ⟨behind, ended, before, ?_, ?_, last⟩
  · exact (told _ _ _ _ _ _ _ _ _ _ behind ended).mpr ⟨rfl, rfl, rfl⟩
  · intro same
    have parts := (told _ _ _ _ _ _ _ _ _ _ behind before).mp same
    exact absurd parts.1 (by decide)

end Reckoner
