import Reckoner.Command.Batch
import Reckoner.Proofs.Decimal.Numerals
import Reckoner.Proofs.Diagnostic.Marks
import Reckoner.Proofs.Evaluation.Logged
import Reckoner.Proofs.Evaluation.Sentences
import Reckoner.Proofs.Text.LineEndings

/-! # Which texts the command accepts

However a text reaches the command, what is shown of it is the result of its expression, which is the
text with unified newlines and without a line ending behind it (`Given.eq_ofResult`). The
expression is a sentence exactly if the text is this sentence with at most one line ending behind it
(`expressionOf_eq_iff`), since no sentence has a line feed or a carriage return of its own. So
the command forgives one line ending, of whichever kind, and none elsewhere.
-/

namespace Reckoner.Command

namespace Outcome

/-- What a result shows on the standard streams. -/
def ofResult : Except CalcError Int → Outcome
  | .ok value => printed (Decimal.write value ++ "\n")
  | .error error => mistake error

theorem logged_nil (outcome : Outcome) : logged [] outcome = outcome := by
  have nothing : Log.lines [] = "" := rfl
  rw [logged, nothing, String.empty_append]

/-- A file that is not to be written cannot fail to be opened. -/
theorem unopened_of_untouched {outcome : Outcome} (untouched : outcome.file = none) (reason : String) :
    unopened reason outcome = outcome := by
  rw [unopened, untouched]

theorem file_ofResult (result : Except CalcError Int) : (ofResult result).file = none := by
  cases result <;> rfl

end Outcome

namespace Batch

theorem answer_of_warning (input text : String) :
    Request.answer ⟨input, "-", .warning⟩ text = .ofResult (evaluate (expressionOf text)) := by
  have quiet : evaluateLogged .warning (expressionOf text) = (evaluate (expressionOf text), []) :=
    evaluateLogged_of_ne_debug (by decide) _
  simp only [Request.answer, quiet, Outcome.logged_nil]
  cases evaluate (expressionOf text) <;> rfl

/-- What the command does about a text that it is given on standard input or in a file, at the
default level of the log and with the result to be printed. -/
inductive Given (text : String) : Outcome → Prop
  | stdin {arguments : List String} {level : Option String} {files : Files}
      (asked : Request.ofArguments? arguments level = some ⟨"-", "-", .warning⟩) :
      Given text (run arguments level text files)
  | file {arguments : List String} {level : Option String} {stdin name : String} {files : Files}
      (asked : Request.ofArguments? arguments level = some ⟨name, "-", .warning⟩)
      (named : name ≠ "-") (read : files.read? name = some text) :
      Given text (run arguments level stdin files)

variable {text : String} {outcome : Outcome}

theorem given_stdin (text : String) (files : Files) : Given text (run [] none text files) := .stdin rfl

/-- A single word that is no option names the file. -/
theorem given_file {stdin name : String} {files : Files} (operand : Word.ofString name = .operand name)
    (named : name ≠ "-") (read : files.read? name = some text) :
    Given text (run [name] none stdin files) := by
  refine .file ?_ named read
  rw [Request.ofArguments?, Words.scan?, operand]
  rfl

/-- Help is given to whoever asks for it, whatever else the words, the environment, standard input and
the files are. -/
theorem run_of_asksHelp {arguments : List String} {level : Option String} {stdin : String} {files : Files}
    (asked : asksHelp arguments = true) : run arguments level stdin files = .help synopsis := by
  obtain ⟨words, scanned, help⟩ := (Option.any_eq_true ..).mp asked
  have none : Request.ofArguments? arguments level = none := by
    simp [Request.ofArguments?, scanned, help]
  rw [run, none]
  exact if_pos asked

/-- A word that is the value of an option does not ask for help. -/
example : asksHelp ["--help", "-o"] = false ∧ asksHelp ["-o", "--help"] = false ∧
    asksHelp ["1.txt", "2.txt", "--help"] = true := by
  decide +kernel

theorem run_of_asked {arguments : List String} {level : Option String} {stdin input : String} {files : Files}
    (asked : Request.ofArguments? arguments level = some ⟨input, "-", .warning⟩)
    (read : (if input = "-" then some stdin else files.read? input) = some text) :
    run arguments level stdin files = .ofResult (evaluate (expressionOf text)) := by
  rw [run, asked]
  simp only [read, answer_of_warning]
  split
  · rfl
  · exact Outcome.unopened_of_untouched (Outcome.file_ofResult _) _

/-- Standard input and files give the same answer. -/
theorem Given.eq_ofResult (given : Given text outcome) :
    outcome = .ofResult (evaluate (expressionOf text)) := by
  cases given with
  | stdin asked => exact run_of_asked asked (if_pos rfl)
  | file asked named read => exact run_of_asked asked ((if_neg named).trans read)

theorem toList_expressionOf (text : String) :
    (expressionOf text).toList = Text.dropLineEnding (Text.unifyNewlines text.toList) :=
  String.toList_ofList

theorem expressionOf_eq_iff {sentence : Sentence} :
    sentence.text = (expressionOf text).toList ↔
      ∃ ending ∈ Text.lineEndings, text.toList = sentence.text ++ ending := by
  have spelled : IsSentence sentence.text := ⟨sentence, rfl⟩
  rw [toList_expressionOf, eq_comm]
  exact Text.dropLineEnding_unifyNewlines_eq_iff (spelled.not_mem rfl rfl) (spelled.not_mem rfl rfl)

theorem minusRunsAtMost_expressionOf {bound : Nat} (runs : MinusRunsAtMost bound text.toList) :
    MinusRunsAtMost bound (expressionOf text).toList := by
  intro long
  rw [toList_expressionOf] at long
  exact runs (Text.replicate_infix_of_dropLineEnding (by decide) long)

/-- The text is the sentence with at most one line ending behind it, and nothing in the sentence is
divided by zero. -/
structure Contains (text : String) (sentence : Sentence) : Prop where
  spelled : ∃ ending ∈ Text.lineEndings, text.toList = sentence.text ++ ending
  defined : sentence.Defined

theorem evaluate_expressionOf_eq_ok_iff {value : Int} (runs : MinusRunsAtMost 201 text.toList) :
    evaluate (expressionOf text) = .ok value ↔
      ∃ sentence, Contains text sentence ∧ sentence.value = value := by
  rw [evaluate_eq_ok_iff (minusRunsAtMost_expressionOf runs)]
  constructor
  · rintro ⟨sentence, spelled, defined, same⟩
    exact ⟨sentence, ⟨expressionOf_eq_iff.mp spelled, defined⟩, same⟩
  · rintro ⟨sentence, ⟨spelled, defined⟩, same⟩
    exact ⟨sentence, expressionOf_eq_iff.mpr spelled, defined, same⟩

/-- The ending of the last line does not count, if the text before it does not end a line itself. -/
theorem expressionOf_append {line ending : List Char} (notFeed : line.getLast? ≠ some '\n')
    (notReturn : line.getLast? ≠ some '\r') (member : ending ∈ Text.lineEndings) :
    expressionOf (String.ofList (line ++ ending)) = String.ofList (Text.unifyNewlines line) := by
  rw [expressionOf, String.toList_ofList,
    Text.dropLineEnding_unifyNewlines_append notFeed notReturn member]

/-- The command succeeds exactly for the sentences in which nothing is divided by zero, with or
without a line ending behind them, and prints their value. About any other text it prints the
diagnostic of the mistake in the text with unified newlines, without a line ending behind it. It makes
no difference by which route the text comes, nor which line ending follows it, if any. -/
theorem run_forgives_line_ending (given : Given text outcome) (runs : MinusRunsAtMost 201 text.toList) :
    (outcome.exitCode = 0 ↔ ∃ sentence, Contains text sentence) ∧
      (∀ sentence, Contains text sentence → outcome = ⟨0, toString sentence.value ++ "\n", "", none⟩) ∧
      ((¬ ∃ sentence, Contains text sentence) →
        ∃ error diagnostic, evaluate (expressionOf text) = .error error ∧
          error.diagnostic? = some diagnostic ∧ diagnostic.source = some (expressionOf text) ∧
          outcome = ⟨1, "", diagnostic.text ++ "\n", none⟩) ∧
      (∀ other, Given text other → other = outcome) ∧
      ∀ line, line.getLast? ≠ some '\n' → line.getLast? ≠ some '\r' →
        ∀ ending ∈ Text.lineEndings, text.toList = line ++ ending →
          ∀ further ∈ Text.lineEndings, ∀ other, Given (String.ofList (line ++ further)) other →
            other = outcome := by
  have answered := given.eq_ofResult
  have accepted : ∀ sentence, Contains text sentence →
      outcome = ⟨0, toString sentence.value ++ "\n", "", none⟩ := by
    intro sentence contains
    rw [answered, (evaluate_expressionOf_eq_ok_iff runs).mpr ⟨sentence, contains, rfl⟩,
      ← Decimal.write_eq_toString]
    rfl
  have refused : (¬ ∃ sentence, Contains text sentence) →
      ∃ error diagnostic, evaluate (expressionOf text) = .error error ∧
        error.diagnostic? = some diagnostic ∧ diagnostic.source = some (expressionOf text) ∧
        outcome = ⟨1, "", diagnostic.text ++ "\n", none⟩ := by
    intro other
    cases result : evaluate (expressionOf text) with
    | ok value =>
      obtain ⟨sentence, contains, _⟩ := (evaluate_expressionOf_eq_ok_iff runs).mp result
      exact absurd ⟨sentence, contains⟩ other
    | error error =>
      obtain ⟨diagnostic, shown⟩ := exists_diagnostic_of_evaluate result
      rw [result, Outcome.ofResult, Outcome.mistake, CalcError.text_of_diagnostic shown] at answered
      exact ⟨error, diagnostic, rfl, shown, (marks_of_evaluate result shown).own, answered⟩
  refine ⟨⟨?_, ?_⟩, accepted, refused, ?_, ?_⟩
  · intro success
    by_contra other
    obtain ⟨error, _, _, _, _, failed⟩ := refused other
    rw [failed] at success
    cases success
  · rintro ⟨sentence, contains⟩
    rw [accepted sentence contains]
  · intro other same
    rw [answered, same.eq_ofResult]
  · intro line notFeed notReturn ending member whole further furtherMember other same
    have text_eq : text = String.ofList (line ++ ending) := by rw [← whole, String.ofList_toList]
    rw [answered, same.eq_ofResult, text_eq, expressionOf_append notFeed notReturn member,
      expressionOf_append notFeed notReturn furtherMember]

/-- A quotient with the endings that are forgiven, and with one line ending more. -/
theorem run_forgives_line_ending_quotient :
    MinusRunsAtMost 201 "7/-2\r\n".toList ∧
      run [] none "7/-2\r\n" ⟨fun _ => none, fun _ => false⟩ = ⟨0, "-4\n", "", none⟩ ∧
      run ["quotient.txt"] none "" ⟨fun _ => some "7/-2\r\n", fun _ => true⟩ = ⟨0, "-4\n", "", none⟩ ∧
      run [] none "7/-2\r" ⟨fun _ => none, fun _ => false⟩ = ⟨0, "-4\n", "", none⟩ ∧
      MinusRunsAtMost 201 "7/-2\r\n\n".toList ∧
      run [] none "7/-2\r\n\n" ⟨fun _ => none, fun _ => false⟩ =
        ⟨1, "", "7/-2\n    ^ unexpected '\\n'\n", none⟩ := by
  let sentence : Sentence :=
    ⟨⟨0, ['7'], by decide, by decide⟩, [(.divide, ⟨1, ['2'], by decide, by decide⟩)]⟩
  have runs : MinusRunsAtMost 201 "7/-2\r\n".toList := by decide +kernel
  have defined : ∀ item ∈ sentence.rest, item.1 = .divide → item.2.value ≠ 0 := by decide
  have contains : Contains "7/-2\r\n" sentence := ⟨⟨['\r', '\n'], by decide, by decide +kernel⟩, defined⟩
  have value : toString sentence.value = "-4" := by decide +kernel
  have file : Given "7/-2\r\n"
      (run ["quotient.txt"] none "" ⟨fun _ => some "7/-2\r\n", fun _ => true⟩) :=
    given_file (by decide +kernel) (by decide) rfl
  have other : Given (String.ofList ("7/-2".toList ++ ['\r']))
      (run [] none "7/-2\r" ⟨fun _ => none, fun _ => false⟩) := given_stdin _ _
  obtain ⟨_, shown, _, routes, endings⟩ := run_forgives_line_ending file runs
  have printed := shown sentence contains
  rw [value] at printed
  have same := endings "7/-2".toList (by decide) (by decide) ['\r', '\n'] (by decide) (by decide +kernel)
    ['\r'] (by decide) _ other
  have runsTwice : MinusRunsAtMost 201 "7/-2\r\n\n".toList := by decide +kernel
  have leftover : evaluate (expressionOf "7/-2\r\n\n") =
      .error (.parse ⟨.leftover, ⟨.illegal, "\n", 4⟩, "7/-2\n"⟩) := by decide +kernel
  have other : ¬ ∃ sentence, Contains "7/-2\r\n\n" sentence := by
    rintro ⟨sentence, contains⟩
    have accepted := (evaluate_expressionOf_eq_ok_iff runsTwice).mpr ⟨sentence, contains, rfl⟩
    cases leftover.symm.trans accepted
  obtain ⟨_, _, refused, _⟩ := run_forgives_line_ending
    (given_stdin "7/-2\r\n\n" ⟨fun _ => none, fun _ => false⟩) runsTwice
  obtain ⟨error, diagnostic, failed, told, _, twice⟩ := refused other
  obtain rfl := Except.error.inj (leftover.symm.trans failed)
  obtain rfl := Option.some.inj told
  exact ⟨runs, (routes _ (given_stdin _ _)).trans printed, printed, same.trans printed, runsTwice, twice⟩

end Batch

end Reckoner.Command
