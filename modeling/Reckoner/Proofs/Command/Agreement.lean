import Reckoner.Command.Inline
import Reckoner.Proofs.Command.Batch
import Reckoner.Proofs.Parser.NormalForm

/-! # The two commands agree

Both commands show the result of an expression (`Outcome.ofResult`). The one takes the expression
from a word of the command line as it is, the other from a text, whose last line feed it drops. So
they agree about an expression and the text of one more line feed, unless there are carriage
returns in it, which only the text loses. Asked for the tree, the first command answers every source
that parses, and fails on any other as it does without being asked (`Inline.answer_of_refused`).
-/

namespace Reckoner

/-- The tree of an accepted source can be written, and without its parentheses and blanks the text
is the source in normal form. -/
theorem exists_render_of_parse {source : String} {tree : Expr} (accepted : parse source = .ok tree) :
    ∃ text, tree.render = .ok text ∧ Expr.flatten text = String.ofList (normalForm source.toList) := by
  have flat : tree.render.map Expr.flatten = _ := flat_of_parse accepted
  cases written : tree.render with
  | error error =>
    rw [written] at flat
    cases flat
  | ok text =>
    rw [written] at flat
    exact ⟨text, rfl, Except.ok.inj flat⟩

namespace Command

theorem Batch.expressionOf_append_feed {expression : String} (plain : '\r' ∉ expression.toList) :
    expressionOf (expression ++ "\n") = expression := by
  have feed : "\n".toList = ['\n'] := rfl
  have noReturn : '\r' ∉ expression.toList ++ ['\n'] := by simp [plain]
  rw [expressionOf, String.toList_append, feed, Text.dropLineEnding_unifyNewlines,
    Text.unifyNewlines_of_no_return noReturn, Text.dropFinal_concat, String.ofList_toList]

namespace Inline

variable {expression : String}

theorem Words.scan?_tree (words : Words) (rest : List String) :
    words.scan? ("--tree" :: rest) = { words with tree := true }.scan? rest := by
  rw [scan?, if_neg (by decide), if_pos rfl]

theorem Words.scan?_terminator (words : Words) (rest : List String) :
    words.scan? ("--" :: rest) = some { words with operands := words.operands ++ rest } := by
  rw [scan?, if_pos rfl]

/-- After the terminator even a word that looks like an option is the expression. -/
theorem run_value (expression : String) : run ["--", expression] = answer false expression := by
  rw [run, Words.scan?_terminator]
  rfl

theorem run_tree (expression : String) : run ["--tree", "--", expression] = answer true expression := by
  rw [run, Words.scan?_tree, Words.scan?_terminator]
  rfl

theorem answer_of_ok {tree : Bool} {text : String} (shown : answerText tree expression = .ok text) :
    answer tree expression = .printed (text ++ "\n") := by
  unfold answer
  rw [shown]

theorem answer_of_error {tree : Bool} {error : CalcError}
    (failed : answerText tree expression = .error error) : answer tree expression = .mistake error := by
  unfold answer
  rw [failed]

theorem answer_of_refused {error : ParseError} (refused : parse expression = .error error) (tree : Bool) :
    answer tree expression = .mistake (.parse error) := by
  apply answer_of_error
  rw [answerText, refused]
  rfl

/-- The tree is shown whether it has a value or not. -/
theorem answer_tree_of_parse {tree : Expr} (accepted : parse expression = .ok tree) :
    ∃ text, tree.render = .ok text ∧ Expr.flatten text = String.ofList (normalForm expression.toList) ∧
      answer true expression = ⟨0, text ++ "\n", "", none⟩ := by
  obtain ⟨text, written, flat⟩ := exists_render_of_parse accepted
  have shown : answerText true expression = tree.render.mapError .render := by
    rw [answerText, accepted]
    rfl
  rw [written] at shown
  exact ⟨text, written, flat, answer_of_ok shown⟩

theorem answerText_value (expression : String) :
    answerText false expression = (evaluate expression).map Decimal.write := by
  rw [answerText, evaluate_eq_bind]
  cases parse expression with
  | error error => rfl
  | ok tree => exact bind_pure_comp Decimal.write (valueOf expression tree)

/-- The value is shown as by the other command. -/
theorem answer_value (expression : String) :
    answer false expression = .ofResult (evaluate expression) := by
  have shown := answerText_value expression
  cases result : evaluate expression with
  | ok value =>
    rw [result] at shown
    exact answer_of_ok shown
  | error error =>
    rw [result] at shown
    exact answer_of_error shown

end Inline

/-- The command that reads a text shows the same for an expression and a line feed as the other one
for the expression. That one, asked for the tree, succeeds exactly if the expression parses, and
then prints the text of the tree, which is the expression in normal form with parentheses and
blanks; otherwise it shows the same as when asked for the value. -/
theorem commands_agree (expression : String) :
    ('\r' ∉ expression.toList →
      ∀ outcome, Batch.Given (expression ++ "\n") outcome → outcome = Inline.run ["--", expression]) ∧
    ((Inline.run ["--tree", "--", expression]).exitCode = 0 ↔ ∃ tree, parse expression = .ok tree) ∧
    (∀ tree, parse expression = .ok tree →
      ∃ text, tree.render = .ok text ∧
        Expr.flatten text = String.ofList (normalForm expression.toList) ∧
        Inline.run ["--tree", "--", expression] = ⟨0, text ++ "\n", "", none⟩) ∧
    ((¬ ∃ tree, parse expression = .ok tree) →
      Inline.run ["--tree", "--", expression] = Inline.run ["--", expression]) := by
  rw [Inline.run_value, Inline.run_tree]
  refine ⟨?_, ⟨?_, ?_⟩, fun tree => Inline.answer_tree_of_parse, ?_⟩
  · intro plain outcome given
    rw [given.eq_ofResult, Batch.expressionOf_append_feed plain, Inline.answer_value]
  · intro success
    cases parsed : parse expression with
    | ok tree => exact ⟨tree, rfl⟩
    | error error =>
      rw [Inline.answer_of_refused parsed] at success
      cases success
  · rintro ⟨tree, accepted⟩
    obtain ⟨text, _, _, shown⟩ := Inline.answer_tree_of_parse accepted
    rw [shown]
  · intro refused
    cases parsed : parse expression with
    | ok tree => exact absurd ⟨tree, parsed⟩ refused
    | error error => rw [Inline.answer_of_refused parsed, Inline.answer_of_refused parsed]

theorem commands_agree_division_by_zero :
    '\r' ∉ "007-8/0".toList ∧
      Batch.run [] none "007-8/0\n" ⟨fun _ => none, fun _ => false⟩ = Inline.run ["--", "007-8/0"] ∧
      (∃ text, Expr.flatten text = "7-8/0" ∧
        Inline.run ["--tree", "--", "007-8/0"] = ⟨0, text ++ "\n", "", none⟩) ∧
      Inline.run ["--tree", "--", "7-\n"] = Inline.run ["--", "7-\n"] := by
  have plain : '\r' ∉ "007-8/0".toList := by decide
  obtain ⟨tree, accepted⟩ : ∃ tree, parse "007-8/0" = .ok tree :=
    parse_of_isSentence (by decide +kernel) (by decide +kernel)
  have refused : ¬ ∃ tree, parse "7-\n" = .ok tree := by
    rintro ⟨tree, accepted⟩
    have runs : MinusRunsAtMost 201 "7-\n".toList := by decide +kernel
    obtain ⟨error, _, failed, _⟩ := parse_of_not_isSentence runs (by decide +kernel)
    cases accepted.symm.trans failed
  have normal : String.ofList (normalForm "007-8/0".toList) = "7-8/0" := by decide +kernel
  obtain ⟨value, _, shape, _⟩ := commands_agree "007-8/0"
  obtain ⟨_, _, _, failure⟩ := commands_agree "7-\n"
  obtain ⟨text, _, flat, shown⟩ := shape tree accepted
  exact ⟨plain, value plain _ (Batch.given_stdin _ _), ⟨text, flat.trans normal, shown⟩, failure refused⟩

end Command

end Reckoner
