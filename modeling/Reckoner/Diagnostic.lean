import Reckoner.Text.Line

/-! # Diagnostics that point into the source

A diagnostic echoes the first line of the source and marks a place in it with a caret. A place
beyond the line is marked at the nearer end, so a caret never stands past the echoed text.
-/

namespace Reckoner

/-- The column of the caret under a line of the given length. -/
def caretColumn (length : Nat) (location : Int) : Nat := min location.toNat length

/-- The echoed line, then the caret and the message on a line of their own. -/
def caretText (source : String) (location : Int) (message : String) : String :=
  let line := Text.firstLine source.toList
  let margin := List.replicate (caretColumn line.length location) ' '
  String.ofList (line ++ '\n' :: margin) ++ "^ " ++ message ++ "\n"

/-- What is said about a mistake in an expression. -/
structure Diagnostic where
  message : String
  source : Option String
  location : Int
deriving DecidableEq, Repr

/-- The message alone if the source is unknown; else the message under the source, with no line
feed at the end, not even one of the message's own. -/
def Diagnostic.text (diagnostic : Diagnostic) : String :=
  match diagnostic.source with
  | none => diagnostic.message
  | some source =>
    String.ofList <| Text.trimNewlines <|
      (caretText source diagnostic.location diagnostic.message).toList

end Reckoner
