import Reckoner.Calculator

/-! # What a command does

The effect of a command is a value: its exit code, what it prints, and the file it writes, if any.
The code is 0 for a result, 1 for a mistake in the expression or a result that cannot be written,
and 2 for a mistake in the command line.
-/

namespace Reckoner.Command

structure Outcome where
  exitCode : Nat
  stdout : String
  stderr : String
  /-- Name and text of the file that is written. -/
  file : Option (String × String)
deriving DecidableEq, Repr

namespace Outcome

def printed (stdout : String) : Outcome := ⟨0, stdout, "", none⟩

def written (name text : String) : Outcome := ⟨0, "", "", some (name, text)⟩

def mistake (error : CalcError) : Outcome := ⟨1, "", error.text ++ "\n", none⟩

/-- What is said to somebody who asks for help. -/
def help (synopsis : String) : Outcome := printed ("usage: " ++ synopsis ++ "\n")

def misuse (synopsis : String) : Outcome := ⟨2, "", "usage: " ++ synopsis ++ "\n", none⟩

/-- The records that a log kept come before everything else on standard error. -/
def logged (records : List Log.Record) (outcome : Outcome) : Outcome :=
  { outcome with stderr := Log.lines records ++ outcome.stderr }

/-- Gives up writing the file, if there is one to be written, and says why it was not opened. -/
def unopened (reason : String) (outcome : Outcome) : Outcome :=
  match outcome.file with
  | none => outcome
  | some (name, _) =>
    { outcome with
      exitCode := 1
      stderr := outcome.stderr ++
        ("Error: Could not open file " ++ Text.quote name ++ ": " ++ reason ++ "\n")
      file := none }

end Outcome

end Reckoner.Command
