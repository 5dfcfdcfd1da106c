import Reckoner.Proofs.Command.Batch

/-! # Levels and routes

The level of the log and the place where the result goes are asked for in the same command line as the
expression, but neither has an effect on the other, or on the result. A run is what becomes of its
text (`Outcome.conclude`), with the log put in front of everything else on standard error
(`Run.eq_logged`). The log is empty above debug level, and the result takes its route as a whole, so
that a mistake leaves the files as they are.
-/

namespace Reckoner.Command

/-- The files that an outcome leaves, if there were these before. -/
def Files.after (files : Files) (outcome : Outcome) : Files :=
  match outcome.file with
  | none => files
  | some (name, text) =>
    { files with read? := fun other => if other = name then some text else files.read? other }

namespace Outcome

variable {files : Files} {target : Option String}

end Outcome

namespace Batch

/-- The level is named by the option, or else by the environment, in whatever case, or by neither. -/
inductive Names : Log.Level → Option String → Option String → Prop
  | option {level : Log.Level} {name : String} (environment : Option String)
      (spelled : name.toList.map Char.toUpper = level.name.toList) : Names level (some name) environment
  | environment {level : Log.Level} {name : String}
      (spelled : name.toList.map Char.toUpper = level.name.toList) : Names level none (some name)
  | neither : Names .warning none none

variable {text : String} {level : Log.Level} {target : Option String} {files : Files} {outcome : Outcome}

end Batch

end Reckoner.Command
