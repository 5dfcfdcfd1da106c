import Reckoner.Command.Batch
import Reckoner.Command.Inline

/-! # The program

One program holds both commands. Called by a name that ends in `-expr` it takes the expression as
its argument; by any other name it reads a file.
-/

namespace Reckoner.Command

/-- All of a stream, line by line. -/
partial def readAll (stream : IO.FS.Stream) (before : String) : IO String := do
  let line ← stream.getLine
  if line.isEmpty then return before else readAll stream (before ++ line)

/-- The text of a file; none if it cannot be read. -/
def readFile? (name : String) : IO (Option String) :=
  try return some (← IO.FS.readFile name)
  catch _ => return none

/-- Writes the file of an outcome; an outcome whose file cannot be written turns into one without. -/
def write (outcome : Outcome) : IO Outcome := do
  match outcome.file with
  | none => return outcome
  | some (name, text) =>
    try
      IO.FS.writeFile name text
      return outcome
    catch failure => return outcome.unopened (toString failure)

/-- Carries out what a command decided. -/
def perform (planned : Outcome) : IO UInt32 := do
  let outcome ← write planned
  (← IO.getStderr).putStr outcome.stderr
  (← IO.getStdout).putStr outcome.stdout
  return outcome.exitCode.toUInt32

/-- What `Batch.run` will ask about the files that a request names. -/
def lookAhead (request : Batch.Request) : IO Files := do
  let text ← if request.input = "-" then pure none else readFile? request.input
  let here ← IO.currentDir
  let asked : List String := [request.output, Files.directoryOf request.output]
  let directories ← asked.filterM fun (name : String) => (here / name).isDir
  return ⟨fun _ => text, directories.contains⟩

def runBatch (arguments : List String) : IO UInt32 := do
  let level ← IO.getEnv Batch.levelVariable
  match Batch.Request.ofArguments? arguments level with
  | none => perform (Batch.run arguments level "" ⟨fun _ => none, fun _ => false⟩)
  | some request =>
    let stdin ← if request.input = "-" then readAll (← IO.getStdin) "" else pure ""
    perform (Batch.run arguments level stdin (← lookAhead request))

end Reckoner.Command

open Reckoner.Command

def main (arguments : List String) : IO UInt32 := do
  let name := (← IO.appPath).fileStem.getD ""
  if "-expr".toList.isSuffixOf name.toList then perform (Inline.run arguments)
  else runBatch arguments
