import Reckoner.Command.Files
import Reckoner.Command.Outcome

/-! # The command that reads a file

The command takes at most one operand, the name of the file that holds the expression, and reads
standard input without one. `--output` or `-o` names a file for the result, and `--log-level` or
else an environment variable sets the level of the log. A file is named `-` to mean standard input
or output. The result file is opened only when there is a result to write. `--help` is answered with
the synopsis, whatever else is asked for.
-/

namespace Reckoner.Command.Batch

inductive Flag where
  | output
  | logLevel
deriving DecidableEq, Repr

/-- How a word of the command line reads, apart from being the value of an option before it. -/
inductive Word where
  | operand (text : String)
  /-- An option, with the value that the same word attaches to it. -/
  | option (flag : Flag) (attached : Option String)
  | help
  /-- The word after which all others are operands. -/
  | terminator
  | unknown
deriving DecidableEq, Repr

/-- The value that an equals sign attaches to a long option. -/
def attachedValue : List Char → Option String
  | '=' :: value => some (String.ofList value)
  | _ => none

/-- Long options take an attached value after an equals sign, short ones at once. There is no value
for help. A hyphen alone is an operand. -/
def Word.ofString (word : String) : Word :=
  match word.toList with
  | ['-', '-'] => .terminator
  | '-' :: '-' :: long =>
    let attached := attachedValue (long.dropWhile (· ≠ '='))
    match String.ofList (long.takeWhile (· ≠ '=')) with
    | "output" => .option .output attached
    | "log-level" => .option .logLevel attached
    | "help" => if attached.isNone then .help else .unknown
    | _ => .unknown
  | ['-', 'o'] => .option .output none
  | '-' :: 'o' :: value => .option .output (some (String.ofList value))
  | '-' :: _ :: _ => .unknown
  | _ => .operand word

/-- Operands in order, the last value given for each option, and whether help is asked for. -/
structure Words where
  operands : List String
  output : Option String
  level : Option String
  help : Bool
deriving DecidableEq, Repr

def Words.set (words : Words) (value : String) : Flag → Words
  | .output => { words with output := some value }
  | .logLevel => { words with level := some value }

/-- Reads the words of a command line; none if an option is unknown or lacks its value. The word
after an option without an attached value is its value, whatever it looks like. -/
def Words.scan? (words : Words) : List String → Option Words
  | [] => some words
  | word :: rest =>
    match Word.ofString word with
    | .operand text => { words with operands := words.operands ++ [text] }.scan? rest
    | .option flag (some value) => (words.set value flag).scan? rest
    | .option flag none =>
      match rest with
      | [] => none
      | value :: rest => (words.set value flag).scan? rest
    | .help => { words with help := true }.scan? rest
    | .terminator => some { words with operands := words.operands ++ rest }
    | .unknown => none

/-- What a command line asks for. -/
structure Request where
  input : String
  output : String
  level : Log.Level
deriving DecidableEq, Repr

/-- The level named on the command line, or else in the environment, where an empty name counts for
nothing. -/
def level? (option environment : Option String) : Option Log.Level :=
  match option.or (environment.filter (· ≠ "")) with
  | some name => Log.Level.ofName? name
  | none => some .warning

def input? : List String → Option String
  | [] => some "-"
  | [name] => some name
  | _ => none

def Request.ofArguments? (arguments : List String) (environmentLevel : Option String) :
    Option Request := do
  let words ← Words.scan? ⟨[], none, none, false⟩ arguments
  guard (words.help = false)
  let input ← input? words.operands
  let level ← level? words.level environmentLevel
  return ⟨input, words.output.getD "-", level⟩

/-- Help is asked for, and the words can be read. -/
def asksHelp (arguments : List String) : Bool :=
  (Words.scan? ⟨[], none, none, false⟩ arguments).any Words.help

/-- The expression in a text: newlines are unified, and a line ending behind it belongs to the file. -/
def expressionOf (text : String) : String :=
  String.ofList (Text.dropLineEnding (Text.unifyNewlines text.toList))

/-- Where a result goes. -/
def deliver (output result : String) : Outcome :=
  if output = "-" then .printed result else .written output result

/-- What to do about a text that was read as requested. -/
def Request.answer (request : Request) (text : String) : Outcome :=
  let (value, records) := evaluateLogged request.level (expressionOf text)
  Outcome.logged records <|
    match value with
    | .ok value => deliver request.output (Decimal.write value ++ "\n")
    | .error error => .mistake error

def synopsis : String := "[--log-level LEVEL] [-o FILE] [FILE]"

/-- The variable that sets the level of the log. -/
def levelVariable : String := "PRATTCALC_LOG_LEVEL"

/-- The whole command, given standard input and the files in reach. -/
def run (arguments : List String) (environmentLevel : Option String) (stdin : String)
    (files : Files) : Outcome :=
  match Request.ofArguments? arguments environmentLevel with
  | none => if asksHelp arguments then .help synopsis else .misuse synopsis
  | some request =>
    match if request.input = "-" then some stdin else files.read? request.input with
    | none => .misuse synopsis
    | some text =>
      match files.obstacle? request.output with
      | none => request.answer text
      | some obstacle => (request.answer text).unopened obstacle.reason

end Reckoner.Command.Batch
