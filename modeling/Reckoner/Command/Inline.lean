import Reckoner.Command.Outcome

/-! # The command that takes the expression as its argument

An expression may start with a minus sign, so a word that looks like an option but is none is the
expression. `--tree` asks for the tree instead of the value, `--help` is answered with the synopsis,
and after `--` every word is taken as it is.
-/

namespace Reckoner.Command.Inline

structure Words where
  operands : List String
  tree : Bool
  help : Bool
deriving DecidableEq, Repr

/-- The word is this option with a value attached to it. -/
def attachesValue (option word : String) : Bool :=
  (option.toList ++ ['=']).isPrefixOf word.toList

/-- Reads the words of a command line; none if a value is attached to an option, since no option takes
one. -/
def Words.scan? (words : Words) : List String → Option Words
  | [] => some words
  | word :: rest =>
    if word = "--" then some { words with operands := words.operands ++ rest }
    else if word = "--tree" then { words with tree := true }.scan? rest
    else if word = "--help" then { words with help := true }.scan? rest
    else if attachesValue "--tree" word || attachesValue "--help" word then none
    else { words with operands := words.operands ++ [word] }.scan? rest

/-- What is printed about an expression: its tree, which is not evaluated, or else its value. -/
def answerText (tree : Bool) (expression : String) : Except CalcError String := do
  let parsed ← (parse expression).mapError .parse
  if tree then parsed.render.mapError .render
  else return Decimal.write (← valueOf expression parsed)

def answer (tree : Bool) (expression : String) : Outcome :=
  match answerText tree expression with
  | .ok text => .printed (text ++ "\n")
  | .error error => .mistake error

def synopsis : String := "[--tree] [--] EXPRESSION"

def run (arguments : List String) : Outcome :=
  match Words.scan? ⟨[], false, false⟩ arguments with
  | some ⟨_, _, true⟩ => .help synopsis
  | some ⟨[expression], tree, false⟩ => answer tree expression
  | _ => .misuse synopsis

end Reckoner.Command.Inline
