/-! # Log records

A record says who logged it, at which level, and what. A log kept at some level holds the records
of that level and of those above it.
-/

namespace Reckoner.Log

inductive Level where
  | debug
  | info
  | warning
  | error
deriving DecidableEq, Repr, Inhabited

namespace Level

def all : List Level := [debug, info, warning, error]

def name : Level → String
  | debug => "DEBUG"
  | info => "INFO"
  | warning => "WARNING"
  | error => "ERROR"

/-- The level with this name, in whatever case the name is written. -/
def ofName? (name : String) : Option Level :=
  all.find? fun level => level.name.toList = name.toList.map Char.toUpper

theorem ofName?_name (level : Level) : ofName? level.name = some level := by
  cases level <;> decide

def rank : Level → Nat
  | debug => 0
  | info => 1
  | warning => 2
  | error => 3

/-- A log at this level keeps the records of the other. -/
def keeps (level other : Level) : Bool := level.rank ≤ other.rank

end Level

structure Record where
  logger : String
  level : Level
  message : String
deriving DecidableEq, Repr

def Record.line (record : Record) : String :=
  record.level.name ++ ":" ++ record.logger ++ ":" ++ record.message ++ "\n"

/-- The records that a log at the given level keeps, in order. -/
def keep (level : Level) (records : List Record) : List Record :=
  records.filter fun record => level.keeps record.level

def lines (records : List Record) : String := String.join (records.map Record.line)

end Reckoner.Log
