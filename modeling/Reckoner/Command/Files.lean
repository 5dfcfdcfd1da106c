/-! # The files that a command can reach

What a command may learn about files is the text of those that can be read, and which names are
directories. That decides whether a file of a given name can be opened for writing: the name must not
be empty, the directory it is in must exist, no part of it may be too long, and it must not stand
for a directory itself.
-/

namespace Reckoner.Command

/-- Why a file cannot be opened for writing. -/
inductive Obstacle where
  | missing
  | directory
  | tooLong
deriving DecidableEq, Repr

def Obstacle.reason : Obstacle → String
  | missing => "No such file or directory"
  | directory => "Is a directory"
  | tooLong => "File name too long"

structure Files where
  read? : String → Option String
  isDirectory : String → Bool

namespace Files

def trimSlashes (name : List Char) : List Char := (name.reverse.dropWhile (· = '/')).reverse

/-- What stands before the last part of a name, up to the slash. -/
def beforeLast (name : String) : List Char :=
  ((trimSlashes name.toList).reverse.dropWhile (· ≠ '/')).reverse

/-- The part of a name after the last slash, slashes at the very end aside. -/
def lastPart (name : String) : String :=
  String.ofList ((trimSlashes name.toList).drop (beforeLast name).length)

/-- The directory that a name is in: the current one if the name has no slash, and the root if only
slashes stand before the last part. -/
def directoryOf (name : String) : String :=
  match beforeLast name, trimSlashes (beforeLast name) with
  | [], _ => "."
  | _, [] => "/"
  | _, directory => String.ofList directory

/-- A name that ends in a slash, or in one or two dots as its last part, means a directory even if
there is none. -/
def meansDirectory (name : String) : Bool :=
  name.toList.getLast? = some '/' || ["", ".", ".."].contains (lastPart name)

/-- The bytes that fit into a name, and into one part of it. -/
def nameLimit : Nat := 4095
def partLimit : Nat := 255

/-- The first obstacle to opening a file of this name for writing. -/
def obstacle? (files : Files) (name : String) : Option Obstacle :=
  if name = "" then some .missing
  else if nameLimit < name.utf8ByteSize then some .tooLong
  else if !files.isDirectory (directoryOf name) then some .missing
  else if partLimit < (lastPart name).utf8ByteSize then some .tooLong
  else if meansDirectory name || files.isDirectory name then some .directory
  else none

end Files

end Reckoner.Command
