/-! # Lines of a text

A diagnostic echoes the first line of what was read, so what ends a line is fixed here: the ten
characters that end or separate lines in the Unicode standard or in ASCII. Input files use one of
three endings, of which `unifyNewlines` keeps only the line feed.
-/

namespace Reckoner.Text

/-- Line feed, the other vertical moves, the three larger ASCII separators, next line, and the
line and paragraph separators. The unit separator, U+001F, is not among them. -/
def isLineBreak (c : Char) : Bool :=
  ['\n', '\x0b', '\x0c', '\r', '\x1c', '\x1d', '\x1e', '\u0085', '\u2028', '\u2029'].contains c

/-- Everything before the first line break, or the whole text if it has none. -/
def firstLine (text : List Char) : List Char :=
  text.takeWhile fun c => !isLineBreak c

/-- Writes a line feed for each carriage return, taking a line feed that follows it along. -/
def unifyNewlines : List Char → List Char
  | [] => []
  | '\r' :: '\n' :: rest => '\n' :: unifyNewlines rest
  | '\r' :: rest => '\n' :: unifyNewlines rest
  | c :: rest => c :: unifyNewlines rest

/-- Drops the last character of the text, if it is this one. -/
def dropFinal (c : Char) (text : List Char) : List Char :=
  if text.getLast? = some c then text.dropLast else text

/-- Drops one line feed at the end of the text, and a carriage return that comes before it. -/
def dropLineEnding (text : List Char) : List Char :=
  if text.getLast? = some '\n' then dropFinal '\r' text.dropLast else text

/-- Drops all line feeds at the end of the text. -/
def trimNewlines (text : List Char) : List Char :=
  (text.reverse.dropWhile (· = '\n')).reverse

theorem isLineBreak_of_mem_firstLine {text : List Char} {c : Char} (member : c ∈ firstLine text) :
    isLineBreak c = false := by
  simpa using List.all_eq_true.mp List.all_takeWhile c member

end Reckoner.Text
