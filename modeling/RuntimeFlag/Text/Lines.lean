/-!
# Lines of a text

A line ends at a line feed, and a carriage return right before that line feed belongs to the line
end. A text that ends in a line feed has no further empty line; the empty text has no line at all.
-/
namespace RuntimeFlag.Text

/-- A line that a line feed ended, without the carriage return before it. -/
def endedLine (line : List Char) : List Char :=
  if line.getLast? = some '\r' then line.dropLast else line

/-- The lines of a text, given the characters already read of the first one, the last one first. -/
def linesFrom (read : List Char) : List Char → List (List Char)
  | [] => if read.isEmpty then [] else [read.reverse]
  | c :: rest =>
    if c = '\n' then endedLine read.reverse :: linesFrom [] rest else linesFrom (c :: read) rest

/-- The lines of a text without their line ends. -/
def lines (s : String) : List String :=
  (linesFrom [] s.toList).map String.ofList

/-- The parts of a text between line feeds; there is one more part than line feeds. -/
def splitAtFeeds (s : String) : List String :=
  (s.toList.splitOn '\n').map String.ofList

end RuntimeFlag.Text
