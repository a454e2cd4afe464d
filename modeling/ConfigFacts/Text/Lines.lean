/-!
# Lines

A line ends at a line feed, and one carriage return before the line feed belongs to the ending.
What follows the last line feed is a line of its own unless it is empty.
-/

namespace ConfigFacts.Text

/-- A line without the carriage return of its ending. -/
def dropReturn (line : List Char) : List Char :=
  if line.getLast? = some '\r' then line.dropLast else line

/-- The lines of a text, without their endings. -/
def lines (s : List Char) : List (List Char) :=
  let pieces := s.splitOn '\n'
  let rest := pieces.getLast?.getD []
  pieces.dropLast.map dropReturn ++ if rest.isEmpty then [] else [rest]

end ConfigFacts.Text
