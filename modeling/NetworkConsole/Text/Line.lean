/-! Lines of a text. A line feed ends a line, together with a carriage return directly before it;
what follows the last line feed is a line of its own unless it is empty. -/
namespace NetworkConsole.Text

/-- Removes one carriage return at the end. -/
def dropReturn (line : List Char) : List Char :=
  if line.getLast? = some '\r' then line.dropLast else line

/-- Lines from the pieces between line feeds: all but the last piece are ended lines. -/
def linesOfPieces : List (List Char) → List (List Char)
  | [] => []
  | [last] => if last.isEmpty then [] else [last]
  | piece :: next :: rest => dropReturn piece :: linesOfPieces (next :: rest)

def lines (text : String) : List String :=
  (linesOfPieces (text.toList.splitOn '\n')).map String.ofList

/-- Each line with a line feed after it. -/
def unlines (lines : List String) : String := String.join (lines.map (· ++ "\n"))

end NetworkConsole.Text
