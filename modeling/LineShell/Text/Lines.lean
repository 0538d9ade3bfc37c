import LineShell.Text.Split

/-!
Text as lines. A line ends at a newline, which takes one carriage return before it along; what
follows the last newline is a line too unless it is empty.
-/
namespace LineShell.Text

def chomp (line : List Char) : List Char :=
  if line.getLast? = some '\r' then line.dropLast else line

/-- The lines of a text whose stretches between newlines are given. -/
def linesOf (stretches : List (List Char)) : List (List Char) :=
  let last := stretches.getLast?.getD []
  stretches.dropLast.map chomp ++ if last.isEmpty then [] else [last]

def lines (text : String) : List String :=
  (linesOf (fields '\n' text.toList)).map String.ofList

end LineShell.Text
