/-!
# Lines of a text

A line ends at a newline, and one carriage return right before the newline belongs to the line
end. A text that ends in a newline has no empty line after it.
-/

namespace GraphQuery.Text

def dropReturn (line : List Char) : List Char :=
  if line.getLast? = some '\r' then line.dropLast else line

def lines (s : List Char) : List (List Char) :=
  let pieces := s.splitOnP (· = '\n')
  pieces.dropLast.map dropReturn ++ (pieces.getLast?.filter (· ≠ [])).toList

example : lines "a\r\nb\rc\n\nd".toList =
    ["a".toList, "b\rc".toList, [], "d".toList] := by decide +kernel

example : lines "a\n".toList = ["a".toList] := by decide +kernel

end GraphQuery.Text
