/-!
Texts cut into lines. A line ends at a line feed, or at a carriage return and a line feed; what
follows the last line feed is a line only if it is not empty.
-/
namespace LabelQuery.Text

/-- Cuts at every `mark`: one piece more than there are marks. -/
def cutAt (mark : Char) : List Char → List (List Char)
  | [] => [[]]
  | c :: rest =>
    if c = mark then [] :: cutAt mark rest
    else
      match cutAt mark rest with
      | [] => [[c]]
      | piece :: pieces => (c :: piece) :: pieces

def dropReturn (line : List Char) : List Char :=
  if line.getLast? = some '\r' then line.dropLast else line

/-- The lines among the pieces between line feeds: the last piece has no line feed after it, so it
keeps its carriage return and counts only if something stands in it. -/
def endLines : List (List Char) → List (List Char)
  | [] => []
  | [last] => if last.isEmpty then [] else [last]
  | piece :: pieces => dropReturn piece :: endLines pieces

def lines (text : String) : List String :=
  (endLines (cutAt '\n' text.toList)).map String.ofList

end LabelQuery.Text
