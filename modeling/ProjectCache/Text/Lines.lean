/-
# ProjectCache.Text.Lines — text cut into parts.

Characters are cut at each mark of a kind. A text has a line for each part between its line feeds; a
carriage return at the end of a line does not count.
-/
namespace ProjectCache.Text

/-- Cuts characters at the marks. -/
def cutAt (mark : Char) : List Char → List (List Char)
  | [] => [[]]
  | c :: cs =>
    match cutAt mark cs with
    | part :: rest => if c = mark then [] :: part :: rest else (c :: part) :: rest
    | [] => [[c]]

/-- A line without the carriage return at its end. -/
def dropReturn (line : List Char) : List Char :=
  if line.getLast? = some '\r' then line.dropLast else line

/-- The lines of a text. -/
def lines (text : String) : List String :=
  (cutAt '\n' text.toList).map fun line => String.ofList (dropReturn line)

/-- The first line of a text. -/
def firstLine (text : String) : String := ((lines text).head?).getD ""

end ProjectCache.Text
