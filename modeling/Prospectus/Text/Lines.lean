/-!
# Lines of a text

A line ends at a line feed, which may have one carriage return before it; the
last line may also end with the text.  A text that ends in a line feed has no
empty line after it.
-/

namespace Prospectus.Text

/-- A finished line, given backwards, without the carriage return that belonged
to its end. -/
def closeLine : List Char → List Char
  | '\r' :: rest => rest.reverse
  | line => line.reverse

/-- The lines of the text `cs` when `line`, given backwards, has been read of
the current one. -/
def linesFrom (line : List Char) : List Char → List (List Char)
  | [] => if line.isEmpty then [] else [line.reverse]
  | c :: rest =>
    if c = '\n' then closeLine line :: linesFrom [] rest
      else linesFrom (c :: line) rest

/-- The lines of a text, without their ends. -/
def lines (s : String) : List String := (linesFrom [] s.toList).map String.ofList

end Prospectus.Text
