import Prospectus.Contents.PageNumber
import Prospectus.Error
import Prospectus.Text.Canonical
import Prospectus.Text.Lines
import Prospectus.Text.Occurrence

/-!
# Entries of a table of contents

The entry of a topic is the first line that holds it, together with the page
number on that line.  Table and topic are compared in their composed canonical
form, and errors name that form too.
-/

namespace Prospectus.Contents

/-- A line of the table of contents and the page it points to. -/
structure Entry where
  line : String
  page : Int64
deriving Repr, DecidableEq

/-- The entry of a topic. -/
def findEntry (contents topic : String) : Except Error Entry :=
  let topic := Text.composed topic
  match (Text.lines (Text.composed contents)).find? (Text.contains · topic) with
  | none => .error (.topicNotFound topic)
  | some line =>
    match pageNumber? line with
    | none => .error (.pageNumberMissing topic line)
    | some page => .ok ⟨line, page⟩

/-- The page of a topic. -/
def findPage (contents topic : String) : Except Error Int64 :=
  (findEntry contents topic).map (·.page)

end Prospectus.Contents
