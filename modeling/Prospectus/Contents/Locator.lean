import Prospectus.Text.Canonical
import Prospectus.Text.Occurrence
import Prospectus.Walk

/-!
# Finding the table of contents

The table of contents is the first page, up to a limit, whose text holds a
marker.  Text and marker are compared in their composed canonical form; the text
found is given as it stands on the page.
-/

namespace Prospectus.Contents

/-- What to look for, and on how many pages. -/
structure Locator where
  marker : String := "תוכן העניינים"
  pageLimit : UInt32 := 9
deriving Repr, DecidableEq, Inhabited

/-- Text of the page being read, and the page that was found. -/
structure Search where
  page : Joiner := Joiner.empty
  found : Option (UInt32 × String) := none

/-- The visitor that joins the text of each page and stops at the first that
holds the marker, which is given in composed form. -/
def searcher (marker : String) : Visitor Search where
  pageStart _ s := (.proceed, { s with page := Joiner.empty })
  visit _ run s := (.proceed, { s with page := s.page.push run })
  pageEnd n s :=
    if Text.contains (Text.composed s.page.text) marker then
      (.stop, { s with found := some (n, s.page.text) })
    else (.proceed, s)

/-- The text of the page that holds the table of contents. -/
def Locator.locate (l : Locator) (source : PageSource) : Except Error String :=
  match (searcher (Text.composed l.marker)).walk source 1 l.pageLimit {} with
  | (_, .error e) => .error e
  | (s, .ok ()) =>
    match s.found with
    | some (_, text) => .ok text
    | none => .error (.contentsNotFound l.marker (min l.pageLimit source.pageCount))

end Prospectus.Contents
