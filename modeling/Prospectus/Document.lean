import Prospectus.Error
import Prospectus.Joiner
import Prospectus.Time.Moment

/-!
# Documents

A page is a numbered list of runs; a document is a list of pages with metadata.
Pages are numbered from one by their place.  A `PageSource` is anything whose
pages can be read by number, a document being one.
-/

namespace Prospectus

/-- A page of text. -/
structure Page where
  number : UInt32
  runs : List Run
deriving Inhabited

namespace Page

/-- Adds a run at the end of the page. -/
def addRun (page : Page) (run : Run) : Page :=
  { page with runs := page.runs ++ [run] }

/-- The page's text. -/
def plainText (page : Page) : String := Prospectus.plainText page.runs

end Page

/-- What a document says about itself. -/
structure Metadata where
  title : Option String := none
  author : Option String := none
  creator : Option String := none
  producer : Option String := none
  created : Option Time.Moment := none
  formatVersion : String := ""
  pageCount : UInt32 := 0
  encrypted : Bool := false
deriving Repr, DecidableEq, Inhabited

/-- Pages in order, with metadata. -/
structure Document where
  metadata : Metadata := {}
  pages : List Page := []
deriving Inhabited

/-- A document whose pages can be counted and read by number. -/
structure PageSource where
  pageCount : UInt32
  pageRuns : UInt32 → Except Error (List Run)

namespace Document

/-- The number of pages. -/
def pageCount (d : Document) : UInt32 := d.pages.length.toUInt32

/-- Adds a page at the end, numbered by its place. -/
def addPage (d : Document) (page : Page) : Document :=
  let pages := d.pages ++ [{ page with number := d.pageCount + 1 }]
  { metadata := { d.metadata with pageCount := pages.length.toUInt32 }, pages }

/-- The document with the given pages, numbered by their places. -/
def ofPages (pages : List Page) : Document := pages.foldl addPage {}

/-- The page with the given number, counting from one. -/
def page? (d : Document) (n : UInt32) : Option Page :=
  if n = 0 then none else d.pages[n.toNat - 1]?

/-- The runs of the page with the given number. -/
def pageRuns (d : Document) (n : UInt32) : Except Error (List Run) :=
  match d.page? n with
  | some page => .ok page.runs
  | none => .error (.pageOutOfRange n d.pageCount)

/-- The document as a source of pages. -/
def source (d : Document) : PageSource := ⟨d.pageCount, d.pageRuns⟩

/-- How the document is named in messages. -/
def describe (d : Document) : String :=
  "in-memory document (" ++ toString d.pageCount ++ " pages)"

end Document

end Prospectus
