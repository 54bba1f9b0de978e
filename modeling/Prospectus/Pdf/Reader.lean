import Prospectus.Document
import Prospectus.Pdf.Backend

/-!
# Reading documents page by page

A reader gives the runs of a page when they are asked for, or all pages as a
document.  A strict reader passes errors on; a lenient one takes a page that
cannot be read for an empty one.
-/

namespace Prospectus.Pdf

/-- What to do about a page that cannot be read. -/
inductive Tolerance where
  | strict
  | lenient
deriving Repr, DecidableEq, Inhabited

/-- A backend that is read with some tolerance. -/
structure Reader where
  backend : Backend
  tolerance : Tolerance := .strict

namespace Reader

/-- The number of pages. -/
def pageCount (r : Reader) : UInt32 := r.backend.pages.size

/-- The runs of a page. -/
def pageRuns (r : Reader) (n : UInt32) : Except Error (List Run) :=
  match r.backend.pages.get? n with
  | none => .error (.pageOutOfRange n r.pageCount)
  | some page =>
    match r.backend.pageRuns page, r.tolerance with
    | .error _, .lenient => .ok []
    | result, _ => result

/-- The reader as a source of pages. -/
def source (r : Reader) : PageSource := ⟨r.pageCount, r.pageRuns⟩

/-- All pages as a document. -/
def document (r : Reader) : Except Error Document :=
  r.backend.pages.entries.foldlM (fun d (n, _) => do
    return d.addPage { number := n, runs := ← r.pageRuns n }) {}

end Reader

end Prospectus.Pdf
