import Prospectus.Excerpt
import Prospectus.Pdf.Reader

/-!
# Options of a batch

How topics are looked up, which model is asked, and what becomes of summaries
that are there already.
-/

namespace Prospectus.Batch

/-- What to do about a summary that is there already. -/
inductive Existing where
  | overwrite
  | skip
deriving Repr, DecidableEq, Inhabited

/-- The model that is asked unless another is named. -/
def defaultModel : String := "gemini-2.5-flash"

/-- How a batch is run. -/
structure Options where
  locator : Contents.Locator := {}
  pagesBefore : UInt32 := Window.defaultBefore
  pagesAfter : UInt32 := Window.defaultAfter
  model : String := defaultModel
  extension : String := "txt"
  existing : Existing := .overwrite
  workers : Nat := 1
  tolerance : Pdf.Tolerance := .strict

namespace Options

/-- Sets the extension of summaries, without the dots at its beginning. -/
def withExtension (o : Options) (extension : String) : Options :=
  { o with extension := String.ofList (extension.toList.dropWhile (· = '.')) }

/-- Sets the number of workers, at least one. -/
def withWorkers (o : Options) (workers : Nat) : Options :=
  { o with workers := max workers 1 }

/-- The extractor that the options ask for. -/
def extractor (o : Options) : Extractor where
  locator := o.locator
  pagesBefore := o.pagesBefore
  pagesAfter := o.pagesAfter

end Options

end Prospectus.Batch
