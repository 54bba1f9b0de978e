import Prospectus.Batch.Job
import Prospectus.Excerpt.Json

/-!
# Looking things up in a catalog

The table of contents, the place of a topic, the excerpt of a topic, and what a
catalog says about itself.  Each opens the catalog first and then goes as far as
it needs to.
-/

namespace Prospectus.Command

open Storage

/-- The pages of a catalog, each of which has to be readable when it is needed. -/
def openCatalog (fs : FileSystem) (catalog : String) : Except Error PageSource :=
  (Source.openFile fs catalog).map fun file => (file.reader .strict).source

/-- The table of contents of a catalog. -/
def tableOfContents (fs : FileSystem) (catalog : String)
    (locator : Contents.Locator) : Except Error String := do
  locator.locate (← openCatalog fs catalog)

/-- The place of a topic in a catalog. -/
structure Place where
  line : String
  page : Int64
  window : Option Window
  pageCount : UInt32
deriving Repr, DecidableEq

/-- The place of a topic. -/
def findPlace (fs : FileSystem) (catalog topic : String)
    (extractor : Extractor) : Except Error Place := do
  let source ← openCatalog fs catalog
  let entry ← Contents.findEntry (← extractor.locator.locate source) topic
  return ⟨entry.line, entry.page, extractor.window entry.page source.pageCount,
    source.pageCount⟩

/-- The excerpt of a topic. -/
def findExcerpt (fs : FileSystem) (catalog topic : String)
    (extractor : Extractor) : Except Error Excerpt := do
  extractor.extract (← openCatalog fs catalog) topic

/-- What a catalog says about itself. -/
def findMetadata (fs : FileSystem) (catalog : String) : Except Error Metadata :=
  (Source.openFile fs catalog).map (·.metadata)

end Prospectus.Command
