import Prospectus.Bold
import Prospectus.Contents.Entry
import Prospectus.Contents.Locator

/-!
# Excerpts

The excerpt of a topic is the bold text around the page at which the table of
contents lists the topic.
-/

namespace Prospectus

/-- How excerpts are taken. -/
structure Extractor where
  locator : Contents.Locator := {}
  pagesBefore : UInt32 := Window.defaultBefore
  pagesAfter : UInt32 := Window.defaultAfter
  classifier : Classifier := Classifier.standard

/-- The bold text for a topic, with the page and the window it comes from. -/
structure Excerpt where
  topic : String
  page : Int64
  window : Option Window
  text : String
deriving Repr, DecidableEq

namespace Extractor

/-- The window around a page. -/
def window (x : Extractor) (page : Int64) (count : UInt32) : Option Window :=
  Window.around page x.pagesBefore x.pagesAfter count

/-- The excerpt for a topic. -/
def extract (x : Extractor) (source : PageSource) (topic : String) :
    Except Error Excerpt := do
  let contents ← x.locator.locate source
  let page ← Contents.findPage contents topic
  let window := x.window page source.pageCount
  let text ← boldText x.classifier source window
  return ⟨topic, page, window, text⟩

/-- The extractor's settings in words. -/
def text (x : Extractor) : String :=
  "TopicExtractor \x7b locator: TocLocator \x7b marker: " ++
    Text.quoted x.locator.marker ++
    ", page_limit: " ++ toString x.locator.pageLimit ++
      " \x7d, pages_before: " ++ toString x.pagesBefore ++
    ", pages_after: " ++ toString x.pagesAfter ++ ", .. \x7d"

end Extractor

end Prospectus
