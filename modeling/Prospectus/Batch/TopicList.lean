import Prospectus.Text.Blank
import Prospectus.Text.Lines

/-!
# Lists of topics

A list of topics has one topic a line.  Byte-order marks at the beginning,
blanks around a topic and lines without one do not count.
-/

namespace Prospectus.Batch

/-- Topics without the blanks around them, and without those that are nothing
but blanks. -/
def cleanTopics (topics : List String) : List String :=
  (topics.map Text.trim).filter (!·.isEmpty)

/-- The topics that a text lists. -/
def parseTopics (text : String) : List String :=
  cleanTopics (Text.lines (String.ofList (text.toList.dropWhile (· = '\ufeff'))))

end Prospectus.Batch
