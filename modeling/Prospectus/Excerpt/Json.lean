import Prospectus.Excerpt
import Prospectus.Json.Writer

/-!
# Excerpts as JSON

An excerpt is written with its page and its window, which is null when no page
of the document lies in it.
-/

namespace Prospectus

open Json

/-- A window as a value. -/
def Window.toJson (w : Window) : Value :=
  .record [("first", .int w.first.toNat), ("last", .int w.last.toNat)]

/-- An excerpt as a value. -/
def Excerpt.toJson (x : Excerpt) : Value :=
  .record [("topic", .text x.topic), ("page", .int x.page.toInt),
    ("window", (x.window.map (·.toJson)).getD .null), ("text", .text x.text)]

/-- An excerpt as JSON text over several lines. -/
def Excerpt.json (x : Excerpt) : String := x.toJson.pretty

end Prospectus
