import Prospectus.Text.Lowercase
import Prospectus.Text.Occurrence
import Prospectus.Walk
import Prospectus.Window

/-!
# Bold text

A classifier decides from a font's name and weight whether its text is bold.
`boldText` joins the bold runs of a window of pages; the first bold run of a
page starts a new line.
-/

namespace Prospectus

/-- Decides from a font's name and weight whether it is bold. -/
structure Classifier where
  isBold : String → Option Float32 → Bool

namespace Classifier

/-- The weight from which on a font is bold, unless asked otherwise. -/
def defaultThreshold : Float32 := 600.0

/-- A font is bold if its name says so, in any case of letters, or if its weight
reaches the threshold. -/
def byStyle (threshold : Float32) : Classifier where
  isBold font weight :=
    Text.contains (Text.lowercase font) "bold" ||
      match weight with
      | some w => w ≥ threshold
      | none => false

/-- The usual classifier. -/
def standard : Classifier := byStyle defaultThreshold

end Classifier

/-- Bold text collected so far. -/
structure BoldText where
  text : Joiner := Joiner.empty
  /-- The number of runs kept. -/
  kept : Nat := 0
  /-- Whether no run of the current page has been kept. -/
  pageFresh : Bool := false

namespace BoldText

/-- Adds a bold run. -/
def keep (b : BoldText) (run : Run) : BoldText :=
  let text := if b.pageFresh then b.text.breakLine else b.text
  ⟨text.push run, b.kept + 1, false⟩

/-- The visitor that collects bold runs. -/
def collector (c : Classifier) : Visitor BoldText where
  pageStart _ b := (.proceed, { b with pageFresh := true })
  visit _ run b :=
    (.proceed, if c.isBold run.font run.weight then b.keep run else b)

/-- Collects the bold runs of a window. -/
def collect (c : Classifier) (source : PageSource) (w : Window) :
    BoldText × Except Error Unit :=
  (collector c).walk source w.first w.last {}

end BoldText

/-- The bold text of a window of pages; empty without a window. -/
def boldText (c : Classifier) (source : PageSource) :
    Option Window → Except Error String
  | none => .ok ""
  | some w =>
    match BoldText.collect c source w with
    | (b, .ok ()) => .ok b.text.text
    | (_, .error e) => .error e

end Prospectus
