import Prospectus.Run

/-!
# Joining runs into text

Runs are joined in order.  A run whose baseline lies away from that of the run
before it starts a new line, unless the text already ends one.
-/

namespace Prospectus

/-- The text joined so far, and the baseline of the last run since the last
forced break. -/
structure Joiner where
  text : String
  lastY : Option Float32

namespace Joiner

/-- Nothing joined yet. -/
def empty : Joiner := ⟨"", none⟩

/-- Whether the text ends in a line feed. -/
def atLineStart (j : Joiner) : Bool := j.text.toList.getLast? = some '\n'

/-- Whether a baseline lies away from that of the last run. -/
def leavesLine (j : Joiner) (y : Float32) : Bool :=
  match j.lastY with
  | some last => (last - y).abs > baselineTolerance
  | none => false

/-- Adds a run. -/
def push (j : Joiner) (run : Run) : Joiner :=
  let text := if j.leavesLine run.y && !j.atLineStart then j.text ++ "\n"
    else j.text
  ⟨text ++ run.text, some run.y⟩

/-- Ends the current line, if there is one; the next run is placed without
looking at its baseline. -/
def breakLine (j : Joiner) : Joiner :=
  ⟨if !j.text.isEmpty && !j.atLineStart then j.text ++ "\n" else j.text, none⟩

/-- Whether no text has been joined. -/
def isEmpty (j : Joiner) : Bool := j.text.isEmpty

end Joiner

/-- The text of a sequence of runs. -/
def plainText (runs : List Run) : String :=
  (runs.foldl Joiner.push Joiner.empty).text

end Prospectus
