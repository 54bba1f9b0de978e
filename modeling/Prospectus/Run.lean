/-!
# Text runs

A run is a piece of text shown in one font at one place of a page.
-/

namespace Prospectus

/-- A piece of text with its font and the place of its baseline. -/
structure Run where
  text : String
  font : String
  /-- The weight that the font declares, 400 being regular and 700 bold. -/
  weight : Option Float32
  size : Float32
  x : Float32
  y : Float32
deriving Inhabited

/-- How far apart two baselines may lie and still be one line. -/
def baselineTolerance : Float32 := 1.0

/-- Whether two runs stand on one line. -/
def Run.sameLine (p q : Run) : Bool := (p.y - q.y).abs ≤ baselineTolerance

end Prospectus
