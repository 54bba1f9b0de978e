import Prospectus.Text.Direction.Table
import Prospectus.Text.Mark

/-!
# Writing direction

A label of a name that has letters written from right to left must not change
its look with the text around it.  That is so when all its characters go with
the direction of the first one, and its last character, marks apart, holds that
direction.
-/

namespace Prospectus.Text

namespace Direction

/-- The direction of a character. -/
def ofChar (c : Char) : Direction :=
  if isNonspacing c && !leftMarks.contains c.toNat then .mark
  else match lastAtMost ranges c.toNat 0 ranges.size with
    | some (_, last, direction) => if c.toNat ≤ last then direction else .left
    | none => .left

/-- Whether a character makes a name one of two directions. -/
def runsRight (d : Direction) : Bool :=
  d = .right || d = .arabic || d = .arabicDigit

/-- Directions that go with both kinds of letters. -/
def common : List Direction :=
  [.digit, .sign, .separator, .terminator, .neutral, .boundary, .mark]

/-- Whether the characters of a label keep to one direction. -/
def agree (label : List Direction) : Bool :=
  let last := (label.reverse.dropWhile (· = .mark)).head?
  let within (allowed : List Direction) : Bool :=
    label.all fun d => allowed.contains d || common.contains d
  match label with
  | [] => true
  | .left :: _ => within [.left] && (last = some .left || last = some .digit)
  | .right :: _ | .arabic :: _ =>
    within [.right, .arabic, .arabicDigit] &&
      (last = some .right || last = some .arabic || last = some .digit ||
        last = some .arabicDigit) &&
      !(label.contains .digit && label.contains .arabicDigit)
  | _ => false

end Direction

end Prospectus.Text
