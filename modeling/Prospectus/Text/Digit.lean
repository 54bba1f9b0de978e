import Prospectus.Text.Digit.Table
import Prospectus.Text.Ranges

/-!
# Decimal digits

A decimal digit may belong to any script; an ASCII digit also has a value here.
-/

namespace Prospectus.Text

/-- Whether a character is a decimal digit of some script. -/
def isDigit (c : Char) : Bool := inRanges Digit.ranges c.toNat

/-- The value of an ASCII digit. -/
def digitValue? (c : Char) : Option Nat :=
  if '0' ≤ c ∧ c ≤ '9' then some (c.toNat - '0'.toNat) else none

/-- The number written by a list of ASCII digits, most significant first; `none`
if the list is empty or holds any other character. -/
def digitsValue? : List Char → Option Nat
  | [] => none
  | cs =>
    cs.foldl (fun total c => do pure (10 * (← total) + (← digitValue? c))) (some 0)

end Prospectus.Text
