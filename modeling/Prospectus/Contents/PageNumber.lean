import Prospectus.Number.Binary
import Prospectus.Text.Digit

/-!
# Page numbers in a line

The page number of a line is its first numeric token: digits, perhaps with a
minus sign before them and a decimal fraction after them.  A token that is a
64-bit integer stands for itself.  Any other is read as a 64-bit float, whose
fraction is cut off and which is taken to the nearer end of the range of the
64-bit integers if it lies outside.
-/

namespace Prospectus.Contents

/-- An integer as a 64-bit one, taken to the nearer end of the range if it lies
outside. -/
def saturate (i : Int) : Int64 :=
  Int64.ofInt (max Int64.minValue.toInt (min Int64.maxValue.toInt i))

/-- A numeric token: its sign, its digits, and the digits after a decimal point,
if there is one. -/
structure NumericToken where
  negative : Bool
  whole : List Char
  fraction : List Char
deriving Repr, DecidableEq

/-- The token that starts with the digits at the beginning of `cs`. -/
def NumericToken.ofDigits (negative : Bool) (cs : List Char) : NumericToken :=
  let fraction := match cs.dropWhile Text.isDigit with
    | '.' :: rest => rest.takeWhile Text.isDigit
    | _ => []
  ⟨negative, cs.takeWhile Text.isDigit, fraction⟩

/-- Whether the first character is a digit. -/
def startsWithDigit : List Char → Bool
  | c :: _ => Text.isDigit c
  | [] => false

/-- The first numeric token of a line. -/
def firstToken? : List Char → Option NumericToken
  | [] => none
  | c :: rest =>
    if c = '-' && startsWithDigit rest then some (.ofDigits true rest)
    else if Text.isDigit c then some (.ofDigits false (c :: rest))
    else firstToken? rest

/-- The integer part of the 64-bit float nearest to `a / b`. -/
def integerPart (a b : Nat) : Nat :=
  match Number.binary64.parts (Number.binary64.round a b) with
  | (m, .ofNat q) => m * Nat.pow 2 q
  | (m, .negSucc q) => m / Nat.pow 2 (q + 1)

/-- An integer with the sign of a token. -/
def NumericToken.signed (t : NumericToken) (n : Nat) : Int :=
  if t.negative then -(n : Int) else n

/-- The 64-bit integer that a token without a fraction stands for; `none` if it
is out of range. -/
def NumericToken.integer? (t : NumericToken) : Option Int64 := do
  let n ← Text.digitsValue? t.whole
  if t.fraction.isEmpty ∧ Int64.minValue.toInt ≤ t.signed n ∧
      t.signed n ≤ Int64.maxValue.toInt then
    some (Int64.ofInt (t.signed n))
  else none

/-- The integer part of a token that is read as a 64-bit float. -/
def NumericToken.truncated? (t : NumericToken) : Option Int64 := do
  let n ← Text.digitsValue? (t.whole ++ t.fraction)
  return saturate (t.signed (integerPart n (Nat.pow 10 t.fraction.length)))

/-- The page number that a token stands for, if all its digits are ASCII. -/
def NumericToken.page? (t : NumericToken) : Option Int64 :=
  t.integer?.or t.truncated?

/-- The page number of a line. -/
def pageNumber? (line : String) : Option Int64 :=
  (firstToken? line.toList).bind (·.page?)

end Prospectus.Contents
