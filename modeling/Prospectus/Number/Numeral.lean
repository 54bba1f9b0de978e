import Prospectus.Number.Shortest
import Prospectus.Text.Digit

/-!
# Numerals

A numeral is a decimal number as it is written: a sign, digits, digits after a
point, an exponent.  This module writes 32-bit floats as the shortest numerals
that read back, and reads numerals as floats.

Reading goes through a 64-bit significand: digits that would take it past
`2 ^ 64` are dropped, those before the point being made up for by the exponent.
The significand is then multiplied or divided by a power of ten in 64-bit
arithmetic.
-/

namespace Prospectus.Number

/-- A decimal number as it is written. -/
structure Numeral where
  negative : Bool := false
  whole : List Char
  fraction : List Char := []
  /-- The exponent, if one is written: whether it is negative, and its digits. -/
  exponent : Option (Bool × List Char) := none
deriving Repr, DecidableEq

namespace Numeral

/-- The numeral of an integer. -/
def ofInt (i : Int) : Numeral :=
  { negative := i < 0, whole := Nat.toDigits 10 i.natAbs }

/-- The characters of a numeral; an exponent has its sign, also if that is a
plus. -/
def chars (n : Numeral) : List Char :=
  (if n.negative then ['-'] else []) ++ n.whole ++
    (if n.fraction.isEmpty then [] else '.' :: n.fraction) ++
    match n.exponent with
    | none => []
    | some (negative, digits) => 'e' :: (if negative then '-' else '+') :: digits

/-- Whether the numeral is written without a point and an exponent. -/
def isInteger (n : Numeral) : Bool := n.fraction.isEmpty && n.exponent.isNone

/-- The largest significand. -/
def maxSignificand : Nat := 0xFFFFFFFFFFFFFFFF

/-- Adds digits to a significand as long as it stays in range; with the number
of digits left over. -/
def accumulate (significand : Nat) : List Char → Nat × Nat
  | [] => (significand, 0)
  | c :: rest =>
    let next := 10 * significand + (c.toNat - '0'.toNat)
    if next ≤ maxSignificand then accumulate next rest
      else (significand, rest.length + 1)

/-- The natural number that digits write. -/
def digitsNat (digits : List Char) : Nat :=
  digits.foldl (fun n c => 10 * n + (c.toNat - '0'.toNat)) 0

/-- The value of an integer numeral that fits in 64 bits, signed if it is
negative; `-0` is no integer. -/
def toInt? (n : Numeral) : Option Int :=
  let value := digitsNat n.whole
  if !n.isInteger then none
  else if n.negative then if 0 < value ∧ value ≤ 0x8000000000000000
    then some (-(value : Int)) else none
  else if value ≤ maxSignificand then some value
  else none

/-- A power of ten as a 64-bit float. -/
def tenTo (k : Nat) : Float := floatOfNat (Nat.pow 10 k)

/-- A float divided or multiplied by a power of ten; `none` if the result is too
large. -/
def scale (f : Float) : Nat → Int → Option Float
  | 0, _ => some f
  | fuel + 1, e =>
    if e.natAbs ≤ 308 then
      if 0 ≤ e then
        let product := f * tenTo e.natAbs
        if product.toBits = 0x7FF0000000000000 then none else some product
      else some (f / tenTo e.natAbs)
    else if f.toBits = 0 then some f
    else if 0 ≤ e then none
    else scale (f / tenTo 308) fuel (e + 308)

/-- The largest exponent that is told apart from larger ones. -/
def maxExponent : Nat := 0x7FFFFFFF

/-- The numeral as a 64-bit float; `none` if it is too large. -/
def toFloat? (n : Numeral) : Option Float := do
  let (significand, dropped) := accumulate 0 n.whole
  let (significand, unread) := accumulate significand n.fraction
  let shift : Int := (dropped : Int) - (n.fraction.length - unread : Nat)
  let magnitude ← match n.exponent with
    | none => scale (floatOfNat significand) 20 shift
    | some (negative, digits) =>
      let e := digitsNat digits
      if maxExponent < e then
        if significand ≠ 0 ∧ !negative then none else some 0.0
      else
        let e := if negative then shift - e else shift + e
        scale (floatOfNat significand) 20 (max (-0x80000000) (min 0x7FFFFFFF e))
  return if n.negative then -magnitude else magnitude

/-- The numeral as a 32-bit float.  An integer of 64 bits is rounded once, any
other numeral is first rounded to 64 bits. -/
def toFloat32? (n : Numeral) : Option Float32 :=
  match n.toInt? with
  | some i => some (float32OfInt i)
  | none => n.toFloat?.map narrow

/-- Where positional writing ends: `low < p ≤ high` for the number `p` of digits
before the point. -/
structure Layout where
  low : Int
  high : Int

/-- The layout of 32-bit floats. -/
def float32Layout : Layout := ⟨-6, 13⟩

/-- A positive decimal in a layout, with a digit on either side of a point. -/
def ofDecimal (layout : Layout) (negative : Bool) (d : Decimal) : Numeral :=
  let digits := Nat.toDigits 10 d.digits
  let point : Int := digits.length + d.exponent
  if 0 ≤ d.exponent ∧ point ≤ layout.high then
    { negative, whole := digits ++ List.replicate d.exponent.toNat '0',
      fraction := ['0'] }
  else if 0 < point ∧ point ≤ layout.high then
    { negative, whole := digits.take point.toNat,
      fraction := digits.drop point.toNat }
  else if layout.low < point ∧ point ≤ 0 then
    { negative, whole := ['0'], fraction := List.replicate (-point).toNat '0' ++
      digits }
  else
    { negative, whole := digits.take 1, fraction := digits.drop 1,
      exponent := some (point - 1 < 0, Nat.toDigits 10 (point - 1).natAbs) }

/-- The shortest numeral of a finite 32-bit float that reads back; `none` for
infinities and NaN. -/
def ofFloat32? (x : Float32) : Option Numeral :=
  let bits := x.toBits.toNat
  let negative := 0x80000000 ≤ bits
  let magnitude := bits % 0x80000000
  if binary32.infinity ≤ magnitude then none
  else if magnitude = 0 then some { negative, whole := ['0'], fraction := ['0'] }
  else some (ofDecimal float32Layout negative (binary32.shortest magnitude))

end Numeral

end Prospectus.Number
