/-!
# Rounding to binary floating point

A finite number of a binary format is `m · 2 ^ q` with a bounded `m`.
`Format.round` takes a fraction to the nearest such number, a tie to the even
neighbour, and gives the bits of its magnitude; the formats' bit patterns are
ordered like the numbers they stand for, so carrying into the exponent needs no
care.
-/

namespace Prospectus.Number

/-- A binary floating-point format: the number of significant bits, and the
exponent of the last bit of the smallest numbers, negated. -/
structure Format where
  precision : Nat
  least : Nat
  /-- The bit pattern of infinity. -/
  infinity : Nat

/-- The 32-bit format. -/
def binary32 : Format := ⟨24, 149, 0x7F800000⟩

/-- The 64-bit format. -/
def binary64 : Format := ⟨53, 1074, 0x7FF0000000000000⟩

/-- The quotient `a / b` to the nearest integer, a tie to the even one. -/
def divideToEven (a b : Nat) : Nat :=
  let q := a / b
  let r := a % b
  if 2 * r < b then q else if b < 2 * r then q + 1 else q + q % 2

/-- The exponent `e` with `2 ^ e ≤ a / b < 2 ^ (e + 1)`, for positive `a` and
`b`. -/
def exponentOf (a b : Nat) : Int :=
  let e := (a.log2 : Int) - b.log2
  let fits :=
    if 0 ≤ e then b * Nat.pow 2 e.toNat ≤ a else b ≤ a * Nat.pow 2 (-e).toNat
  if fits then e else e - 1

/-- The magnitude bits of the number of the format nearest to the fraction
`a / b`. -/
def Format.round (f : Format) (a b : Nat) : Nat :=
  if a = 0 then 0
  else
    let q := max (exponentOf a b - (f.precision - 1 : Nat)) (-(f.least : Int))
    let m :=
      if 0 ≤ q then divideToEven a (b * Nat.pow 2 q.toNat)
        else divideToEven (a * Nat.pow 2 (-q).toNat) b
    min ((q + f.least).toNat * Nat.pow 2 (f.precision - 1) + m) f.infinity

/-- The integer `m` and the exponent `q` of the number `m · 2 ^ q` that finite
magnitude bits stand for. -/
def Format.parts (f : Format) (bits : Nat) : Nat × Int :=
  let unit := Nat.pow 2 (f.precision - 1)
  let e := bits / unit
  if e = 0 then (bits, -(f.least : Int))
    else (unit + bits % unit, (e : Int) - 1 - f.least)

/-- The 32-bit float nearest to a fraction with the given sign. -/
def float32OfRatio (negative : Bool) (a b : Nat) : Float32 :=
  Float32.ofBits ((if negative then 0x80000000
    else 0) + (binary32.round a b).toUInt32)

/-- The 64-bit float nearest to a fraction with the given sign. -/
def floatOfRatio (negative : Bool) (a b : Nat) : Float :=
  Float.ofBits ((if negative then 0x8000000000000000
    else 0) + (binary64.round a b).toUInt64)

/-- The 32-bit float nearest to an integer. -/
def float32OfInt (i : Int) : Float32 := float32OfRatio (i < 0) i.natAbs 1

/-- The 64-bit float nearest to a natural number. -/
def floatOfNat (n : Nat) : Float := floatOfRatio false n 1

/-- The 32-bit float nearest to a 64-bit one. -/
def narrow (x : Float) : Float32 :=
  let bits := x.toBits.toNat
  let negative := 0x8000000000000000 ≤ bits
  let magnitude := bits % 0x8000000000000000
  if binary64.infinity < magnitude then Float32.ofBits 0x7FC00000
  else if magnitude = binary64.infinity then
    Float32.ofBits (if negative then 0xFF800000 else 0x7F800000)
  else
    match binary64.parts magnitude with
    | (m, .ofNat q) => float32OfRatio negative (m * Nat.pow 2 q) 1
    | (m, .negSucc q) => float32OfRatio negative m (Nat.pow 2 (q + 1))

end Prospectus.Number
