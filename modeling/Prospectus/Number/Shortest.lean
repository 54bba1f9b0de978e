import Prospectus.Number.Binary

/-!
# The shortest decimal that reads back

A float stands for all real numbers that round to it.  Among the decimals in
that interval, `shortest` takes one with the fewest digits, and of those the
nearest to the float itself.

The interval of `m · 2 ^ q` reaches half a step to either side; below a power of
two the step is half as long.  Its ends belong to it when `m` is even.  All
comparisons are made on integers, after scaling.
-/

namespace Prospectus.Number

/-- A positive decimal `digits · 10 ^ exponent`. -/
structure Decimal where
  digits : Nat
  exponent : Int
deriving Repr, DecidableEq

/-- The interval of the reals that round to one float, with all three numbers
over the denominator `scale`. -/
structure Interval where
  low : Nat
  value : Nat
  high : Nat
  scale : Nat
  /-- Whether the ends themselves round to the float. -/
  closed : Bool

/-- The interval of the float with the given positive magnitude bits. -/
def Format.interval (f : Format) (bits : Nat) : Interval :=
  let (m, q) := f.parts bits
  let below :=
    if m = Nat.pow 2 (f.precision - 1) ∧ -(f.least : Int) < q then 1 else 2
  match q with
  | .ofNat k =>
    ⟨(4 * m - below) * Nat.pow 2 k, 4 * m * Nat.pow 2 k,
      (4 * m + 2) * Nat.pow 2 k, 4, m % 2 = 0⟩
  | .negSucc k =>
    ⟨4 * m - below, 4 * m, 4 * m + 2, 4 * Nat.pow 2 (k + 1), m % 2 = 0⟩

/-- Whether `n / d` lies in the interval. -/
def Interval.holds (i : Interval) (n d : Nat) : Bool :=
  if i.closed then i.low * d ≤ n * i.scale && n * i.scale ≤ i.high * d
  else i.low * d < n * i.scale && n * i.scale < i.high * d

/-- A power of ten as numerator and denominator. -/
def powerOfTen : Int → Nat × Nat
  | .ofNat k => (Nat.pow 10 k, 1)
  | .negSucc k => (1, Nat.pow 10 (k + 1))

/-- The multiple of `10 ^ e` in the interval that is nearest to its value, if
there is one.  When a multiple lies in the interval, one of the two neighbours
of the value does. -/
def Interval.onGrid? (i : Interval) (e : Int) : Option Decimal :=
  let (p, r) := powerOfTen e
  let floor := i.value * r / (i.scale * p)
  let rest := i.value * r % (i.scale * p)
  let lower := i.holds (floor * p) r && 0 < floor
  let upper := i.holds ((floor + 1) * p) r
  if lower && upper then
    let up := i.scale * p < 2 * rest || (i.scale * p = 2 * rest && floor % 2 = 1)
    some ⟨if up then floor + 1 else floor, e⟩
  else if lower then some ⟨floor, e⟩
  else if upper then some ⟨floor + 1, e⟩
  else none

/-- The coarsest grid, going down from `10 ^ e`, that meets the interval. -/
def Interval.coarsest (i : Interval) : Nat → Int → Decimal
  | 0, e => ⟨0, e⟩
  | fuel + 1, e => (i.onGrid? e).getD (i.coarsest fuel (e - 1))

/-- The decimal without zeros at its end. -/
def Decimal.stripZeros : Nat → Decimal → Decimal
  | 0, d => d
  | fuel + 1, d =>
    if d.digits ≠ 0 ∧ d.digits % 10 = 0
      then stripZeros fuel ⟨d.digits / 10, d.exponent + 1⟩ else d

/-- The shortest decimal that reads back as the float with the given positive
magnitude bits. -/
def Format.shortest (f : Format) (bits : Nat) : Decimal :=
  let i := f.interval bits
  let top := (i.high / i.scale + 1).log2 / 3 + 1
  Decimal.stripZeros 400 (i.coarsest (top + 400) top)

end Prospectus.Number
