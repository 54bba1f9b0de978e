/-!
# Labels in ASCII

A label with characters beyond ASCII is written with letters, digits and
hyphens: first its ASCII characters, and after a hyphen, in increasing order,
where each of the others goes.  The places are counted as one number across the
whole label, and each number is the distance to the one before, in digits of
base 36 whose thresholds follow the distances.
-/

namespace Prospectus.Summary.Url.Domain.Punycode

/-- The digit of a value: letters first, then decimal digits. -/
def digit (n : Nat) : Char := if n < 26 then Char.ofNat ('a'.toNat + n)
  else Char.ofNat ('0'.toNat + (n - 26))

/-- The value of a digit. -/
def digitValue? (c : Char) : Option Nat :=
  if 'a' ≤ c ∧ c ≤ 'z' then some (c.toNat - 'a'.toNat)
  else if c.isDigit then some (c.toNat - '0'.toNat + 26)
  else none

/-- The threshold of the digit at a place, counted in steps of 36. -/
def threshold (bias place : Nat) : Nat := max 1 (min 26 (place - bias))

theorem threshold_pos (bias place : Nat) : 0 < threshold bias place := by
  unfold threshold
  omega

/-- Divides a distance by 35 until it is small; `steps` counts 36 for each
division. -/
def settle (distance steps : Nat) : Nat × Nat :=
  if 455 < distance then settle (distance / 35) (steps + 36) else (distance, steps)
termination_by distance
decreasing_by exact Nat.div_lt_self (by omega) (by omega)

/-- The bias after a distance, when `count` characters have their place; the
`first` distance counts for little. -/
def adapt (distance count : Nat) (first : Bool) : Nat :=
  let distance := if first then distance / 700 else distance / 2
  let (rest, steps) := settle (distance + distance / count) 0
  steps + 36 * rest / (rest + 38)

/-- A distance in digits, the lowest first. -/
def digitsOf (bias place n : Nat) : List Char :=
  let t := threshold bias place
  if n < t then [digit n]
    else digit (t + (n - t) % (36 - t)) ::
      digitsOf bias (place + 36) ((n - t) / (36 - t))
termination_by n
decreasing_by
  have hpos := threshold_pos bias place
  exact Nat.lt_of_le_of_lt (Nat.div_le_self _ _) (by omega)

/-- How far a label has been written. -/
structure Progress where
  /-- What has been written, in order. -/
  written : List Char
  /-- The distance since the last character that was written. -/
  distance : Nat
  bias : Nat
  /-- How many characters have been written. -/
  count : Nat

/-- Passes over one character while `point` is looked for; `first` tells that
none has been written. -/
def Progress.pass (basic point : Nat) (p : Progress) (c : Char) : Progress :=
  if c.toNat < point then { p with distance := p.distance + 1 }
  else if c.toNat = point then
    { written := p.written ++ digitsOf p.bias 36 p.distance
      distance := 0
      bias := adapt p.distance (p.count + 1) (p.count = basic)
      count := p.count + 1 }
  else p

/-- Writes all characters beyond `next`, which are given in increasing order. -/
def encodeFrom (label : List Char) (basic next : Nat) (p : Progress) :
    List Nat → List Char
  | [] => p.written
  | point :: more =>
    let start := { p with distance := p.distance + (point - next) * (p.count + 1) }
    let passed := label.foldl (Progress.pass basic point) start
    encodeFrom label basic (point + 1)
      { passed with distance := passed.distance + 1 } more

/-- A label in ASCII. -/
def encode (label : List Char) : List Char :=
  let basic := label.filter (·.toNat < 0x80)
  let points := ((label.map Char.toNat).filter (0x80 ≤ ·)).mergeSort.eraseReps
  encodeFrom label basic.length 0x80 ⟨if basic.isEmpty then []
    else basic ++ ['-'], 0, 72, basic.length⟩ points

/-- Where the reading of a label stands: the characters so far, the number of
the last place, the bias, and the distance being read with its next weight and
place. -/
structure Position where
  label : List Char
  point : Nat := 0x80
  index : Nat := 0
  bias : Nat := 72
  distance : Nat := 0
  weight : Nat := 1
  place : Nat := 36

/-- Puts the next character where the distance says; the numbers have to fit in
32 bits. -/
def Position.settled? (p : Position) (distance : Nat) (first : Bool) :
    Option Position :=
  let count := p.label.length + 1
  let total := p.index + distance
  let point := p.point + total / count
  let index := total % count
  if 0x100000000 ≤ total || !point.isValidChar then none
  else some
    { label := p.label.take index ++ Char.ofNat point :: p.label.drop index
      point := point
      index := index + 1
      bias := adapt distance count first }

/-- Reads the distances. -/
def decodeFrom? (basic : Nat) (p : Position) : List Char → Option (List Char)
  | [] => if p.weight = 1 then some p.label else none
  | c :: rest =>
    match digitValue? c with
    | none => none
    | some d =>
      let t := threshold p.bias p.place
      let distance := p.distance + d * p.weight
      if d < t then
        match p.settled? distance (p.label.length = basic) with
        | some p => decodeFrom? basic p rest
        | none => none
      else if 0x100000000 ≤ p.weight * (36 - t) then none
      else decodeFrom? basic { p with
        distance, weight := p.weight * (36 - t), place := p.place + 36 } rest

/-- The label that ASCII characters write; `none` if they write none. -/
def decode? (cs : List Char) : Option (List Char) :=
  let digits := (cs.reverse.takeWhile (· ≠ '-')).reverse
  let basic := cs.take (cs.length - digits.length - 1)
  if basic.isEmpty then decodeFrom? 0 { label := [] } cs
  else if basic.all (·.toNat < 0x80)
    then decodeFrom? basic.length { label := basic } digits
  else none

end Prospectus.Summary.Url.Domain.Punycode
