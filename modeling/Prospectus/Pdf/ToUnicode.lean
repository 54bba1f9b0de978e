import Prospectus.Pdf.Object

/-!
# Maps from character codes to Unicode

A font can bring a map from its codes, of one to four bytes, to UTF-16 units.
The map is kept as spans of consecutive codes with a common target.  Spans do
not overlap: a new span takes its codes away from the old ones, and becomes one
with the spans of the same target that it meets.  `ToUnicode.units` applies a
map: a code grows byte by byte until the map knows it, and a code that the map
does not know becomes the replacement character.
-/

namespace Prospectus.Pdf

namespace ToUnicode

/-- What the codes of a span stand for. -/
inductive Target where
  /-- One unit each: the code moved by a fixed distance. -/
  | shifted (distance : UInt32)
  /-- Several units each, the last of which counts on from the start of the
  span. -/
  | counted (units : List UInt16)
  /-- The units of each code of the span in turn. -/
  | listed (each : List (List UInt16))
deriving Repr, DecidableEq

/-- The target of a span that starts at a code and gives units to that code. -/
def Target.ofUnits (first : Nat) : List UInt16 → Target
  | [unit] => .shifted (unit.toUInt32 - first.toUInt32)
  | units => .counted units

/-- Consecutive codes of one length in bytes, with their target. -/
structure Span where
  length : Nat
  first : Nat
  last : Nat
  target : Target
deriving Repr, DecidableEq

namespace Span

/-- Whether the span holds a code of the given length. -/
def holds (s : Span) (length code : Nat) : Bool :=
  s.length = length && s.first ≤ code && code ≤ s.last

/-- Whether two spans of one length and target have a code in common or are next
to each other. -/
def joins (s t : Span) : Bool :=
  s.length = t.length && s.target = t.target && s.first ≤ t.last + 1 &&
    t.first ≤ s.last + 1

/-- What is left of a span when the codes of another are taken away. -/
def minus (s t : Span) : List Span :=
  if s.length ≠ t.length || s.last < t.first || t.last < s.first then [s]
  else
    (if s.first < t.first then [{ s with last := t.first - 1 }] else [])
      ++ (if t.last < s.last then [{ s with first := t.last + 1 }] else [])

/-- The units of a code of the span. -/
def units? (s : Span) (code : Nat) : Option (List UInt16) :=
  match s.target with
  | .shifted distance => some [(code.toUInt32 + distance).toUInt16]
  | .counted units =>
    match units.reverse with
    | last :: before => some (before.reverse ++ [last + (code - s.first).toUInt16])
    | [] => some []
  | .listed each => each[code - s.first]?

end Span

end ToUnicode

/-- A map from codes to UTF-16 units. -/
structure ToUnicode where
  spans : List ToUnicode.Span := []
deriving Repr, DecidableEq

namespace ToUnicode

/-- Adds a span. -/
def insert (m : ToUnicode) (s : Span) : ToUnicode :=
  let (same, others) := m.spans.partition s.joins
  let joined := same.foldl (fun s t =>
    { s with first := min s.first t.first, last := max s.last t.last }) s
  ⟨joined :: others.flatMap (·.minus s)⟩

/-- The units of a code of so many bytes. -/
def units? (m : ToUnicode) (length code : Nat) : Option (List UInt16) :=
  (m.spans.find? (·.holds length code)).bind (·.units? code)

/-- The number that bytes write, the first counting most. -/
def valueOf (bytes : Bytes) : Nat := bytes.foldl (fun n b => 256 * n + b.toNat) 0

/-- The units of a string of bytes, when the bytes in `pending` have been read
of a code. -/
def unitsFrom (m : ToUnicode) (pending : Bytes) : Bytes → List UInt16
  | [] => if pending.isEmpty then [] else [0xFFFD]
  | b :: rest =>
    let (done, pending) :=
      if pending.length = 4 then ([0xFFFD], []) else ([], pending)
    let code := pending ++ [b]
    match m.units? code.length (valueOf code) with
    | some units => done ++ units ++ m.unitsFrom [] rest
    | none => done ++ m.unitsFrom code rest

/-- The units that a string of bytes stands for. -/
def units (m : ToUnicode) (bytes : Bytes) : List UInt16 := m.unitsFrom [] bytes

end ToUnicode

end Prospectus.Pdf
