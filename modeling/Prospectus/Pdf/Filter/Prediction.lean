import Prospectus.Pdf.Object

/-!
# Predicted data

Data can be rows of samples of which only the differences from a prediction are
kept.  A byte before each row says how its bytes are predicted: from the byte of
the sample to the left, from the byte above, from half of the byte above added
to the left one, or from the one of left, above and above left that comes
nearest to their linear continuation.  `Prediction.restore` gives the rows back.
-/

namespace Prospectus.Pdf

/-- The size of the samples and rows of predicted data, in bytes. -/
structure Prediction where
  sample : Nat
  row : Nat
deriving Repr, DecidableEq

namespace Prediction

/-- The prediction that the parameters of a filter describe, if they ask for
one. -/
def ofParameters? (parameters : Dictionary) : Option Prediction := do
  let find (key : String) (default : Int) : Int :=
    ((parameters.get? key).bind (·.asInteger?)).getD default
  let kind := find "Predictor" 1
  if kind < 10 || 15 < kind then failure
  let columns := max 1 (find "Columns" 1)
  let colors := min 4 (max 1 (find "Colors" 1))
  let bits := max 8 (find "BitsPerComponent" 8)
  let sample := (colors * bits / 8).toNat
  return ⟨sample, sample * columns.toNat⟩

/-- How the bytes of a row are predicted. -/
inductive Method where
  | none
  | left
  | above
  | average
  | nearest
deriving Repr, DecidableEq

/-- The method that the byte before a row names. -/
def Method.ofByte? : UInt8 → Option Method
  | 0 => some none
  | 1 => some left
  | 2 => some above
  | 3 => some average
  | 4 => some nearest
  | _ => Option.none

/-- Which of left, above and above left is nearest to left plus above minus
above left; of two equally near, the one named first. -/
def nearestOf (left above corner : UInt8) : UInt8 :=
  let guess : Int := left.toNat + above.toNat - corner.toNat
  let distance (b : UInt8) : Nat := (guess - b.toNat).natAbs
  if distance left ≤ distance above && distance left ≤ distance corner then left
  else if distance above ≤ distance corner then above
  else corner

/-- The byte that a method predicts. -/
def Method.predict (m : Method) (left above corner : UInt8) : UInt8 :=
  match m with
  | none => 0
  | .left => left
  | .above => above
  | average => left + above / 2
  | nearest => nearestOf left above corner

/-- Restores a row.  `lefts` and `corners` hold the last bytes of this row and
of the one above, as many as a sample has, and `aboves` the rest of the row
above; a byte that is not there is zero. -/
def restoreRow (m : Method) : (lefts corners aboves : Bytes) → Bytes → Bytes
  | _, _, _, [] => []
  | lefts, corners, aboves, b :: rest =>
    let above := aboves.headD 0
    let restored := b + m.predict (lefts.headD 0) above (corners.headD 0)
    restored :: restoreRow m (lefts.tail ++ [restored])
      (corners.tail ++ [above]) aboves.tail rest

/-- Restores rows below a given one; the last row must be complete. -/
def restoreBelow (p : Prediction) (previous : Bytes) : Bytes → Option Bytes
  | [] => some []
  | tag :: rest => do
    let method ← Method.ofByte? tag
    if rest.length < p.row then failure
    let start := List.replicate p.sample 0
    let row := restoreRow method start start previous (rest.take p.row)
    let more ← restoreBelow p row (rest.drop p.row)
    return row ++ more
termination_by data => data.length

/-- Gives all rows back, without the bytes before them. -/
def restore (p : Prediction) (data : Bytes) : Option Bytes := restoreBelow p [] data

end Prediction

end Prospectus.Pdf
