import Prospectus.Text.Utf8
import Prospectus.Time.Moment

/-!
# Dates in PDF files

A date is written `D:20240115103045`, year first; parts after the year may be
missing, in which case the first month, the first day and midnight are meant.
What follows the seconds is not looked at.
-/

namespace Prospectus.Pdf

/-- The number that digits write, with a plus sign allowed before them. -/
def unsigned? (bytes : List UInt8) : Option Nat :=
  let digits := match bytes with
    | 43 :: rest => rest
    | _ => bytes
  if !digits.isEmpty && digits.all (fun b => 48 ≤ b && b ≤ 57) then
    some (digits.foldl (fun n b => 10 * n + (b.toNat - 48)) 0)
  else none

/-- The number that digits write, with a sign allowed before them. -/
def signed? (bytes : List UInt8) : Option Int :=
  match bytes with
  | 45 :: rest =>
    if rest.head? = some 43 then none else (unsigned? rest).map fun n => -(n : Int)
  | _ => (unsigned? bytes).map fun n => (n : Int)

/-- The part of a date at a position, or a default if it is missing or no
number. -/
def datePart (bytes : List UInt8) (position default : Nat) : Nat :=
  match (bytes.drop position).take 2 with
  | [a, b] => (unsigned? [a, b]).getD default
  | _ => default

/-- The moment that a date names. -/
def dateOf? (s : String) : Option Time.Moment := do
  let bytes := Text.encodeUtf8 s
  let bytes := match bytes with
    | 68 :: 58 :: rest => rest
    | _ => bytes
  if bytes.length < 4 then failure
  let year ← signed? (bytes.take 4)
  Time.Moment.ofFields? year (datePart bytes 4 1) (datePart bytes 6 1)
    (datePart bytes 8 0)
    (datePart bytes 10 0) (datePart bytes 12 0) 0

end Prospectus.Pdf
