import Prospectus.Summary.Url.Percent

/-!
# Numeric addresses of four bytes

A name whose last label is a number means a host by its number.  The number may
be written in up to four parts, each in decimal, octal (after a zero) or
hexadecimal digits (after `0x`); the last part fills all the bytes that the
parts before it leave.
-/

namespace Prospectus.Summary.Url.Ipv4

/-- A part as a number. -/
def number? (part : List Char) : Option Nat :=
  let (base, digits) : Nat × List Char := match part with
    | '0' :: 'x' :: digits => (16, digits)
    | '0' :: c :: digits => (8, c :: digits)
    | _ => (10, part)
  if part.isEmpty then none
  else digits.foldlM (fun n c => (hexValue? c).bind fun d => if d < base
    then some (base * n + d) else none) 0

/-- Labels without an empty one at the end. -/
def withoutRoot (labels : List (List Char)) : List (List Char) :=
  if labels.getLast? = some [] then labels.dropLast else labels

/-- Whether labels end in a number, be it one of too many digits or of a wrong
base. -/
def isMeant (labels : List (List Char)) : Bool :=
  match (withoutRoot labels).getLast? with
  | some last => (!last.isEmpty && last.all Char.isDigit) || (number? last).isSome
  | none => false

/-- The address of 32 bits that labels write. -/
def read? (labels : List (List Char)) : Option Nat := do
  let numbers ← (withoutRoot labels).mapM number?
  let last ← numbers.getLast?
  let bytes := numbers.dropLast
  if 3 < bytes.length || bytes.any (255 < ·) || Nat.pow 256 (4 - bytes.length) ≤
      last then failure
  return bytes.foldl (fun n b => 256 * n + b) 0 *
    Nat.pow 256 (4 - bytes.length) + last

/-- An address as four decimal numbers. -/
def text (address : Nat) : String :=
  ".".intercalate ([0x1000000, 0x10000, 0x100, 1].map fun unit =>
    toString (address / unit % 256))

end Prospectus.Summary.Url.Ipv4
