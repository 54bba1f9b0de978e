import Prospectus.Pdf.Object

/-!
# Base-85 data

Five characters from `!` to `u` stand for four bytes, the letter `z` for four
zero bytes; a shorter last group stands for one byte less than it has
characters.  White space means nothing, and any other character ends the data.
A group whose value does not fit in four bytes is refused.
-/

namespace Prospectus.Pdf.Ascii85

/-- A number as four bytes, the most significant first, if it fits. -/
def fourBytes? (n : Nat) : Option Bytes :=
  if n < 0x100000000 then
    some [(n / 0x1000000).toUInt8, (n / 0x10000).toUInt8, (n / 0x100).toUInt8,
      n.toUInt8]
  else none

/-- The bytes of a last group of `count` characters, filled up with the largest
digit. -/
def lastGroup? (value count : Nat) : Option Bytes :=
  if count = 0 then some []
  else
    let full := (List.range (5 - count)).foldl (fun v _ => v * 85 + 84) value
    (fourBytes? full).map (·.take (count - 1))

/-- Characters without a meaning. -/
def isSpace (b : UInt8) : Bool := b = 32 || b = 9 || b = 10 || b = 12 || b = 13

/-- Decodes data when `count` characters of a group have been read, which make
`value`. -/
def decodeFrom (value count : Nat) : Bytes → Option Bytes
  | [] => lastGroup? value count
  | b :: rest =>
    if b = 122 then
      if count = 0 then (decodeFrom 0 0 rest).map ([0, 0, 0, 0] ++ ·) else none
    else if isSpace b then decodeFrom value count rest
    else if 33 ≤ b && b ≤ 117 then
      let value := value * 85 + (b.toNat - 33)
      if count = 4 then do
        let group ← fourBytes? value
        (decodeFrom 0 0 rest).map (group ++ ·)
      else decodeFrom value (count + 1) rest
    else lastGroup? value count

/-- The bytes that base-85 data stand for. -/
def decode (bs : Bytes) : Option Bytes := decodeFrom 0 0 bs

end Prospectus.Pdf.Ascii85
