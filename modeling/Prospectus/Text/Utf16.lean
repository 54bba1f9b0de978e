import Prospectus.Text.Utf8

/-!
# Text from UTF-16 units

Units are numbers below `2 ^ 16`.  A high surrogate followed by a low one is one
character; a surrogate without its partner becomes the replacement character.
-/

namespace Prospectus.Text

/-- Pairs of bytes as units, the more significant byte first; a last byte
without a partner is left out. -/
def unitsBigEndian : List UInt8 → List UInt16
  | high :: low :: rest =>
    (high.toUInt16 * 256 + low.toUInt16) :: unitsBigEndian rest
  | _ => []

/-- Pairs of bytes as units, the less significant byte first; a last byte
without a partner is left out. -/
def unitsLittleEndian : List UInt8 → List UInt16
  | low :: high :: rest =>
    (high.toUInt16 * 256 + low.toUInt16) :: unitsLittleEndian rest
  | _ => []

/-- Whether a unit is the first half of a pair. -/
def isHighSurrogate (u : UInt16) : Bool := 0xD800 ≤ u && u ≤ 0xDBFF

/-- Whether a unit is the second half of a pair. -/
def isLowSurrogate (u : UInt16) : Bool := 0xDC00 ≤ u && u ≤ 0xDFFF

/-- The character that two surrogates make. -/
def pairSurrogates (high low : UInt16) : Char :=
  Char.ofNat (0x10000 + (high.toNat - 0xD800) * 0x400 + (low.toNat - 0xDC00))

/-- The character of a unit that stands alone. -/
def charOfUnit (u : UInt16) : Char :=
  if isHighSurrogate u || isLowSurrogate u then replacement else Char.ofNat u.toNat

/-- The characters of a sequence of units. -/
def decodeUnits : List UInt16 → List Char
  | [] => []
  | [u] => [charOfUnit u]
  | u :: v :: rest =>
    if isHighSurrogate u && isLowSurrogate v
      then pairSurrogates u v :: decodeUnits rest
    else charOfUnit u :: decodeUnits (v :: rest)

/-- The units of one character. -/
def unitsOfChar (c : Char) : List UInt16 :=
  if c.toNat < 0x10000 then [c.toNat.toUInt16]
  else
    let n := c.toNat - 0x10000
    [(0xD800 + n / 0x400).toUInt16, (0xDC00 + n % 0x400).toUInt16]

/-- The units of a text. -/
def encodeUnits (s : String) : List UInt16 := s.toList.flatMap unitsOfChar

/-- Units as bytes, the more significant byte first. -/
def bytesBigEndian (units : List UInt16) : List UInt8 :=
  units.flatMap fun u => [(u / 256).toUInt8, u.toUInt8]

end Prospectus.Text
