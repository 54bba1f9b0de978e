import Prospectus.Text.Utf8

/-!
# Percent signs in addresses

A byte that may not stand in a part of an address is written as a percent sign
and two hexadecimal digits.
-/

namespace Prospectus.Summary.Url

/-- A digit of a hexadecimal number, in upper case. -/
def hexDigit (n : Nat) : Char := (Nat.digitChar n).toUpper

/-- The value of a hexadecimal digit. -/
def hexValue? (c : Char) : Option Nat :=
  if c.isDigit then some (c.toNat - '0'.toNat)
  else if 'a' ≤ c.toLower ∧ c.toLower ≤ 'f'
    then some (c.toLower.toNat - 'a'.toNat + 10)
  else none

/-- A byte as a percent sign and two digits. -/
def percentByte (b : UInt8) : List Char :=
  ['%', hexDigit (b.toNat / 16), hexDigit (b.toNat % 16)]

/-- Writes the characters of a set, controls and all that is not ASCII by their
bytes. -/
def encode (set : List Char) (cs : List Char) : List Char :=
  cs.flatMap fun c =>
    if c.toNat < 0x20 || 0x7F ≤ c.toNat || set.contains c then
      (Text.encodeUtf8 (String.singleton c)).flatMap percentByte
    else [c]

/-- The bytes that are meant: a percent sign with two digits after it stands for
one byte, and every other byte for itself. -/
def decodeBytes : List UInt8 → List UInt8
  | b :: high :: low :: rest =>
    match hexValue? (Char.ofNat high.toNat), hexValue? (Char.ofNat low.toNat) with
    | some x, some y =>
      if b = 0x25 then (16 * x + y).toUInt8 :: decodeBytes rest
        else b :: decodeBytes (high :: low :: rest)
    | _, _ => b :: decodeBytes (high :: low :: rest)
  | b :: rest => b :: decodeBytes rest
  | [] => []

/-- The text that is meant; `none` if its bytes are no text. -/
def decode? (cs : List Char) : Option String :=
  Text.decodeUtf8? (decodeBytes (Text.encodeUtf8 (String.ofList cs)))

/-- Characters that are encoded in the name and the password of a user. -/
def userSet : List Char :=
  [' ', '"', '#', '<', '>', '?', '\x60', '\x7b', '\x7d', '/', ':', ';', '=',
    '@', '[', '\\', ']', '^', '|']

/-- Characters that are encoded in a path. -/
def pathSet : List Char := [' ', '"', '<', '>', '\x60', '#', '?', '\x7b', '\x7d']

/-- Characters that are encoded in a query. -/
def querySet : List Char := [' ', '"', '#', '<', '>']

/-- Characters that are encoded in a fragment. -/
def fragmentSet : List Char := [' ', '"', '<', '>', '\x60']

end Prospectus.Summary.Url
