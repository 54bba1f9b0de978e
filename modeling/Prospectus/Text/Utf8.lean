/-!
# Text from UTF-8 bytes

`decodeUtf8?` accepts exactly the well-formed byte sequences.  `decodeUtf8Lossy`
accepts every sequence: each maximal ill-formed part becomes one replacement
character.
-/

namespace Prospectus.Text

/-- The character that stands for bytes or units that mean nothing. -/
def replacement : Char := '�'

/-- The UTF-8 bytes of a text. -/
def encodeUtf8 (s : String) : List UInt8 := s.toUTF8.toList

/-- The text that a well-formed byte sequence encodes. -/
def decodeUtf8? (bytes : List UInt8) : Option String :=
  String.fromUTF8? ⟨bytes.toArray⟩

namespace Utf8

/-- The range of the second byte that a leading byte asks for, and the number of
bytes after the leading one; `none` for a byte that leads nothing. -/
def leading (b : UInt8) : Option (Nat × UInt8 × UInt8) :=
  if 0xC2 ≤ b ∧ b ≤ 0xDF then some (1, 0x80, 0xBF)
  else if b = 0xE0 then some (2, 0xA0, 0xBF)
  else if b = 0xED then some (2, 0x80, 0x9F)
  else if 0xE1 ≤ b ∧ b ≤ 0xEF then some (2, 0x80, 0xBF)
  else if b = 0xF0 then some (3, 0x90, 0xBF)
  else if 0xF1 ≤ b ∧ b ≤ 0xF3 then some (3, 0x80, 0xBF)
  else if b = 0xF4 then some (3, 0x80, 0x8F)
  else none

/-- The bits of the scalar value that the leading byte of a sequence with `more`
further bytes carries. -/
def leadingBits (b : UInt8) (more : Nat) : Nat := b.toNat % Nat.pow 2 (6 - more)

/-- Bytes yet to come of a sequence: how many, the bits read so far, and the
range of the next byte. -/
structure Pending where
  more : Nat
  bits : Nat
  low : UInt8
  high : UInt8

/-- Starts a sequence at a byte: a character, the rest of a sequence, or a
replacement. -/
def start (b : UInt8) : Char ⊕ Pending :=
  if b < 0x80 then .inl (Char.ofNat b.toNat)
  else match leading b with
    | some (more, low, high) => .inr ⟨more, leadingBits b more, low, high⟩
    | none => .inl replacement

/-- Decodes bytes when a sequence may be under way.  A byte that does not
continue the sequence ends it with a replacement character and is looked at
afresh. -/
def decode : Option Pending → List UInt8 → List Char
  | none, [] => []
  | some _, [] => [replacement]
  | pending, b :: rest =>
    let fresh (done : List Char) : List Char :=
      match start b with
      | .inl c => done ++ c :: decode none rest
      | .inr p => done ++ decode (some p) rest
    match pending with
    | none => fresh []
    | some p =>
      if p.low ≤ b ∧ b ≤ p.high then
        let bits := p.bits * 64 + b.toNat % 64
        if p.more ≤ 1 then Char.ofNat bits :: decode none rest
        else decode (some ⟨p.more - 1, bits, 0x80, 0xBF⟩) rest
      else fresh [replacement]

end Utf8

/-- The text of a byte sequence, with a replacement character for each maximal
ill-formed part. -/
def decodeUtf8Lossy (bytes : List UInt8) : String :=
  String.ofList (Utf8.decode none bytes)

end Prospectus.Text
