import Prospectus.Pdf.Object

/-!
# The MD5 digest

A message is filled up to whole blocks of 64 bytes with a mark and its length in
bits.  Each block changes a state of four 32-bit words in 64 rounds; the final
state is the digest.
-/

namespace Prospectus.Pdf.Md5

/-- The constants of the rounds. -/
def constants : Array UInt32 := #[
  0xd76aa478, 0xe8c7b756, 0x242070db, 0xc1bdceee, 0xf57c0faf, 0x4787c62a,
  0xa8304613, 0xfd469501, 0x698098d8, 0x8b44f7af, 0xffff5bb1, 0x895cd7be,
  0x6b901122, 0xfd987193, 0xa679438e, 0x49b40821, 0xf61e2562, 0xc040b340,
  0x265e5a51, 0xe9b6c7aa, 0xd62f105d, 0x02441453, 0xd8a1e681, 0xe7d3fbc8,
  0x21e1cde6, 0xc33707d6, 0xf4d50d87, 0x455a14ed, 0xa9e3e905, 0xfcefa3f8,
  0x676f02d9, 0x8d2a4c8a, 0xfffa3942, 0x8771f681, 0x6d9d6122, 0xfde5380c,
  0xa4beea44, 0x4bdecfa9, 0xf6bb4b60, 0xbebfbc70, 0x289b7ec6, 0xeaa127fa,
  0xd4ef3085, 0x04881d05, 0xd9d4d039, 0xe6db99e5, 0x1fa27cf8, 0xc4ac5665,
  0xf4292244, 0x432aff97, 0xab9423a7, 0xfc93a039, 0x655b59c3, 0x8f0ccc92,
  0xffeff47d, 0x85845dd1, 0x6fa87e4f, 0xfe2ce6e0, 0xa3014314, 0x4e0811a1,
  0xf7537e82, 0xbd3af235, 0x2ad7d2bb, 0xeb86d391]

/-- By how much each round rotates. -/
def shifts : Array UInt32 :=
  #[7, 12, 17, 22, 5, 9, 14, 20, 4, 11, 16, 23, 6, 10, 15, 21]

/-- The state between blocks. -/
structure State where
  a : UInt32
  b : UInt32
  c : UInt32
  d : UInt32

/-- The state before the first block. -/
def State.initial : State := ⟨0x67452301, 0xefcdab89, 0x98badcfe, 0x10325476⟩

/-- Rotates a word to the left. -/
def rotate (x n : UInt32) : UInt32 := (x <<< n) ||| (x >>> (32 - n))

/-- One round on the words of a block. -/
def round (words : Array UInt32) (s : State) (i : Nat) : State :=
  let (f, g) :=
    if i < 16 then ((s.b &&& s.c) ||| (~~~s.b &&& s.d), i)
    else if i < 32 then ((s.d &&& s.b) ||| (~~~s.d &&& s.c), (5 * i + 1) % 16)
    else if i < 48 then (s.b ^^^ s.c ^^^ s.d, (3 * i + 5) % 16)
    else (s.c ^^^ (s.b ||| ~~~s.d), (7 * i) % 16)
  let sum := f + s.a + constants.getD i 0 + words.getD g 0
  ⟨s.d, s.b + rotate sum (shifts.getD (i / 16 * 4 + i % 4) 0), s.b, s.c⟩

/-- The words of a block, the least significant byte first. -/
def wordsOf : Bytes → List UInt32
  | a :: b :: c :: d :: rest =>
    (a.toUInt32 ||| (b.toUInt32 <<< 8) ||| (c.toUInt32 <<< 16) |||
      (d.toUInt32 <<< 24)) :: wordsOf rest
  | _ => []

/-- The bytes of a word, the least significant first. -/
def bytesOf (w : UInt32) : Bytes :=
  [w.toUInt8, (w >>> 8).toUInt8, (w >>> 16).toUInt8, (w >>> 24).toUInt8]

/-- Takes one block in. -/
def absorb (s : State) (words : List UInt32) : State :=
  let t := (List.range 64).foldl (round words.toArray) s
  ⟨s.a + t.a, s.b + t.b, s.c + t.c, s.d + t.d⟩

/-- Takes so many blocks in. -/
def absorbAll : Nat → State → List UInt32 → State
  | 0, s, _ => s
  | n + 1, s, words => absorbAll n (absorb s (words.take 16)) (words.drop 16)

/-- The message filled up to whole blocks. -/
def fill (message : Bytes) : Bytes :=
  let mark : Bytes :=
    0x80 :: List.replicate ((55 + 64 - message.length % 64) % 64) 0
  let bits := (8 * message.length).toUInt64
  message ++ mark ++ bytesOf bits.toUInt32 ++ bytesOf (bits >>> 32).toUInt32

/-- The digest of a message, 16 bytes. -/
def digest (message : Bytes) : Bytes :=
  let filled := fill message
  let s := absorbAll (filled.length / 64) .initial (wordsOf filled)
  bytesOf s.a ++ bytesOf s.b ++ bytesOf s.c ++ bytesOf s.d

end Prospectus.Pdf.Md5
