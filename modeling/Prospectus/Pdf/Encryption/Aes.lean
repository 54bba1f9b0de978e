import Prospectus.Pdf.Object

/-!
# The AES cipher

A block of 16 bytes goes through rounds of substitution, shifting, mixing and
combination with a part of the key; a key of 16 bytes makes ten rounds, one of
32 bytes fourteen.  In a chain each block is combined with the enciphered block
before it.  `Aes.decipher` undoes a chain that `Aes.encipher` has made.
-/

namespace Prospectus.Pdf.Aes

/-- The substitution of bytes. -/
def box : Array UInt8 := #[
  0x63, 0x7c, 0x77, 0x7b, 0xf2, 0x6b, 0x6f, 0xc5, 0x30, 0x01, 0x67, 0x2b, 0xfe,
  0xd7, 0xab, 0x76, 0xca, 0x82, 0xc9, 0x7d, 0xfa, 0x59, 0x47, 0xf0, 0xad, 0xd4,
  0xa2, 0xaf, 0x9c, 0xa4, 0x72, 0xc0, 0xb7, 0xfd, 0x93, 0x26, 0x36, 0x3f, 0xf7,
  0xcc, 0x34, 0xa5, 0xe5, 0xf1, 0x71, 0xd8, 0x31, 0x15, 0x04, 0xc7, 0x23, 0xc3,
  0x18, 0x96, 0x05, 0x9a, 0x07, 0x12, 0x80, 0xe2, 0xeb, 0x27, 0xb2, 0x75, 0x09,
  0x83, 0x2c, 0x1a, 0x1b, 0x6e, 0x5a, 0xa0, 0x52, 0x3b, 0xd6, 0xb3, 0x29, 0xe3,
  0x2f, 0x84, 0x53, 0xd1, 0x00, 0xed, 0x20, 0xfc, 0xb1, 0x5b, 0x6a, 0xcb, 0xbe,
  0x39, 0x4a, 0x4c, 0x58, 0xcf, 0xd0, 0xef, 0xaa, 0xfb, 0x43, 0x4d, 0x33, 0x85,
  0x45, 0xf9, 0x02, 0x7f, 0x50, 0x3c, 0x9f, 0xa8, 0x51, 0xa3, 0x40, 0x8f, 0x92,
  0x9d, 0x38, 0xf5, 0xbc, 0xb6, 0xda, 0x21, 0x10, 0xff, 0xf3, 0xd2, 0xcd, 0x0c,
  0x13, 0xec, 0x5f, 0x97, 0x44, 0x17, 0xc4, 0xa7, 0x7e, 0x3d, 0x64, 0x5d, 0x19,
  0x73, 0x60, 0x81, 0x4f, 0xdc, 0x22, 0x2a, 0x90, 0x88, 0x46, 0xee, 0xb8, 0x14,
  0xde, 0x5e, 0x0b, 0xdb, 0xe0, 0x32, 0x3a, 0x0a, 0x49, 0x06, 0x24, 0x5c, 0xc2,
  0xd3, 0xac, 0x62, 0x91, 0x95, 0xe4, 0x79, 0xe7, 0xc8, 0x37, 0x6d, 0x8d, 0xd5,
  0x4e, 0xa9, 0x6c, 0x56, 0xf4, 0xea, 0x65, 0x7a, 0xae, 0x08, 0xba, 0x78, 0x25,
  0x2e, 0x1c, 0xa6, 0xb4, 0xc6, 0xe8, 0xdd, 0x74, 0x1f, 0x4b, 0xbd, 0x8b, 0x8a,
  0x70, 0x3e, 0xb5, 0x66, 0x48, 0x03, 0xf6, 0x0e, 0x61, 0x35, 0x57, 0xb9, 0x86,
  0xc1, 0x1d, 0x9e, 0xe1, 0xf8, 0x98, 0x11, 0x69, 0xd9, 0x8e, 0x94, 0x9b, 0x1e,
  0x87, 0xe9, 0xce, 0x55, 0x28, 0xdf, 0x8c, 0xa1, 0x89, 0x0d, 0xbf, 0xe6, 0x42,
  0x68, 0x41, 0x99, 0x2d, 0x0f, 0xb0, 0x54, 0xbb, 0x16]

/-- The substitution backwards. -/
def inverseBox : Array UInt8 :=
  (List.range 256).foldl (fun t i => t.setIfInBounds (box.getD i 0).toNat
    i.toUInt8) (Array.replicate 256 0)

/-- Twice a byte, in the field of 256 elements. -/
def double (b : UInt8) : UInt8 := (b <<< 1) ^^^ (if b < 0x80 then 0 else 0x1B)

/-- Two sequences of bytes combined bit by bit. -/
def combine (as bs : Bytes) : Bytes := as.zipWith (· ^^^ ·) bs

/-- The bytes of a block at the given positions. -/
def permute (positions : List Nat) (block : Bytes) : Bytes :=
  let bytes := block.toArray
  positions.map fun i => bytes.getD i 0

/-- Where the byte at each position comes from: row `r` has gone `r` columns to
the left. -/
def shifted : List Nat := [0, 5, 10, 15, 4, 9, 14, 3, 8, 13, 2, 7, 12, 1, 6, 11]

/-- The same with the rows gone to the right. -/
def unshifted : List Nat := [0, 13, 10, 7, 4, 1, 14, 11, 8, 5, 2, 15, 12, 9, 6, 3]

/-- Mixes the bytes of each column. -/
def mix : Bytes → Bytes
  | a :: b :: c :: d :: rest =>
    let all := a ^^^ b ^^^ c ^^^ d
    (a ^^^ all ^^^ double (a ^^^ b)) :: (b ^^^ all ^^^ double (b ^^^ c)) ::
      (c ^^^ all ^^^ double (c ^^^ d))
      :: (d ^^^ all ^^^ double (d ^^^ a)) :: mix rest
  | _ => []

/-- Undoes the mixing of each column. -/
def unmix : Bytes → Bytes
  | a :: b :: c :: d :: rest =>
    let u := double (double (a ^^^ c))
    let v := double (double (b ^^^ d))
    mix [a ^^^ u, b ^^^ v, c ^^^ u, d ^^^ v] ++ unmix rest
  | _ => []

/-- The word of the key schedule at a position, from the words before it; `size`
words are the key itself. -/
def nextWord (size : Nat) (words : Array Bytes) (i : Nat) : Bytes :=
  let last := words.getD (i - 1) []
  let substituted (w : Bytes) : Bytes := w.map fun b => box.getD b.toNat 0
  let changed :=
    if i % size = 0 then
      let constant := (List.range (i / size - 1)).foldl (fun c _ => double c) 1
      combine (substituted (last.drop 1 ++ last.take 1)) [constant, 0, 0, 0]
    else if 6 < size && i % size = 4 then substituted last
    else last
  combine (words.getD (i - size) []) changed

/-- So many pieces, each of so many bytes. -/
def piecesFrom (size : Nat) : Nat → Bytes → List Bytes
  | 0, _ => []
  | count + 1, bytes => bytes.take size :: piecesFrom size count (bytes.drop size)

/-- Pieces of so many bytes. -/
def pieces (size : Nat) (bytes : Bytes) : List Bytes :=
  piecesFrom size (bytes.length / size) bytes

/-- The keys of the rounds. -/
def roundKeys (key : Bytes) : List Bytes :=
  let words := pieces 4 key
  let size := words.length
  let all := (List.range' size (4 * (size + 7) - size)).foldl
    (fun ws i => ws.push (nextWord size ws i)) words.toArray
  pieces 16 all.toList.flatten

/-- Enciphers a block. -/
def encipherBlock (keys : List Bytes) (block : Bytes) : Bytes :=
  let substitute (b : Bytes) : Bytes :=
    permute shifted (b.map fun x => box.getD x.toNat 0)
  match keys with
  | first :: rest =>
    let inner := rest.dropLast.foldl (fun b k => combine (mix (substitute b)) k)
      (combine block first)
    combine (substitute inner) (rest.getLastD [])
  | [] => block

/-- Deciphers a block. -/
def decipherBlock (keys : List Bytes) (block : Bytes) : Bytes :=
  let substitute (b : Bytes) : Bytes :=
    (permute unshifted b).map fun x => inverseBox.getD x.toNat 0
  match keys.reverse with
  | first :: rest =>
    let inner := rest.dropLast.foldl
      (fun b k => unmix (combine (substitute b) k)) (combine block first)
    combine (substitute inner) (rest.getLastD [])
  | [] => block

/-- Enciphers whole blocks, combining each with the one before it. -/
def encipherBlocks (keys : List Bytes) : Bytes → List Bytes → List Bytes
  | _, [] => []
  | before, block :: rest =>
    let enciphered := encipherBlock keys (combine before block)
    enciphered :: encipherBlocks keys enciphered rest

/-- Deciphers whole blocks, combining each with the one before it. -/
def decipherBlocks (keys : List Bytes) : Bytes → List Bytes → List Bytes
  | _, [] => []
  | before, block :: rest =>
    combine before (decipherBlock keys block) :: decipherBlocks keys block rest

/-- Enciphers whole blocks from a given start of the chain. -/
def encipher (key start data : Bytes) : Bytes :=
  (encipherBlocks (roundKeys key) start (pieces 16 data)).flatten

/-- Deciphers whole blocks from a given start of the chain. -/
def decipher (key start data : Bytes) : Bytes :=
  (decipherBlocks (roundKeys key) start (pieces 16 data)).flatten

/-- Takes the filling off whole blocks: its bytes tell how many there are, one
to sixteen. -/
def unfill? (data : Bytes) : Option Bytes := do
  let last ← data.getLast?
  let count := last.toNat
  if count = 0 || 16 < count || data.length < count then failure
  if (data.drop (data.length - count)).any (· ≠ last) then failure
  return data.take (data.length - count)

end Prospectus.Pdf.Aes
