import Prospectus.Pdf.Object

/-!
# The SHA-2 digests

A message is filled up to whole blocks of sixteen words with a mark and its
length in bits.  Each block changes a state of eight words; the final state, or
its beginning, is the digest.  Words have 32 bits in the shortest of the three
digests and 64 in the others, and all the rest is the same.
-/

namespace Prospectus.Pdf.Sha2

/-- The constants of the rounds; the first half of each serves words of 32 bits. -/
def constants : Array UInt64 := #[
  0x428a2f98d728ae22, 0x7137449123ef65cd, 0xb5c0fbcfec4d3b2f,
  0xe9b5dba58189dbbc, 0x3956c25bf348b538, 0x59f111f1b605d019,
  0x923f82a4af194f9b, 0xab1c5ed5da6d8118, 0xd807aa98a3030242,
  0x12835b0145706fbe, 0x243185be4ee4b28c, 0x550c7dc3d5ffb4e2,
  0x72be5d74f27b896f, 0x80deb1fe3b1696b1, 0x9bdc06a725c71235,
  0xc19bf174cf692694, 0xe49b69c19ef14ad2, 0xefbe4786384f25e3,
  0x0fc19dc68b8cd5b5, 0x240ca1cc77ac9c65, 0x2de92c6f592b0275,
  0x4a7484aa6ea6e483, 0x5cb0a9dcbd41fbd4, 0x76f988da831153b5,
  0x983e5152ee66dfab, 0xa831c66d2db43210, 0xb00327c898fb213f,
  0xbf597fc7beef0ee4, 0xc6e00bf33da88fc2, 0xd5a79147930aa725,
  0x06ca6351e003826f, 0x142929670a0e6e70, 0x27b70a8546d22ffc,
  0x2e1b21385c26c926, 0x4d2c6dfc5ac42aed, 0x53380d139d95b3df,
  0x650a73548baf63de, 0x766a0abb3c77b2a8, 0x81c2c92e47edaee6,
  0x92722c851482353b, 0xa2bfe8a14cf10364, 0xa81a664bbc423001,
  0xc24b8b70d0f89791, 0xc76c51a30654be30, 0xd192e819d6ef5218,
  0xd69906245565a910, 0xf40e35855771202a, 0x106aa07032bbd1b8,
  0x19a4c116b8d2d0c8, 0x1e376c085141ab53, 0x2748774cdf8eeb99,
  0x34b0bcb5e19b48a8, 0x391c0cb3c5c95a63, 0x4ed8aa4ae3418acb,
  0x5b9cca4f7763e373, 0x682e6ff3d6b2b8a3, 0x748f82ee5defb2fc,
  0x78a5636f43172f60, 0x84c87814a1f0ab72, 0x8cc702081a6439ec,
  0x90befffa23631e28, 0xa4506cebde82bde9, 0xbef9a3f7b2c67915,
  0xc67178f2e372532b, 0xca273eceea26619c, 0xd186b8c721c0c207,
  0xeada7dd6cde0eb1e, 0xf57d4f7fee6ed178, 0x06f067aa72176fba,
  0x0a637dc5a2c898a6, 0x113f9804bef90dae, 0x1b710b35131c471b,
  0x28db77f523047d84, 0x32caab7b40c72493, 0x3c9ebe0a15c9bebc,
  0x431d67c49c100d4c, 0x4cc5d4becb3e42b6, 0x597f299cfc657e2a,
  0x5fcb6fab3ad6faec, 0x6c44198c4a475817]

/-- How words are read, written and changed. -/
structure Design (W : Type) where
  /-- The length of a word in bytes. -/
  size : Nat
  /-- The number of rounds. -/
  rounds : Nat
  ofNat : Nat → W
  toNat : W → Nat
  add : W → W → W
  and : W → W → W
  xor : W → W → W
  complement : W → W
  rotate : W → Nat → W
  shift : W → Nat → W
  /-- The distances of the four mixtures; the last of each of the latter two is
  a shift. -/
  upper : Nat × Nat × Nat
  lower : Nat × Nat × Nat
  early : Nat × Nat × Nat
  late : Nat × Nat × Nat

/-- The design with words of 32 bits. -/
def narrow : Design UInt32 where
  size := 4
  rounds := 64
  ofNat := Nat.toUInt32
  toNat := UInt32.toNat
  add a b := a + b
  and a b := a &&& b
  xor a b := a ^^^ b
  complement a := ~~~a
  rotate a n := (a >>> n.toUInt32) ||| (a <<< (32 - n).toUInt32)
  shift a n := a >>> n.toUInt32
  upper := (2, 13, 22)
  lower := (6, 11, 25)
  early := (7, 18, 3)
  late := (17, 19, 10)

/-- The design with words of 64 bits. -/
def wide : Design UInt64 where
  size := 8
  rounds := 80
  ofNat := Nat.toUInt64
  toNat := UInt64.toNat
  add a b := a + b
  and a b := a &&& b
  xor a b := a ^^^ b
  complement a := ~~~a
  rotate a n := (a >>> n.toUInt64) ||| (a <<< (64 - n).toUInt64)
  shift a n := a >>> n.toUInt64
  upper := (28, 34, 39)
  lower := (14, 18, 41)
  early := (1, 8, 7)
  late := (19, 61, 6)

namespace Design

variable {W : Type} (d : Design W)

/-- A word turned by three distances, the results combined. -/
def mixture (distances : Nat × Nat × Nat) (w : W) : W :=
  d.xor (d.xor (d.rotate w distances.1) (d.rotate w distances.2.1))
    (d.rotate w distances.2.2)

/-- A word turned by two distances and shifted by a third, the results combined. -/
def thinMixture (distances : Nat × Nat × Nat) (w : W) : W :=
  d.xor (d.xor (d.rotate w distances.1) (d.rotate w distances.2.1))
    (d.shift w distances.2.2)

/-- The constant of a round. -/
def constant (i : Nat) : W :=
  d.ofNat ((constants.getD i 0).toNat / Nat.pow 2 (64 - 8 * d.size))

/-- The words of all rounds, from those of a block. -/
def schedule (block : Array W) : Array W :=
  (List.range (d.rounds - 16)).foldl (fun ws i =>
    let word (k : Nat) : W := ws.getD k (d.ofNat 0)
    ws.push (d.add (d.add (word i) (d.thinMixture d.early (word (i + 1))))
      (d.add (word (i + 9)) (d.thinMixture d.late (word (i + 14)))))) block

/-- One round. -/
def round (words : Array W) (state : List W) (i : Nat) : List W :=
  match state with
  | [a, b, c, e, f, g, h, k] =>
    let choice := d.xor (d.and f g) (d.and (d.complement f) h)
    let majority := d.xor (d.xor (d.and a b) (d.and a c)) (d.and b c)
    let first := d.add (d.add (d.add k (d.mixture d.lower f)) choice)
      (d.add (d.constant i) (words.getD i (d.ofNat 0)))
    let second := d.add (d.mixture d.upper a) majority
    [d.add first second, a, b, c, d.add e first, f, g, h]
  | other => other

/-- Takes one block in. -/
def absorb (state : List W) (block : List W) : List W :=
  let words := d.schedule block.toArray
  state.zipWith d.add ((List.range d.rounds).foldl (d.round words) state)

/-- The number that bytes write, the first counting most. -/
def wordOf (bytes : Bytes) : W :=
  d.ofNat (bytes.foldl (fun n b => 256 * n + b.toNat) 0)

/-- The bytes of a number, the first counting most. -/
def bytesOf (count n : Nat) : Bytes :=
  (List.range count).map fun i => (n / Nat.pow 256 (count - 1 - i)).toUInt8

/-- Words of some bytes, as many as there are. -/
def wordsOf (count : Nat) (bytes : Bytes) : List W :=
  (List.range count).map fun i => d.wordOf ((bytes.drop (i * d.size)).take d.size)

/-- Takes so many blocks in. -/
def absorbAll : Nat → List W → Bytes → List W
  | 0, state, _ => state
  | n + 1, state, bytes =>
    absorbAll n (d.absorb state (d.wordsOf 16 bytes)) (bytes.drop (16 * d.size))

/-- The message filled up to whole blocks. -/
def fill (message : Bytes) : Bytes :=
  let block := 16 * d.size
  let zeros := (2 * block - 2 * d.size - 1 - message.length % block) % block
  message ++ 0x80 :: List.replicate zeros 0 ++
    bytesOf (2 * d.size) (8 * message.length)

/-- The digest of a message from a first state. -/
def digest (start : List Nat) (message : Bytes) : Bytes :=
  let filled := d.fill message
  let state :=
    d.absorbAll (filled.length / (16 * d.size)) (start.map d.ofNat) filled
  state.flatMap fun w => bytesOf d.size (d.toNat w)

end Design

/-- The digest of 32 bytes. -/
def digest256 (message : Bytes) : Bytes :=
  narrow.digest [
    0x6a09e667, 0xbb67ae85, 0x3c6ef372, 0xa54ff53a,
    0x510e527f, 0x9b05688c, 0x1f83d9ab, 0x5be0cd19] message

/-- The digest of 48 bytes. -/
def digest384 (message : Bytes) : Bytes :=
  (wide.digest [
    0xcbbb9d5dc1059ed8, 0x629a292a367cd507, 0x9159015a3070dd17,
    0x152fecd8f70e5939,
    0x67332667ffc00b31, 0x8eb44a8768581511, 0xdb0c2e0d64f98fa7,
    0x47b5481dbefa4fa4] message).take 48

/-- The digest of 64 bytes. -/
def digest512 (message : Bytes) : Bytes :=
  wide.digest [
    0x6a09e667f3bcc908, 0xbb67ae8584caa73b, 0x3c6ef372fe94f82b,
    0xa54ff53a5f1d36f1,
    0x510e527fade682d1, 0x9b05688c2b3e6c1f, 0x1f83d9abfb41bd6b,
    0x5be0cd19137e2179] message

end Prospectus.Pdf.Sha2
