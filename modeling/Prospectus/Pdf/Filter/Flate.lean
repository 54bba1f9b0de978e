import Prospectus.Pdf.Object

/-!
# Compressed data

Data compressed with the deflate method inside a zlib envelope: a header of two
bytes, blocks that are stored or coded with prefix codes, and a checksum.  A
file that breaks off gives what it holds; a file that is wrong gives nothing.

Bits are read from the least significant end of each byte.  A prefix code is
given by the lengths of its words, as usual: shorter words come first, and words
of one length in the order of their symbols.
-/

namespace Prospectus.Pdf.Flate

/-- Bits in the order in which they are read. -/
abbrev Bits := List Bool

/-- The bits of a byte, the least significant first. -/
def bitsOf (b : UInt8) : Bits :=
  (List.range 8).map fun i => (b.toNat / Nat.pow 2 i) % 2 = 1

/-- Why decoding stopped. -/
inductive Failure where
  /-- The data break off. -/
  | truncated
  /-- The data are wrong. -/
  | corrupt
deriving Repr, DecidableEq

/-- Input still to be read: some bits of a byte under way, and bytes after it. -/
structure Input where
  bits : Bits
  bytes : Bytes

/-- Reads one bit. -/
def Input.bit (i : Input) : Option (Bool × Input) :=
  match i.bits with
  | b :: bits => some (b, { i with bits })
  | [] =>
    match i.bytes with
    | byte :: bytes =>
      match bitsOf byte with
      | b :: bits => some (b, ⟨bits, bytes⟩)
      | [] => none
    | [] => none

/-- Reads a number of so many bits, the least significant first. -/
def Input.number : Nat → Input → Option (Nat × Input)
  | 0, i => some (0, i)
  | n + 1, i => do
    let (b, i) ← i.bit
    let (rest, i) ← Input.number n i
    return ((if b then 1 else 0) + 2 * rest, i)

/-- A prefix code: for each length from one on, how many words it has, and all
symbols in the order of their words. -/
structure Code where
  counts : List Nat
  symbols : Array Nat

/-- The longest word of a code. -/
def maxLength : Nat := 15

/-- The code whose word for each symbol has the given length, zero for none. -/
def Code.ofLengths (lengths : List Nat) : Code :=
  let numbered := lengths.zipIdx
  let ofLength (n : Nat) : List Nat :=
    numbered.filterMap fun (l, symbol) => if l = n then some symbol else none
  let byLength := (List.range maxLength).map fun n => ofLength (n + 1)
  ⟨byLength.map List.length, byLength.flatten.toArray⟩

/-- Space left over after giving out all words, in units of the longest;
negative if they do not fit. -/
def Code.slack (c : Code) : Int :=
  c.counts.foldl (fun (left : Int) (n : Nat) => 2 * left - n) 1

/-- The number of symbols with a word. -/
def Code.size (c : Code) : Nat := c.symbols.size

/-- Reads one symbol.  Before words of a length are looked at, `code` is the
word read so far, `first` the first word of that length, and `index` the number
of shorter words. -/
def Code.symbol (c : Code) :
    List Nat → Nat → Nat → Nat → Input → Except Failure (Nat × Input)
  | [], _, _, _, _ => .error .corrupt
  | count :: counts, code, first, index, i =>
    match i.bit with
    | none => .error .truncated
    | some (b, i) =>
      let code := code + if b then 1 else 0
      if code < first + count then
        match c.symbols[index + (code - first)]? with
        | some symbol => .ok (symbol, i)
        | none => .error .corrupt
      else c.symbol counts (2 * code) (2 * (first + count)) (index + count) i

/-- Reads one symbol. -/
def Code.read (c : Code) (i : Input) : Except Failure (Nat × Input) :=
  c.symbol c.counts 0 0 0 i

/-- Smallest lengths and extra bits of the symbols for lengths, from 257 on. -/
def lengthTable : Array (Nat × Nat) :=
  #[(3, 0), (4, 0), (5, 0), (6, 0), (7, 0), (8, 0), (9, 0), (10, 0), (11, 1),
    (13, 1), (15, 1), (17, 1), (19, 2), (23, 2), (27, 2), (31, 2), (35, 3),
    (43, 3), (51, 3), (59, 3), (67, 4), (83, 4), (99, 4), (115, 4), (131, 5),
    (163, 5), (195, 5), (227, 5), (258, 0)]

/-- Smallest distances and extra bits of the symbols for distances. -/
def distanceTable : Array (Nat × Nat) :=
  #[(1, 0), (2, 0), (3, 0), (4, 0), (5, 1), (7, 1), (9, 2), (13, 2), (17, 3),
    (25, 3), (33, 4), (49, 4), (65, 5), (97, 5), (129, 6), (193, 6), (257, 7),
    (385, 7), (513, 8), (769, 8), (1025, 9), (1537, 9), (2049, 10), (3073, 10),
    (4097, 11), (6145, 11), (8193, 12), (12289, 12), (16385, 13), (24577, 13)]

/-- What has been decoded, and what is still to be read. -/
structure State where
  output : Array UInt8
  input : Input

/-- The outcome of decoding a part: what was decoded, and whether it came to its
end. -/
abbrev Outcome := State × Option Failure

/-- Repeats what stands so many bytes back. -/
def copyBack (distance : Nat) : Nat → Array UInt8 → Array UInt8
  | 0, output => output
  | n + 1, output =>
    match output[output.size - distance]? with
    | some b => copyBack distance n (output.push b)
    | none => output

/-- Reads a number given by a table entry and extra bits. -/
def extended (table : Array (Nat × Nat)) (symbol : Nat) (i : Input) :
    Except Failure (Nat × Input) :=
  match table[symbol]? with
  | none => .error .corrupt
  | some (base, extra) =>
    match i.number extra with
    | some (n, i) => .ok (base + n, i)
    | none => .error .truncated

/-- Decodes the symbols of a coded block up to its end. -/
def codedBlock (literals distances : Code) : Nat → State → Outcome
  | 0, s => (s, some .truncated)
  | fuel + 1, s =>
    match literals.read s.input with
    | .error e => (s, some e)
    | .ok (symbol, i) =>
      if symbol < 256 then codedBlock literals distances fuel
        ⟨s.output.push symbol.toUInt8, i⟩
      else if symbol = 256 then (⟨s.output, i⟩, none)
      else
        match extended lengthTable (symbol - 257) i with
        | .error e => (s, some e)
        | .ok (length, i) =>
          match distances.read i with
          | .error e => (s, some e)
          | .ok (distanceSymbol, i) =>
            match extended distanceTable distanceSymbol i with
            | .error e => (s, some e)
            | .ok (distance, i) =>
              if s.output.size < distance then (s, some .corrupt)
              else codedBlock literals distances fuel
                ⟨copyBack distance length s.output, i⟩

/-- The code for literals and lengths in a block with fixed codes. -/
def fixedLiterals : Code :=
  .ofLengths (List.replicate 144 8 ++ List.replicate 112 9 ++
    List.replicate 24 7 ++ List.replicate 8 8)

/-- The code for distances in a block with fixed codes. -/
def fixedDistances : Code := .ofLengths (List.replicate 30 5)

/-- Copies a stored block. -/
def storedBlock (s : State) : Outcome :=
  match s.input.bytes with
  | a :: b :: c :: d :: rest =>
    let length := a.toNat + 256 * b.toNat
    if length + (c.toNat + 256 * d.toNat) = 65535 then
      let bytes := rest.take length
      let next : State := ⟨s.output ++ bytes.toArray, ⟨[], rest.drop length⟩⟩
      (next, if bytes.length < length then some .truncated else none)
    else (s, some .corrupt)
  | _ => (s, some .truncated)

/-- The order in which the lengths of the code for code lengths are given. -/
def lengthOrder : List Nat :=
  [16, 17, 18, 0, 8, 7, 9, 6, 10, 5, 11, 4, 12, 3, 13, 2, 14, 1, 15]

/-- Reads numbers of three bits. -/
def readTriples : Nat → Input → Option (List Nat × Input)
  | 0, i => some ([], i)
  | n + 1, i => do
    let (x, i) ← i.number 3
    let (xs, i) ← readTriples n i
    return (x :: xs, i)

/-- Reads code lengths, given backwards in `lengths`, until there are `total`. -/
def readLengths (code : Code) (total : Nat) :
    Nat → List Nat → Input → Except Failure (List Nat × Input)
  | 0, _, _ => .error .corrupt
  | fuel + 1, lengths, i =>
    if total ≤ lengths.length then
      if lengths.length = total then .ok (lengths.reverse, i) else .error .corrupt
    else do
      let (symbol, i) ← code.read i
      let repeated (value base extra : Nat) : Except Failure (List Nat × Input) :=
        match i.number extra with
        | some (n, i) =>
          readLengths code total fuel (List.replicate (base + n) value ++ lengths) i
        | none => .error .truncated
      match symbol with
      | 16 =>
        match lengths with
        | last :: _ => repeated last 3 2
        | [] => .error .corrupt
      | 17 => repeated 0 3 3
      | 18 => repeated 0 11 7
      | n => readLengths code total fuel (n :: lengths) i

/-- Whether a code can be used: its words fit, and leave no room unless it has
at most one. -/
def Code.isUsable (c : Code) : Bool := c.slack = 0 || (0 < c.slack && c.size ≤ 1)

/-- Reads the codes of a block that brings its own. -/
def readCodes (i : Input) : Except Failure ((Code × Code) × Input) := do
  let take (n : Nat) (i : Input) : Except Failure (Nat × Input) :=
    match i.number n with
    | some r => .ok r
    | none => .error .truncated
  let (literalCount, i) ← take 5 i
  let (distanceCount, i) ← take 5 i
  let (lengthCount, i) ← take 4 i
  let (triples, i) ← match readTriples (lengthCount + 4) i with
    | some r => .ok r
    | none => .error .truncated
  let given := lengthOrder.zip triples
  let lengthCode :=
    Code.ofLengths ((List.range 19).map fun n => (given.lookup n).getD 0)
  if lengthCode.slack ≠ 0 then throw .corrupt
  let literals := literalCount + 257
  let distances := distanceCount + 1
  let (lengths, i) ← readLengths lengthCode (literals + distances)
    (literals + distances + 1) [] i
  let literalCode := Code.ofLengths (lengths.take literals)
  let distanceCode := Code.ofLengths (lengths.drop literals)
  if !literalCode.isUsable || !distanceCode.isUsable then throw .corrupt
  return ((literalCode, distanceCode), i)

/-- Decodes blocks up to the last one. -/
def blocks : Nat → State → Outcome
  | 0, s => (s, some .truncated)
  | fuel + 1, s =>
    match s.input.number 3 with
    | none => (s, some .truncated)
    | some (head, i) =>
      let final := head % 2 = 1
      let budget := 8 * i.bytes.length + 16
      let outcome : Outcome :=
        match head / 2 with
        | 0 => storedBlock ⟨s.output, ⟨[], i.bytes⟩⟩
        | 1 => codedBlock fixedLiterals fixedDistances budget ⟨s.output, i⟩
        | 2 =>
          match readCodes i with
          | .error e => (s, some e)
          | .ok ((literals, distances), i) =>
            codedBlock literals distances budget ⟨s.output, i⟩
        | _ => (s, some .corrupt)
      match outcome with
      | (s, none) => if final then (s, none) else blocks fuel s
      | failed => failed

/-- The checksum of decoded data. -/
def checksum (bytes : Array UInt8) : Nat :=
  let (a, b) := bytes.foldl (fun (a, b) x =>
    ((a + x.toNat) % 65521, (b + (a + x.toNat)) % 65521)) (1, 0)
  b * 65536 + a

/-- The data inside a zlib envelope: all of them, those before the data break
off, or none if the data are wrong. -/
def decode (bs : Bytes) : Bytes :=
  match bs with
  | method :: flags :: rest =>
    let sound := method.toNat % 16 = 8 && method.toNat / 16 ≤ 7 &&
      (method.toNat * 256 + flags.toNat) % 31 = 0 && flags.toNat / 32 % 2 = 0
    if !sound then []
    else
      match blocks (8 * rest.length + 8) ⟨#[], ⟨[], rest⟩⟩ with
      | (s, none) =>
        match s.input.bytes with
        | a :: b :: c :: d :: _ =>
          let stored := ((a.toNat * 256 + b.toNat) * 256 + c.toNat) * 256 + d.toNat
          if stored = checksum s.output then s.output.toList else []
        | _ => s.output.toList
      | (s, some .truncated) => s.output.toList
      | (_, some .corrupt) => []
  | _ => []

end Prospectus.Pdf.Flate
