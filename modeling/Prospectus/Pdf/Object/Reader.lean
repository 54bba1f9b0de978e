import Prospectus.Pdf.Object

/-!
# Reading objects

Each reader takes bytes and gives what it has read together with the bytes after
it, or nothing if the bytes do not start with what it reads.  Where several
kinds of object could start alike, the first that fits is taken, a reference
before the number it starts with.
-/

namespace Prospectus.Pdf.Read

/-- The bytes after the given characters. -/
def tagChars : List Char → Bytes → Option Bytes
  | [], bs => some bs
  | c :: cs, b :: bs => if b.toNat = c.toNat then tagChars cs bs else none
  | _ :: _, [] => none

/-- The bytes after the given word. -/
def tag (word : String) (bs : Bytes) : Option Bytes := tagChars word.toList bs

/-- Whether a byte is one of the given characters. -/
def isOneOf (chars : String) (b : UInt8) : Bool :=
  chars.toList.any fun c => c.toNat = b.toNat

/-- White space: the space, tab, line feed, carriage return, NUL and form feed. -/
def isSpace (b : UInt8) : Bool :=
  b = 32 || b = 9 || b = 10 || b = 13 || b = 0 || b = 12

/-- Characters that end a name. -/
def isDelimiter (b : UInt8) : Bool := isOneOf "()<>[]\x7b\x7d/%" b

/-- Characters that names are made of. -/
def isRegular (b : UInt8) : Bool := !isSpace b && !isDelimiter b

/-- A decimal digit. -/
def isDigit (b : UInt8) : Bool := 48 ≤ b && b ≤ 57

/-- Whether a byte ends a line. -/
def isLineEnd (b : UInt8) : Bool := b = 10 || b = 13

/-- What follows the end of a line: a carriage return and a line feed, or one of
them. -/
def lineEnd : Bytes → Option Bytes
  | 13 :: 10 :: rest => some rest
  | 10 :: rest => some rest
  | 13 :: rest => some rest
  | _ => none

/-- The rest after a comment and the end of its line. -/
def comment (bs : Bytes) : Option Bytes := do
  let rest ← tag "%" bs
  lineEnd (rest.dropWhile (!isLineEnd ·))

/-- The rest after white space and comments. -/
def skipFrom : Nat → Bytes → Bytes
  | 0, bs => bs
  | fuel + 1, bs =>
    let rest := bs.dropWhile isSpace
    match comment rest with
    | some rest => skipFrom fuel rest
    | none => rest

/-- The rest after white space and comments. -/
def skip (bs : Bytes) : Bytes := skipFrom (bs.length + 1) bs

/-- The number that digits write. -/
def digitsNat (digits : Bytes) : Nat :=
  digits.foldl (fun n b => 10 * n + (b.toNat - 48)) 0

/-- Digits that write a number of at most `limit`. -/
def natural (limit : Nat) (bs : Bytes) : Option (Nat × Bytes) :=
  let digits := bs.takeWhile isDigit
  let n := digitsNat digits
  if digits.isEmpty || limit < n then none else some (n, bs.drop digits.length)

/-- A sign, if there is one: whether it is a minus. -/
def sign : Bytes → Bool × Bytes
  | 43 :: rest => (false, rest)
  | 45 :: rest => (true, rest)
  | bs => (false, bs)

/-- An integer of 64 bits. -/
def integer (bs : Bytes) : Option (Int × Bytes) :=
  let (negative, rest) := sign bs
  match natural (if negative then 0x8000000000000000
    else 0x7FFFFFFFFFFFFFFF) rest with
  | some (n, rest) => some (if negative then -(n : Int) else n, rest)
  | none => none

/-- A number with a decimal point, which has a digit on at least one side of it. -/
def real (bs : Bytes) : Option (Float32 × Bytes) := do
  let (negative, rest) := sign bs
  let whole := rest.takeWhile isDigit
  let rest ← tag "." (rest.drop whole.length)
  let fraction := rest.takeWhile isDigit
  if whole.isEmpty && fraction.isEmpty then none
  else some (Number.float32OfRatio negative (digitsNat (whole ++ fraction))
    (Nat.pow 10 fraction.length), rest.drop fraction.length)

/-- The value of a hexadecimal digit. -/
def hexValue? (b : UInt8) : Option UInt8 :=
  if 48 ≤ b ∧ b ≤ 57 then some (b - 48)
  else if 65 ≤ b ∧ b ≤ 70 then some (b - 55)
  else if 97 ≤ b ∧ b ≤ 102 then some (b - 87)
  else none

/-- The characters of a name; two hexadecimal digits after a number sign stand
for one byte. -/
def nameChars : Bytes → Bytes × Bytes
  | [] => ([], [])
  | 35 :: a :: b :: rest =>
    match hexValue? a, hexValue? b with
    | some x, some y =>
      let (name, rest) := nameChars rest
      ((x * 16 + y) :: name, rest)
    | _, _ => ([], 35 :: a :: b :: rest)
  | c :: rest =>
    if isRegular c && c ≠ 35 then
      let (name, rest) := nameChars rest
      (c :: name, rest)
    else ([], c :: rest)

/-- A name. -/
def name (bs : Bytes) : Option (Bytes × Bytes) := (tag "/" bs).map nameChars

/-- An octal digit. -/
def isOctal (b : UInt8) : Bool := 48 ≤ b && b ≤ 55

/-- The byte that octal digits write. -/
def octalByte (digits : Bytes) : UInt8 :=
  digits.foldl (fun n b => n * 8 + (b - 48)) 0

/-- The byte that a letter after a backslash stands for. -/
def escapeOf (b : UInt8) : UInt8 :=
  if b = 110 then 10 else if b = 114 then 13 else if b = 116 then 9
    else if b = 98 then 8
  else if b = 102 then 12 else b

/-- How deep parentheses may be nested inside a string. -/
def maxNesting : Nat := 100

/-- A string in parentheses, after the opening one, `depth` further ones being
open.  The end of a line, however written, is a line feed. -/
def literalFrom : Nat → Nat → Bytes → Option (Bytes × Bytes)
  | 0, _, _ => none
  | fuel + 1, depth, bs =>
    let more (bytes : Bytes) (depth : Nat) (rest : Bytes) :
        Option (Bytes × Bytes) :=
      (literalFrom fuel depth rest).map fun (tail, rest) => (bytes ++ tail, rest)
    match bs with
    | [] => none
    | 41 :: rest =>
      if depth = 0 then some ([], rest) else more [41] (depth - 1) rest
    | 40 :: rest => if depth < maxNesting then more [40] (depth + 1) rest else none
    | 92 :: rest =>
      let digits := (rest.takeWhile isOctal).take 3
      if !digits.isEmpty then more [octalByte digits] depth
        (rest.drop digits.length)
      else match lineEnd rest with
        | some rest => more [] depth rest
        | none => match rest with
          | b :: rest => more [escapeOf b] depth rest
          | [] => none
    | 13 :: 10 :: rest | 13 :: rest => more [10] depth rest
    | b :: rest => more [b] depth rest

/-- A string in parentheses. -/
def literal (bs : Bytes) : Option (Bytes × Bytes) := do
  let rest ← tag "(" bs
  literalFrom (rest.length + 1) 0 rest

/-- Pairs of hexadecimal digits as bytes; a last digit alone counts as the first
of a pair. -/
def pairDigits : Bytes → Bytes
  | a :: b :: rest => (a * 16 + b) :: pairDigits rest
  | [a] => [a * 16]
  | [] => []

/-- Hexadecimal digits with white space among them. -/
def hexDigits : Bytes → Bytes × Bytes
  | [] => ([], [])
  | b :: rest =>
    if isSpace b then hexDigits rest
    else match hexValue? b with
      | some d =>
        let (digits, rest) := hexDigits rest
        (d :: digits, rest)
      | none => ([], b :: rest)

/-- A string in angle brackets. -/
def hexadecimal (bs : Bytes) : Option (Bytes × Bytes) := do
  let rest ← tag "<" bs
  let (digits, rest) := hexDigits rest
  let rest ← tag ">" rest
  return (pairDigits digits, rest)

/-- The number and generation of an object, each with white space after it. -/
def objectId (bs : Bytes) : Option (ObjectId × Bytes) := do
  let (number, rest) ← natural 0xFFFFFFFF bs
  let (generation, rest) ← natural 0xFFFF (skip rest)
  return (⟨number, generation⟩, skip rest)

/-- A reference to an object. -/
def reference (bs : Bytes) : Option (ObjectId × Bytes) := do
  let (id, rest) ← objectId bs
  let rest ← tag "R" rest
  return (id, rest)

/-- The simple objects that may stand anywhere, references apart. -/
def simple (bs : Bytes) : Option (Object × Bytes) :=
  (tag "null" bs).map (fun rest => (.null, rest))
  <|> (tag "true" bs).map (fun rest => (.boolean true, rest))
  <|> (tag "false" bs).map (fun rest => (.boolean false, rest))
  <|> (real bs).map (fun (x, rest) => (.real x, rest))
  <|> (integer bs).map (fun (i, rest) => (.integer i, rest))
  <|> (name bs).map (fun (n, rest) => (.name n, rest))
  <|> (literal bs).map (fun (s, rest) => (.string s, rest))
  <|> (hexadecimal bs).map (fun (s, rest) => (.string s, rest))

mutual

/-- An object other than a stream. -/
def direct : Nat → Bytes → Option (Object × Bytes)
  | 0, _ => none
  | fuel + 1, bs =>
    (reference bs).map (fun (id, rest) => (.reference id, rest))
    <|> simple bs
    <|> (array fuel bs).map (fun (items, rest) => (.array items, rest))
    <|> (dictionary fuel bs).map (fun (entries, rest) =>
      (.dictionary entries, rest))

/-- An array in brackets. -/
def array : Nat → Bytes → Option (List Object × Bytes)
  | 0, _ => none
  | fuel + 1, bs => do
    let rest ← tag "[" bs
    let (items, rest) := items fuel (skip rest)
    let rest ← tag "]" rest
    return (items, rest)

/-- Objects with white space after each. -/
def items : Nat → Bytes → List Object × Bytes
  | 0, bs => ([], bs)
  | fuel + 1, bs =>
    match direct fuel bs with
    | some (item, rest) =>
      let (more, rest) := items fuel (skip rest)
      (item :: more, rest)
    | none => ([], bs)

/-- A dictionary in double angle brackets. -/
def dictionary : Nat → Bytes → Option (Dictionary × Bytes)
  | 0, _ => none
  | fuel + 1, bs => do
    let rest ← tag "<<" bs
    let (entries, rest) := entries fuel [] (skip rest)
    let rest ← tag ">>" rest
    return (entries, rest)

/-- Keys with their values, added to those read before. -/
def entries : Nat → Dictionary → Bytes → Dictionary × Bytes
  | 0, before, bs => (before, bs)
  | fuel + 1, before, bs =>
    match name bs with
    | none => (before, bs)
    | some (key, rest) =>
      match direct fuel (skip rest) with
      | some (value, rest) => entries fuel (before.set key value) (skip rest)
      | none => (before, bs)

end

/-- Steps that suffice to read any object from the given bytes. -/
def fuelFor (bs : Bytes) : Nat := 3 * bs.length + 3

/-- A dictionary. -/
def dictionaryAt (bs : Bytes) : Option (Dictionary × Bytes) :=
  dictionary (fuelFor bs) bs

/-- An object other than a stream. -/
def directAt (bs : Bytes) : Option (Object × Bytes) := direct (fuelFor bs) bs

end Prospectus.Pdf.Read
