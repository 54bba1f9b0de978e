import Prospectus.Pdf.Defect
import Prospectus.Pdf.Object.Reader

/-!
# Cross-reference tables

The end of a file says where its cross-reference table starts; the table gives
the place of each object.  A trailer after the table names the root of the
document, and may name an older table, which only adds objects that the newer
ones do not place.
-/

namespace Prospectus.Pdf

open Read

/-- Where an object stands, and its generation. -/
structure Place where
  offset : Nat
  generation : Nat
deriving Repr, DecidableEq

/-- The places of objects by their numbers. -/
abbrev Places := List (Nat × Place)

namespace CrossReference

/-- The last position, counting from `index`, at which a word starts. -/
def lastPositionFrom (word : String) (index : Nat) (best : Option Nat) :
    Bytes → Option Nat
  | [] => best
  | b :: rest =>
    lastPositionFrom word (index + 1) (if (tag word (b :: rest)).isSome
      then some index else best) rest

/-- The last position, not before `start`, at which a word starts. -/
def lastPosition (word : String) (bs : Bytes) (start : Nat) : Option Nat :=
  lastPositionFrom word start none (bs.drop start)

/-- The rest after any spaces. -/
def skipSpaces (bs : Bytes) : Bytes := bs.dropWhile (· = 32)

/-- The start of the table as the end of a file gives it. -/
def startValue (bs : Bytes) : Option Int := do
  let rest ← lineEnd (← tag "startxref" bs)
  let (start, rest) ← integer (skipSpaces rest)
  let rest ← lineEnd (skipSpaces rest)
  let _ ← tag "%%EOF" rest
  return start

/-- Where the cross-reference table starts.  The mark of the file's end is
looked for in its last 512 bytes, and the start not more than 25 bytes before
that mark. -/
def start? (bs : Bytes) : Option Nat := do
  let eof ← lastPosition "%%EOF" bs (bs.length - 512)
  if eof ≤ 25 then failure
  let position ← lastPosition "startxref" bs (eof - 25)
  let value ← startValue (bs.drop position)
  if value < 0 || (bs.length : Int) < value then failure
  return value.toNat

/-- The end of a line of the table: always two bytes. -/
def entryEnd (bs : Bytes) : Option Bytes :=
  tag " \r" bs <|> tag " \n" bs <|> tag "\r\n" bs

/-- One line of the table; `none` inside for an object that is free. -/
def entry (bs : Bytes) : Option (Option Place × Bytes) := do
  let (offset, rest) ← natural 0xFFFFFFFF bs
  let (generation, rest) ← natural 0xFFFFFFFF (← tag " " rest)
  let rest ← tag " " rest
  match tag "n" rest, tag "f" rest with
  | some rest, _ =>
    let place := if generation < 0x10000 then some ⟨offset, generation⟩ else none
    return (place, ← entryEnd rest)
  | none, some rest => return (none, ← entryEnd rest)
  | none, none => none

/-- The lines of a section. -/
def entries : Nat → Bytes → List (Option Place) × Bytes
  | 0, bs => ([], bs)
  | fuel + 1, bs =>
    match entry bs with
    | some (place, rest) =>
      let (more, rest) := entries fuel rest
      (place :: more, rest)
    | none => ([], bs)

/-- A section of the table: the number of its first object, a count that is not
relied on, and its lines. -/
def block (bs : Bytes) : Option (Places × Bytes) := do
  let (first, rest) ← natural 0xFFFFFFFFFFFFFFFF bs
  let (_, rest) ← natural 0xFFFFFFFF (← tag " " rest)
  let rest ← lineEnd ((tag " " rest).getD rest)
  let (places, rest) := entries (rest.length + 1) rest
  let numbered := places.zipIdx.filterMap fun (place, i) => place.map fun p =>
    ((first + i) % 0x100000000, p)
  return (numbered, rest)

/-- Adds places, those given taking the place of older ones. -/
def override (new old : Places) : Places :=
  old.filter (fun (n, _) => !new.any (·.1 = n)) ++ new

/-- One place for each number, the last one given. -/
def lastOfEach (places : Places) : Places :=
  places.foldl (fun kept p => kept.filter (·.1 ≠ p.1) ++ [p]) []

/-- Puts a place before the first one whose number is not smaller. -/
def insertByNumber (p : Nat × Place) : Places → Places
  | [] => [p]
  | q :: rest => if p.1 ≤ q.1 then p :: q :: rest else q :: insertByNumber p rest

/-- The places by increasing number. -/
def byNumber (places : Places) : Places := places.foldr insertByNumber []

/-- The sections after the first. -/
def moreSections : Nat → Places → Bytes → Places × Bytes
  | 0, places, bs => (places, bs)
  | fuel + 1, places, bs =>
    match block bs with
    | some (new, rest) => moreSections fuel (places ++ new) rest
    | none => (places, bs)

/-- A table and the trailer after it. -/
def tableAndTrailer (bs : Bytes) : Option (Places × Dictionary) := do
  let rest ← lineEnd (← tag "xref" bs)
  let (first, rest) ← block rest
  let (places, rest) := moreSections rest.length first rest
  let rest ← tag "trailer" (skip rest)
  let (trailer, _) ← dictionaryAt (skip rest)
  return (lastOfEach places, trailer)

/-- Whether the bytes hold an object with its number, which might be a table of
another form. -/
def holdsObject (bs : Bytes) : Bool := Option.isSome do
  let (_, rest) ← objectId (skip bs)
  directAt (skip (← tag "obj" rest))

/-- The table at a position, with its trailer, which must give the number of
objects. -/
def readAt (data : Bytes) (position : Nat) : Except Defect (Places × Dictionary) :=
  let bs := data.drop position
  match tableAndTrailer bs with
  | some (places, trailer) =>
    match (trailer.get? "Size").bind (·.asInteger?) with
    | some _ => .ok (places, trailer)
    | none => .error .trailer
  | none => .error (if holdsObject bs then .table else .trailer)

/-- The position of the older table that a trailer names. -/
def previous? (trailer : Dictionary) : Option Int :=
  (trailer.get? "Prev").bind (·.asInteger?)

/-- The position of a further table that a trailer names. -/
def further? (trailer : Dictionary) : Option Int :=
  (trailer.get? "XRefStm").bind (·.asInteger?)

/-- Adds the table at a position that a trailer names, and gives that table's
own trailer; a position outside the file is the given defect. -/
def addTable (data : Bytes) (outside : Defect) (position : Int) (places : Places) :
    Except Defect (Places × Dictionary) := do
  if position < 0 || (data.length : Int) < position then throw outside
  let (older, trailer) ← readAt data position.toNat
  return (override places older, trailer)

/-- Adds the older tables, from one to the next, none twice; the further table
that the newest trailer names comes right after the first of them. -/
def addPrevious (data : Bytes) :
    Nat → List Int → Option Int → Option Int → Places → Except Defect Places
  | 0, _, _, _, places => .ok places
  | _, _, none, _, places => .ok places
  | fuel + 1, seen, some position, further, places => do
    if seen.contains position then return places
    let (places, trailer) ← addTable data .previousStart position places
    let places ← match further with
      | some position => (addTable data .furtherStart position places).map (·.1)
      | none => .ok places
    addPrevious data fuel (position :: seen) (previous? trailer) none places

/-- All places of objects in a file, by increasing number, and its trailer.  The
number after the largest must still be a number of 32 bits. -/
def read (data : Bytes) : Except Defect (Places × Dictionary) := do
  let position ← match start? data with
    | some position => .ok position
    | none => .error .start
  let (places, trailer) ← readAt data position
  let places ← addPrevious data (data.length + 2) [] (previous? trailer)
    (further? trailer) places
  if places.any fun (n, _) => 0x100000000 ≤ n + 1 then throw .table
  return (byNumber places, trailer)

end CrossReference

end Prospectus.Pdf
