import Prospectus.Pdf.CrossReference
import Prospectus.Text.Utf8

/-!
# PDF files

A file is its version, its trailer and its objects.  An object that cannot be
read at its place is left out.  `File.resolve` follows references.
-/

namespace Prospectus.Pdf

open Read

/-- A PDF file taken apart. -/
structure File where
  version : String
  trailer : Dictionary
  objects : List (ObjectId × Object)

namespace Loading

/-- An object as it stands in the file; the data of a stream whose length is not
known yet are the bytes from its start on. -/
inductive Loaded where
  | complete (object : Object)
  | openStream (entries : Dictionary) (start : Bytes)

/-- The complete object, with an empty stream in place of an open one. -/
def Loaded.object : Loaded → Object
  | complete object => object
  | openStream entries _ => .stream entries []

/-- The place of an object with the generation that its id asks for. -/
def placeOf? (places : Places) (id : ObjectId) : Option Place :=
  (places.lookup id.number).filter (·.generation = id.generation)

/-- The dictionary of a stream, and the bytes after the word that starts its
data. -/
def streamHead (bs : Bytes) : Option (Dictionary × Bytes) := do
  let (entries, rest) ← dictionaryAt bs
  let rest ← tag "stream" (skip rest)
  let rest ← lineEnd (rest.dropWhile fun b => b = 32 || b = 9)
  return (entries, rest)

/-- The data of a stream of known length, which its end must follow. -/
def streamData? (length : Nat) (bs : Bytes) : Option Bytes := do
  if bs.length < length then failure
  let rest := bs.drop length
  let _ ← tag "endstream" ((lineEnd rest).getD rest)
  return bs.take length

/-- The object at a place with its own id.  `seen` holds the ids of the lengths
being looked up. -/
def readObject (data : Bytes) (places : Places) :
    Nat → List ObjectId → Nat → Option (ObjectId × Loaded)
  | 0, _, _ => none
  | fuel + 1, seen, offset => do
    if data.length < offset then failure
    let (id, rest) ← objectId (skip (data.drop offset))
    let body := skip (← tag "obj" rest)
    match streamHead body with
    | some (entries, bs) =>
      let length : Option Int := match entries.get? "Length" with
        | some (.integer n) => some n
        | some (.reference target) =>
          if seen.contains target then none
          else match placeOf? places target with
            | some place =>
              match readObject data places fuel (target :: seen) place.offset with
              | some (found, .complete (.integer n)) =>
                if found = target then some n else none
              | _ => none
            | none => none
        | _ => none
      match length with
      | none => return (id, .openStream entries bs)
      | some n =>
        if n < 0 then failure
        match streamData? n.toNat bs with
        | some bytes => return (id, .complete (.stream entries bytes))
        | none => return (id, .complete (.dictionary entries))
    | none =>
      let (object, _) ← directAt body
      return (id, .complete object)

/-- Objects by id, a later one taking the place of an earlier one of the same
id. -/
def collect (loaded : List (ObjectId × Loaded)) : List (ObjectId × Loaded) :=
  loaded.foldl (fun kept p => kept.filter (·.1 ≠ p.1) ++ [p]) []

end Loading

namespace File

/-- How many references are followed one after the other. -/
def maxReferences : Nat := 128

/-- Follows references from an object, at most so many. -/
def follow (objects : List (ObjectId × Object)) :
    Nat → Object → Except Defect Object
  | fuel, .reference id =>
    match objects.lookup id with
    | none => .error (.missing id)
    | some object =>
      match fuel with
      | 0 => .error .tooManyReferences
      | fuel + 1 => follow objects fuel object
  | _, object => .ok object
termination_by fuel => fuel

/-- The object that a reference, or a chain of them, leads to; any other object
itself. -/
def resolve (f : File) (object : Object) : Except Defect Object :=
  follow f.objects maxReferences object

/-- The object of an id. -/
def object (f : File) (id : ObjectId) : Except Defect Object :=
  match f.objects.lookup id with
  | some object => f.resolve object
  | none => .error (.missing id)

/-- The dictionary of an id. -/
def dictionary (f : File) (id : ObjectId) : Except Defect Dictionary := do
  match ← f.object id with
  | .dictionary entries => .ok entries
  | other => .error (.wrongType "Dictionary" other.typeName)

/-- The dictionary that an object is or refers to. -/
def dictionaryOf? (f : File) : Object → Option Dictionary
  | .reference id => (f.dictionary id).toOption
  | .dictionary entries => some entries
  | _ => none

/-- The file that starts at the first header, whatever stands before it. -/
def fromHeader : Bytes → Option Bytes
  | [] => none
  | b :: rest =>
    if (tag "%PDF-" (b :: rest)).isSome then some (b :: rest) else fromHeader rest

/-- The version that a file's first line gives. -/
def versionOf? (data : Bytes) : Option String := do
  let rest ← tag "%PDF-" data
  let version := rest.takeWhile (!isLineEnd ·)
  let _ ← lineEnd (rest.drop version.length)
  Text.decodeUtf8? version

/-- Reads a file. -/
def load (bytes : Bytes) : Except Defect File := do
  let data := (fromHeader bytes).getD bytes
  let version ← match versionOf? data with
    | some version => .ok version
    | none => .error .header
  let (places, trailer) ← CrossReference.read data
  let fuel := places.length + 1
  let loaded := Loading.collect <| places.filterMap fun (_, place) =>
    Loading.readObject data places fuel [] place.offset
  let objects := loaded.map fun (id, l) => (id, l.object)
  let lengthOf (entries : Dictionary) : Option Int :=
    match (entries.get? "Length").map (follow objects maxReferences) with
    | some (.ok (.integer n)) => some n
    | _ => none
  let finish : Loading.Loaded → Object
    | .complete object => object
    | .openStream entries bs =>
      match lengthOf entries with
      | some n =>
        .stream entries (if n < 0 || (bs.length : Int) < n then []
          else bs.take n.toNat)
      | none => .stream entries []
  return ⟨version, trailer, loaded.map fun (id, l) => (id, finish l)⟩

end File

end Prospectus.Pdf
