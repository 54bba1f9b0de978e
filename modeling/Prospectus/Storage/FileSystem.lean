import Prospectus.Storage.Fault
import Prospectus.Storage.Path
import Prospectus.Text.Utf8

/-!
# A file system

Files and directories by their location below the root, and the directory from
which relative paths start.  Operations answer with a fault or a result, and
with the file system after them.

There are no links, so the names of a path decide where it leads.  Whatever
keeps a file from being written is found before the file is opened: a write that
fails has neither made the file nor cut it short.  A disk that fills up halfway
through a file is beyond this model.
-/

namespace Prospectus.Storage

/-- The names that lead from the root to a file or directory. -/
abbrev Location := List String

/-- What stands at a location. -/
inductive Node where
  | file (data : List UInt8)
  | directory
deriving Repr, DecidableEq, Inhabited

/-- Files and directories; the root is always a directory. -/
structure FileSystem where
  nodes : List (Location × Node)
  workingDirectory : Location

/-- What a path leads to. -/
inductive Target where
  /-- A directory that the path does not name: the root, a dot or two dots. -/
  | directory (location : Location)
  /-- A name in a directory, which may not exist; whether a slash follows it. -/
  | entry (parent : Location) (name : String) (slash : Bool)

namespace FileSystem

/-- The longest name, in bytes. -/
def maxName : Nat := 255

/-- The longest path, in bytes. -/
def maxPath : Nat := 4095

/-- What stands at a location. -/
def node? (fs : FileSystem) (location : Location) : Option Node :=
  if location.isEmpty then some .directory else fs.nodes.lookup location

/-- Puts a file or directory at a location. -/
def put (fs : FileSystem) (location : Location) (node : Node) : FileSystem :=
  { fs with nodes := fs.nodes.filter (·.1 ≠ location) ++ [(location, node)] }

/-- Takes away what stands at a location and below it. -/
def erase (fs : FileSystem) (location : Location) : FileSystem :=
  { fs with nodes := fs.nodes.filter fun (l, _) => !location.isPrefixOf l }

/-- Follows names from a directory to the last of them. -/
def follow (fs : FileSystem) (slash : Bool) (here : Location) :
    List String → Except Fault Target
  | [] => .ok (.directory here)
  | name :: rest =>
    if name = "." then fs.follow slash here rest
    else if name = ".." then fs.follow slash here.dropLast rest
    else if maxName < name.utf8ByteSize then .error .nameTooLong
    else if rest.isEmpty then .ok (.entry here name slash)
    else
      match fs.node? (here ++ [name]) with
      | some .directory => fs.follow slash (here ++ [name]) rest
      | some (.file _) => .error .notDirectory
      | none => .error .missing

/-- What a path leads to. -/
def resolve (fs : FileSystem) (path : String) : Except Fault Target :=
  if path.toList.contains '\x00' then .error .nulInPath
  else if path.isEmpty then .error .missing
  else if maxPath < path.utf8ByteSize then .error .nameTooLong
  else
    let slash := path.toList.getLast? = some '/'
    fs.follow slash (if isAbsolute path then []
      else fs.workingDirectory) (namesOf path)

/-- What stands at a path. -/
def stat (fs : FileSystem) (path : String) : Except Fault Node := do
  match ← fs.resolve path with
  | .directory _ => return .directory
  | .entry parent name slash =>
    match fs.node? (parent ++ [name]) with
    | none => throw .missing
    | some (.file data) => if slash then throw .notDirectory else return .file data
    | some .directory => return .directory

/-- Whether something stands at a path. -/
def exists? (fs : FileSystem) (path : String) : Bool := (fs.stat path).toBool

/-- Whether a directory stands at a path. -/
def isDirectory (fs : FileSystem) (path : String) : Bool :=
  match fs.stat path with
  | .ok .directory => true
  | _ => false

/-- The bytes of a file. -/
def readBytes (fs : FileSystem) (path : String) : Except Fault (List UInt8) := do
  match ← fs.stat path with
  | .file data => return data
  | .directory => throw .isDirectory

/-- The text of a file. -/
def readText (fs : FileSystem) (path : String) : Except Fault String := do
  match Text.decodeUtf8? (← fs.readBytes path) with
  | some text => return text
  | none => throw .notText

/-- The location of a file that is to be written, and its data if it is there. -/
def writable (fs : FileSystem) (path : String) :
    Except Fault (Location × Option (List UInt8)) := do
  match ← fs.resolve path with
  | .directory _ => throw .isDirectory
  | .entry parent name slash =>
    let location := parent ++ [name]
    match fs.node? location with
    | some .directory => throw .isDirectory
    | some (.file data) =>
      if slash then throw .notDirectory else return (location, some data)
    | none => if slash then throw .isDirectory else return (location, none)

/-- Writes a file, in place of what it held. -/
def writeBytes (fs : FileSystem) (path : String) (data : List UInt8) :
    Except Fault FileSystem := do
  let (location, _) ← fs.writable path
  return fs.put location (.file data)

/-- Adds to the end of a file, which is made if it is not there. -/
def appendText (fs : FileSystem) (path text : String) :
    Except Fault FileSystem := do
  let (location, old) ← fs.writable path
  return fs.put location (.file (old.getD [] ++ Text.encodeUtf8 text))

/-- Makes one directory. -/
def makeDirectory (fs : FileSystem) (path : String) : Except Fault FileSystem := do
  match ← fs.resolve path with
  | .directory _ => throw .occupied
  | .entry parent name _ =>
    let location := parent ++ [name]
    match fs.node? location with
    | some _ => throw .occupied
    | none => return fs.put location .directory

/-- Makes a directory and those above it, as far as they are not there.  What
has been made stays, also after a fault. -/
def makeDirectoriesFrom : Nat → FileSystem → String → FileSystem × Except Fault Unit
  | 0, fs, _ => (fs, .error .missing)
  | fuel + 1, fs, path =>
    if path.isEmpty then (fs, .ok ())
    else
      match fs.makeDirectory path with
      | .ok fs => (fs, .ok ())
      | .error fault =>
        if fault = .missing then
          match parent? path with
          | none => (fs, .error (.message "failed to create whole tree"))
          | some parent =>
            match makeDirectoriesFrom fuel fs parent with
            | (fs, .error fault) => (fs, .error fault)
            | (fs, .ok ()) =>
              match fs.makeDirectory path with
              | .ok fs => (fs, .ok ())
              | .error fault =>
                (fs, if fs.isDirectory path then .ok () else .error fault)
        else (fs, if fs.isDirectory path then .ok () else .error fault)

/-- Makes a directory and those above it. -/
def makeDirectories (fs : FileSystem) (path : String) :
    FileSystem × Except Fault Unit :=
  makeDirectoriesFrom (path.length + 1) fs path

/-- Writes a file, making the directories above it. -/
def writeText (fs : FileSystem) (path text : String) :
    FileSystem × Except Fault Unit :=
  let (fs, made) : FileSystem × Except Fault Unit := match parent? path with
    | some parent =>
      if parent.isEmpty then (fs, .ok ()) else fs.makeDirectories parent
    | none => (fs, .ok ())
  match made with
  | .error fault => (fs, .error fault)
  | .ok () =>
    match fs.writeBytes path (Text.encodeUtf8 text) with
    | .ok fs => (fs, .ok ())
    | .error fault => (fs, .error fault)

/-- Takes away a file, or a directory with all it holds. -/
def remove (fs : FileSystem) (path : String) : Except Fault FileSystem := do
  match ← fs.resolve path with
  | .directory _ => throw .invalid
  | .entry parent name _ =>
    let location := parent ++ [name]
    match fs.node? location with
    | some _ => return fs.erase location
    | none => throw .missing

/-- Everything below the working directory, by its path from there. -/
def listing (fs : FileSystem) : List (String × Node) :=
  fs.nodes.filterMap fun (location, node) =>
    if fs.workingDirectory.isPrefixOf location && fs.workingDirectory.length <
        location.length then
      some ("/".intercalate (location.drop fs.workingDirectory.length), node)
    else none

end FileSystem

end Prospectus.Storage
