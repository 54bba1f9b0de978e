import Prospectus.Command.Footprint
import Prospectus.Command.Program
import Std.Time

/-!
# The program on a real machine

The files that matter are read, the program is run on them, and what it changed
is written back.  There is no way to the network here, so a batch that is not a
dry run finds the service out of reach.
-/

namespace Prospectus.Main

open Storage Command

/-- What stands at a location of the disk. -/
def observe (location : Location) : IO (Option Node) := do
  try
    return some (.file (← IO.FS.readBinFile (ofComponents true location)).toList)
  catch
    | .inappropriateType none .. => return some .directory
    | _ => return none

/-- The locations that a path leads through. -/
def locationsOf (workingDirectory : Location) (path : String) : List Location :=
  let names := (if isAbsolute path then [] else workingDirectory) ++ namesOf path
  let follow (here : Location) (name : String) : Location :=
    if name = "." then here
    else if name = ".." then here.dropLast
    else here ++ [name]
  (List.range (names.length + 1)).map fun n => (names.take n).foldl follow []

/-- The files of the disk that some paths lead to or through. -/
def look (fs : FileSystem) (paths : List String) : IO FileSystem := do
  let mut fs := fs
  for location in paths.flatMap (locationsOf fs.workingDirectory) do
    if (fs.node? location).isNone then
      if let some node ← observe location then fs := fs.put location node
  return fs

/-- Brings the disk from one state to another that has more files or other
contents. -/
def writeBack (before after : FileSystem) : IO Unit := do
  for (location, node) in after.nodes do
    if before.node? location ≠ some node then
      match node with
      | .directory => IO.FS.createDirAll (ofComponents true location)
      | .file data => IO.FS.writeBinFile (ofComponents true location) ⟨data.toArray⟩

/-- The moment it is. -/
def now : IO Time.Moment := do
  let nanos := (← Std.Time.Timestamp.now).toNanosecondsSinceUnixEpoch.val
  return (Time.Moment.ofSeconds? (nanos / 1000000000)
    (nanos % 1000000000).toNat).getD .epoch

/-- The variables that the program looks at. -/
def variableNames : List String :=
  ["CLICOLOR_FORCE", "NO_COLOR", "CLICOLOR", "TOCDIGEST_MODEL",
    "GEMINI_API_KEY", "GOOGLE_API_KEY"]

/-- The environment of the program. -/
def environment : IO Environment :=
  variableNames.filterMapM fun name => do
    return (← IO.getEnv name).map fun value => (name, value)

end Prospectus.Main

open Prospectus Command Main in
def main (arguments : List String) : IO UInt32 := do
  let environment ← environment
  let terminal ← (← IO.getStdout).isTty
  let start : Storage.FileSystem := ⟨[], Storage.namesOf (← IO.currentDir).toString⟩
  let files ← match Invocation.read environment arguments with
    | .ok invocation => do
      let files ← look start ("." :: invocation.paths)
      look files (invocation.artifacts files)
    | .error _ => pure start
  let started ← now
  let surroundings (finished : Time.Moment) : Surroundings :=
    { environment, terminal, network := fun _ => .unreachable, started, finished }
  -- A trial run shows when the work is done.
  let trial := program (surroundings started) arguments files
  let finished ← if trial.code = 0 then now else pure started
  let ending := program (surroundings finished) arguments files
  writeBack files ending.files
  (← IO.getStdout).putStr ending.output
  (← IO.getStderr).putStr ending.errors
  return ending.code.toUInt32
