/-
The command line of the demo program.  The part of the disk that a run can see
is what lies on the way to the file of the snapshot.
-/
import CommandRegistry.Demo

namespace CommandRegistry

def Main.variables : List String :=
  [Invocation.directoryVariable, Invocation.offsetVariable, "RUST_LOG"]

/-- The paths to what lies on the way of a path, and to its end. -/
def Main.stations (path : String) : List String :=
  let parts := (slashParts path.toList).map String.ofList
  ((List.range parts.length).map fun count =>
    "/".intercalate (parts.take (count + 1))).filter (· ≠ "")

/-- Take in what the disk holds under a path.  A directory is what can be opened
and not read. -/
def Main.takeIn (files : FileTree) (path : String) : IO FileTree := do
  try
    let content ← IO.FS.readBinFile path
    return (files.write path content.data.toList).toOption.getD files
  catch
    | .inappropriateType .. => return (files.makeDirectories path).2
    | _ => return files

/-- The disk on the way of a path. -/
def Main.readDisk (path : String) : IO FileTree := do
  let depth := (slashParts path.toList).count ['.', '.']
  (Main.stations path).foldlM Main.takeIn (.below depth)

/-- Bring the disk on the way of a path to what a run has left. -/
def Main.writeDisk (path : String) (before after : FileTree) : IO Unit := do
  for station in Main.stations path do
    match before.read station, after.read station with
    | .error .isADirectory, .error .isADirectory => pure ()
    | _, .error .isADirectory => IO.FS.createDirAll station
    | .ok old, .ok new =>
        if old ≠ new then IO.FS.writeBinFile station new.toByteArray
    | .error _, .ok new => IO.FS.writeBinFile station new.toByteArray
    | _, .error _ => pure ()

/-- Print what a run put out and give its exit code. -/
def Main.print (outcome : Demo.Outcome) : IO UInt32 := do
  IO.print outcome.output
  IO.eprint outcome.errors
  return outcome.code.toUInt32

end CommandRegistry

open CommandRegistry

def main (arguments : List String) : IO UInt32 := do
  let settings ← Main.variables.filterMapM fun name => do
    return (← IO.getEnv name).map fun value => (name, value)
  let environment := fun name => settings.lookup name
  match Invocation.read arguments environment with
  | .run directory _ =>
      let path := Store.path directory
      let files ← Main.readDisk path
      let outcome := Demo.execute files environment arguments
      Main.writeDisk path files outcome.files
      Main.print outcome
  | _ => Main.print (Demo.execute (.below 0) environment arguments)
