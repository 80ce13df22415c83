/-
Keeping a registry in a directory.  The snapshot is one file of the directory;
a directory without it stands for a registry that is new.
-/
import CommandRegistry.FileTree
import CommandRegistry.Registry
import CommandRegistry.Snapshot.Reader

namespace CommandRegistry

def Store.fileName : String :=
  "dispatch.json"

/-- The path of the snapshot in a directory. -/
def Store.path (directory : String) : String :=
  if directory.toList.getLast? ∈ [none, some '/'] then directory ++ Store.fileName
  else directory ++ "/" ++ Store.fileName

def Store.readText (files : FileTree) (path : String) : Except FileFault String :=
  match files.read path with
  | .error fault => .error fault
  | .ok bytes =>
      match Utf8.decode? bytes with
      | some text => .ok text
      | none => .error .notText

/-- The snapshot of a directory, if there is one. -/
def Store.load (files : FileTree) (directory : String) :
    Logged (Except DispatchError (Option Snapshot)) :=
  match Store.readText files (Store.path directory) with
  | .error .notFound => ⟨.ok none, []⟩
  | .error fault => ⟨.error (.io fault), []⟩
  | .ok text =>
      match Snapshot.ofText text with
      | .error cause => ⟨.error (.json cause), []⟩
      | .ok snapshot =>
          ⟨.ok (some snapshot), [.snapshotLoaded (Store.path directory) snapshot.version]⟩

/-- The registry of a directory: its snapshot brought back, or a new one.  Either
way the resolver is attached. -/
def Store.open (files : FileTree) (directory : String) (options : RegistryOptions)
    (resolver : Resolver) : Logged (Except DispatchError Registry) :=
  let loaded := Store.load files directory
  match loaded.result with
  | .error error => ⟨.error error, loaded.events⟩
  | .ok none =>
      let attached := (Registry.create options).attach resolver
      ⟨attached.result.map fun () => attached.after, loaded.events ++ attached.events⟩
  | .ok (some snapshot) =>
      let opened := Registry.hydrate snapshot options resolver
      ⟨opened.result, loaded.events ++ opened.events⟩

/-- Write a text to a file in a directory, which is made if it is not there. -/
def Store.writeText (files : FileTree) (directory path text : String) :
    Except FileFault Unit × FileTree :=
  match files.makeDirectories directory with
  | (.error fault, files) => (.error fault, files)
  | (.ok (), files) =>
      match files.write path (Utf8.encode text) with
      | .error fault => (.error fault, files)
      | .ok files => (.ok (), files)

/-- Write the snapshot of a registry into a directory and give its path. -/
def Store.save (files : FileTree) (directory : String) (registry : Registry) :
    Logged (Except DispatchError String) × FileTree :=
  let path := Store.path directory
  match Store.writeText files directory path registry.snapshot.pretty with
  | (.error fault, files) => (⟨.error (.io fault), []⟩, files)
  | (.ok (), files) => (⟨.ok path, [.snapshotWritten path registry.version]⟩, files)

end CommandRegistry
