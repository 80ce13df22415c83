/-
A tree of directories and files.  A path is walked from left to right, and each
of its steps is taken from a directory that is there.
-/
import CommandRegistry.Bytes
import CommandRegistry.FileTree.Path

namespace CommandRegistry

/-- The number of a directory or file, which it keeps. -/
abbrev FilePlace := Nat

/-- A directory knows the one above it and the places of the names in it. -/
inductive FileNode where
  | directory (above : FilePlace) (entries : List (String × FilePlace))
  | file (content : Bytes)
deriving Repr, DecidableEq

/-- The directories and files by their numbers, and the directory one is in.  The
top has number zero and is its own directory above. -/
structure FileTree where
  nodes : Array FileNode
  start : FilePlace
deriving Repr

/-- An empty directory that lies so many levels below the top.  No written name
leads to it or to the directories above it. -/
def FileTree.below (depth : Nat) : FileTree :=
  ⟨(Array.range (depth + 1)).map fun place => .directory (place - 1) [], depth⟩

/-- Steps are taken from directories only. -/
def FileTree.directory (tree : FileTree) (place : FilePlace) :
    Except FileFault (FilePlace × List (String × FilePlace)) :=
  match tree.nodes[place]? with
  | some (.directory above entries) => .ok (above, entries)
  | some (.file _) => .error .notADirectory
  | none => .error .notFound

def FileTree.hasDirectory (tree : FileTree) (place : FilePlace) : Bool :=
  match tree.directory place with
  | .ok _ => true
  | .error _ => false

/-- Put something under a name that is free. -/
def FileTree.link (tree : FileTree) (place : FilePlace) (name : String)
    (node : FileNode) : FileTree :=
  match tree.directory place with
  | .error _ => tree
  | .ok (above, entries) =>
      let entries := (name, tree.nodes.size) :: entries
      { tree with
        nodes := (tree.nodes.setIfInBounds place (.directory above entries)).push node }

/-- What a name in a directory leads to, if it is taken. -/
def FileTree.find (tree : FileTree) (place : FilePlace) (name : String) :
    Except FileFault (Option FilePlace) :=
  match tree.directory place with
  | .error fault => .error fault
  | .ok (_, entries) =>
      if TreePath.maxNameLength < name.utf8ByteSize then .error .nameTooLong
      else .ok (entries.lookup name)

/-- Where a step leads. -/
def FileTree.step (tree : FileTree) (place : FilePlace) :
    PathStep → Except FileFault FilePlace
  | .stay => (tree.directory place).map fun _ => place
  | .up => (tree.directory place).map fun (above, _) => above
  | .down name =>
      match tree.find place name with
      | .error fault => .error fault
      | .ok none => .error .notFound
      | .ok (some inner) => .ok inner

def FileTree.walk (tree : FileTree) : FilePlace → List PathStep → Except FileFault FilePlace
  | place, [] => .ok place
  | place, step :: rest =>
      match tree.step place step with
      | .error fault => .error fault
      | .ok next => tree.walk next rest

/-- Where a path begins. -/
def FileTree.origin (tree : FileTree) (path : TreePath) : FilePlace :=
  if path.fromTop then 0 else tree.start

/-- A name in a directory, and what it leads to if it is taken. -/
structure FileEntry where
  place : FilePlace
  name : String
  taken : Option FilePlace
deriving Repr, DecidableEq

/-- The entry that a walk makes for, which may be free if the walk ends in a name.
A walk that ends otherwise makes for none. -/
def FileTree.aim (tree : FileTree) (origin : FilePlace) (steps : List PathStep) :
    Except FileFault (Option FileEntry) :=
  match steps.getLast? with
  | some (.down name) =>
      match tree.walk origin steps.dropLast with
      | .error fault => .error fault
      | .ok place => (tree.find place name).map fun taken => some ⟨place, name, taken⟩
  | _ => (tree.walk origin steps).map fun _ => none

def FileTree.isDirectory (tree : FileTree) (origin : FilePlace) (steps : List PathStep) :
    Bool :=
  match tree.walk origin steps with
  | .error _ => false
  | .ok place => tree.hasDirectory place

def FileTree.readPath (tree : FileTree) (path : TreePath) : Except FileFault Bytes :=
  match tree.walk (tree.origin path) path.steps with
  | .error fault => .error fault
  | .ok place =>
      match tree.nodes[place]? with
      | none => .error .notFound
      | some (.directory ..) => .error .isADirectory
      | some (.file content) =>
          if path.slashed then .error .notADirectory else .ok content

def FileTree.writePath (tree : FileTree) (path : TreePath) (content : Bytes) :
    Except FileFault FileTree :=
  match tree.aim (tree.origin path) path.steps with
  | .error fault => .error fault
  | .ok none => .error .isADirectory
  | .ok (some entry) =>
      if path.slashed then .error .isADirectory
      else
        match entry.taken with
        | none => .ok (tree.link entry.place entry.name (.file content))
        | some place =>
            if tree.hasDirectory place then .error .isADirectory
            else .ok { tree with nodes := tree.nodes.setIfInBounds place (.file content) }

/-- The bytes of a file. -/
def FileTree.read (tree : FileTree) (path : String) : Except FileFault Bytes :=
  match TreePath.ofText path with
  | .error fault => .error fault
  | .ok path => tree.readPath path

/-- Put a file into a directory that is there already. -/
def FileTree.write (tree : FileTree) (path : String) (content : Bytes) :
    Except FileFault FileTree :=
  match TreePath.ofText path with
  | .error fault => .error fault
  | .ok path => tree.writePath path content

/-- Make a directory in one that is there already. -/
def FileTree.addDirectory (tree : FileTree) (origin : FilePlace) (steps : List PathStep) :
    Except FileFault FileTree :=
  match tree.aim origin steps with
  | .error fault => .error fault
  | .ok none => .error .alreadyExists
  | .ok (some entry) =>
      if entry.taken.isSome then .error .alreadyExists
      else .ok (tree.link entry.place entry.name (.directory entry.place []))

/-- Make sure of a directory in one that is there already. -/
def FileTree.ensureDirectory (tree : FileTree) (origin : FilePlace)
    (steps : List PathStep) : Except FileFault FileTree :=
  match tree.addDirectory origin steps with
  | .ok tree => .ok tree
  | .error fault =>
      if tree.isDirectory origin steps then .ok tree else .error fault

/-- Make sure of a directory.  If the way to it is not there, make sure of the
directory above first.  What has been made before a fault stays. -/
def FileTree.ensureDirectories (tree : FileTree) (origin : FilePlace)
    (steps : List PathStep) : Except FileFault Unit × FileTree :=
  match tree.ensureDirectory origin steps with
  | .ok tree => (.ok (), tree)
  | .error .notFound =>
      if _ : steps = [] then (.error .notFound, tree)
      else
        match tree.ensureDirectories origin (PathStep.above steps) with
        | (.error fault, tree) => (.error fault, tree)
        | (.ok (), tree) =>
            match tree.ensureDirectory origin steps with
            | .ok tree => (.ok (), tree)
            | .error fault => (.error fault, tree)
  | .error fault => (.error fault, tree)
termination_by steps.length
decreasing_by exact PathStep.above_length (by assumption)

/-- Make a directory and every directory on the way to it. -/
def FileTree.makeDirectories (tree : FileTree) (path : String) :
    Except FileFault Unit × FileTree :=
  match TreePath.ofText path with
  | .error fault => (.error fault, tree)
  | .ok path => tree.ensureDirectories (tree.origin path) path.steps

end CommandRegistry
