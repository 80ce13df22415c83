/-
Paths as they are written.  A path is a walk: it begins at the top of a tree or
at the directory one is in, and every part of it is one step.
-/

namespace CommandRegistry

/-- Why a file operation fails. -/
inductive FileFault where
  | notFound
  | notADirectory
  | isADirectory
  | alreadyExists
  | nameTooLong
  | nulInPath
  | notText
deriving Repr, DecidableEq

def FileFault.message : FileFault → String
  | .notFound => "No such file or directory (os error 2)"
  | .notADirectory => "Not a directory (os error 20)"
  | .isADirectory => "Is a directory (os error 21)"
  | .alreadyExists => "File exists (os error 17)"
  | .nameTooLong => "File name too long (os error 36)"
  | .nulInPath => "file name contained an unexpected NUL byte"
  | .notText => "stream did not contain valid UTF-8"

/-- Stay where one is, go to the directory above, or go down to a name. -/
inductive PathStep where
  | stay
  | up
  | down (name : String)
deriving Repr, DecidableEq

/-- The step that a part between two slashes stands for; an empty part is none. -/
def PathStep.ofPart? : List Char → Option PathStep
  | [] => none
  | ['.'] => some .stay
  | ['.', '.'] => some .up
  | part => some (.down (String.ofList part))

/-- The parts of a text between its slashes. -/
def slashParts : List Char → List (List Char)
  | [] => [[]]
  | char :: rest =>
      match slashParts rest with
      | part :: parts =>
          if char = '/' then [] :: part :: parts else (char :: part) :: parts
      | [] => [[char]]

/-- A path from the top of the tree begins with a slash.  One that ends in a
slash can only lead to a directory. -/
structure TreePath where
  fromTop : Bool
  steps : List PathStep
  slashed : Bool
deriving Repr, DecidableEq

/-- The greatest number of bytes in a path. -/
def TreePath.maxLength : Nat := 4095

/-- The greatest number of bytes in a name. -/
def TreePath.maxNameLength : Nat := 255

def TreePath.ofText (text : String) : Except FileFault TreePath :=
  if text.toList.contains '\x00' then .error .nulInPath
  else if TreePath.maxLength < text.utf8ByteSize then .error .nameTooLong
  else
    .ok { fromTop := text.toList.head? = some '/'
          steps := (slashParts text.toList).filterMap PathStep.ofPart?
          slashed := text.toList.getLast? = some '/' }

/-- Leave out the last steps as far as they stay. -/
def PathStep.trim (steps : List PathStep) : List PathStep :=
  (steps.reverse.dropWhile (· = .stay)).reverse

/-- The way to the directory above the one that a way leads to. -/
def PathStep.above (steps : List PathStep) : List PathStep :=
  PathStep.trim (PathStep.trim steps).dropLast

theorem PathStep.trim_length (steps : List PathStep) :
    (PathStep.trim steps).length ≤ steps.length := by
  have hsuffix := (List.dropWhile_suffix (l := steps.reverse) (· = PathStep.stay)).length_le
  rw [List.length_reverse] at hsuffix
  rwa [PathStep.trim, List.length_reverse]

theorem PathStep.above_length {steps : List PathStep} (h : steps ≠ []) :
    (PathStep.above steps).length < steps.length := by
  have hpositive := List.length_pos_iff.mpr h
  have houter := PathStep.trim_length (PathStep.trim steps).dropLast
  have hinner := PathStep.trim_length steps
  rw [List.length_dropLast] at houter
  unfold PathStep.above
  omega

end CommandRegistry
