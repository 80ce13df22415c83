/-
What a command line asks of the demo program.  The arguments are read from left
to right, and the first one that decides the matter does; what they leave open
is taken from the environment.
-/

namespace CommandRegistry

/-- Open the registry of a directory, show the version or the usage of the
program, or refuse the command line. -/
inductive Invocation where
  | run (directory : String) (offset : Option UInt64)
  | showVersion
  | showHelp
  | refuse
deriving Repr, DecidableEq

def Invocation.directoryVariable : String :=
  "CMDWIRE_DIR"

def Invocation.offsetVariable : String :=
  "CMDWIRE_OFFSET"

def Invocation.defaultDirectory : String :=
  "./spec/dispatch"

/-- A number in decimal digits, with or without a plus sign. -/
def word64? (text : String) : Option UInt64 :=
  let digits :=
    match text.toList with
    | '+' :: rest => rest
    | chars => chars
  if digits.isEmpty ∨ digits.any (fun char => !char.isDigit) then none
  else
    let value := Nat.ofDigitChars 10 digits 0
    if value < UInt64.size then some value.toUInt64 else none

/-- A directory has a name. -/
def directoryName? (text : String) : Option String :=
  if text = "" then none else some text

/-- The options that the arguments read so far have given. -/
structure GivenOptions where
  directory : Option String := none
  offset : Option UInt64 := none
deriving Repr, DecidableEq

/-- Take an option's value; an option may be given once. -/
def GivenOptions.take? (given : GivenOptions) (option value : String) :
    Option GivenOptions :=
  if option = "--dir" ∧ given.directory.isNone then
    (directoryName? value).map fun directory =>
      { given with directory := some directory }
  else if option = "--offset" ∧ given.offset.isNone then
    (word64? value).map fun offset => { given with offset := some offset }
  else none

/-- An argument that begins like an option cannot be the value of one. -/
def looksLikeOption (argument : String) : Bool :=
  argument.startsWith "-" && argument ≠ "-"

/-- Fill in what was not given. -/
def GivenOptions.complete (given : GivenOptions)
    (environment : String → Option String) : Invocation :=
  let directory :=
    match given.directory, environment Invocation.directoryVariable with
    | some directory, _ => some directory
    | none, some text => directoryName? text
    | none, none => some Invocation.defaultDirectory
  let offset :=
    match given.offset, environment Invocation.offsetVariable with
    | some offset, _ => some (some offset)
    | none, some text => (word64? text).map some
    | none, none => some none
  match directory, offset with
  | some directory, some offset => .run directory offset
  | _, _ => .refuse

/-- The name and the value of an option written as one argument. -/
def splitOption (argument : String) : Option (String × String) :=
  match argument.splitOn "=" with
  | name :: value :: rest => some (name, "=".intercalate (value :: rest))
  | _ => none

def Invocation.readFrom (environment : String → Option String)
    (given : GivenOptions) : List String → Invocation
  | [] => given.complete environment
  | [argument] =>
      if argument = "--" then given.complete environment
      else if argument = "--version" ∨ argument.startsWith "-V" then .showVersion
      else if argument = "--help" ∨ argument.startsWith "-h" then .showHelp
      else
        match (splitOption argument).bind fun (option, value) =>
          given.take? option value with
        | some given => given.complete environment
        | none => .refuse
  | argument :: value :: rest =>
      if argument = "--version" ∨ argument.startsWith "-V" then .showVersion
      else if argument = "--help" ∨ argument.startsWith "-h" then .showHelp
      else if argument = "--dir" ∨ argument = "--offset" then
        if looksLikeOption value then .refuse
        else
          match given.take? argument value with
          | some given => Invocation.readFrom environment given rest
          | none => .refuse
      else
        match (splitOption argument).bind fun (option, value) =>
          given.take? option value with
        | some given => Invocation.readFrom environment given (value :: rest)
        | none => .refuse

def Invocation.read (arguments : List String) (environment : String → Option String) :
    Invocation :=
  Invocation.readFrom environment {} arguments

end CommandRegistry
