/-
What is kept of a registry between runs, and its text.  The records stand in
the order of registration.
-/
import CommandRegistry.Json.Writer
import CommandRegistry.Table

namespace CommandRegistry

structure Snapshot where
  version : UInt64
  offset : UInt64
  handlers : List CommandRecord
deriving Repr, DecidableEq

/-- The first id of a registry that is new; one that exists must have it. -/
structure RegistryOptions where
  offset : Option UInt64 := none
deriving Repr, DecidableEq

def naturalDigits (value : UInt64) : List Char :=
  Nat.toDigits 10 value.toNat

/-- One member of an object, on a line of its own. -/
def memberLine (indent : Nat) (key : String) (value : List Char) : List Char :=
  List.replicate indent ' ' ++ Json.quote key ++ [':', ' '] ++ value

/-- Lines between brackets, with a comma after every line but the last. -/
def bracketed (opening closing : Char) (indent : Nat) (lines : List (List Char)) :
    List Char :=
  match lines with
  | [] => [opening, closing]
  | lines =>
      opening :: '\n' :: [',', '\n'].intercalate lines ++
        '\n' :: List.replicate indent ' ' ++ [closing]

def CommandRecord.pretty (record : CommandRecord) : List Char :=
  bracketed '\x7b' '\x7d' 4 [
    memberLine 6 "id" (naturalDigits record.id),
    memberLine 6 "name" (Json.quote record.name),
    memberLine 6 "requestType" (Json.quote record.requestType),
    memberLine 6 "version" (naturalDigits record.version)]

def Snapshot.prettyChars (snapshot : Snapshot) : List Char :=
  bracketed '\x7b' '\x7d' 0 [
    memberLine 2 "version" (naturalDigits snapshot.version),
    memberLine 2 "offset" (naturalDigits snapshot.offset),
    memberLine 2 "handlers" (bracketed '[' ']' 2
      (snapshot.handlers.map fun record => List.replicate 4 ' ' ++ record.pretty))]

/-- The text that is kept: two blanks for every level. -/
def Snapshot.pretty (snapshot : Snapshot) : String :=
  String.ofList snapshot.prettyChars

/-- Options as a text without blanks. -/
def RegistryOptions.text (options : RegistryOptions) : String :=
  (Json.object [("offset", (options.offset.map Json.ofNatural).getD .null)]).compact

end CommandRegistry
