/-
JSON values.  A number is a whole number of at most 64 bits or a double; an
object keeps its members in increasing order of their keys, one for each key.
-/

namespace CommandRegistry

inductive JsonNumber where
  | natural (value : UInt64)
  | negative (value : Int)
  | float (value : Float)
deriving Repr

inductive Json where
  | null
  | bool (value : Bool)
  | number (value : JsonNumber)
  | string (value : String)
  | array (items : List Json)
  | object (members : List (String × Json))
deriving Repr, Inhabited

/-- Put a member into its place in the order of keys; a member that already has
this key is replaced. -/
def Json.insertMember (key : String) (value : Json) :
    List (String × Json) → List (String × Json)
  | [] => [(key, value)]
  | member :: rest =>
      if key < member.1 then (key, value) :: member :: rest
      else if key = member.1 then (key, value) :: rest
      else member :: Json.insertMember key value rest

/-- The object with the given members; of two members with one key the later
one stays. -/
def Json.ofMembers (members : List (String × Json)) : Json :=
  .object (members.foldl (fun sorted member =>
    Json.insertMember member.1 member.2 sorted) [])

def Json.ofNatural (value : UInt64) : Json :=
  .number (.natural value)

/-- The value of a member; none if the value is no object or has no such key. -/
def Json.member? (key : String) : Json → Option Json
  | .object members => members.lookup key
  | _ => none

def Json.natural? : Json → Option UInt64
  | .number (.natural value) => some value
  | _ => none

def Json.string? : Json → Option String
  | .string value => some value
  | _ => none

def Json.bool? : Json → Option Bool
  | .bool value => some value
  | _ => none

/-- The keys of an object stand in increasing order. -/
def Json.KeysIncrease (members : List (String × Json)) : Prop :=
  (members.map Prod.fst).Pairwise (· < ·)

end CommandRegistry
