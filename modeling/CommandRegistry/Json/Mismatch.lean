/-
Values of the wrong shape.  A mismatch names what was found and what the reader
had to find; in a text it also has a place.
-/
import CommandRegistry.Json.Tree
import CommandRegistry.Json.Writer
import CommandRegistry.Text.Quoted

namespace CommandRegistry

/-- What stands where something else was expected. -/
inductive Found where
  | null
  | boolean (value : Bool)
  | number (value : JsonNumber)
  | string (value : String)
  | sequence
  | map
deriving Repr

def Found.text : Found → String
  | .null => "null"
  | .boolean true => "boolean `true`"
  | .boolean false => "boolean `false`"
  | .number (.float value) => "floating point `" ++ doubleText value ++ "`"
  | .number value => "integer `" ++ value.text ++ "`"
  | .string value => "string " ++ quotedText value
  | .sequence => "sequence"
  | .map => "map"

def Found.ofJson : Json → Found
  | .null => .null
  | .bool value => .boolean value
  | .number value => .number value
  | .string value => .string value
  | .array _ => .sequence
  | .object _ => .map

inductive Mismatch where
  | invalidType (found : Found) (expected : String)
  | invalidValue (found : Found) (expected : String)
  | invalidLength (length : Nat) (expected : String)
  | missingField (name : String)
  | duplicateField (name : String)
deriving Repr

def Mismatch.message : Mismatch → String
  | .invalidType found expected =>
      "invalid type: " ++ found.text ++ ", expected " ++ expected
  | .invalidValue found expected =>
      "invalid value: " ++ found.text ++ ", expected " ++ expected
  | .invalidLength length expected =>
      "invalid length " ++ toString length ++ ", expected " ++ expected
  | .missingField name => "missing field `" ++ name ++ "`"
  | .duplicateField name => "duplicate field `" ++ name ++ "`"

/-- How an array form of a record with so many fields is asked for. -/
def recordOfLength (name : String) (count : Nat) : String :=
  name ++ " with " ++ toString count ++
    (if count = 1 then " element" else " elements")

/-- A point in a text: after so many tokens, or before the token after them. -/
structure Place where
  tokens : Nat
  beforeNext : Bool := false
deriving Repr, DecidableEq

/-- A line, counted from one, and the bytes before the point on that line. -/
structure Position where
  line : Nat
  column : Nat
deriving Repr, DecidableEq

/-- Why a text was refused: it is not JSON, or its value has another shape. -/
inductive ReadError (α : Type) where
  | text (fault : TextFault)
  | shape (mismatch : Mismatch) (point : α)
deriving Repr

/-- Move the places of a part to where the part begins in the whole. -/
def ReadError.shift (tokens : Nat) : ReadError Place → ReadError Place
  | .text fault => .text fault
  | .shape mismatch place =>
      .shape mismatch { place with tokens := tokens + place.tokens }

def ReadError.map (f : α → β) : ReadError α → ReadError β
  | .text fault => .text fault
  | .shape mismatch point => .shape mismatch (f point)

/-- The point up to which a text has been read.  A reader that waits before the
next token takes a closing brace in. -/
def Place.unread (place : Place) (text : String) : List Char :=
  let rest := Token.dropChars place.tokens text.toList
  if place.beforeNext then
    match rest.dropWhile isBlank with
    | '\x7d' :: rest => rest
    | rest => rest
  else rest

def Place.position (place : Place) (text : String) : Position :=
  let chars := text.toList
  let before := chars.take (chars.length - (place.unread text).length)
  { line := 1 + before.count '\n'
    column := (String.ofList (before.reverse.takeWhile (· ≠ '\n'))).utf8ByteSize }

def TextFault.message : TextFault → String
  | .malformed => "malformed text"
  | .endOfText => "unexpected end of text"

def ReadError.message : ReadError Position → String
  | .text fault => fault.message
  | .shape mismatch position =>
      mismatch.message ++ " at line " ++ toString position.line ++ " column " ++
        toString position.column

end CommandRegistry
