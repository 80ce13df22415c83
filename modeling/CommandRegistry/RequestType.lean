/-
Request types as the registry sees them: a name, a way to write a value and a
way to read one back.  What the bytes of a body mean is the business of the
resolver that supplied the type.
-/
import CommandRegistry.Bytes
import CommandRegistry.Json

namespace CommandRegistry

/-- Why the body of a request cannot be written or read. -/
inductive CodecError where
  | invalidField (field : String) (expected : String)
  | notAnObject (typeName : String)
  | unexpectedEnd
  | trailingBytes (count : Nat)
  | invalidUtf8 (field : String)
  | varint (fault : VarintError)
deriving Repr, DecidableEq

def CodecError.message : CodecError → String
  | .invalidField field expected => "field '" ++ field ++ "': expected " ++ expected
  | .notAnObject typeName => "expected an object for type " ++ typeName
  | .unexpectedEnd => "unexpected end of body"
  | .trailingBytes count => toString count ++ " trailing bytes after body"
  | .invalidUtf8 field => "invalid utf-8 in string field '" ++ field ++ "'"
  | .varint fault => fault.message

/-- What a buffer holds after a value was written to it, and what stopped the
writing if anything did.  The bytes written before a fault stay. -/
structure Written where
  bytes : Bytes
  fault : Option CodecError
deriving Repr, DecidableEq

/-- The bytes of a value that was written to its end. -/
def Written.complete (written : Written) : Except CodecError Bytes :=
  match written.fault with
  | none => .ok written.bytes
  | some fault => .error fault

/-- Put in front what a buffer held before. -/
def Written.onto (buffer : Bytes) (written : Written) : Written :=
  { written with bytes := buffer ++ written.bytes }

/-- A value is written to a buffer that may hold something already. -/
structure RequestType where
  name : String
  append : Json → Bytes → Written
  decode : Bytes → Except CodecError Json

/-- What is written of a value to a new buffer. -/
def RequestType.encode (requestType : RequestType) (value : Json) : Written :=
  requestType.append value []

/-- What makes two handles one: a definition that a resolver keeps has a place
there, and a definition made for one call alone is like no other. -/
inductive HandleIdentity where
  | kept (place : Nat)
  | unique
deriving Repr, DecidableEq

/-- A resolved request type. -/
structure TypeHandle where
  identity : HandleIdentity
  requestType : RequestType

/-- Two handles are the same if they stand for one kept definition.  Equal names
or equal behaviour are not enough. -/
def TypeHandle.same (left right : TypeHandle) : Bool :=
  match left.identity, right.identity with
  | .kept place, .kept other => place = other
  | _, _ => false

def TypeHandle.name (handle : TypeHandle) : String :=
  handle.requestType.name

/-- The handle of the request type with a given name. -/
abbrev Resolver := String → Option TypeHandle

/-- A resolver that answers a name with the same handle on every call. -/
def Resolver.Steady (resolver : Resolver) : Prop :=
  ∀ name handle, resolver name = some handle → handle.same handle = true

end CommandRegistry
