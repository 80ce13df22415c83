/-
Flat request bodies.  The fields of a layout are written one after another in
the order of their declaration: a number in its shortest form, a text as the
number of its bytes and the bytes, a truth value as one byte.
-/
import CommandRegistry.RequestType

namespace CommandRegistry

inductive FieldKind where
  | uint
  | string
  | bool
deriving Repr, DecidableEq

def FieldKind.word : FieldKind → String
  | .uint => "uint"
  | .string => "string"
  | .bool => "bool"

structure Field where
  name : String
  kind : FieldKind
deriving Repr, DecidableEq

/-- The fields of a request body under the qualified name of their type. -/
structure Layout where
  name : String
  fields : List Field
deriving Repr, DecidableEq

/-- Append a text to a buffer, preceded by the number of its bytes. -/
def appendText (text : String) (buffer : Bytes) : Bytes :=
  let bytes := Utf8.encode text
  (Varint.append bytes.length.toUInt64 buffer).1 ++ bytes

/-- Append a value of this kind to a buffer; a value of another kind has no bytes. -/
def FieldKind.append? : FieldKind → Json → Bytes → Option Bytes
  | .uint, value, buffer => value.natural?.map fun word => (Varint.append word buffer).1
  | .string, value, buffer => value.string?.map fun text => appendText text buffer
  | .bool, value, buffer => value.bool?.map fun flag => buffer ++ [if flag then 1 else 0]

/-- Append a field of an object, which has to be there. -/
def Field.append? (field : Field) (value : Json) (buffer : Bytes) : Option Bytes :=
  (value.member? field.name).bind fun item => field.kind.append? item buffer

def Field.invalid (field : Field) : CodecError :=
  .invalidField field.name field.kind.word

/-- Append the fields up to the first one that does not fit. -/
def Layout.appendFields (value : Json) : List Field → Bytes → Written
  | [], buffer => ⟨buffer, none⟩
  | field :: rest, buffer =>
      match field.append? value buffer with
      | some grown => Layout.appendFields value rest grown
      | none => ⟨buffer, some field.invalid⟩

def Layout.append (layout : Layout) : Json → Bytes → Written
  | .object members, buffer => Layout.appendFields (.object members) layout.fields buffer
  | _, buffer => ⟨buffer, some (.notAnObject layout.name)⟩

/-- A framed text at the front of a body, and what follows it. -/
def Field.decodeText (field : Field) (bytes : Bytes) :
    Except CodecError (String × Bytes) :=
  match Varint.split bytes with
  | .error fault => .error (.varint fault)
  | .ok (length, rest) =>
      if rest.length < length.toNat then .error .unexpectedEnd
      else
        match Utf8.decode? (rest.take length.toNat) with
        | some text => .ok (text, rest.drop length.toNat)
        | none => .error (.invalidUtf8 field.name)

/-- The value of a field at the front of a body, and what follows it. -/
def Field.decode (field : Field) (bytes : Bytes) : Except CodecError (Json × Bytes) :=
  match field.kind with
  | .uint =>
      match Varint.split bytes with
      | .ok (value, rest) => .ok (.ofNatural value, rest)
      | .error fault => .error (.varint fault)
  | .string =>
      match field.decodeText bytes with
      | .ok (text, rest) => .ok (.string text, rest)
      | .error fault => .error fault
  | .bool =>
      match bytes with
      | [] => .error .unexpectedEnd
      | byte :: rest =>
          if byte = 0 then .ok (.bool false, rest)
          else if byte = 1 then .ok (.bool true, rest)
          else .error field.invalid

/-- The members of a body in the order of declaration, and what follows them. -/
def Layout.decodeFields : List Field → Bytes →
    Except CodecError (List (String × Json) × Bytes)
  | [], bytes => .ok ([], bytes)
  | field :: rest, bytes =>
      match field.decode bytes with
      | .error fault => .error fault
      | .ok (value, bytes) =>
          match Layout.decodeFields rest bytes with
          | .error fault => .error fault
          | .ok (members, bytes) => .ok ((field.name, value) :: members, bytes)

/-- A body must be read to its last byte. -/
def Layout.decode (layout : Layout) (bytes : Bytes) : Except CodecError Json :=
  match Layout.decodeFields layout.fields bytes with
  | .error fault => .error fault
  | .ok (members, []) => .ok (.ofMembers members)
  | .ok (_, rest) => .error (.trailingBytes rest.length)

def Layout.requestType (layout : Layout) : RequestType :=
  ⟨layout.name, layout.append, layout.decode⟩

end CommandRegistry
