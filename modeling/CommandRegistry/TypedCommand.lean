/-
Typed commands: commands whose values have a type of their own, which is
written as a JSON value and read back from one.
-/
import CommandRegistry.Layout
import CommandRegistry.Table

namespace CommandRegistry

/-- A type of commands under the qualified name it is registered with. -/
structure CommandType (α : Type) where
  name : String
  write : α → Except String Json
  read : Json → Except Mismatch α

/-- A payload that is not of the command's type. -/
def CommandType.payload (command : CommandType α) (cause : PayloadFault) :
    DispatchError :=
  .payload command.name cause

/-- The message that carries a typed command. -/
def CommandTable.encodeCommand (table : CommandTable) (command : CommandType α)
    (value : α) : Except DispatchError Bytes :=
  match command.write value with
  | .error text => .error (command.payload (.unwritable text))
  | .ok json => table.encode command.name json

inductive FieldValue where
  | uint (value : UInt64)
  | string (value : String)
  | bool (value : Bool)
deriving Repr, DecidableEq

def FieldValue.kind : FieldValue → FieldKind
  | .uint _ => .uint
  | .string _ => .string
  | .bool _ => .bool

def FieldValue.json : FieldValue → Json
  | .uint value => .ofNatural value
  | .string value => .string value
  | .bool value => .bool value

/-- What a message says when a field holds something else. -/
def FieldKind.shapeName : FieldKind → String
  | .uint => "u64"
  | .string => "a string"
  | .bool => "a boolean"

/-- The value of a field.  A number below zero is of the right type but out of
range; a double is of the wrong type. -/
def FieldKind.read : FieldKind → Json → Except Mismatch FieldValue
  | .uint, .number (.natural value) => .ok (.uint value)
  | .uint, .number (.negative value) =>
      .error (.invalidValue (.number (.negative value)) FieldKind.uint.shapeName)
  | .string, .string value => .ok (.string value)
  | .bool, .bool value => .ok (.bool value)
  | kind, value => .error (.invalidType (.ofJson value) kind.shapeName)

/-- A record of required fields with distinct names.  `shapeName` is what
messages call it. -/
structure RecordType where
  shapeName : String
  fields : List Field
deriving Repr, DecidableEq

/-- A value for every field of a record, in the order of declaration. -/
structure RecordValue (record : RecordType) where
  values : List FieldValue
  kinds : values.map FieldValue.kind = record.fields.map Field.kind

/-- The members that a record is written as. -/
def RecordValue.members {record : RecordType} (value : RecordValue record) :
    List (String × Json) :=
  (record.fields.map Field.name).zip (value.values.map FieldValue.json)

def RecordValue.json {record : RecordType} (value : RecordValue record) : Json :=
  .ofMembers value.members

/-- Look through the members in the order of their keys for one that does not
fit its field.  Unknown members are passed over. -/
def RecordType.checkMembers (fields : List Field) :
    List (String × Json) → Except Mismatch Unit
  | [] => .ok ()
  | (key, value) :: rest =>
      match fields.find? fun field => field.name = key with
      | none => RecordType.checkMembers fields rest
      | some field =>
          match field.kind.read value with
          | .ok _ => RecordType.checkMembers fields rest
          | .error mismatch => .error mismatch

/-- The values of the fields, each from the member of its name. -/
def RecordType.readMembers (members : List (String × Json)) :
    List Field → Except Mismatch (List FieldValue)
  | [] => .ok []
  | field :: rest =>
      match members.lookup field.name with
      | none => .error (.missingField field.name)
      | some json =>
          match field.kind.read json with
          | .error mismatch => .error mismatch
          | .ok value => (RecordType.readMembers members rest).map (value :: ·)

/-- The values of the fields from the items of an array, in order. -/
def RecordType.readItems (tooShort : Mismatch) :
    List Field → List Json → Except Mismatch (List FieldValue × List Json)
  | [], items => .ok ([], items)
  | _ :: _, [] => .error tooShort
  | field :: fields, item :: items =>
      match field.kind.read item with
      | .error mismatch => .error mismatch
      | .ok value =>
          (RecordType.readItems tooShort fields items).map fun (values, rest) =>
            (value :: values, rest)

/-- A record is read from an object or from an array of its fields. -/
def RecordType.readValues (record : RecordType) :
    Json → Except Mismatch (List FieldValue)
  | .object members =>
      match RecordType.checkMembers record.fields members with
      | .error mismatch => .error mismatch
      | .ok () => RecordType.readMembers members record.fields
  | .array items =>
      let count := record.fields.length
      let expected := recordOfLength record.shapeName count
      match RecordType.readItems (.invalidLength items.length expected) record.fields items with
      | .error mismatch => .error mismatch
      | .ok (values, []) => .ok values
      | .ok (_, _ :: _) => .error (.invalidLength items.length "fewer elements in array")
  | value => .error (.invalidType (.ofJson value) record.shapeName)

theorem FieldKind.kind_of_read {kind : FieldKind} {json : Json} {value : FieldValue}
    (h : kind.read json = .ok value) : value.kind = kind := by
  unfold FieldKind.read at h
  split at h <;> cases h <;> rfl

theorem RecordType.kinds_of_readMembers {members : List (String × Json)}
    {fields : List Field} {values : List FieldValue}
    (h : RecordType.readMembers members fields = .ok values) :
    values.map FieldValue.kind = fields.map Field.kind := by
  induction fields generalizing values with
  | nil => cases h; rfl
  | cons field rest ih =>
      unfold RecordType.readMembers at h
      split at h
      · cases h
      · split at h
        · cases h
        · next hread =>
            cases hrest : RecordType.readMembers members rest with
            | error mismatch => rw [hrest] at h; cases h
            | ok tail =>
                rw [hrest] at h
                cases h
                rw [List.map_cons, List.map_cons, FieldKind.kind_of_read hread, ih hrest]

theorem RecordType.kinds_of_readItems {tooShort : Mismatch} {fields : List Field}
    {items rest : List Json} {values : List FieldValue}
    (h : RecordType.readItems tooShort fields items = .ok (values, rest)) :
    values.map FieldValue.kind = fields.map Field.kind := by
  induction fields generalizing items values with
  | nil => cases h; rfl
  | cons field fields ih =>
      cases items with
      | nil => cases h
      | cons item items =>
          unfold RecordType.readItems at h
          split at h
          · cases h
          · next hread =>
              cases hrest : RecordType.readItems tooShort fields items with
              | error mismatch => rw [hrest] at h; cases h
              | ok tail =>
                  rw [hrest] at h
                  cases h
                  rw [List.map_cons, List.map_cons, FieldKind.kind_of_read hread,
                    ih hrest]

theorem RecordType.kinds_of_readValues {record : RecordType} {json : Json}
    {values : List FieldValue} (h : record.readValues json = .ok values) :
    values.map FieldValue.kind = record.fields.map Field.kind := by
  unfold RecordType.readValues at h
  split at h
  · split at h
    · cases h
    · exact RecordType.kinds_of_readMembers h
  · dsimp only at h
    split at h
    · cases h
    · next hread => cases h; exact RecordType.kinds_of_readItems hread
    · cases h
  · cases h

def RecordType.read (record : RecordType) (json : Json) :
    Except Mismatch (RecordValue record) :=
  match h : record.readValues json with
  | .ok values => .ok ⟨values, RecordType.kinds_of_readValues h⟩
  | .error mismatch => .error mismatch

/-- The commands whose values are records of one type. -/
def RecordType.command (record : RecordType) (name : String) :
    CommandType (RecordValue record) :=
  ⟨name, fun value => .ok value.json, record.read⟩

end CommandRegistry
