/-
Reading kept texts.  A record is an object, whose members may come in any order
and among unknown ones, or an array of its fields in their order.  The first
problem from left to right is reported; missing members are found at the end.
-/
import CommandRegistry.Json.Mismatch
import CommandRegistry.Snapshot

namespace CommandRegistry

abbrev Reading (α : Type) := Except (ReadError Place) α

/-- What was found is known only when it has been read to its end; an array or
an object is known by its bracket. -/
def Tree.refuse (expected : String) : Tree → ReadError Place
  | .null => .shape (.invalidType .null expected) ⟨1, false⟩
  | .bool value => .shape (.invalidType (.boolean value) expected) ⟨1, false⟩
  | .number written =>
      match Tree.numberValue written with
      | .error cause => .text cause
      | .ok value => .shape (.invalidType (.number value) expected) ⟨1, false⟩
  | .string written =>
      match written.text with
      | .error cause => .text cause
      | .ok text => .shape (.invalidType (.string text) expected) ⟨1, false⟩
  | .array _ _ => .shape (.invalidType .sequence expected) ⟨0, true⟩
  | .object _ _ => .shape (.invalidType .map expected) ⟨0, true⟩
  | .fault cause => .text cause

/-- A whole number of at most 64 bits. -/
def Tree.natural : Tree → Reading UInt64
  | .number written =>
      match Tree.numberValue written with
      | .error cause => .error (.text cause)
      | .ok (.natural value) => .ok value
      | .ok (.negative value) =>
          .error (.shape (.invalidValue (.number (.negative value)) "u64") ⟨1, false⟩)
      | .ok (.float value) =>
          .error (.shape (.invalidType (.number (.float value)) "u64") ⟨1, false⟩)
  | tree => .error (tree.refuse "u64")

def Tree.optionalNatural : Tree → Reading (Option UInt64)
  | .null => .ok none
  | tree => tree.natural.map some

def Tree.text : Tree → Reading String
  | .string written =>
      match written.text with
      | .error cause => .error (.text cause)
      | .ok text => .ok text
  | tree => .error (tree.refuse "a string")

/-- A member of no interest, which only has to be JSON. -/
def Tree.ignore (tree : Tree) : Reading Unit :=
  match tree.check with
  | .ok () => .ok ()
  | .error cause => .error (.text cause)

/-- Read a part that begins after so many tokens of the whole. -/
def Reading.after (tokens : Nat) (reading : Reading α) : Reading α :=
  match reading with
  | .ok value => .ok value
  | .error error => .error (error.shift tokens)

/-- The field that a member fills, which may be filled once.  The place of a
repeated one is before the token after its key. -/
def Reading.fill (field : Option α) (name : String) (reading : Reading α) : Reading α :=
  match field with
  | some _ => .error (.shape (.duplicateField name) ⟨1, true⟩)
  | none => reading.after 2

/-- The field of a record when all its members have been read. -/
def Reading.require (field : Option α) (name : String) (size : Nat) : Reading α :=
  match field with
  | some value => .ok value
  | none => .error (.shape (.missingField name) ⟨size, false⟩)

/-- Read the members one after another; `take` is given what the members before
have filled, and its places count from the key. -/
def Tree.readMembers (take : σ → String → Tree → Reading σ) (passed : Nat)
    (filled : σ) : List (StringToken × Tree) → Reading σ
  | [] => .ok filled
  | (key, value) :: rest =>
      match key.text with
      | .error cause => .error (.text cause)
      | .ok name =>
          match (take filled name value).after passed with
          | .error error => .error error
          | .ok filled => Tree.readMembers take (passed + value.size + 3) filled rest

def Ending.finish (ending : Ending) (value : α) : Reading α :=
  match ending with
  | .closed => .ok value
  | .broken cause => .error (.text cause)

/-- The items of an array that stands for a record: those not read yet, how many
have been read, and the tokens passed with them. -/
structure ItemCursor where
  rest : List Tree
  count : Nat
  passed : Nat
  ending : Ending
  size : Nat

def ItemCursor.start (items : List Tree) (ending : Ending) : ItemCursor :=
  ⟨items, 0, 1, ending, (Tree.array items ending).size⟩

/-- Read the next item.  An array that is over is too short for `record`. -/
def ItemCursor.next (cursor : ItemCursor) (record : String) (read : Tree → Reading α) :
    Reading (α × ItemCursor) :=
  match cursor.rest with
  | item :: rest =>
      match (read item).after cursor.passed with
      | .error error => .error error
      | .ok value =>
          .ok (value, { cursor with
            rest
            count := cursor.count + 1
            passed := cursor.passed + item.size + 1 })
  | [] =>
      match cursor.ending with
      | .closed =>
          .error (.shape (.invalidLength cursor.count record) ⟨cursor.size, false⟩)
      | .broken cause => .error (.text cause)

/-- An array may not go on after the last field. -/
def ItemCursor.finish (cursor : ItemCursor) (value : α) : Reading α :=
  match cursor.rest with
  | [] => cursor.ending.finish value
  | _ :: _ => .error (.text .malformed)

/-- The fields that the members read so far have filled. -/
structure RecordFields where
  id : Option UInt64 := none
  name : Option String := none
  requestType : Option String := none
  version : Option UInt64 := none

def RecordFields.take (filled : RecordFields) (key : String) (value : Tree) :
    Reading RecordFields :=
  if key = "id" then
    (Reading.fill filled.id key value.natural).map fun id =>
      { filled with id := some id }
  else if key = "name" then
    (Reading.fill filled.name key value.text).map fun name =>
      { filled with name := some name }
  else if key = "requestType" then
    (Reading.fill filled.requestType key value.text).map fun requestType =>
      { filled with requestType := some requestType }
  else if key = "version" then
    (Reading.fill filled.version key value.natural).map fun version =>
      { filled with version := some version }
  else (value.ignore.after 2).map fun () => filled

def RecordFields.finish (filled : RecordFields) (size : Nat) :
    Reading CommandRecord := do
  let id ← Reading.require filled.id "id" size
  let name ← Reading.require filled.name "name" size
  let requestType ← Reading.require filled.requestType "requestType" size
  let version ← Reading.require filled.version "version" size
  return ⟨id, name, requestType, version⟩

/-- What a message calls a record. -/
def CommandRecord.shapeName : String :=
  "struct HandlerRecord"

def CommandRecord.ofItems (cursor : ItemCursor) : Reading CommandRecord := do
  let record := recordOfLength CommandRecord.shapeName 4
  let (id, cursor) ← cursor.next record Tree.natural
  let (name, cursor) ← cursor.next record Tree.text
  let (requestType, cursor) ← cursor.next record Tree.text
  let (version, cursor) ← cursor.next record Tree.natural
  cursor.finish ⟨id, name, requestType, version⟩

def CommandRecord.ofTree : Tree → Reading CommandRecord
  | .object members ending => do
      let filled ← Tree.readMembers RecordFields.take 1 {} members
      let filled ← ending.finish filled
      filled.finish (Tree.object members ending).size
  | .array items ending => CommandRecord.ofItems (.start items ending)
  | tree => .error (tree.refuse CommandRecord.shapeName)

/-- The records of an array, the first of them after so many tokens. -/
def CommandRecord.listOfItems (passed : Nat) : List Tree → Reading (List CommandRecord)
  | [] => .ok []
  | item :: rest => do
      let record ← (CommandRecord.ofTree item).after passed
      let records ← CommandRecord.listOfItems (passed + item.size + 1) rest
      return record :: records

def CommandRecord.listOfTree : Tree → Reading (List CommandRecord)
  | .array items ending => do
      let records ← CommandRecord.listOfItems 1 items
      ending.finish records
  | tree => .error (tree.refuse "a sequence")

structure SnapshotFields where
  version : Option UInt64 := none
  offset : Option UInt64 := none
  handlers : Option (List CommandRecord) := none

/-- The records may also stand under an older key. -/
def SnapshotFields.take (filled : SnapshotFields) (key : String) (value : Tree) :
    Reading SnapshotFields :=
  if key = "version" then
    (Reading.fill filled.version key value.natural).map fun version =>
      { filled with version := some version }
  else if key = "offset" then
    (Reading.fill filled.offset key value.natural).map fun offset =>
      { filled with offset := some offset }
  else if key = "handlers" ∨ key = "schema" then
    (Reading.fill filled.handlers "handlers" (CommandRecord.listOfTree value)).map
      fun handlers => { filled with handlers := some handlers }
  else (value.ignore.after 2).map fun () => filled

/-- A missing offset is zero. -/
def SnapshotFields.finish (filled : SnapshotFields) (size : Nat) : Reading Snapshot := do
  let version ← Reading.require filled.version "version" size
  let handlers ← Reading.require filled.handlers "handlers" size
  return ⟨version, filled.offset.getD 0, handlers⟩

def Snapshot.shapeName : String :=
  "struct Snapshot"

/-- An array that is over before its offset lacks its third item. -/
def Snapshot.ofItems (cursor : ItemCursor) : Reading Snapshot := do
  let record := recordOfLength Snapshot.shapeName 3
  let (version, cursor) ← cursor.next record Tree.natural
  let (offset, cursor) ←
    match cursor.rest with
    | [] => .ok (0, { cursor with count := cursor.count + 1 })
    | _ :: _ => cursor.next record Tree.natural
  let (handlers, cursor) ← cursor.next record CommandRecord.listOfTree
  cursor.finish ⟨version, offset, handlers⟩

def Snapshot.ofTree : Tree → Reading Snapshot
  | .object members ending => do
      let filled ← Tree.readMembers SnapshotFields.take 1 {} members
      let filled ← ending.finish filled
      filled.finish (Tree.object members ending).size
  | .array items ending => Snapshot.ofItems (.start items ending)
  | tree => .error (tree.refuse Snapshot.shapeName)

def RegistryOptions.takeOffset (filled : Option (Option UInt64)) (key : String)
    (value : Tree) : Reading (Option (Option UInt64)) :=
  if key = "offset" then
    (Reading.fill filled key value.optionalNatural).map some
  else (value.ignore.after 2).map fun () => filled

def RegistryOptions.shapeName : String :=
  "struct RegistryOptions"

def RegistryOptions.ofItems (cursor : ItemCursor) : Reading RegistryOptions :=
  match cursor.rest with
  | [] => cursor.finish {}
  | _ :: _ => do
      let (offset, cursor) ←
        cursor.next RegistryOptions.shapeName Tree.optionalNatural
      cursor.finish ⟨offset⟩

def RegistryOptions.ofTree : Tree → Reading RegistryOptions
  | .object members ending => do
      let filled ← Tree.readMembers RegistryOptions.takeOffset 1 none members
      ending.finish ⟨filled.join⟩
  | .array items ending => RegistryOptions.ofItems (.start items ending)
  | tree => .error (tree.refuse RegistryOptions.shapeName)

/-- Read a text in which nothing but blanks follows the value. -/
def readWhole (read : Tree → Reading α) (text : String) :
    Except (ReadError Position) α :=
  let (tree, rest) := Tree.ofTokens (Token.ofChars text.toList)
  match read tree with
  | .error error => .error (error.map fun place => place.position text)
  | .ok value => if rest.isEmpty then .ok value else .error (.text .malformed)

def Snapshot.ofText (text : String) : Except (ReadError Position) Snapshot :=
  readWhole Snapshot.ofTree text

def RegistryOptions.ofText (text : String) :
    Except (ReadError Position) RegistryOptions :=
  readWhole RegistryOptions.ofTree text

end CommandRegistry
