/-
Commands, the compiled table of a registry and the messages it reads and writes.
The table holds the commands in the order of registration, with an index by name
and an index by id.  A message is the id of a command and then its body, which has
no length of its own and goes on to the end.
-/
import CommandRegistry.DispatchError
import CommandRegistry.Index

namespace CommandRegistry

/-- A command as it is kept between runs.  The version is the one under which
the command came in. -/
structure CommandRecord where
  id : UInt64
  name : String
  requestType : String
  version : UInt64
deriving Repr, DecidableEq

/-- A request for a command.  Without an id the next free one is assigned, and
without a version the current one is recorded. -/
structure CommandSpec where
  requestType : String
  id : Option UInt64 := none
  version : Option UInt64 := none
deriving Repr, DecidableEq

/-- The request that brings a record back as it was. -/
def CommandRecord.spec (record : CommandRecord) : CommandSpec :=
  ⟨record.requestType, some record.id, some record.version⟩

structure LiveCommand where
  record : CommandRecord
  handle : TypeHandle

def LiveCommand.id (command : LiveCommand) : UInt64 :=
  command.record.id

def LiveCommand.name (command : LiveCommand) : String :=
  command.record.name

def LiveCommand.withVersion (command : LiveCommand) (version : UInt64) : LiveCommand :=
  { command with record := { command.record with version := version } }

structure CommandTable where
  handlers : List LiveCommand
  byName : Index String
  byId : Index UInt64

def CommandTable.empty : CommandTable :=
  ⟨[], .empty, .empty⟩

def CommandTable.size (table : CommandTable) : Nat :=
  table.handlers.length

def CommandTable.get? (table : CommandTable) (name : String) : Option LiveCommand :=
  (table.byName.find? name).bind fun position => table.handlers[position]?

def CommandTable.getById? (table : CommandTable) (id : UInt64) : Option LiveCommand :=
  (table.byId.find? id).bind fun position => table.handlers[position]?

def CommandTable.containsId (table : CommandTable) (id : UInt64) : Bool :=
  table.byId.contains id

/-- Append a command whose name and id are new to the table. -/
def CommandTable.push (table : CommandTable) (command : LiveCommand) : CommandTable :=
  { handlers := table.handlers ++ [command]
    byName := table.byName.insert command.name table.size
    byId := table.byId.insert command.id table.size }

/-- Change the recorded version of the command at a position. -/
def CommandTable.setVersion (table : CommandTable) (position : Nat)
    (version : UInt64) : CommandTable :=
  { table with
    handlers := table.handlers.modify position fun command =>
      command.withVersion version }

/-- A message that has been read. -/
structure Envelope where
  id : UInt64
  name : String
  value : Json
deriving Repr

/-- Append the id of a message to a buffer. -/
def Envelope.appendHeader (id : UInt64) (buffer : Bytes) : Bytes :=
  (Varint.append id buffer).1

/-- The header of a message at the front of a new buffer. -/
def Envelope.encodeHeader (id : UInt64) : Bytes :=
  Envelope.appendHeader id []

/-- The id of a message and its body. -/
def Envelope.decodeHeader (bytes : Bytes) : Except DispatchError (UInt64 × Bytes) :=
  match Varint.split bytes with
  | .ok parts => .ok parts
  | .error cause => .error (.malformedEnvelope cause)

/-- The message that carries a value to the command of this name.  The body is written to the
buffer that holds the header, and nothing of a message is left where it fails. -/
def CommandTable.encode (table : CommandTable) (name : String) (value : Json) :
    Except DispatchError Bytes :=
  match table.get? name with
  | none => .error (.unknownCommand name)
  | some command =>
      let header := Envelope.encodeHeader command.id
      match (command.handle.requestType.append value header).complete with
      | .ok bytes => .ok bytes
      | .error cause => .error (.codec cause)

def CommandTable.decode (table : CommandTable) (bytes : Bytes) :
    Except DispatchError Envelope :=
  match Envelope.decodeHeader bytes with
  | .error error => .error error
  | .ok (id, body) =>
      match table.getById? id with
      | none => .error (.unknownId id)
      | some command =>
          match command.handle.requestType.decode body with
          | .ok value => .ok ⟨id, command.name, value⟩
          | .error cause => .error (.codec cause)

end CommandRegistry
