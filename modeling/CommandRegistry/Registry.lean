/-
The registry gives every command its id for good and counts the changes of the
command set.  A registration is checked in full before anything is written, so
one that fails leaves the registry as it was.
-/
import CommandRegistry.Event
import CommandRegistry.Schema
import CommandRegistry.Snapshot
import CommandRegistry.Table

namespace CommandRegistry

/-- `changed` tells whether the pass that is under way has added a command, and
`nextId` is where the search for a free id begins. -/
structure Registry where
  version : UInt64
  offset : UInt64
  nextId : UInt64
  changed : Bool
  table : CommandTable
  resolver : Option Resolver

/-- What an operation on a registry came to: its result, the registry that it
leaves, and what it reported. -/
structure Attempt (α : Type) where
  result : Except DispatchError α
  after : Registry
  events : List Event

def Attempt.map (f : α → β) (attempt : Attempt α) : Attempt β :=
  { attempt with result := attempt.result.map f }

/-- Go on from a success; a failure is final. -/
def Attempt.andThen (attempt : Attempt α) (next : Registry → Attempt β) : Attempt β :=
  match attempt.result with
  | .error error => ⟨.error error, attempt.after, attempt.events⟩
  | .ok _ =>
      let rest := next attempt.after
      { rest with events := attempt.events ++ rest.events }

def Registry.succeed (registry : Registry) (value : α) : Attempt α :=
  ⟨.ok value, registry, []⟩

def Registry.fail (registry : Registry) (error : DispatchError) : Attempt α :=
  ⟨.error error, registry, []⟩

/-- An empty registry without a resolver. -/
def Registry.create (options : RegistryOptions) : Registry :=
  let offset := options.offset.getD 0
  { version := 0, offset, nextId := offset, changed := false, table := .empty,
    resolver := none }

def Registry.size (registry : Registry) : Nat :=
  registry.table.size

def Registry.get? (registry : Registry) (name : String) : Option LiveCommand :=
  registry.table.get? name

def Registry.getById? (registry : Registry) (id : UInt64) : Option LiveCommand :=
  registry.table.getById? id

/-- The table as it stands, for encoding, decoding and routing. -/
def Registry.compile (registry : Registry) : CommandTable :=
  registry.table

def Registry.snapshot (registry : Registry) : Snapshot :=
  ⟨registry.version, registry.offset, registry.table.handlers.map LiveCommand.record⟩

/-- One line that shows the state of a registry. -/
def Registry.describe (registry : Registry) : String :=
  "Registry \x7b version: " ++ toString registry.version ++
    ", offset: " ++ toString registry.offset ++
    ", next_id: " ++ toString registry.nextId ++
    ", handlers: " ++ toString registry.size ++
    ", resolver: " ++ toString registry.resolver.isSome ++ " \x7d"

/-- A registry takes one resolver, once. -/
def Registry.attach (registry : Registry) (resolver : Resolver) : Attempt Unit :=
  match registry.resolver with
  | some _ => registry.fail (.configuration .resolverAttached)
  | none => { registry with resolver := some resolver }.succeed ()

/-- The id after this one; the greatest word is its own successor. -/
def successorId (id : UInt64) : UInt64 :=
  if id.toNat + 1 < UInt64.size then id + 1 else id

/-- The first free id from `id` on, among at most `left` candidates. -/
def CommandTable.freeIdFrom (table : CommandTable) : Nat → UInt64 → Option UInt64
  | 0, _ => none
  | left + 1, id =>
      if table.containsId id then
        if id.toNat + 1 < UInt64.size then table.freeIdFrom left (id + 1) else none
      else some id

/-- The id that the next command without one of its own gets.  One candidate
more than there are commands is enough to find a free one. -/
def Registry.nextFreeId (registry : Registry) : Except DispatchError UInt64 :=
  match registry.table.freeIdFrom (registry.size + 1) registry.nextId with
  | some id => .ok id
  | none => .error .idSpaceExhausted

/-- What a registration will do: leave a known command at its position, or add
a new one. -/
inductive Admission where
  | known (position : Nat) (command : LiveCommand)
  | added (id : UInt64) (handle : TypeHandle)

/-- The known command of a name and its position. -/
def CommandTable.locate? (table : CommandTable) (name : String) :
    Option (Nat × LiveCommand) :=
  (table.byName.find? name).bind fun position =>
    (table.handlers[position]?).map fun command => (position, command)

/-- An id that is asked for must not belong to another command. -/
def Registry.checkOwner (registry : Registry) (name : String) (id : UInt64) :
    Except DispatchError Unit :=
  match registry.table.byId.find? id with
  | none => .ok ()
  | some owner =>
      if registry.table.byName.find? name = some owner then .ok ()
      else .error (.identityConflict name id)

/-- The id of a known command cannot be changed. -/
def Registry.checkAssigned (registry : Registry) (name : String) (id : UInt64) :
    Except DispatchError Unit :=
  match registry.table.locate? name with
  | none => .ok ()
  | some (_, command) =>
      if command.id = id then .ok () else .error (.immutableId name command.id id)

def Registry.checkId (registry : Registry) (name : String) :
    Option UInt64 → Except DispatchError Unit
  | none => .ok ()
  | some id =>
      match registry.checkOwner name id with
      | .error error => .error error
      | .ok () => registry.checkAssigned name id

/-- The request type of a command has to be known to the resolver. -/
def Resolver.resolveFor (resolver : Resolver) (name requestType : String) :
    Except DispatchError TypeHandle :=
  match resolver requestType with
  | none => .error (.unknownType name requestType)
  | some handle => .ok handle

/-- A known command keeps its request type, and a new one needs an id. -/
def Registry.assessResolved (registry : Registry) (name : String) (spec : CommandSpec)
    (handle : TypeHandle) : Except DispatchError Admission :=
  match registry.table.locate? name with
  | some (position, command) =>
      if command.handle.same handle then .ok (.known position command)
      else .error (.immutableType name)
  | none =>
      match spec.id with
      | some id => .ok (.added id handle)
      | none => registry.nextFreeId.map fun id => .added id handle

/-- All checks of a registration, in the order in which they are reported. -/
def Registry.assess (registry : Registry) (name : String) (spec : CommandSpec) :
    Except DispatchError Admission :=
  match registry.resolver with
  | none => .error (.configuration .resolverMissing)
  | some resolver =>
      match registry.checkId name spec.id with
      | .error error => .error error
      | .ok () =>
          match Resolver.resolveFor resolver name spec.requestType with
          | .error error => .error error
          | .ok handle => registry.assessResolved name spec handle

/-- Set the version of a known command if one is given. -/
def Registry.keep (registry : Registry) (position : Nat) (version : Option UInt64) :
    Registry :=
  match version with
  | none => registry
  | some version =>
      { registry with table := registry.table.setVersion position version }

/-- The first command that a pass adds begins a new version. -/
def Registry.bump (registry : Registry) : Registry :=
  if registry.changed then registry
  else { registry with version := registry.version + 1, changed := true }

/-- Append a new command; ids go on after the greatest one. -/
def Registry.append (registry : Registry) (command : LiveCommand) : Registry :=
  { registry with
    nextId := max registry.nextId (successorId command.id)
    table := registry.table.push command }

/-- The command that a request brings in under the current version. -/
def Registry.newCommand (registry : Registry) (name : String) (spec : CommandSpec)
    (id : UInt64) (handle : TypeHandle) : LiveCommand :=
  ⟨⟨id, name, spec.requestType, spec.version.getD registry.version⟩, handle⟩

def LiveCommand.registered (command : LiveCommand) : Event :=
  .handlerRegistered command.id command.name command.record.requestType

def Registry.bumpEvents (registry : Registry) : List Event :=
  if registry.changed then [] else [.versionBumped registry.bump.version]

/-- Carry out a registration that passed its checks.  `opened` is the registry
that a new command is added to. -/
def Registry.settle (registry opened : Registry) (events : List Event) (name : String)
    (spec : CommandSpec) : Admission → Attempt UInt64
  | .known position command =>
      (registry.keep position spec.version).succeed command.id
  | .added id handle =>
      let command := opened.newCommand name spec id handle
      ⟨.ok id, opened.append command, events ++ [command.registered]⟩

/-- Register a command and give its id. -/
def Registry.register (registry : Registry) (name : String) (spec : CommandSpec) :
    Attempt UInt64 :=
  match registry.assess name spec with
  | .error error => registry.fail error
  | .ok admission => registry.settle registry.bump registry.bumpEvents name spec admission

/-- Register a command under its name inside a namespace. -/
def Registry.registerIn (registry : Registry) (space name : String)
    (spec : CommandSpec) : Attempt UInt64 :=
  registry.register (qualify space name) spec

/-- Bring back a record.  It passes the checks of a registration, but no new
version begins. -/
def Registry.restore (registry : Registry) (record : CommandRecord) : Attempt UInt64 :=
  match registry.assess record.name record.spec with
  | .error error => registry.fail error
  | .ok admission => registry.settle registry [] record.name record.spec admission

def Registry.restoreAll (registry : Registry) : List CommandRecord → Attempt Unit
  | [] => registry.succeed ()
  | record :: rest =>
      (registry.restore record).andThen fun registry => registry.restoreAll rest

def checkOffset (persisted : UInt64) (options : RegistryOptions) :
    Except DispatchError Unit :=
  match options.offset with
  | none => .ok ()
  | some requested =>
      if requested = persisted then .ok ()
      else .error (.offsetMismatch persisted requested)

/-- The registry that a snapshot is replayed on. -/
def Registry.forSnapshot (snapshot : Snapshot) (resolver : Resolver) : Registry :=
  { Registry.create ⟨some snapshot.offset⟩ with
    version := snapshot.version, resolver := some resolver }

def Registry.hydrated (registry : Registry) : Event :=
  .registryHydrated registry.version registry.offset registry.size

/-- The registry that a snapshot was taken of. -/
def Registry.hydrate (snapshot : Snapshot) (options : RegistryOptions)
    (resolver : Resolver) : Logged (Except DispatchError Registry) :=
  match checkOffset snapshot.offset options with
  | .error error => ⟨.error error, []⟩
  | .ok () =>
      let replay := (Registry.forSnapshot snapshot resolver).restoreAll snapshot.handlers
      match replay.result with
      | .error error => ⟨.error error, replay.events⟩
      | .ok () => ⟨.ok replay.after, replay.events ++ [replay.after.hydrated]⟩

/-- The table of a snapshot, for a program that only reads it. -/
def CommandTable.ofSnapshot (snapshot : Snapshot) (resolver : Resolver) :
    Logged (Except DispatchError CommandTable) :=
  let opened := Registry.hydrate snapshot {} resolver
  ⟨opened.result.map Registry.compile, opened.events⟩

/-- The working copy that a pass begins with. -/
def Registry.working (registry : Registry) : Registry :=
  { registry with changed := false }

/-- Run a pass on a working copy and keep the copy if the pass succeeds. -/
def Registry.rebuild (registry : Registry) (options : RegistryOptions)
    (pass : Registry → Attempt Unit) : Attempt Snapshot :=
  match checkOffset registry.offset options with
  | .error error => registry.fail error
  | .ok () =>
      let run := pass registry.working
      match run.result with
      | .error error => ⟨.error error, registry, run.events⟩
      | .ok () => ⟨.ok run.after.snapshot, run.after, run.events⟩

end CommandRegistry
