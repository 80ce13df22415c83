/-
The demo program: open the registry of a directory, register three commands,
keep the registry, and send two messages through a router.
-/
import CommandRegistry.Demo.Invocation
import CommandRegistry.Demo.LogFilter
import CommandRegistry.Registry.Pass
import CommandRegistry.Router
import CommandRegistry.Store

namespace CommandRegistry

def Demo.version : String :=
  "cmdwire 0.1.0"

def Demo.space : String :=
  "example"

def Demo.firstLayout : Layout :=
  ⟨qualify Demo.space "request1", [⟨"field1", .uint⟩, ⟨"field2", .string⟩]⟩

def Demo.secondLayout : Layout :=
  ⟨qualify Demo.space "request2", [⟨"field1", .string⟩, ⟨"field2", .uint⟩]⟩

def Demo.schema : Schema :=
  ((Schema.empty.define Demo.firstLayout).2.define Demo.secondLayout).2

def Demo.registration (name : String) (layout : Layout) : Step :=
  .register (qualify Demo.space name) { requestType := layout.name }

def Demo.pass : List Step :=
  [Demo.registration "command1" Demo.firstLayout,
    Demo.registration "command2" Demo.firstLayout,
    Demo.registration "command3" Demo.secondLayout]

def Demo.thirdRecord : RecordType :=
  ⟨"struct Command3", [⟨"field1", .string⟩, ⟨"field2", .uint⟩]⟩

def Demo.thirdCommand : CommandType (RecordValue Demo.thirdRecord) :=
  Demo.thirdRecord.command (qualify Demo.space "command3")

/-- The part of the library that an event comes from. -/
def Event.part : Event → String
  | .versionBumped _ | .handlerRegistered .. | .registryHydrated .. => "registry"
  | .snapshotLoaded .. | .snapshotWritten .. => "store"
  | .unknownCommandBound _ | .handlerReplaced _ | .dispatching _ => "router"

/-- The source of the library's entries: the names from the whole to a part. -/
def Demo.librarySource (event : Event) : String :=
  "::".intercalate ["cmdwire_core", "app", event.part]

/-- The source of the program's own entries. -/
def Demo.programSource : String :=
  "cmdwire_cli"

def Event.entry (event : Event) : LogEntry :=
  ⟨Demo.librarySource event, event.level, event.message, event.fields⟩

def Demo.note (message : String) (fields : List (String × String)) : LogEntry :=
  ⟨Demo.programSource, .info, message, fields⟩

/-- A computation that writes log entries. -/
abbrev Logging := StateM (List LogEntry)

def Logging.tell (entries : List LogEntry) : Logging Unit :=
  modify (· ++ entries)

/-- The context of every message. -/
def Demo.user : String :=
  "exampleUser"

def Demo.success : Json :=
  .object [("success", .bool true)]

/-- A handler that notes the value it is given. -/
def Demo.noting (name : String) : Handler Logging String DispatchError :=
  fun request user => do
    Logging.tell [Demo.note (name ++ " executed")
      [("user", user), ("data", request.compact)]]
    return .ok Demo.success

def Demo.fieldText : FieldValue → String
  | .uint value => toString value
  | .string value => value
  | .bool value => toString value

def Demo.handleThird (command : RecordValue Demo.thirdRecord) (user : String) :
    Logging (Except DispatchError Json) := do
  let fields := (Demo.thirdRecord.fields.zip command.values).map fun (field, value) =>
    (field.name, Demo.fieldText value)
  Logging.tell [Demo.note "command3 executed" (("user", user) :: fields)]
  return .ok Demo.success

def Demo.router (table : CommandTable) : Router Logging String DispatchError :=
  (((Router.create table id).bind (qualify Demo.space "command1")
    (Demo.noting "command1")).bind (qualify Demo.space "command2")
    (Demo.noting "command2")).route Demo.thirdCommand Demo.handleThird

/-- Send a message and note the reply. -/
def Demo.send (router : Router Logging String DispatchError) (name : String)
    (message : Except DispatchError Bytes) : ExceptT DispatchError Logging Unit := do
  let bytes ← message
  match router.table.decode bytes with
  | .error _ => pure ()
  | .ok envelope => Logging.tell ((router.dispatchEvents envelope.id).map Event.entry)
  let reply ← ExceptT.mk (router.dispatch bytes Demo.user)
  Logging.tell [Demo.note (name ++ " reply") [("reply", reply.compact)]]

def Demo.firstMessage : Json :=
  .object [("field1", .ofNatural 42), ("field2", .string "hello")]

def Demo.secondMessage : RecordValue Demo.thirdRecord :=
  ⟨[.string "world", .uint 99], rfl⟩

def Demo.exchange (table : CommandTable) : ExceptT DispatchError Logging Unit := do
  let router := Demo.router table
  Demo.send router "command1"
    (table.encode (qualify Demo.space "command1") Demo.firstMessage)
  Demo.send router "command3" (table.encodeCommand Demo.thirdCommand Demo.secondMessage)

/-- A failure, and what was under way if that is to be told. -/
structure Demo.Failure where
  context : Option String
  error : DispatchError

/-- Open the registry of a directory and register the commands. -/
def Demo.prepare (files : FileTree) (directory : String) (options : RegistryOptions) :
    Except Demo.Failure Registry × List Event :=
  let opened := Store.open files directory options Demo.schema.resolver
  match opened.result with
  | .error error =>
      (.error ⟨some ("opening registry in " ++ directory), error⟩, opened.events)
  | .ok registry =>
      let rebuilt := registry.rebuild options (Step.runAll Demo.pass)
      (match rebuilt.result with
        | .error error => .error ⟨none, error⟩
        | .ok _ => .ok rebuilt.after,
        opened.events ++ rebuilt.events)

/-- What a run leaves: its log, its failure if it failed, and the files. -/
structure Demo.Run where
  entries : List LogEntry
  failure : Option Demo.Failure
  files : FileTree

def Demo.run (files : FileTree) (directory : String) (options : RegistryOptions) :
    Demo.Run :=
  let (prepared, events) := Demo.prepare files directory options
  let entries := events.map Event.entry
  match prepared with
  | .error failure => ⟨entries, some failure, files⟩
  | .ok registry =>
      let (saved, files) := Store.save files directory registry
      let entries := entries ++ saved.events.map Event.entry
      match saved.result with
      | .error error => ⟨entries, some ⟨none, error⟩, files⟩
      | .ok path =>
          let entry := Demo.note "registry saved"
            [("path", path), ("version", toString registry.version)]
          let (exchanged, entries) :=
            (Demo.exchange registry.compile).run.run (entries ++ [entry])
          match exchanged with
          | .error error => ⟨entries, some ⟨none, error⟩, files⟩
          | .ok () => ⟨entries, none, files⟩

/-- A message below a heading, with its number if it is one of several. -/
def Demo.indented (number : Option Nat) (text : String) : String :=
  match number with
  | none => "    " ++ "\n    ".intercalate (text.splitOn "\n")
  | some number =>
      "    " ++ toString number ++ ": " ++ "\n       ".intercalate (text.splitOn "\n")

/-- A message with the messages of its causes. -/
def Demo.report (message : String) (causes : List String) : String :=
  let lines :=
    match causes with
    | [] => []
    | [cause] => [Demo.indented none cause]
    | causes =>
        (List.range causes.length).zipWith
          (fun number cause => Demo.indented (some number) cause) causes
  let below :=
    if lines.isEmpty then "" else "\n\nCaused by:\n" ++ "\n".intercalate lines
  "Error: " ++ message ++ below ++ "\n"

def Demo.Failure.report (failure : Demo.Failure) : String :=
  let causes := failure.error.cause?.toList
  match failure.context with
  | none => Demo.report failure.error.message causes
  | some context => Demo.report context (failure.error.message :: causes)

/-- What a command line comes to: the exit code, the lines of output, the text
of the error output, and the files. -/
structure Demo.Outcome where
  code : UInt8
  lines : List String
  errors : String
  files : FileTree

/-- Every line ends in a line feed. -/
def Demo.Outcome.output (outcome : Demo.Outcome) : String :=
  String.join (outcome.lines.map (· ++ "\n"))

def Demo.usage : String :=
  "usage: cmdwire [--dir DIR] [--offset OFFSET]"

def Demo.execute (files : FileTree) (environment : String → Option String)
    (arguments : List String) : Demo.Outcome :=
  match Invocation.read arguments environment with
  | .refuse => ⟨2, [], Demo.usage ++ "\n", files⟩
  | .showVersion => ⟨0, [Demo.version], "", files⟩
  | .showHelp => ⟨0, [Demo.usage], "", files⟩
  | .run directory offset =>
      let run := Demo.run files directory ⟨offset⟩
      let filter := LogFilter.ofSetting (environment "RUST_LOG")
      let lines := (run.entries.filter filter.shows).map LogEntry.line
      match run.failure with
      | none => ⟨0, lines, "", run.files⟩
      | some failure => ⟨1, lines, failure.report, run.files⟩

end CommandRegistry
