/-
What the library reports while it works.
-/

namespace CommandRegistry

inductive LogLevel where
  | trace
  | debug
  | info
  | warn
  | error
deriving Repr, DecidableEq

def LogLevel.word : LogLevel → String
  | .trace => "TRACE"
  | .debug => "DEBUG"
  | .info => "INFO"
  | .warn => "WARN"
  | .error => "ERROR"

inductive Event where
  | versionBumped (version : UInt64)
  | handlerRegistered (id : UInt64) (name requestType : String)
  | registryHydrated (version offset : UInt64) (handlers : Nat)
  | snapshotLoaded (path : String) (version : UInt64)
  | snapshotWritten (path : String) (version : UInt64)
  | unknownCommandBound (name : String)
  | handlerReplaced (name : String)
  | dispatching (id : UInt64)
deriving Repr, DecidableEq

def Event.level : Event → LogLevel
  | .versionBumped _ | .registryHydrated .. | .snapshotLoaded .. | .snapshotWritten .. =>
      .info
  | .handlerRegistered .. | .handlerReplaced _ => .debug
  | .unknownCommandBound _ => .warn
  | .dispatching _ => .trace

def Event.message : Event → String
  | .versionBumped _ => "registry version bumped"
  | .handlerRegistered .. => "handler registered"
  | .registryHydrated .. => "registry hydrated"
  | .snapshotLoaded .. => "snapshot loaded"
  | .snapshotWritten .. => "snapshot written"
  | .unknownCommandBound _ => "binding a handler for a command that is not in the table"
  | .handlerReplaced _ => "handler replaced"
  | .dispatching _ => "dispatching"

/-- The values that belong to the message, by name. -/
def Event.fields : Event → List (String × String)
  | .versionBumped version => [("version", toString version)]
  | .handlerRegistered id name requestType =>
      [("id", toString id), ("name", name), ("request_type", requestType)]
  | .registryHydrated version offset handlers =>
      [("version", toString version), ("offset", toString offset),
        ("handlers", toString handlers)]
  | .snapshotLoaded path version | .snapshotWritten path version =>
      [("path", path), ("version", toString version)]
  | .unknownCommandBound name | .handlerReplaced name => [("name", name)]
  | .dispatching id => [("id", toString id)]

/-- A message followed by its values. -/
def messageText (message : String) (fields : List (String × String)) : String :=
  message ++ String.join (fields.map fun field => " " ++ field.1 ++ "=" ++ field.2)

def Event.text (event : Event) : String :=
  messageText event.message event.fields

/-- A result together with what was reported on the way to it. -/
structure Logged (α : Type) where
  result : α
  events : List Event

end CommandRegistry
