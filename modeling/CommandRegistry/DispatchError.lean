/-
Everything that can go wrong between a command name and its handler.
-/
import CommandRegistry.FileTree
import CommandRegistry.Json.Mismatch
import CommandRegistry.RequestType

namespace CommandRegistry

/-- A step that the state of a registry or a schema does not allow. -/
inductive Misconfiguration where
  | resolverAttached
  | resolverMissing
  | typeDefined (name : String)
  | stated (text : String)
deriving Repr, DecidableEq

def Misconfiguration.message : Misconfiguration → String
  | .resolverAttached => "a type resolver is already attached"
  | .resolverMissing =>
      "a type resolver must be attached before registering handlers"
  | .typeDefined name => "request type already defined: " ++ name
  | .stated text => text

/-- Why a value is not the payload of a typed command. -/
inductive PayloadFault where
  | mismatch (cause : Mismatch)
  | unwritable (text : String)
deriving Repr

def PayloadFault.message : PayloadFault → String
  | .mismatch cause => cause.message
  | .unwritable text => text

inductive DispatchError where
  | configuration (cause : Misconfiguration)
  | identityConflict (name : String) (id : UInt64)
  | immutableId (name : String) (assigned requested : UInt64)
  | immutableType (name : String)
  | unknownType (name requestType : String)
  | offsetMismatch (persisted requested : UInt64)
  | idSpaceExhausted
  | unknownCommand (name : String)
  | malformedEnvelope (cause : VarintError)
  | unknownId (id : UInt64)
  | handlerNotFound (id : UInt64)
  | codec (cause : CodecError)
  | payload (name : String) (cause : PayloadFault)
  | io (cause : FileFault)
  | json (cause : ReadError Position)
deriving Repr

def DispatchError.message : DispatchError → String
  | .configuration cause => "configuration error: " ++ cause.message
  | .identityConflict name id =>
      "ID/Name mismatch for handler: " ++ name ++ " (id=" ++ toString id ++ ")"
  | .immutableId name assigned requested =>
      "cannot change the assigned ID for handler: " ++ name ++ " (assigned=" ++
        toString assigned ++ ", requested=" ++ toString requested ++ ")"
  | .immutableType name => "cannot alter the request type for handler: " ++ name
  | .unknownType name requestType =>
      "invalid request type '" ++ requestType ++ "' for handler: " ++ name
  | .offsetMismatch persisted requested =>
      "offset mismatch: persisted=" ++ toString persisted ++ ", requested=" ++
        toString requested
  | .idSpaceExhausted => "id space exhausted: no free ID after the highest assigned one"
  | .unknownCommand name => "unknown command: " ++ name
  | .malformedEnvelope cause => "malformed envelope: " ++ cause.message
  | .unknownId id | .handlerNotFound id => "Handler not found for ID:" ++ toString id
  | .codec cause => "codec: " ++ cause.message
  | .payload name cause =>
      "payload does not match command " ++ name ++ ": " ++ cause.message
  | .io cause => "io: " ++ cause.message
  | .json cause => "json: " ++ cause.message

/-- The message of the error that this one reports on. -/
def DispatchError.cause? : DispatchError → Option String
  | .malformedEnvelope cause => some cause.message
  | .codec cause => some cause.message
  | .payload _ cause => some cause.message
  | .io cause => some cause.message
  | .json cause => some cause.message
  | _ => none

/-- Whether the error says that nothing answers to an id. -/
def DispatchError.isNotFound : DispatchError → Bool
  | .unknownId _ | .handlerNotFound _ => true
  | _ => false

end CommandRegistry
