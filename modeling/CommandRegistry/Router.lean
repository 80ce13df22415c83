/-
The router hands a message to the one handler that is bound to the name of its
command.  Handlers run in a monad of their own; the router adds no effect.
-/
import CommandRegistry.Event
import CommandRegistry.TypedCommand

namespace CommandRegistry

/-- A handler is given the value of a request and the caller's context. -/
abbrev Handler (m : Type → Type) (γ ε : Type) :=
  Json → γ → m (Except ε Json)

/-- `raise` makes an error of the router one of the handlers' errors. -/
structure Router (m : Type → Type) (γ ε : Type) where
  table : CommandTable
  bindings : List (String × Handler m γ ε)
  raise : DispatchError → ε

variable {m : Type → Type} {γ ε : Type}

def Router.create (table : CommandTable) (raise : DispatchError → ε) : Router m γ ε :=
  ⟨table, [], raise⟩

def Router.isBound (router : Router m γ ε) (name : String) : Bool :=
  (router.bindings.lookup name).isSome

/-- Bind a handler to a name; of several the latest counts. -/
def Router.bind (router : Router m γ ε) (name : String) (handler : Handler m γ ε) :
    Router m γ ε :=
  { router with
    bindings := (name, handler) ::
      router.bindings.filter fun binding => binding.1 ≠ name }

/-- What binding a name reports. -/
def Router.bindEvents (router : Router m γ ε) (name : String) : List Event :=
  (if (router.table.get? name).isSome then [] else [.unknownCommandBound name]) ++
    if router.isBound name then [.handlerReplaced name] else []

/-- A handler of typed commands as a handler of values. -/
def CommandType.handler [Monad m] (command : CommandType α)
    (raise : DispatchError → ε) (handle : α → γ → m (Except ε Json)) : Handler m γ ε :=
  fun request context =>
    match command.read request with
    | .ok value => handle value context
    | .error mismatch => pure (.error (raise (command.payload (.mismatch mismatch))))

/-- Bind a handler of typed commands to the name of their type. -/
def Router.route [Monad m] (router : Router m γ ε) (command : CommandType α)
    (handle : α → γ → m (Except ε Json)) : Router m γ ε :=
  router.bind command.name (command.handler router.raise handle)

/-- The handler of the command with a given id. -/
def Router.lookup (router : Router m γ ε) (id : UInt64) :
    Except DispatchError (Handler m γ ε) :=
  match router.table.getById? id with
  | none => .error (.handlerNotFound id)
  | some command =>
      match router.bindings.lookup command.name with
      | none => .error (.handlerNotFound id)
      | some handler => .ok handler

/-- Hand over a value whose command is known by its id. -/
def Router.dispatchValue [Monad m] (router : Router m γ ε) (id : UInt64) (value : Json)
    (context : γ) : m (Except ε Json) :=
  match router.lookup id with
  | .error error => pure (.error (router.raise error))
  | .ok handler => handler value context

/-- Hand over a message that has been read. -/
def Router.dispatchEnvelope [Monad m] (router : Router m γ ε) (envelope : Envelope)
    (context : γ) : m (Except ε Json) :=
  router.dispatchValue envelope.id envelope.value context

/-- Read a message and hand it over. -/
def Router.dispatch [Monad m] (router : Router m γ ε) (bytes : Bytes) (context : γ) :
    m (Except ε Json) :=
  match router.table.decode bytes with
  | .error error => pure (.error (router.raise error))
  | .ok envelope => router.dispatchEnvelope envelope context

/-- What handing over a value reports before the handler runs. -/
def Router.dispatchEvents (router : Router m γ ε) (id : UInt64) : List Event :=
  match router.lookup id with
  | .error _ => []
  | .ok _ => [.dispatching id]

end CommandRegistry
