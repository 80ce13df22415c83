/-
Dispatching.  A router is built by binding handlers to names, and of the handlers that a
name was ever given it knows the latest.  A message goes by its id to the name that the
table has for it, and by that name to this one handler.  Handlers run in any monad, so
where a dispatch equals the run of a handler, that handler runs once and nothing else
does, and where it equals a pure error no handler runs.
-/
import CommandRegistry.Proofs.Evolution
import CommandRegistry.Router

namespace CommandRegistry

/-- Routers over a table, with all that was ever bound to a name, the latest first.  A
handler that answers at once is bound like any other: its run is pure. -/
inductive Router.Built {m : Type → Type} {γ ε : Type} [Monad m] (table : CommandTable)
    (raise : DispatchError → ε) : List (String × Handler m γ ε) → Router m γ ε → Prop
  | create : Built table raise [] (Router.create table raise)
  | bind {history : List (String × Handler m γ ε)} {router : Router m γ ε}
      (hbefore : Built table raise history router) (name : String) (handler : Handler m γ ε) :
      Built table raise ((name, handler) :: history) (router.bind name handler)
  | route {history : List (String × Handler m γ ε)} {router : Router m γ ε}
      (hbefore : Built table raise history router) {α : Type} (command : CommandType α)
      (handle : α → γ → m (Except ε Json)) :
      Built table raise ((command.name, command.handler raise handle) :: history)
        (router.route command handle)

section Bindings

variable {m : Type → Type} {γ ε : Type} {table : CommandTable}
  {history : List (String × Handler m γ ε)}

theorem Router.bind_lookup (router : Router m γ ε) (name asked : String)
    (handler : Handler m γ ε) :
    (router.bind name handler).bindings.lookup asked =
      if asked = name then some handler else router.bindings.lookup asked :=
  lookup_replace router.bindings name asked handler

/-- A router keeps its table and its way of raising errors, and knows the latest
handler of every name. -/
structure Router.Knows (table : CommandTable) (raise : DispatchError → ε)
    (history : List (String × Handler m γ ε)) (router : Router m γ ε) : Prop where
  table : router.table = table
  raise : router.raise = raise
  lookup : ∀ name, router.bindings.lookup name = history.lookup name

theorem Router.Knows.bind {raise : DispatchError → ε} {router : Router m γ ε}
    (hknows : router.Knows table raise history) (name : String) (handler : Handler m γ ε) :
    (router.bind name handler).Knows table raise ((name, handler) :: history) := by
  refine ⟨hknows.table, hknows.raise, ?_⟩
  intro asked
  rw [Router.bind_lookup, hknows.lookup, lookup_cons]

/-- The handler that a value is handed to: by the id to the name, by the name to the
latest binding. -/
def latestHandler? (table : CommandTable) (history : List (String × Handler m γ ε))
    (id : UInt64) : Option (Handler m γ ε) :=
  (table.getById? id).bind fun command => history.lookup command.name

theorem latestHandler?_of_getById? {id : UInt64} {command : LiveCommand}
    (hget : table.getById? id = some command) :
    latestHandler? table history id = history.lookup command.name := by
  rw [latestHandler?, hget, Option.bind_some]

theorem latestHandler?_of_unknown {id : UInt64} (hget : table.getById? id = none) :
    latestHandler? table history id = none := by
  rw [latestHandler?, hget, Option.bind_none]

/-- Only the bindings of the name that belongs to an id count. -/
theorem latestHandler?_of_filter {others : List (String × Handler m γ ε)} {name : String}
    (hsame : (others.filter fun binding => binding.1 = name) =
      history.filter fun binding => binding.1 = name)
    {id : UInt64} {command : LiveCommand} (hget : table.getById? id = some command)
    (hname : command.name = name) :
    latestHandler? table others id = latestHandler? table history id := by
  have hnamed : decide (name = name) = true := decide_eq_true rfl
  rw [latestHandler?_of_getById? hget, latestHandler?_of_getById? hget, hname,
    ← lookup_filter (fun other => other = name) hnamed others, hsame,
    lookup_filter (fun other => other = name) hnamed]

end Bindings

variable {m : Type → Type} {γ ε : Type} [Monad m] {table : CommandTable}
  {raise : DispatchError → ε} {history : List (String × Handler m γ ε)}
  {router : Router m γ ε} {bytes : Bytes} {envelope : Envelope}

theorem Router.Built.knows (hbuilt : router.Built table raise history) :
    router.Knows table raise history := by
  induction hbuilt with
  | create => exact ⟨rfl, rfl, fun _ => rfl⟩
  | bind _ name handler ih => exact ih.bind name handler
  | @route _ router _ _ command handle ih =>
      have hroute : router.route command handle =
          router.bind command.name (command.handler raise handle) := by
        rw [Router.route, ih.raise]
      rw [hroute]
      exact ih.bind command.name _

theorem Router.Built.dispatchValue_eq (hbuilt : router.Built table raise history)
    (id : UInt64) (value : Json) (context : γ) :
    router.dispatchValue id value context =
      match latestHandler? table history id with
      | none => pure (.error (raise (.handlerNotFound id)))
      | some handler => handler value context := by
  obtain ⟨htable, hraise, hlookup⟩ := hbuilt.knows
  rw [Router.dispatchValue, Router.lookup, latestHandler?, htable, hraise]
  cases table.getById? id with
  | none => rfl
  | some command =>
      simp only [hlookup, Option.bind_some]
      cases history.lookup command.name with
      | none => rfl
      | some handler => rfl

theorem Router.Built.dispatch_eq (hbuilt : router.Built table raise history) (bytes : Bytes)
    (context : γ) :
    router.dispatch bytes context =
      match table.decode bytes with
      | .error error => pure (.error (raise error))
      | .ok envelope => router.dispatchValue envelope.id envelope.value context := by
  obtain ⟨htable, hraise, -⟩ := hbuilt.knows
  rw [Router.dispatch, htable, hraise]
  rfl

/-- A message that is read leads to a command by the id in its header. -/
theorem CommandTable.header_of_decode (hdecode : table.decode bytes = .ok envelope) :
    ∃ body command, Envelope.decodeHeader bytes = .ok (envelope.id, body) ∧
      table.getById? envelope.id = some command := by
  unfold CommandTable.decode at hdecode
  split at hdecode
  · contradiction
  · rename_i id body hheader
    split at hdecode
    · contradiction
    · rename_i command hget
      split at hdecode
      · cases hdecode
        exact ⟨body, command, hheader, hget⟩
      · contradiction

theorem Router.Built.dispatch_of_ok (hbuilt : router.Built table raise history)
    (hdecode : table.decode bytes = .ok envelope) (context : γ) :
    router.dispatch bytes context = router.dispatchValue envelope.id envelope.value context := by
  rw [hbuilt.dispatch_eq, hdecode]

/-- A message goes to the latest handler of its command. -/
theorem Router.Built.dispatch_of_bound (hbuilt : router.Built table raise history)
    (hdecode : table.decode bytes = .ok envelope) {command : LiveCommand}
    (hget : table.getById? envelope.id = some command) {handler : Handler m γ ε}
    (hbound : history.lookup command.name = some handler) (context : γ) :
    router.dispatch bytes context = handler envelope.value context := by
  rw [hbuilt.dispatch_of_ok hdecode, hbuilt.dispatchValue_eq, latestHandler?_of_getById? hget,
    hbound]

theorem Router.Built.dispatchValue_of_unbound (hbuilt : router.Built table raise history)
    {id : UInt64} {command : LiveCommand} (hget : table.getById? id = some command)
    (hunbound : ∀ handler, (command.name, handler) ∉ history) (value : Json) (context : γ) :
    router.dispatchValue id value context = pure (.error (raise (.handlerNotFound id))) := by
  have hnone : history.lookup command.name = none := by
    rw [List.lookup_eq_none_iff]
    rintro ⟨name, handler⟩ hmem
    rw [bne_iff_ne]
    rintro rfl
    exact hunbound handler hmem
  rw [hbuilt.dispatchValue_eq, latestHandler?_of_getById? hget, hnone]

theorem Router.Built.dispatch_of_unknown (hbuilt : router.Built table raise history)
    {id : UInt64} {body : Bytes} (hunknown : table.getById? id = none)
    (hheader : Envelope.decodeHeader bytes = .ok (id, body)) (context : γ) :
    router.dispatch bytes context = pure (.error (raise (.unknownId id))) := by
  have hdecode : table.decode bytes = .error (.unknownId id) := by
    simp only [CommandTable.decode, hheader, hunknown]
  rw [hbuilt.dispatch_eq, hdecode]

/-- Routers that hand the values of an id over alike do so with its messages. -/
theorem Router.Built.dispatch_of_dispatchValue (hbuilt : router.Built table raise history)
    {others : List (String × Handler m γ ε)} {other : Router m γ ε}
    (hother : other.Built table raise others) {id : UInt64} {body : Bytes} {context : γ}
    (hheader : Envelope.decodeHeader bytes = .ok (id, body))
    (hvalue : ∀ value,
      other.dispatchValue id value context = router.dispatchValue id value context) :
    other.dispatch bytes context = router.dispatch bytes context := by
  rw [hother.dispatch_eq, hbuilt.dispatch_eq]
  cases hdecode : table.decode bytes with
  | error error => rfl
  | ok envelope =>
      obtain ⟨_, _, hread, -⟩ := CommandTable.header_of_decode hdecode
      rw [hheader, Except.ok.injEq, Prod.mk.injEq] at hread
      obtain ⟨rfl, -⟩ := hread
      exact hvalue envelope.value

/-- Every dispatch over every router.  A message that the table cannot read is answered
with the table's error, and one whose command was never bound with its id; otherwise
the handler that was bound to its name last gets its value and the context, and what
this handler does is all that is done.  The three ways of handing over agree, an
unknown id reads the same on each of them, and only the bindings of the message's own
name count, in their order. -/
theorem Router.Built.dispatching (hbuilt : router.Built table raise history) :
    (∀ (bytes : Bytes) (context : γ) (error : DispatchError),
      table.decode bytes = .error error →
      router.dispatch bytes context = pure (.error (raise error))) ∧
    (∀ (bytes : Bytes) (context : γ) (envelope : Envelope),
      table.decode bytes = .ok envelope →
      ∃ command, table.getById? envelope.id = some command ∧
        ((∀ handler, (command.name, handler) ∉ history) →
          router.dispatch bytes context =
            pure (.error (raise (.handlerNotFound envelope.id)))) ∧
        (∀ handler, history.lookup command.name = some handler →
          router.dispatch bytes context = handler envelope.value context) ∧
        router.dispatch bytes context = router.dispatchEnvelope envelope context ∧
        router.dispatchEnvelope envelope context =
          router.dispatchValue envelope.id envelope.value context) ∧
    (∀ (envelope : Envelope) (name : String) (context : γ),
      router.dispatchEnvelope { envelope with name } context =
        router.dispatchEnvelope envelope context) ∧
    (∀ id, table.getById? id = none →
      (∀ (value : Json) (context : γ), router.dispatchValue id value context =
        pure (.error (raise (.handlerNotFound id)))) ∧
      (∀ (bytes body : Bytes) (context : γ), Envelope.decodeHeader bytes = .ok (id, body) →
        router.dispatch bytes context = pure (.error (raise (.unknownId id)))) ∧
      (DispatchError.handlerNotFound id).message = (DispatchError.unknownId id).message ∧
      (DispatchError.handlerNotFound id).isNotFound =
        (DispatchError.unknownId id).isNotFound) ∧
    ∀ (others : List (String × Handler m γ ε)) (other : Router m γ ε),
      other.Built table raise others →
      ∀ id command, table.getById? id = some command →
      (others.filter fun binding => binding.1 = command.name) =
        (history.filter fun binding => binding.1 = command.name) →
      (∀ (value : Json) (context : γ),
        other.dispatchValue id value context = router.dispatchValue id value context) ∧
      ∀ (bytes body : Bytes) (context : γ), Envelope.decodeHeader bytes = .ok (id, body) →
        other.dispatch bytes context = router.dispatch bytes context := by
  refine ⟨?_, ?_, fun _ _ _ => rfl, ?_, ?_⟩
  · intro bytes context error hdecode
    rw [hbuilt.dispatch_eq, hdecode]
  · intro bytes context envelope hdecode
    obtain ⟨_, command, -, hget⟩ := CommandTable.header_of_decode hdecode
    have hdispatch := hbuilt.dispatch_of_ok hdecode context
    refine ⟨command, hget, ?_, ?_, hdispatch, rfl⟩
    · intro hunbound
      rw [hdispatch, hbuilt.dispatchValue_of_unbound hget hunbound]
    · intro handler hbound
      exact hbuilt.dispatch_of_bound hdecode hget hbound context
  · intro id hunknown
    refine ⟨?_, ?_, rfl, rfl⟩
    · intro value context
      rw [hbuilt.dispatchValue_eq, latestHandler?_of_unknown hunknown]
    · intro bytes body context hheader
      exact hbuilt.dispatch_of_unknown hunknown hheader context
  · intro others other hother id command hget hsame
    have hvalue : ∀ (value : Json) (context : γ),
        other.dispatchValue id value context = router.dispatchValue id value context := by
      intro value context
      rw [hother.dispatchValue_eq, hbuilt.dispatchValue_eq,
        latestHandler?_of_filter hsame hget rfl]
    refine ⟨hvalue, ?_⟩
    intro bytes body context hheader
    exact hbuilt.dispatch_of_dispatchValue hother hheader fun value => hvalue value context

/-- A handler that gives its value back and notes down that it was called. -/
def Handler.sample (label : String) : Handler (StateM (List String)) Unit DispatchError :=
  fun value _ => modifyGet fun calls => (.ok value, label :: calls)

def sampleCommand : CommandType Json :=
  ⟨"@a/second", .ok, .ok⟩

/-- A router over the sample that binds one name twice and one name in vain. -/
def Router.sample : Router (StateM (List String)) Unit DispatchError :=
  let bound := ((Router.create Registry.sample.compile id).bind "@a/first" (.sample "old")).bind
    "@a/nobody" (.sample "nobody")
  (bound.route sampleCommand (Handler.sample "second")).bind "@a/first" (.sample "new")

def Router.sampleHistory : List (String × Handler (StateM (List String)) Unit DispatchError) :=
  [("@a/first", .sample "new"), ("@a/second", sampleCommand.handler id (Handler.sample "second")),
    ("@a/nobody", .sample "nobody"), ("@a/first", .sample "old")]

theorem Router.sample_built :
    Router.sample.Built Registry.sample.compile id Router.sampleHistory :=
  .bind (.route (.bind (.bind .create "@a/first" _) "@a/nobody" _) sampleCommand _) "@a/first" _

theorem Router.dispatching_sample :
    Router.sample.Built Registry.sample.compile id Router.sampleHistory ∧
      ∃ envelope, Registry.sample.compile.decode [2, 1, 0, 7] = .ok envelope ∧
        Router.sample.dispatch [2, 1, 0, 7] () = Handler.sample "new" envelope.value () := by
  obtain ⟨-, hread, -⟩ := Router.sample_built.dispatching
  have hdecode : Registry.sample.compile.decode [2, 1, 0, 7] =
      .ok ⟨2, "@a/first", .object [("count", .ofNatural 7), ("label", .string "")]⟩ := rfl
  obtain ⟨command, hget, -, hbound, -⟩ := hread [2, 1, 0, 7] () _ hdecode
  obtain rfl := Option.some.inj hget
  exact ⟨Router.sample_built, _, hdecode, hbound (.sample "new") rfl⟩

end CommandRegistry
