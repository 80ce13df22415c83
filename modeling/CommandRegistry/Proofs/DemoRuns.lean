/-
Runs of the demo program.  A run that fails has failed before anything is written: once the
three commands are registered they have the request types that the messages are written in,
so nothing that comes after the snapshot is saved can go wrong.  The next run finds its
commands in the snapshot and saves the same text again.
-/
import CommandRegistry.Demo
import CommandRegistry.Proofs.Acceptance
import CommandRegistry.Proofs.SchemaDefinitions
import CommandRegistry.Proofs.StoreLifecycle
import CommandRegistry.Proofs.TypedDispatching

namespace CommandRegistry

variable {resolver : Resolver} {registry next last : Registry} {name : String}
  {spec : CommandSpec} {handle : TypeHandle} {files : FileTree} {directory : String}
  {options : RegistryOptions}

/-- The registry has a command of this name, and this is its handle. -/
def Registry.Offers (registry : Registry) (name : String) (handle : TypeHandle) : Prop :=
  ∃ command, registry.get? name = some command ∧ command.handle = handle

theorem Registry.Offers.evolves {answers : Set Resolver} (hoffers : registry.Offers name handle)
    (hevolves : registry.Evolves answers last) (hsound : registry.Sound answers) :
    last.Offers name handle := by
  obtain ⟨command, hget, hhandle⟩ := hoffers
  obtain ⟨kept, hkept, hidentity⟩ := hevolves.get?_kept hsound hget
  have hsame : kept.handle = command.handle := congrArg CommandIdentity.handle hidentity
  exact ⟨kept, hkept, hsame.trans hhandle⟩

/-- A request that goes through leaves a command with the handle of its type. -/
theorem Registry.offers_of_register (hcoherent : resolver.Coherent)
    (hsound : registry.Sound {resolver}) (hresolver : registry.resolver = some resolver)
    (hhandle : resolver spec.requestType = some handle) (hid : spec.id = none) {id : UInt64}
    (hregistered : (registry.register name spec).result = .ok id) :
    (registry.register name spec).after.Offers name handle := by
  have hevolves : registry.Evolves {resolver} (registry.register name spec).after :=
    .register (.refl registry) name spec
  have hassess : registry.assess name spec = registry.assessResolved name spec handle :=
    Registry.assess_of_unpinned hresolver hhandle hid
  cases hlocate : registry.table.locate? name with
  | some found =>
      obtain ⟨position, command⟩ := found
      have hget := CommandTable.get?_of_locate? hlocate
      obtain ⟨hmem, -⟩ := hsound.consistent.get?_eq_some_iff.1 hget
      obtain ⟨asked, rfl, hanswer⟩ := hsound.resolved command hmem
      have hsame : command.handle.same handle = true := by
        by_contra hdiffers
        simp only [Registry.register, hassess, Registry.assessResolved, hlocate, hdiffers,
          if_false, Registry.fail, reduceCtorEq] at hregistered
      have hoffers : registry.Offers name handle :=
        ⟨command, hget, hcoherent _ _ _ _ hanswer hhandle hsame⟩
      exact hoffers.evolves hevolves hsound
  | none =>
      cases hnext : registry.nextFreeId with
      | error error =>
          simp only [Registry.register, hassess, Registry.assessResolved, hlocate, hid, hnext,
            Except.map, Registry.fail, reduceCtorEq] at hregistered
      | ok fresh =>
          have hpassed : registry.assess name spec = .ok (.added fresh handle) := by
            simp only [Registry.assessResolved, hassess, hlocate, hid, hnext, Except.map]
          exact ⟨_, hsound.get?_register_of_added hpassed, rfl⟩

/-- To register what is offered already, and under no other version, changes nothing. -/
theorem Registry.Offers.register (hoffers : registry.Offers name handle)
    (hconsistent : registry.table.Consistent) (hsteady : resolver.Steady)
    (hresolver : registry.resolver = some resolver)
    (hhandle : resolver spec.requestType = some handle) (hid : spec.id = none)
    (hversion : spec.version = none) :
    ∃ id, registry.register name spec = registry.succeed id := by
  obtain ⟨command, hget, rfl⟩ := hoffers
  have hassess : registry.assess name spec =
      registry.assessResolved name spec command.handle :=
    Registry.assess_of_unpinned hresolver hhandle hid
  have hsame : command.handle.same command.handle = true := hsteady _ _ hhandle
  cases hlocate : registry.table.locate? name with
  | none =>
      have hnone : registry.get? name = none := by
        rw [Registry.get?, CommandTable.get?, hconsistent.find?_of_locate?_eq_none hlocate,
          Option.bind_none]
      rw [hget] at hnone
      contradiction
  | some found =>
      obtain ⟨position, kept⟩ := found
      obtain rfl : command = kept :=
        Option.some.inj (hget.symm.trans (CommandTable.get?_of_locate? hlocate))
      refine ⟨command.id, ?_⟩
      simp only [Registry.register, hassess, Registry.assessResolved, hlocate, hsame, if_true,
        Registry.settle, hversion, Registry.keep]

/-- The commands that a pass of the program registers, with the layouts of their requests. -/
def Demo.commands : List (String × Layout) :=
  [("command1", Demo.firstLayout), ("command2", Demo.firstLayout),
    ("command3", Demo.secondLayout)]

/-- The steps that register commands, one after another. -/
def Demo.registrations (commands : List (String × Layout)) : List Step :=
  commands.map fun command => Demo.registration command.1 command.2

theorem Demo.pass_eq : Demo.pass = Demo.registrations Demo.commands :=
  rfl

theorem Demo.registrations_cons (command : String × Layout) (rest : List (String × Layout)) :
    Demo.registrations (command :: rest) =
      Demo.registration command.1 command.2 :: Demo.registrations rest :=
  rfl

theorem Demo.find?_layout : ∀ command ∈ Demo.commands,
    Demo.schema.find? command.2.name = some command.2 := by
  decide

/-- The command is known, with the handle of the layout of its requests. -/
def Demo.Offered (registry : Registry) (command : String × Layout) : Prop :=
  ∃ place, Demo.schema.resolver command.2.name = some (command.2.handleAt place) ∧
    registry.Offers (qualify Demo.space command.1) (command.2.handleAt place)

/-- All commands of the program are known. -/
def Demo.Ready (registry : Registry) : Prop :=
  ∀ command ∈ Demo.commands, Demo.Offered registry command

theorem Demo.attaches_none (answers : Set Resolver) (commands : List (String × Layout)) :
    Step.AllAttachIn answers (Demo.registrations commands) := by
  induction commands with
  | nil => exact trivial
  | cons command rest ih => exact ⟨trivial, ih⟩

/-- A pass that goes through leaves all its commands with their layouts. -/
theorem Demo.offers_of_runAll {commands : List (String × Layout)}
    (hlayouts : ∀ command ∈ commands, Demo.schema.find? command.2.name = some command.2)
    (hsound : registry.Sound {Demo.schema.resolver})
    (hresolver : registry.resolver = some Demo.schema.resolver)
    (hpassed : (Step.runAll (Demo.registrations commands) registry).result = .ok ()) :
    ∀ command ∈ commands,
      Demo.Offered (Step.runAll (Demo.registrations commands) registry).after command := by
  induction commands generalizing registry with
  | nil => simp
  | cons command rest ih =>
      obtain ⟨hfind, hrest⟩ := List.forall_mem_cons.1 hlayouts
      let registered :=
        registry.register (qualify Demo.space command.1) { requestType := command.2.name }
      have hevolves : registry.Evolves {Demo.schema.resolver} registered.after :=
        .register (.refl registry) _ _
      have hafter := hevolves.sound hsound
      rw [Demo.registrations_cons, Step.runAll] at hpassed ⊢
      cases hresult : registered.result with
      | error error =>
          simp only [Demo.registration, Step.run, Attempt.andThen, Attempt.map, registered,
            hresult, Except.map, reduceCtorEq] at hpassed
      | ok id =>
          have hstep : ((Demo.registration command.1 command.2).run registry).result =
              .ok (.assigned id) := by
            simp only [Demo.registration, Step.run, Attempt.map, registered, hresult, Except.map]
          obtain ⟨hpassedSame, hafterSame⟩ :=
            Attempt.andThen_of_ok hstep (Step.runAll (Demo.registrations rest))
          rw [hafterSame]
          have hlater := Step.runAll_evolves registered.after
            (Demo.attaches_none {Demo.schema.resolver} rest)
          obtain ⟨place, -, hhandle⟩ := Schema.exists_resolver hfind
          have hfirst : registered.after.Offers (qualify Demo.space command.1)
              (command.2.handleAt place) :=
            Registry.offers_of_register Demo.schema.resolver_coherent hsound hresolver hhandle
              rfl hresult
          refine List.forall_mem_cons.2 ⟨⟨place, hhandle, hfirst.evolves hlater hafter⟩, ?_⟩
          exact ih hrest hafter (hevolves.resolver_eq hsound hresolver)
            (hpassedSame.symm.trans hpassed)

/-- A pass over commands that are there with their layouts changes nothing. -/
theorem Demo.runAll_of_offers {commands : List (String × Layout)}
    (hconsistent : registry.table.Consistent)
    (hresolver : registry.resolver = some Demo.schema.resolver)
    (hoffers : ∀ command ∈ commands, Demo.Offered registry command) :
    Step.runAll (Demo.registrations commands) registry = registry.succeed () := by
  induction commands with
  | nil => rfl
  | cons command rest ih =>
      obtain ⟨⟨place, hhandle, hfirst⟩, hothers⟩ := List.forall_mem_cons.1 hoffers
      let spec : CommandSpec := { requestType := command.2.name }
      have hresolve : Demo.schema.resolver spec.requestType =
          some (command.2.handleAt place) := hhandle
      obtain ⟨id, hregister⟩ :=
        hfirst.register hconsistent Demo.schema.resolver_steady hresolver hresolve rfl rfl
      have hstep : (Demo.registration command.1 command.2).run registry =
          registry.succeed (.assigned id) := by
        simp only [Demo.registration, Step.run, hregister, spec, Registry.succeed, Attempt.map,
          Except.map]
      rw [Demo.registrations_cons, Step.runAll, hstep, Attempt.andThen]
      simp only [Registry.succeed, List.nil_append]
      exact ih hothers

theorem Logging.run_tell (entries log : List LogEntry) :
    StateT.run (liftM (Logging.tell entries) : ExceptT DispatchError Logging Unit).run log =
      pure (.ok (), log ++ entries) :=
  rfl

/-- A message that is read and whose handler replies is sent. -/
theorem Demo.send_of_reply {router : Router Logging String DispatchError} {bytes : Bytes}
    {envelope : Envelope} (hdecode : router.table.decode bytes = .ok envelope)
    (hreply : ∀ log, ∃ reply later, (router.dispatch bytes Demo.user).run log = (.ok reply, later))
    (label : String) (log : List LogEntry) :
    ∃ later, (Demo.send router label (.ok bytes)).run.run log = (.ok (), later) := by
  obtain ⟨reply, later, hrun⟩ := hreply
    (log ++ (router.dispatchEvents envelope.id).map Event.entry)
  refine ⟨later ++ [Demo.note (label ++ " reply") [("reply", reply.compact)]], ?_⟩
  have hread : Demo.send router label (.ok bytes) = (do
      Logging.tell ((router.dispatchEvents envelope.id).map Event.entry)
      let reply ← ExceptT.mk (router.dispatch bytes Demo.user)
      Logging.tell [Demo.note (label ++ " reply") [("reply", reply.compact)]]) := by
    have hbytes : (liftM (.ok bytes : Except DispatchError Bytes) :
        ExceptT DispatchError Logging Bytes) = pure bytes := rfl
    rw [Demo.send, hbytes, pure_bind, hdecode]
  rw [hread]
  simp only [ExceptT.run_bind, StateT.run_bind, Logging.run_tell, pure_bind, ExceptT.run_mk, hrun]
  exact Logging.run_tell _ _

/-- The handlers of the program's router, the latest first. -/
def Demo.handlers : List (String × Handler Logging String DispatchError) :=
  [(Demo.thirdCommand.name, Demo.thirdCommand.handler id Demo.handleThird),
    (qualify Demo.space "command2", Demo.noting "command2"),
    (qualify Demo.space "command1", Demo.noting "command1")]

theorem Demo.router_built (table : CommandTable) :
    (Demo.router table).Built table id Demo.handlers :=
  .route (.bind (.bind .create _ _) _ _) Demo.thirdCommand Demo.handleThird

/-- A value that its layout writes and reads back is sent to the handler of its command. -/
theorem Registry.Offers.send {layout : Layout} {place : Nat}
    (hoffers : registry.Offers name (layout.handleAt place))
    (hconsistent : registry.table.Consistent) {value item : Json} {body : Bytes}
    {handler : Handler Logging String DispatchError}
    (hencode : (layout.encode value).complete = .ok body)
    (hdecode : layout.decode body = .ok item)
    (hbound : Demo.handlers.lookup name = some handler)
    (hreply : ∀ log, ∃ reply later, (handler item Demo.user).run log = (.ok reply, later))
    (label : String) (log : List LogEntry) :
    ∃ later, (Demo.send (Demo.router registry.compile) label
      (registry.compile.encode name value)).run.run log = (.ok (), later) := by
  obtain ⟨command, hget, hhandle⟩ := hoffers
  obtain ⟨hmem, hname⟩ := hconsistent.get?_eq_some_iff.1 hget
  have hgetById := hconsistent.getById?_eq_some_iff.2 ⟨hmem, rfl⟩
  have hwritten : registry.compile.encode name value =
      .ok (Envelope.encodeHeader command.id ++ body) := by
    have hfound : registry.compile.get? name = some command := hget
    have hlayout : command.handle.requestType = layout.requestType :=
      congrArg TypeHandle.requestType hhandle
    rw [CommandTable.encode_of_layout hfound hlayout, hencode]
    rfl
  have hread : registry.compile.decode (Envelope.encodeHeader command.id ++ body) =
      .ok ⟨command.id, name, item⟩ := by
    apply hconsistent.decode_of_encode hget
    rw [hhandle]
    exact hdecode
  have hbuilt := Demo.router_built registry.compile
  have htable : (Demo.router registry.compile).table = registry.compile := hbuilt.knows.table
  have hdispatch : (Demo.router registry.compile).dispatch
      (Envelope.encodeHeader command.id ++ body) Demo.user = handler item Demo.user :=
    hbuilt.dispatch_of_bound hread hgetById (hname ▸ hbound) Demo.user
  rw [hwritten]
  apply Demo.send_of_reply (htable ▸ hread)
  rw [hdispatch]
  exact hreply

/-- Once the commands are known both messages are sent, whatever the log has had before. -/
theorem Demo.exchange_of_ready (hready : Demo.Ready registry)
    (hconsistent : registry.table.Consistent) (log : List LogEntry) :
    ∃ later, (Demo.exchange registry.compile).run.run log = (.ok (), later) := by
  obtain ⟨firstPlace, -, hfirst⟩ := hready ("command1", Demo.firstLayout) (by decide)
  obtain ⟨thirdPlace, -, hthird⟩ := hready ("command3", Demo.secondLayout) (by decide)
  have hfirstWritten : (Demo.firstLayout.encode Demo.firstMessage).complete =
      .ok [42, 5, 104, 101, 108, 108, 111] := rfl
  have hfirstRead : Demo.firstLayout.decode [42, 5, 104, 101, 108, 108, 111] =
      .ok (.object [("field1", .ofNatural 42), ("field2", .string "hello")]) := rfl
  have hthirdWritten : (Demo.secondLayout.encode Demo.secondMessage.json).complete =
      .ok [5, 119, 111, 114, 108, 100, 99] := rfl
  have hthirdRead : Demo.secondLayout.decode [5, 119, 111, 114, 108, 100, 99] =
      .ok (.object [("field1", .string "world"), ("field2", .ofNatural 99)]) := rfl
  obtain ⟨between, hsent⟩ := hfirst.send hconsistent hfirstWritten hfirstRead rfl
    (fun log => ⟨_, _, rfl⟩) "command1" log
  obtain ⟨later, hlater⟩ := hthird.send hconsistent hthirdWritten hthirdRead rfl
    (fun log => ⟨_, _, rfl⟩) "command3" between
  refine ⟨later, ?_⟩
  unfold Demo.exchange
  simp only [ExceptT.run_bind, StateT.run_bind, hsent]
  exact hlater

theorem Registry.Move.offset_eq {answers : Set Resolver} (hmove : registry.Move answers next) :
    next.offset = registry.offset := by
  cases hmove with
  | revise | consult | start => rfl
  | add hopened => exact (Registry.same_of_opened hopened).2.2.1

theorem Registry.Evolves.offset_eq {answers : Set Resolver}
    (hevolves : registry.Evolves answers last) (hsound : registry.Sound answers) :
    last.offset = registry.offset := by
  refine (hevolves.induction (P := fun other => other.offset = registry.offset) hsound rfl
    (fun _ hbefore hmove => hmove.offset_eq.trans hbefore) ?_).2
  intro before opened options resolver _ hbefore _ _ hopened
  exact (Registry.hydrate_same hopened).2.1.trans hbefore

/-- What is opened is in use under the given resolver, and its offset is not contradicted. -/
theorem Store.open_spec {resolver : Resolver}
    (hopened : (Store.open files directory options resolver).result = .ok registry) :
    registry.Reachable {resolver} ∧ registry.resolver = some resolver ∧
      checkOffset registry.offset options = .ok () := by
  unfold Store.open at hopened
  cases hloaded : (Store.load files directory).result with
  | error error => simp only [hloaded, reduceCtorEq] at hopened
  | ok found =>
      cases found with
      | none =>
          simp only [hloaded] at hopened
          obtain rfl : Registry.fresh options resolver = registry := Except.ok.inj hopened
          refine ⟨Registry.reachable_fresh options resolver, rfl, checkOffset_eq_ok_iff.2 ?_⟩
          have hoffset : (Registry.fresh options resolver).offset = options.offset.getD 0 := rfl
          rw [hoffset]
          cases options.offset with
          | none => exact .inl rfl
          | some offset => exact .inr rfl
      | some snapshot =>
          simp only [hloaded] at hopened
          obtain ⟨hchecked, -⟩ := Registry.hydrate_eq_ok_iff.1 ⟨registry, hopened⟩
          refine ⟨.hydrated (Set.mem_singleton resolver) hopened (.refl registry),
            Registry.resolver_of_hydrate hopened, ?_⟩
          rw [(Registry.hydrate_same hopened).2.1]
          exact hchecked

theorem Registry.rebuild_of_checked (hchecked : checkOffset registry.offset options = .ok ())
    {pass : Registry → Attempt Unit} (hpassed : (pass registry.working).result = .ok ()) :
    (registry.rebuild options pass).result = .ok (pass registry.working).after.snapshot := by
  simp only [Registry.rebuild, hchecked, hpassed]

/-- The registry of a directory is prepared exactly if it is opened and the pass over it goes
through. -/
theorem Demo.prepare_eq_ok_iff :
    (Demo.prepare files directory options).1 = .ok registry ↔
      ∃ opened, (Store.open files directory options Demo.schema.resolver).result = .ok opened ∧
        (Step.runAll Demo.pass opened.working).result = .ok () ∧
        (Step.runAll Demo.pass opened.working).after = registry := by
  unfold Demo.prepare
  cases hopened : (Store.open files directory options Demo.schema.resolver).result with
  | error error => simp [hopened]
  | ok opened =>
      obtain ⟨-, -, hchecked⟩ := Store.open_spec hopened
      cases hpassed : (Step.runAll Demo.pass opened.working).result with
      | error error =>
          have hrebuilt : (opened.rebuild options (Step.runAll Demo.pass)).result =
              .error error := by
            simp only [Registry.rebuild, hchecked, hpassed]
          simp [hopened, hrebuilt, hpassed]
      | ok =>
          have hrebuilt := Registry.rebuild_of_checked hchecked hpassed
          simp [hopened, hrebuilt, hpassed, (Registry.rebuild_of_ok hrebuilt).1]

/-- A registry as the program leaves it. -/
structure Demo.Prepared (options : RegistryOptions) (registry : Registry) : Prop where
  reachable : registry.Reachable {Demo.schema.resolver}
  attached : registry.resolver = some Demo.schema.resolver
  offset : checkOffset registry.offset options = .ok ()
  ready : Demo.Ready registry

theorem Demo.prepared_of_prepare
    (hprepared : (Demo.prepare files directory options).1 = .ok registry) :
    Demo.Prepared options registry := by
  obtain ⟨opened, hopened, hpassed, rfl⟩ := Demo.prepare_eq_ok_iff.1 hprepared
  obtain ⟨hreach, hresolver, hchecked⟩ := Store.open_spec hopened
  have hstart : opened.Move {Demo.schema.resolver} opened.working := .start
  have hsound := hstart.sound hreach.sound
  have hevolves : opened.working.Evolves {Demo.schema.resolver}
      (Step.runAll Demo.pass opened.working).after := by
    rw [Demo.pass_eq]
    exact Step.runAll_evolves opened.working (Demo.attaches_none _ Demo.commands)
  refine ⟨?_, ?_, ?_, ?_⟩
  · rw [← (Registry.rebuild_of_ok (Registry.rebuild_of_checked hchecked hpassed)).1]
    exact hreach.evolves (.rebuild (.refl opened) options (Step.runAll Demo.pass) hevolves)
  · exact hevolves.resolver_eq hsound hresolver
  · rw [hevolves.offset_eq hsound]
    exact hchecked
  · rw [Demo.pass_eq] at hpassed ⊢
    exact Demo.offers_of_runAll Demo.find?_layout hsound hresolver hpassed

/-- A run that cannot prepare its registry writes nothing. -/
theorem Demo.run_of_error {failure : Demo.Failure}
    (hfailed : (Demo.prepare files directory options).1 = .error failure) :
    (Demo.run files directory options).failure = some failure ∧
      (Demo.run files directory options).files = files := by
  unfold Demo.run
  simp only [hfailed, and_self]

/-- A run that has prepared its registry saves it and ends well. -/
theorem Demo.run_of_prepare (hwritable : Store.Writable files directory)
    (hprepared : (Demo.prepare files directory options).1 = .ok registry) :
    (Demo.run files directory options).failure = none ∧
      Store.Holds (Demo.run files directory options).files directory
        (Utf8.encode registry.snapshot.pretty) := by
  obtain ⟨hreach, -, -, hready⟩ := Demo.prepared_of_prepare hprepared
  obtain ⟨written, hwritten, hholds⟩ := hwritable.write registry.snapshot.pretty
  have hsent := Demo.exchange_of_ready hready hreach.sound.consistent
  have hrun : ∃ entries, Demo.run files directory options = ⟨entries, none, written⟩ := by
    unfold Demo.run
    simp only [hprepared, Store.save, hwritten]
    split
    rename_i exchanged entries hexchanged
    obtain ⟨later, hlater⟩ := hsent _
    rw [hexchanged, Prod.mk.injEq] at hlater
    rw [hlater.1]
    exact ⟨entries, rfl⟩
  obtain ⟨entries, hrun⟩ := hrun
  rw [hrun]
  exact ⟨rfl, hholds⟩

/-- What is prepared from the snapshot of a prepared registry is its working copy. -/
theorem Demo.Prepared.prepare (hprepared : Demo.Prepared options registry)
    (hread : files.read (Store.path directory) = .ok (Utf8.encode registry.snapshot.pretty))
    {other : RegistryOptions} (hother : other.offset = options.offset ∨ other.offset = none) :
    (Demo.prepare files directory other).1 = .ok registry.working := by
  have hchecked : checkOffset registry.offset other = .ok () := by
    have hoffset := checkOffset_eq_ok_iff.1 hprepared.offset
    apply checkOffset_eq_ok_iff.2
    rcases hother with hsame | hnone
    · rwa [hsame]
    · exact .inl hnone
  rw [Demo.prepare_eq_ok_iff]
  rcases Store.open_snapshot hprepared.reachable hprepared.attached hread other with
    ⟨error, hfailed, -⟩ | ⟨-, hopened⟩
  · rw [hchecked] at hfailed
    contradiction
  · have hpass : Step.runAll Demo.pass registry.working = registry.working.succeed () := by
      rw [Demo.pass_eq]
      exact Demo.runAll_of_offers hprepared.reachable.sound.consistent
        hprepared.attached hprepared.ready
    have hsame : registry.working.working = registry.working := rfl
    refine ⟨registry.working, hopened, ?_, ?_⟩
    · rw [hsame, hpass]
      rfl
    · rw [hsame, hpass]
      rfl

/-- The next run ends well and writes what is there. -/
theorem Demo.Prepared.run (hprepared : Demo.Prepared options registry)
    (hholds : Store.Holds files directory (Utf8.encode registry.snapshot.pretty))
    {other : RegistryOptions} (hother : other.offset = options.offset ∨ other.offset = none) :
    (Demo.run files directory other).failure = none ∧
      Store.Holds (Demo.run files directory other).files directory
        (Utf8.encode registry.snapshot.pretty) := by
  have hsame : registry.working.snapshot = registry.snapshot := rfl
  rw [← hsame]
  exact Demo.run_of_prepare hholds.writable (hprepared.prepare hholds.read hother)

/-- The arguments and the environment that the program is started with. -/
structure Demo.CommandLine where
  arguments : List String
  environment : String → Option String

/-- The program is started several times, each time on the files that it has left. -/
def Demo.executeAll (files : FileTree) : List Demo.CommandLine → List Demo.Outcome
  | [] => []
  | line :: rest =>
      let outcome := Demo.execute files line.environment line.arguments
      outcome :: Demo.executeAll outcome.files rest

theorem Demo.execute_of_read (files : FileTree) {line : Demo.CommandLine}
    {offset : Option UInt64}
    (hline : Invocation.read line.arguments line.environment = .run directory offset) :
    let outcome := Demo.execute files line.environment line.arguments
    let run := Demo.run files directory ⟨offset⟩
    outcome.files = run.files ∧ outcome.code = if run.failure.isNone then 0 else 1 := by
  unfold Demo.execute
  simp only [hline]
  cases (Demo.run files directory ⟨offset⟩).failure with
  | none => exact ⟨rfl, rfl⟩
  | some failure => exact ⟨rfl, rfl⟩

theorem Demo.Prepared.executeAll (hprepared : Demo.Prepared options registry)
    (hholds : Store.Holds files directory (Utf8.encode registry.snapshot.pretty))
    {lines : List Demo.CommandLine}
    (hlines : ∀ line ∈ lines, ∃ other,
      Invocation.read line.arguments line.environment = .run directory other ∧
        (other = options.offset ∨ other = none)) :
    ∀ outcome ∈ Demo.executeAll files lines, outcome.code = 0 ∧
      outcome.files.read (Store.path directory) = .ok (Utf8.encode registry.snapshot.pretty) := by
  induction lines generalizing files with
  | nil => simp [Demo.executeAll]
  | cons line rest ih =>
      obtain ⟨⟨other, hline, hother⟩, hrest⟩ := List.forall_mem_cons.1 hlines
      obtain ⟨hfiles, hcode⟩ := Demo.execute_of_read files hline
      have hoffset : (⟨other⟩ : RegistryOptions).offset = options.offset ∨
          (⟨other⟩ : RegistryOptions).offset = none := hother
      obtain ⟨hsucceeded, hkept⟩ := hprepared.run hholds hoffset
      rw [← hfiles] at hkept
      rw [hsucceeded] at hcode
      rw [Demo.executeAll]
      exact List.forall_mem_cons.2 ⟨⟨hcode, hkept.read⟩, ih hkept hrest⟩

/-- Where files can be written, a run either fails and leaves all of them as they were, or it
succeeds, which is the case exactly if the registry is opened and the commands are registered.
After a success every further run with the same offset or with none succeeds as well, and the
snapshot stays as it is, byte for byte. -/
theorem Demo.repeatable_runs {line : Demo.CommandLine} {offset : Option UInt64}
    (hline : Invocation.read line.arguments line.environment = .run directory offset)
    (hwritable : Store.Writable files directory) :
    let outcome := Demo.execute files line.environment line.arguments
    (outcome.code = 0 ∨ outcome.code = 1) ∧
    (outcome.code = 1 → outcome.files = files) ∧
    (outcome.code = 0 ↔ ∃ opened,
      (Store.open files directory ⟨offset⟩ Demo.schema.resolver).result = .ok opened ∧
        (Step.runAll Demo.pass opened.working).result = .ok ()) ∧
    (outcome.code = 0 → ∃ content,
      outcome.files.read (Store.path directory) = .ok content ∧
      ∀ lines : List Demo.CommandLine,
        (∀ later ∈ lines, ∃ other,
          Invocation.read later.arguments later.environment = .run directory other ∧
            (other = offset ∨ other = none)) →
        ∀ further ∈ Demo.executeAll outcome.files lines, further.code = 0 ∧
          further.files.read (Store.path directory) = .ok content) := by
  intro outcome
  obtain ⟨hfiles, hcode⟩ := Demo.execute_of_read files hline
  cases hprepared : (Demo.prepare files directory ⟨offset⟩).1 with
  | error failure =>
      obtain ⟨hfailed, hkept⟩ := Demo.run_of_error hprepared
      have hone : outcome.code = 1 := by
        rw [hcode, hfailed]
        rfl
      have hunprepared : ¬∃ opened,
          (Store.open files directory ⟨offset⟩ Demo.schema.resolver).result = .ok opened ∧
            (Step.runAll Demo.pass opened.working).result = .ok () := by
        rintro ⟨opened, hopened, hpassed⟩
        have hok := Demo.prepare_eq_ok_iff.2 ⟨opened, hopened, hpassed, rfl⟩
        rw [hprepared] at hok
        contradiction
      have hnot : outcome.code ≠ 0 := by
        rw [hone]
        decide
      exact ⟨.inr hone, fun _ => hfiles.trans hkept, iff_of_false hnot hunprepared,
        fun hzero => absurd hzero hnot⟩
  | ok registry =>
      obtain ⟨hsucceeded, hholds⟩ := Demo.run_of_prepare hwritable hprepared
      have hzero : outcome.code = 0 := by
        rw [hcode, hsucceeded]
        rfl
      obtain ⟨opened, hopened, hpassed, -⟩ := Demo.prepare_eq_ok_iff.1 hprepared
      rw [← hfiles] at hholds
      refine ⟨.inl hzero, ?_, iff_of_true hzero ⟨opened, hopened, hpassed⟩, ?_⟩
      · intro hone
        rw [hzero] at hone
        contradiction
      · intro _
        exact ⟨_, hholds.read, fun lines hlines =>
          (Demo.prepared_of_prepare hprepared).executeAll hholds hlines⟩

/-- A command line with a directory, without anything in the environment. -/
def Demo.sampleLine : Demo.CommandLine :=
  ⟨["--dir", "out/kept"], fun _ => none⟩

theorem Demo.repeatable_runs_sample :
    Invocation.read Demo.sampleLine.arguments Demo.sampleLine.environment =
        .run "out/kept" none ∧
      Store.Writable (FileTree.below 2) "out/kept" ∧
      let outcome := Demo.execute (FileTree.below 2) Demo.sampleLine.environment
        Demo.sampleLine.arguments
      outcome.code = 0 ∧ ∃ content, outcome.files.read (Store.path "out/kept") = .ok content ∧
        ∀ further ∈ Demo.executeAll outcome.files [Demo.sampleLine, Demo.sampleLine],
          further.code = 0 ∧ further.files.read (Store.path "out/kept") = .ok content := by
  have hline : Invocation.read Demo.sampleLine.arguments Demo.sampleLine.environment =
      .run "out/kept" none := by decide +kernel
  let written := (Store.writeText (FileTree.below 2) "out/kept" (Store.path "out/kept") "").2
  have hwrite : (Store.writeText (FileTree.below 2) "out/kept" (Store.path "out/kept") "").1 =
      .ok () := by decide +kernel
  have hread : written.read (Store.path "out/kept") = .ok (Utf8.encode "") := by decide +kernel
  have hwritable : Store.Writable (FileTree.below 2) "out/kept" :=
    ⟨"", written, Prod.ext hwrite rfl, hread⟩
  have habsent : (FileTree.below 2).read (Store.path "out/kept") = .error .notFound := by
    decide +kernel
  obtain ⟨-, -, hzero, hagain⟩ := Demo.repeatable_runs hline hwritable
  have hsucceeded := hzero.2
    ⟨_, Store.open_of_absent habsent ⟨none⟩ Demo.schema.resolver, rfl⟩
  obtain ⟨content, hcontent, hkept⟩ := hagain hsucceeded
  refine ⟨hline, hwritable, hsucceeded, content, hcontent, hkept _ ?_⟩
  simp only [List.forall_mem_cons, List.not_mem_nil, false_implies, implies_true, and_true]
  exact ⟨⟨none, hline, .inl rfl⟩, none, hline, .inl rfl⟩

end CommandRegistry
