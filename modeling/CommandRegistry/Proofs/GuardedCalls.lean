/-
Calls whose accesses are guarded.  A position that an index gives is used only within the
list of commands, a version is counted on only within its word, and messages are read with
guarded readers.  Over a schema no guard fails on any registry in use: both indexes agree
with the list after every history of calls, so every position that they give is taken.
-/
import CommandRegistry.Proofs.Dispatching
import CommandRegistry.Proofs.EnvelopeRoundTrip
import CommandRegistry.Proofs.GuardedReading
import CommandRegistry.Proofs.SchemaDefinitions

namespace CommandRegistry

section Positions

variable {κ β : Type} [DecidableEq κ] {index : Index κ} {keys : List κ} {key : κ}
  {position : Nat}

/-- Use the position that an index gives for a key, if it gives one. -/
def Index.guardedFind (index : Index κ) (use : Nat → Option β) (key : κ) : Option (Option β) :=
  match index.find? key with
  | none => some none
  | some position => (use position).map some

theorem Index.Agrees.position_lt (hagrees : index.Agrees keys)
    (hfound : index.find? key = some position) : position < keys.length :=
  (List.getElem?_eq_some_iff.1 ((hagrees.find?_iff key position).1 hfound)).1

/-- What can be used within the list is used without fail. -/
theorem Index.Agrees.guardsHold_find (hagrees : index.Agrees keys) {use : Nat → Option β}
    (huse : ∀ position < keys.length, (use position).isSome) :
    GuardsHold (index.guardedFind use) fun key => (index.find? key).bind use := by
  intro key
  cases hfound : index.find? key with
  | none => simp only [Index.guardedFind, hfound, Option.bind_none]
  | some position =>
      obtain ⟨used, hused⟩ :=
        Option.isSome_iff_exists.1 (huse position (hagrees.position_lt hfound))
      simp only [Index.guardedFind, hfound, hused, Option.map_some, Option.bind_some]

end Positions

variable {κ : Type} {table : CommandTable} {registry : Registry} {schema : Schema}
  {name : String} {spec : CommandSpec} {command : LiveCommand}

def CommandTable.guardedGet (table : CommandTable) : String → Option (Option LiveCommand) :=
  table.byName.guardedFind fun position => table.handlers[position]?

def CommandTable.guardedGetById (table : CommandTable) : UInt64 → Option (Option LiveCommand) :=
  table.byId.guardedFind fun position => table.handlers[position]?

def CommandTable.guardedLocate (table : CommandTable) :
    String → Option (Option (Nat × LiveCommand)) :=
  table.byName.guardedFind fun position =>
    (table.handlers[position]?).map fun command => (position, command)

/-- Where a list of keys has a position, so has the list of commands. -/
theorem CommandTable.isSome_of_position {view : LiveCommand → κ} {position : Nat}
    (hposition : position < (table.handlers.map view).length) :
    (table.handlers[position]?).isSome := by
  rw [List.length_map] at hposition
  rw [List.getElem?_eq_getElem hposition, Option.isSome_some]

theorem CommandTable.Consistent.guardsHold_get (hconsistent : table.Consistent) :
    GuardsHold table.guardedGet table.get? :=
  hconsistent.byName.guardsHold_find fun _ hposition =>
    CommandTable.isSome_of_position hposition

theorem CommandTable.Consistent.guardsHold_getById (hconsistent : table.Consistent) :
    GuardsHold table.guardedGetById table.getById? :=
  hconsistent.byId.guardsHold_find fun _ hposition =>
    CommandTable.isSome_of_position hposition

theorem CommandTable.Consistent.guardsHold_locate (hconsistent : table.Consistent) :
    GuardsHold table.guardedLocate table.locate? := by
  apply hconsistent.byName.guardsHold_find
  intro position hposition
  rw [Option.isSome_map]
  exact CommandTable.isSome_of_position hposition

/-- The guard of a look-up fails exactly if the index gives a position beyond the commands. -/
theorem CommandTable.guardedGet_eq_none_iff : table.guardedGet name = none ↔
    ∃ position, table.byName.find? name = some position ∧ table.size ≤ position := by
  unfold CommandTable.guardedGet Index.guardedFind
  cases hfound : table.byName.find? name with
  | none => simp only [reduceCtorEq, false_and, exists_false]
  | some position =>
      simp only [Option.map_eq_none_iff, List.getElem?_eq_none_iff, CommandTable.size,
        Option.some.injEq, exists_eq_left']

/-- An entry that was left behind in an index is met by the next look-up of its key. -/
example : CommandTable.guardedGet ⟨[], Index.empty.insert "@a/first" 0, .empty⟩ "@a/first" =
    none := rfl

def CommandTable.guardedEncode (table : CommandTable) (name : String) (value : Json) :
    Option (Except DispatchError Bytes) :=
  (table.guardedGet name).map fun
    | none => .error (.unknownCommand name)
    | some command =>
        let header := Envelope.encodeHeader command.id
        match (command.handle.requestType.append value header).complete with
        | .ok bytes => .ok bytes
        | .error cause => .error (.codec cause)

theorem CommandTable.Consistent.guardsHold_encode (hconsistent : table.Consistent)
    (name : String) : GuardsHold (table.guardedEncode name) (table.encode name) := by
  intro value
  have hget := hconsistent.guardsHold_get name
  cases hfound : table.get? name with
  | none =>
      simp only [CommandTable.guardedEncode, CommandTable.encode, hget, hfound, Option.map_some]
  | some command =>
      cases hwritten : (command.handle.requestType.append value
          (Envelope.encodeHeader command.id)).complete with
      | error cause =>
          simp only [CommandTable.guardedEncode, CommandTable.encode, hget, hfound, hwritten,
            Option.map_some]
      | ok bytes =>
          simp only [CommandTable.guardedEncode, CommandTable.encode, hget, hfound, hwritten,
            Option.map_some]

/-- Read a body by the layout that a handle stands for, which the schema must have at the
place that the handle is known by. -/
def Schema.guardedRead (schema : Schema) (handle : TypeHandle) (body : Bytes) :
    Option (Except CodecError Json) :=
  match handle.identity with
  | .kept place => (schema.layouts[place]?).bind fun layout => layout.guardedDecode body
  | .unique => none

theorem Registry.Sound.guardsHold_read (hsound : registry.Sound {schema.resolver})
    (hmem : command ∈ registry.table.handlers) :
    GuardsHold (schema.guardedRead command.handle) command.handle.requestType.decode := by
  obtain ⟨resolver, rfl, hresolve⟩ := hsound.resolved command hmem
  obtain ⟨place, layout, hplace, hfind, hhandle⟩ := Schema.resolver_eq_some_iff.1 hresolve
  rw [Schema.find?_of_place? hplace] at hfind
  intro body
  rw [← hhandle]
  simp only [Schema.guardedRead, Layout.handleAt, hfind, Option.bind_some]
  exact layout.guardsHold_decode body

def CommandTable.guardedDecode (schema : Schema) (table : CommandTable) (bytes : Bytes) :
    Option (Except DispatchError Envelope) :=
  (Envelope.guardedDecodeHeader bytes).bind fun
    | .error error => some (.error error)
    | .ok (id, body) =>
        (table.guardedGetById id).bind fun
          | none => some (.error (.unknownId id))
          | some command =>
              (schema.guardedRead command.handle body).map fun
                | .ok value => .ok ⟨id, command.name, value⟩
                | .error cause => .error (.codec cause)

theorem Registry.Sound.guardsHold_decode (hsound : registry.Sound {schema.resolver}) :
    GuardsHold (registry.table.guardedDecode schema) registry.table.decode := by
  intro bytes
  have hheader := Envelope.guardsHold_decodeHeader bytes
  cases hparts : Envelope.decodeHeader bytes with
  | error error =>
      simp only [CommandTable.guardedDecode, CommandTable.decode, hheader, hparts,
        Option.bind_some]
  | ok parts =>
      obtain ⟨id, body⟩ := parts
      have hget := hsound.consistent.guardsHold_getById id
      cases hfound : registry.table.getById? id with
      | none =>
          simp only [CommandTable.guardedDecode, CommandTable.decode, hheader, hparts, hget,
            hfound, Option.bind_some]
      | some command =>
          have hmem := (hsound.consistent.getById?_eq_some_iff.1 hfound).1
          have hread := hsound.guardsHold_read hmem body
          cases hbody : command.handle.requestType.decode body with
          | error cause =>
              simp only [CommandTable.guardedDecode, CommandTable.decode, hheader, hparts, hget,
                hfound, hread, hbody, Option.bind_some, Option.map_some]
          | ok value =>
              simp only [CommandTable.guardedDecode, CommandTable.decode, hheader, hparts, hget,
                hfound, hread, hbody, Option.bind_some, Option.map_some]

section Routers

variable {m : Type → Type} {γ ε : Type}

def Router.guardedLookup (router : Router m γ ε) (id : UInt64) :
    Option (Except DispatchError (Handler m γ ε)) :=
  (router.table.guardedGetById id).map fun
    | none => .error (.handlerNotFound id)
    | some command =>
        match router.bindings.lookup command.name with
        | none => .error (.handlerNotFound id)
        | some handler => .ok handler

theorem Router.guardsHold_lookup {router : Router m γ ε}
    (hconsistent : router.table.Consistent) :
    GuardsHold router.guardedLookup router.lookup := by
  intro id
  have hget := hconsistent.guardsHold_getById id
  cases hfound : router.table.getById? id with
  | none =>
      simp only [Router.guardedLookup, Router.lookup, hget, hfound, Option.map_some]
  | some command =>
      cases hbound : router.bindings.lookup command.name with
      | none =>
          simp only [Router.guardedLookup, Router.lookup, hget, hfound, hbound, Option.map_some]
      | some handler =>
          simp only [Router.guardedLookup, Router.lookup, hget, hfound, hbound, Option.map_some]

variable [Monad m]

/-- Guards go as far as the handler, whose run is its own business. -/
def Router.guardedDispatch (schema : Schema) (router : Router m γ ε) (context : γ)
    (bytes : Bytes) : Option (m (Except ε Json)) :=
  (router.table.guardedDecode schema bytes).bind fun
    | .error error => some (pure (.error (router.raise error)))
    | .ok envelope =>
        (router.guardedLookup envelope.id).map fun
          | .error error => pure (.error (router.raise error))
          | .ok handler => handler envelope.value context

theorem Registry.Sound.guardsHold_dispatch (hsound : registry.Sound {schema.resolver})
    {router : Router m γ ε} (htable : router.table = registry.table) (context : γ) :
    GuardsHold (router.guardedDispatch schema context) fun bytes =>
      router.dispatch bytes context := by
  intro bytes
  have hdecode := hsound.guardsHold_decode bytes
  have hlookup := Router.guardsHold_lookup (htable ▸ hsound.consistent)
  rw [← htable] at hdecode
  cases hread : router.table.decode bytes with
  | error error =>
      simp only [Router.guardedDispatch, Router.dispatch, hdecode, hread, Option.bind_some]
  | ok envelope =>
      cases hbound : router.lookup envelope.id with
      | error error =>
          simp only [Router.guardedDispatch, Router.dispatch, Router.dispatchEnvelope,
            Router.dispatchValue, hdecode, hread, hlookup envelope.id, hbound, Option.bind_some,
            Option.map_some]
      | ok handler =>
          simp only [Router.guardedDispatch, Router.dispatch, Router.dispatchEnvelope,
            Router.dispatchValue, hdecode, hread, hlookup envelope.id, hbound, Option.bind_some,
            Option.map_some]

end Routers

/-- The position of a name is looked at only if an id is asked for and nobody else has it. -/
def Registry.guardedCheckId (registry : Registry) (name : String) :
    Option UInt64 → Option (Except DispatchError Unit)
  | none => some (.ok ())
  | some id =>
      match registry.checkOwner name id with
      | .error error => some (.error error)
      | .ok () =>
          (registry.table.guardedLocate name).map fun
            | none => .ok ()
            | some (_, command) =>
                if command.id = id then .ok () else .error (.immutableId name command.id id)

def Registry.guardedAssessResolved (registry : Registry) (name : String) (spec : CommandSpec)
    (handle : TypeHandle) : Option (Except DispatchError Admission) :=
  (registry.table.guardedLocate name).map fun
    | some (position, command) =>
        if command.handle.same handle then .ok (.known position command)
        else .error (.immutableType name)
    | none =>
        match spec.id with
        | some id => .ok (.added id handle)
        | none => registry.nextFreeId.map fun id => .added id handle

def Registry.guardedAssess (registry : Registry) (name : String) (spec : CommandSpec) :
    Option (Except DispatchError Admission) :=
  match registry.resolver with
  | none => some (.error (.configuration .resolverMissing))
  | some resolver =>
      (registry.guardedCheckId name spec.id).bind fun
        | .error error => some (.error error)
        | .ok () =>
            match Resolver.resolveFor resolver name spec.requestType with
            | .error error => some (.error error)
            | .ok handle => registry.guardedAssessResolved name spec handle

theorem CommandTable.Consistent.guardsHold_checkId (hconsistent : registry.table.Consistent)
    (name : String) : GuardsHold (registry.guardedCheckId name) (registry.checkId name) := by
  intro requested
  have hlocate := hconsistent.guardsHold_locate name
  cases requested with
  | none => simp only [Registry.guardedCheckId, Registry.checkId]
  | some id =>
      cases howner : registry.checkOwner name id with
      | error error => simp only [Registry.guardedCheckId, Registry.checkId, howner]
      | ok =>
          cases hfound : registry.table.locate? name with
          | none =>
              simp only [Registry.guardedCheckId, Registry.checkId, Registry.checkAssigned,
                howner, hlocate, hfound, Option.map_some]
          | some found =>
              simp only [Registry.guardedCheckId, Registry.checkId, Registry.checkAssigned,
                howner, hlocate, hfound, Option.map_some]

theorem CommandTable.Consistent.guardsHold_assessResolved
    (hconsistent : registry.table.Consistent) (name : String) (spec : CommandSpec) :
    GuardsHold (registry.guardedAssessResolved name spec) (registry.assessResolved name spec) := by
  intro handle
  have hlocate := hconsistent.guardsHold_locate name
  cases hfound : registry.table.locate? name with
  | some found =>
      simp only [Registry.guardedAssessResolved, Registry.assessResolved, hlocate, hfound,
        Option.map_some]
  | none =>
      cases hid : spec.id with
      | some id =>
          simp only [Registry.guardedAssessResolved, Registry.assessResolved, hlocate, hfound, hid,
            Option.map_some]
      | none =>
          simp only [Registry.guardedAssessResolved, Registry.assessResolved, hlocate, hfound, hid,
            Option.map_some]

theorem CommandTable.Consistent.guardsHold_assess (hconsistent : registry.table.Consistent)
    (name : String) : GuardsHold (registry.guardedAssess name) (registry.assess name) := by
  intro spec
  have hcheckId := hconsistent.guardsHold_checkId name spec.id
  cases hresolver : registry.resolver with
  | none => simp only [Registry.guardedAssess, Registry.assess, hresolver]
  | some resolver =>
      cases hcheck : registry.checkId name spec.id with
      | error error =>
          simp only [Registry.guardedAssess, Registry.assess, hresolver, hcheckId, hcheck,
            Option.bind_some]
      | ok =>
          cases hhandle : Resolver.resolveFor resolver name spec.requestType with
          | error error =>
              simp only [Registry.guardedAssess, Registry.assess, hresolver, hcheckId, hcheck,
                hhandle, Option.bind_some]
          | ok handle =>
              have hresolved := hconsistent.guardsHold_assessResolved name spec handle
              simp only [Registry.guardedAssess, Registry.assess, hresolver, hcheckId, hcheck,
                hhandle, hresolved, Option.bind_some]

/-- A version is counted on only within its word. -/
def Registry.guardedBump (registry : Registry) : Option Registry :=
  if registry.changed then some registry
  else if registry.version.toNat + 1 < UInt64.size then some registry.bump
  else none

/-- Carry out what was admitted.  A known command is changed at its position, and a new one
is added to `opened?` if that came to a registry. -/
def Registry.guardedSettle (registry : Registry) (opened? : Option Registry)
    (events : List Event) (name : String) (spec : CommandSpec) :
    Admission → Option (Attempt UInt64)
  | .known position _ =>
      (registry.table.handlers[position]?).map fun command =>
        (registry.keep position spec.version).succeed command.id
  | .added id handle =>
      opened?.map fun opened => registry.settle opened events name spec (.added id handle)

/-- Check a request and carry it out. -/
def Registry.guardedEnter (registry : Registry) (opened? : Option Registry)
    (events : List Event) (name : String) (spec : CommandSpec) : Option (Attempt UInt64) :=
  (registry.guardedAssess name spec).bind fun
    | .error error => some (registry.fail error)
    | .ok admission => registry.guardedSettle opened? events name spec admission

def Registry.guardedRegister (registry : Registry) :
    String → CommandSpec → Option (Attempt UInt64) :=
  registry.guardedEnter registry.guardedBump registry.bumpEvents

def Registry.guardedRestore (registry : Registry) (record : CommandRecord) :
    Option (Attempt UInt64) :=
  registry.guardedEnter (some registry) [] record.name record.spec

/-- If a registry is opened for what is added, what was admitted is carried out. -/
theorem Registry.Admits.guardedSettle_eq {admission : Admission} {opened? : Option Registry}
    {opened : Registry} (hadmits : registry.Admits name spec admission) (events : List Event)
    (hopened : ∀ id handle, admission = .added id handle → opened? = some opened) :
    registry.guardedSettle opened? events name spec admission =
      some (registry.settle opened events name spec admission) := by
  cases hadmits with
  | @known position command hlocate =>
      have hcommand := (CommandTable.locate?_eq_some_iff.1 hlocate).2
      simp only [Registry.guardedSettle, Registry.settle, hcommand, Option.map_some]
  | @added id handle =>
      simp only [Registry.guardedSettle, hopened id handle rfl, Option.map_some]

theorem CommandTable.Consistent.guardsHold_restore (hconsistent : registry.table.Consistent) :
    GuardsHold registry.guardedRestore registry.restore := by
  intro record
  have hassess := hconsistent.guardsHold_assess record.name record.spec
  cases hpassed : registry.assess record.name record.spec with
  | error error =>
      simp only [Registry.guardedRestore, Registry.guardedEnter, Registry.restore, hassess,
        hpassed, Option.bind_some]
  | ok admission =>
      have hadmits := Registry.admits_of_eq_ok hconsistent hpassed
      simp only [Registry.guardedRestore, Registry.guardedEnter, Registry.restore, hassess,
        hpassed, Option.bind_some]
      exact hadmits.guardedSettle_eq [] fun _ _ _ => rfl

/-- Only a version that is the greatest word cannot be counted on. -/
theorem Registry.guardedBump_eq (registry : Registry) :
    registry.guardedBump =
      if registry.version.toNat + 1 = UInt64.size ∧ registry.bump.version ≠ registry.version
      then none else some registry.bump := by
  have hword : registry.version.toNat < UInt64.size := registry.version.toNat_lt
  by_cases hchanged : registry.changed = true
  · have hbump : registry.bump = registry := by rw [Registry.bump, if_pos hchanged]
    simp only [Registry.guardedBump, if_pos hchanged, hbump, ne_eq, not_true_eq_false, and_false,
      if_false]
  · have hbump : registry.bump.version = registry.version + 1 := by
      rw [Registry.bump, if_neg hchanged]
    have hcounted : registry.bump.version ≠ registry.version := by
      rw [hbump]
      grind
    have hgreatest : registry.version.toNat + 1 = UInt64.size ↔
        ¬registry.version.toNat + 1 < UInt64.size := by omega
    simp only [Registry.guardedBump, if_neg hchanged, hgreatest, hcounted, ne_eq,
      not_false_eq_true, and_true, ite_not]

/-- The call would count the version on beyond the greatest word. -/
def Registry.CountsBeyond (registry : Registry) (name : String) (spec : CommandSpec) : Prop :=
  registry.version.toNat + 1 = UInt64.size ∧
    (registry.register name spec).after.version ≠ registry.version

instance (registry : Registry) (name : String) (spec : CommandSpec) :
    Decidable (registry.CountsBeyond name spec) :=
  inferInstanceAs (Decidable (_ ∧ _))

/-- A registration fails a guard exactly if it would count the version on beyond its word. -/
theorem CommandTable.Consistent.guardedRegister_eq (hconsistent : registry.table.Consistent)
    (name : String) (spec : CommandSpec) :
    registry.guardedRegister name spec =
      if registry.CountsBeyond name spec then none else some (registry.register name spec) := by
  have hassess := hconsistent.guardsHold_assess name spec
  have hkept : (registry.register name spec).after.version = registry.version →
      ¬registry.CountsBeyond name spec := fun hversion hbeyond => hbeyond.2 hversion
  cases hpassed : registry.assess name spec with
  | error error =>
      have hfailed : registry.register name spec = registry.fail error := by
        simp only [Registry.register, hpassed]
      rw [if_neg (hkept (by rw [hfailed]; rfl)), hfailed]
      simp only [Registry.guardedRegister, Registry.guardedEnter, hassess, hpassed,
        Option.bind_some]
  | ok admission =>
      have hsettled : registry.register name spec =
          registry.settle registry.bump registry.bumpEvents name spec admission := by
        simp only [Registry.register, hpassed]
      have hguarded : registry.guardedRegister name spec =
          registry.guardedSettle registry.guardedBump registry.bumpEvents name spec admission := by
        simp only [Registry.guardedRegister, Registry.guardedEnter, hassess, hpassed,
          Option.bind_some]
      have hadmits := Registry.admits_of_eq_ok hconsistent hpassed
      cases admission with
      | known position command =>
          have hversion : (registry.register name spec).after.version = registry.version := by
            rw [hsettled]
            exact (registry.keep_same position spec.version).2.1
          rw [if_neg (hkept hversion), hguarded, hsettled]
          exact hadmits.guardedSettle_eq _ fun id handle hadded => Admission.noConfusion hadded
      | added id handle =>
          have hversion : (registry.register name spec).after.version = registry.bump.version := by
            rw [hsettled]
            rfl
          rw [hguarded, hsettled]
          simp only [Registry.CountsBeyond, hversion, Registry.guardedSettle,
            Registry.guardedBump_eq]
          split
          · rfl
          · rfl

/-- At the greatest version a new pass cannot add a command. -/
example : Registry.guardedRegister
    { Registry.sample with version := 0xFFFFFFFFFFFFFFFF, changed := false } "@a/third"
    ⟨"@a/request", none, none⟩ = none := rfl

def Registry.guardedRestoreAll (registry : Registry) :
    List CommandRecord → Option (Attempt Unit)
  | [] => some (registry.succeed ())
  | record :: rest =>
      (registry.guardedRestore record).bind fun attempt =>
        match attempt.result with
        | .error error => some ⟨.error error, attempt.after, attempt.events⟩
        | .ok _ =>
            (attempt.after.guardedRestoreAll rest).map fun others =>
              { others with events := attempt.events ++ others.events }

/-- Every record meets a registry whose indexes agree with its commands. -/
theorem Registry.Sound.guardsHold_restoreAll {answers : Set Resolver}
    (hsound : registry.Sound answers) :
    GuardsHold registry.guardedRestoreAll registry.restoreAll := by
  intro records
  induction records generalizing registry with
  | nil => rfl
  | cons record rest ih =>
      have hrestore := hsound.consistent.guardsHold_restore record
      have hafter : (registry.restore record).after.Sound answers :=
        Registry.sound_of_moves (Registry.restore_moves hsound.consistent record) hsound
      cases hresult : (registry.restore record).result with
      | error error =>
          simp only [Registry.guardedRestoreAll, Registry.restoreAll, Attempt.andThen, hrestore,
            hresult, Option.bind_some]
      | ok id =>
          simp only [Registry.guardedRestoreAll, Registry.restoreAll, Attempt.andThen, hrestore,
            hresult, ih hafter, Option.bind_some, Option.map_some]

def Registry.guardedHydrate (snapshot : Snapshot) (options : RegistryOptions)
    (resolver : Resolver) : Option (Logged (Except DispatchError Registry)) :=
  match checkOffset snapshot.offset options with
  | .error error => some ⟨.error error, []⟩
  | .ok () =>
      ((Registry.forSnapshot snapshot resolver).guardedRestoreAll snapshot.handlers).map
        fun replay =>
          match replay.result with
          | .error error => ⟨.error error, replay.events⟩
          | .ok () => ⟨.ok replay.after, replay.events ++ [replay.after.hydrated]⟩

/-- Whatever a snapshot has been made to say, it is replayed within range. -/
theorem Registry.guardedHydrate_eq (snapshot : Snapshot) (options : RegistryOptions)
    (resolver : Resolver) :
    Registry.guardedHydrate snapshot options resolver =
      some (Registry.hydrate snapshot options resolver) := by
  have hsound := Registry.sound_forSnapshot (Set.mem_singleton resolver) snapshot
  have hreplay := hsound.guardsHold_restoreAll snapshot.handlers
  cases hoffset : checkOffset snapshot.offset options with
  | error error => simp only [Registry.guardedHydrate, Registry.hydrate, hoffset]
  | ok =>
      cases hresult :
          ((Registry.forSnapshot snapshot resolver).restoreAll snapshot.handlers).result with
      | error error =>
          simp only [Registry.guardedHydrate, Registry.hydrate, hoffset, hreplay, hresult,
            Option.map_some]
      | ok =>
          simp only [Registry.guardedHydrate, Registry.hydrate, hoffset, hreplay, hresult,
            Option.map_some]

/-- Over a schema every access is in range.  The indexes give positions of commands only, a
number takes up some of the bytes that are there, and each call comes with guards to what it
comes to without them, on every name, request, id, value, message and snapshot; only a
registration that would count the version on beyond its word has no result. -/
theorem Registry.Reachable.accesses_in_range (hreach : registry.Reachable {schema.resolver}) :
    (∀ name position, registry.compile.byName.find? name = some position →
      position < registry.size) ∧
    (∀ id position, registry.compile.byId.find? id = some position →
      position < registry.size) ∧
    (∀ bytes word used, Varint.read bytes = .ok (word, used) →
      1 ≤ used ∧ used ≤ bytes.length) ∧
    (∀ bytes, Envelope.guardedDecodeHeader bytes = some (Envelope.decodeHeader bytes)) ∧
    (∀ layout bytes, Layout.guardedDecode layout bytes = some (layout.decode bytes)) ∧
    (∀ name, registry.compile.guardedGet name = some (registry.compile.get? name)) ∧
    (∀ id, registry.compile.guardedGetById id = some (registry.compile.getById? id)) ∧
    (∀ name spec, registry.guardedRegister name spec =
      if registry.CountsBeyond name spec then none else some (registry.register name spec)) ∧
    (∀ snapshot options, Registry.guardedHydrate snapshot options schema.resolver =
      some (Registry.hydrate snapshot options schema.resolver)) ∧
    (∀ name value, registry.compile.guardedEncode name value =
      some (registry.compile.encode name value)) ∧
    (∀ bytes, registry.compile.guardedDecode schema bytes =
      some (registry.compile.decode bytes)) ∧
    (∀ (m : Type → Type) (γ ε : Type) [Monad m] (router : Router m γ ε) (context : γ),
      router.table = registry.compile → ∀ bytes,
        router.guardedDispatch schema context bytes = some (router.dispatch bytes context)) := by
  have hsound := hreach.sound
  have hconsistent := hsound.consistent
  refine ⟨?_, ?_, ?_, Envelope.guardsHold_decodeHeader, Layout.guardsHold_decode,
    hconsistent.guardsHold_get, hconsistent.guardsHold_getById, hconsistent.guardedRegister_eq,
    ?_, hconsistent.guardsHold_encode, hsound.guardsHold_decode, ?_⟩
  · intro name position hfound
    have hposition := hconsistent.byName.position_lt hfound
    rwa [List.length_map] at hposition
  · intro id position hfound
    have hposition := hconsistent.byId.position_lt hfound
    rwa [List.length_map] at hposition
  · intro bytes word used hread
    exact Varint.used_of_read hread
  · intro snapshot options
    exact Registry.guardedHydrate_eq snapshot options schema.resolver
  · intro m γ ε _ router context htable
    exact hsound.guardsHold_dispatch htable context

/-- A message to the sample's first command whose text claims to be as long as the greatest
word is refused without a failing guard. -/
theorem Registry.accesses_in_range_sample :
    let message : Bytes := [2, 1] ++ List.replicate 9 0xFF ++ [1, 0x61]
    Registry.sample.Reachable {sampleSchema.resolver} ∧
      Varint.read (message.drop 2) = .ok (0xFFFFFFFFFFFFFFFF, 10) ∧
      Registry.sample.compile.guardedDecode sampleSchema message =
        some (.error (.codec .unexpectedEnd)) := by
  intro message
  obtain ⟨-, -, -, -, -, -, -, -, -, -, hdecode, -⟩ :=
    Registry.sample_reachable.accesses_in_range
  refine ⟨Registry.sample_reachable, rfl, ?_⟩
  rw [hdecode]
  rfl

end CommandRegistry
