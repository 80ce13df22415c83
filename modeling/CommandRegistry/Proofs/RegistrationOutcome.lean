/-
What a registration comes to.  Why it is refused, and what it does otherwise, is told from
the list of commands alone; the checks of the registry go by the two indexes and come to
the same, in the same order.
-/
import CommandRegistry.Proofs.AppendOnly
import CommandRegistry.Proofs.Bindings
import CommandRegistry.Proofs.IdAllocation
import CommandRegistry.Proofs.Tolerance

namespace CommandRegistry

variable {answers : Set Resolver} {registry : Registry} {resolver : Resolver} {name : String}
  {spec : CommandSpec} {error : DispatchError} {position : Nat} {command : LiveCommand}

/-- What a list of bindings has under a name. -/
def Binding.named? (bindings : List Binding) (name : String) : Option Binding :=
  bindings.find? fun binding => binding.name = name

/-- The id that is asked for has another name. -/
def Binding.idConflict? (bindings : List Binding) (name : String) (requested : Option UInt64) :
    Option DispatchError :=
  requested.bind fun id =>
    if ∃ binding ∈ bindings, binding.id = id ∧ binding.name ≠ name then
      some (.identityConflict name id)
    else none

/-- The name has another id than the one that is asked for. -/
def Binding.idChange? (bindings : List Binding) (name : String) (requested : Option UInt64) :
    Option DispatchError :=
  requested.bind fun id =>
    (Binding.named? bindings name).bind fun binding =>
      if binding.id = id then none else some (.immutableId name binding.id id)

/-- The request type is unknown, or the name has another one. -/
def Binding.typeFault? (bindings : List Binding) (resolver : Resolver)
    (name requestType : String) : Option DispatchError :=
  match resolver requestType with
  | none => some (.unknownType name requestType)
  | some handle =>
      (Binding.named? bindings name).bind fun binding =>
        if binding.handle.same handle then none else some (.immutableType name)

/-- A new name needs an id, and the last one is taken. -/
def Binding.idShortage? (bindings : List Binding) (name : String) (requested : Option UInt64) :
    Option DispatchError :=
  if Binding.named? bindings name = none ∧ requested = none ∧
      ∃ binding ∈ bindings, binding.id.toNat = UInt64.size - 1 then
    some .idSpaceExhausted
  else none

/-- Why a registration is refused; of several reasons the first one counts. -/
def Binding.refusal? (bindings : List Binding) (attached : Option Resolver) (name : String)
    (spec : CommandSpec) : Option DispatchError :=
  match attached with
  | none => some (.configuration .resolverMissing)
  | some resolver =>
      (Binding.idConflict? bindings name spec.id).or
        ((Binding.idChange? bindings name spec.id).or
          ((Binding.typeFault? bindings resolver name spec.requestType).or
            (Binding.idShortage? bindings name spec.id)))

/-- A check that refuses for a reason, if there is one. -/
def verdict : Option DispatchError → Except DispatchError Unit
  | none => .ok ()
  | some error => .error error

theorem verdict_or (first second : Option DispatchError) :
    verdict (first.or second) =
      match verdict first with
      | .error error => .error error
      | .ok () => verdict second := by
  cases first <;> rfl

/-- What the index by name finds is what the list has under the name. -/
theorem CommandTable.Consistent.named?_eq {table : CommandTable}
    (hconsistent : table.Consistent) (name : String) :
    Binding.named? table.bindings name = (table.get? name).map LiveCommand.binding := by
  rw [hconsistent.get?_eq_find?, Binding.named?, CommandTable.bindings, List.find?_map]
  rfl

theorem CommandTable.get?_eq_locate? (table : CommandTable) (name : String) :
    table.get? name = (table.locate? name).map Prod.snd := by
  unfold CommandTable.get? CommandTable.locate?
  cases table.byName.find? name with
  | none => rfl
  | some position => cases h : table.handlers[position]? <;> simp [h]

theorem CommandTable.Consistent.named?_eq_locate? {table : CommandTable}
    (hconsistent : table.Consistent) (name : String) :
    Binding.named? table.bindings name =
      (table.locate? name).map fun found => found.2.binding := by
  rw [hconsistent.named?_eq, table.get?_eq_locate?, Option.map_map]
  rfl

theorem CommandTable.exists_binding_iff {table : CommandTable} {p : Binding → Prop} :
    (∃ binding ∈ table.bindings, p binding) ↔ ∃ command ∈ table.handlers, p command.binding := by
  simp only [CommandTable.bindings, List.mem_map, exists_exists_and_eq_and]

/-- Only the owner of an id can have it under another name. -/
theorem CommandTable.Consistent.exists_conflict_iff {table : CommandTable}
    (hconsistent : table.Consistent) (hmem : command ∈ table.handlers) :
    (∃ binding ∈ table.bindings, binding.id = command.id ∧ binding.name ≠ name) ↔
      command.name ≠ name := by
  rw [CommandTable.exists_binding_iff]
  constructor
  · rintro ⟨holder, hholder, hsame, hother⟩
    have hget := hconsistent.getById?_eq_some_iff.2 ⟨hholder, hsame⟩
    rw [hconsistent.getById?_eq_some_iff.2 ⟨hmem, rfl⟩, Option.some.injEq] at hget
    exact hget ▸ hother
  · intro hother
    exact ⟨command, hmem, rfl, hother⟩

theorem Registry.checkOwner_eq (hconsistent : registry.table.Consistent) (name : String)
    (id : UInt64) :
    registry.checkOwner name id =
      verdict (Binding.idConflict? registry.table.bindings name (some id)) := by
  unfold Registry.checkOwner
  cases hfound : registry.table.byId.find? id with
  | none =>
      have hfree : ¬∃ binding ∈ registry.table.bindings, binding.id = id ∧ binding.name ≠ name := by
        rw [CommandTable.exists_binding_iff]
        rintro ⟨command, hmem, hid, -⟩
        apply (hconsistent.byId.find?_eq_none_iff id).1 hfound
        exact List.mem_map.2 ⟨command, hmem, hid⟩
      simp only [Binding.idConflict?, Option.bind_some, if_neg hfree, verdict]
  | some owner =>
      have hkey := (hconsistent.byId.find?_iff id owner).1 hfound
      rw [List.getElem?_map, Option.map_eq_some_iff] at hkey
      obtain ⟨command, hcommand, rfl⟩ := hkey
      have hname : registry.table.byName.find? name = some owner ↔ command.name = name := by
        rw [hconsistent.byName.find?_iff, List.getElem?_map, hcommand, Option.map_some,
          Option.some.injEq]
      simp only [Binding.idConflict?, Option.bind_some, hname,
        hconsistent.exists_conflict_iff (List.mem_of_getElem? hcommand)]
      by_cases hsame : command.name = name
      · rw [if_pos hsame, if_neg (not_not.2 hsame)]
        rfl
      · rw [if_neg hsame, if_pos hsame]
        rfl

theorem Registry.checkAssigned_eq (hconsistent : registry.table.Consistent) (name : String)
    (id : UInt64) :
    registry.checkAssigned name id =
      verdict (Binding.idChange? registry.table.bindings name (some id)) := by
  unfold Registry.checkAssigned Binding.idChange?
  rw [hconsistent.named?_eq_locate?]
  cases registry.table.locate? name with
  | none => rfl
  | some found =>
      obtain ⟨position, command⟩ := found
      have hsame : command.binding.id = command.id := rfl
      simp only [Option.map_some, Option.bind_some, hsame]
      by_cases hid : command.id = id
      · rw [if_pos hid, if_pos hid]
        rfl
      · rw [if_neg hid, if_neg hid]
        rfl

theorem Registry.checkId_eq (hconsistent : registry.table.Consistent) (name : String)
    (requested : Option UInt64) :
    registry.checkId name requested =
      verdict ((Binding.idConflict? registry.table.bindings name requested).or
        (Binding.idChange? registry.table.bindings name requested)) := by
  cases requested with
  | none => rfl
  | some id =>
      rw [verdict_or, ← Registry.checkOwner_eq hconsistent, ← Registry.checkAssigned_eq hconsistent]
      rfl

/-- Without a free id the search fails, and only then. -/
theorem Registry.nextFreeId_eq_error_iff (hconsistent : registry.table.Consistent)
    (hlaw : registry.CursorLaw) :
    registry.nextFreeId = .error error ↔ error = .idSpaceExhausted ∧
      ∃ binding ∈ registry.table.bindings, binding.id.toNat = UInt64.size - 1 := by
  rw [CommandTable.exists_binding_iff]
  change _ ↔ _ ∧ ∃ command ∈ registry.table.handlers, command.id.toNat = UInt64.size - 1
  by_cases hlast : ∃ command ∈ registry.table.handlers, command.id.toNat = UInt64.size - 1
  · rw [Registry.nextFreeId_eq_error hconsistent hlaw hlast, and_iff_left hlast,
      Except.error.injEq, eq_comm]
  · have hroom : ∀ command ∈ registry.table.handlers, command.id.toNat ≠ UInt64.size - 1 :=
      fun command hmem hid => hlast ⟨command, hmem, hid⟩
    rw [Registry.nextFreeId_eq_nextId hconsistent hlaw hroom]
    simp only [reduceCtorEq, hlast, and_false]

theorem Registry.assessResolved_eq_error_iff (hconsistent : registry.table.Consistent)
    (hlaw : registry.CursorLaw) {handle : TypeHandle}
    (hhandle : resolver spec.requestType = some handle) :
    registry.assessResolved name spec handle = .error error ↔
      (Binding.typeFault? registry.table.bindings resolver name spec.requestType).or
        (Binding.idShortage? registry.table.bindings name spec.id) = some error := by
  have hnamed := hconsistent.named?_eq_locate? name
  unfold Registry.assessResolved Binding.typeFault? Binding.idShortage?
  rw [hhandle, hnamed]
  cases registry.table.locate? name with
  | some found =>
      obtain ⟨position, command⟩ := found
      have hsame : command.binding.handle = command.handle := rfl
      by_cases hhandles : command.handle.same handle = true
      · simp [hsame, hhandles]
      · simp [hsame, hhandles]
  | none =>
      cases hid : spec.id with
      | some id => simp
      | none =>
          have hmap : (registry.nextFreeId.map fun id => Admission.added id handle) =
              .error error ↔ registry.nextFreeId = .error error := by
            cases registry.nextFreeId with
            | ok id => simp only [Except.map, reduceCtorEq]
            | error error => simp only [Except.map, Except.error.injEq]
          simp only [Option.map_none, Option.bind_none, Option.none_or, true_and, hmap,
            Registry.nextFreeId_eq_error_iff hconsistent hlaw]
          by_cases hlast : ∃ binding ∈ registry.table.bindings,
              binding.id.toNat = UInt64.size - 1
          · rw [if_pos hlast, and_iff_left hlast, Option.some.injEq, eq_comm]
          · simp only [hlast, and_false, if_false, reduceCtorEq]

theorem Registry.assess_eq_error_iff (hconsistent : registry.table.Consistent)
    (hlaw : registry.CursorLaw) :
    registry.assess name spec = .error error ↔
      Binding.refusal? registry.table.bindings registry.resolver name spec = some error := by
  unfold Registry.assess Binding.refusal?
  cases registry.resolver with
  | none => simp only [Except.error.injEq, Option.some.injEq]
  | some resolver =>
      dsimp only
      rw [Registry.checkId_eq hconsistent, ← Option.or_assoc]
      cases hearly : (Binding.idConflict? registry.table.bindings name spec.id).or
          (Binding.idChange? registry.table.bindings name spec.id) with
      | some early => simp only [verdict, Option.some_or, Except.error.injEq, Option.some.injEq]
      | none =>
          simp only [verdict, Option.none_or, Resolver.resolveFor]
          cases hhandle : resolver spec.requestType with
          | none =>
              simp only [Binding.typeFault?, hhandle, Option.some_or, Except.error.injEq,
                Option.some.injEq]
          | some handle =>
              exact Registry.assessResolved_eq_error_iff hconsistent hlaw hhandle

/-- What has passed its checks is carried out. -/
theorem Registry.settle_ne_error {opened : Registry} {events : List Event}
    (admission : Admission) :
    (registry.settle opened events name spec admission).result ≠ .error error := by
  cases admission with
  | known => simp only [Registry.settle, Registry.succeed, ne_eq, reduceCtorEq, not_false_eq_true]
  | added => simp only [Registry.settle, ne_eq, reduceCtorEq, not_false_eq_true]

theorem Registry.register_eq_error_iff (hconsistent : registry.table.Consistent)
    (hlaw : registry.CursorLaw) :
    (registry.register name spec).result = .error error ↔
      Binding.refusal? registry.table.bindings registry.resolver name spec = some error := by
  rw [← Registry.assess_eq_error_iff hconsistent hlaw]
  unfold Registry.register
  cases registry.assess name spec with
  | error other => simp only [Registry.fail, Except.error.injEq]
  | ok admission => simp only [Registry.settle_ne_error, reduceCtorEq]

theorem Registry.restore_eq_error_iff (hconsistent : registry.table.Consistent)
    (hlaw : registry.CursorLaw) {record : CommandRecord} :
    (registry.restore record).result = .error error ↔
      Binding.refusal? registry.table.bindings registry.resolver record.name record.spec =
        some error := by
  rw [← Registry.assess_eq_error_iff hconsistent hlaw]
  unfold Registry.restore
  cases registry.assess record.name record.spec with
  | error other => simp only [Registry.fail, Except.error.injEq]
  | ok admission => simp only [Registry.settle_ne_error, reduceCtorEq]

theorem Registry.keep_eq (hcommand : registry.table.handlers[position]? = some command)
    (version : Option UInt64) :
    registry.keep position version =
      { registry with table := { registry.table with
          handlers := registry.table.handlers.set position
            (command.withVersion (version.getD command.record.version)) } } := by
  obtain ⟨hlt, hget⟩ := List.getElem?_eq_some_iff.1 hcommand
  cases version with
  | none =>
      have hsame : command.withVersion command.record.version = command := rfl
      rw [Option.getD_none, hsame, ← hget, List.set_getElem_self hlt]
      rfl
  | some version =>
      have hset : registry.table.handlers.modify position
          (fun command => command.withVersion version) =
            registry.table.handlers.set position (command.withVersion version) := by
        rw [List.modify_eq_set_getElem?, hcommand]
        rfl
      simp only [Registry.keep, CommandTable.setVersion, hset, Option.getD_some]

/-- A command has come in at the end, under a version that has begun with it or was under
way.  Ids go on after its own. -/
structure Registry.Enters (registry : Registry) (command : LiveCommand) (after : Registry) :
    Prop where
  version : after.version = registry.version + if registry.changed then 0 else 1
  changed : after.changed = true
  handlers : after.table.handlers = registry.table.handlers ++ [command]
  consistent : after.table.Consistent
  nextId : after.nextId.toNat =
    max registry.nextId.toNat (min (command.id.toNat + 1) (UInt64.size - 1))
  offset : after.offset = registry.offset
  resolver : after.resolver = registry.resolver

theorem Registry.register_of_known (hconsistent : registry.table.Consistent)
    {admission : Admission} (hpassed : registry.assess name spec = .ok admission)
    (hcommand : registry.table.handlers[position]? = some command) (hname : command.name = name) :
    (registry.register name spec).result = .ok command.id ∧
      (registry.register name spec).after =
        { registry with table := { registry.table with
            handlers := registry.table.handlers.set position
              (command.withVersion (spec.version.getD command.record.version)) } } := by
  have hfound : registry.table.byName.find? name = some position := by
    rw [hconsistent.byName.find?_iff, List.getElem?_map, hcommand, Option.map_some, hname]
  have hlocate := CommandTable.locate?_eq_some_iff.2 ⟨hfound, hcommand⟩
  cases Registry.admits_of_eq_ok hconsistent hpassed with
  | added hresolver hhandle hnew =>
      rw [hnew.name] at hfound
      contradiction
  | known hother =>
      obtain ⟨rfl, rfl⟩ := Prod.mk.inj (Option.some.inj (hlocate.symm.trans hother))
      unfold Registry.register
      rw [hpassed, ← Registry.keep_eq hcommand]
      exact ⟨rfl, rfl⟩

/-- A new name is admitted with the id that is asked for, or else with the first unused one. -/
theorem Registry.admitted_of_new (hconsistent : registry.table.Consistent)
    (hlaw : registry.CursorLaw) {admission : Admission}
    (hpassed : registry.assess name spec = .ok admission)
    (hnew : ∀ command ∈ registry.table.handlers, command.name ≠ name) :
    ∃ (resolver : Resolver) (handle : TypeHandle) (id : UInt64),
      registry.resolver = some resolver ∧ resolver spec.requestType = some handle ∧
        registry.table.Lacks name id ∧ admission = .added id handle ∧
        id.toNat = (spec.id.map UInt64.toNat).getD registry.firstUnused := by
  have hname : registry.table.byName.find? name = none := by
    rw [hconsistent.byName.find?_eq_none_iff, List.mem_map]
    rintro ⟨command, hmem, hsame⟩
    exact hnew command hmem hsame
  cases Registry.admits_of_eq_ok hconsistent hpassed with
  | known hlocate =>
      rw [CommandTable.locate?_of_new hname] at hlocate
      contradiction
  | @added id handle resolver hresolver hhandle hlacks =>
      refine ⟨resolver, handle, id, hresolver, hhandle, hlacks, rfl, ?_⟩
      have hfree : ∀ id, spec.id = some id → registry.table.byId.find? id = none := by
        intro id hid
        have hcheck := Registry.checkId_of_assess hpassed
        rw [hid] at hcheck
        exact Registry.checkId_of_new hname hcheck
      rw [Registry.assess_of_new hresolver hhandle hname hfree] at hpassed
      cases hid : spec.id with
      | some requested =>
          simp only [hid, Except.ok.injEq, Admission.added.injEq, and_true] at hpassed
          rw [hpassed]
          rfl
      | none =>
          have hroom : ∀ command ∈ registry.table.handlers,
              command.id.toNat ≠ UInt64.size - 1 := by
            intro command hmem hlast
            have hfull := Registry.nextFreeId_eq_error hconsistent hlaw ⟨command, hmem, hlast⟩
            simp only [hid, hfull, Except.map, reduceCtorEq] at hpassed
          have hnext := Registry.nextFreeId_eq_nextId hconsistent hlaw hroom
          simp only [hid, hnext, Except.map, Except.ok.injEq, Admission.added.injEq,
            and_true] at hpassed
          rw [← hpassed]
          exact hlaw.toNat_nextId hroom

theorem Registry.enters_append (hconsistent : registry.table.Consistent)
    (hnew : registry.table.Lacks command.name command.id) :
    registry.Enters command (registry.bump.append command) := by
  obtain ⟨htable, hresolver, hoffset, hnextId⟩ :=
    Registry.same_of_opened (.inr rfl : registry.bump = registry ∨ registry.bump = registry.bump)
  have htableAfter : (registry.bump.append command).table = registry.table.push command := by
    rw [← htable]
    rfl
  refine ⟨?_, registry.bump_changed, ?_, ?_, ?_, hoffset, hresolver⟩
  · change registry.bump.version = _
    rw [registry.bump_version]
    cases registry.changed with
    | true => rfl
    | false => rfl
  · rw [htableAfter]
    rfl
  · rw [htableAfter]
    exact hconsistent.push hnew
  · rw [Registry.toNat_nextId_append, hnextId]

/-- A registration is refused for the first reason that there is, and then nothing has
changed.  Without one a known name keeps everything but the version of its record, and a
new name comes in at the end. -/
theorem Registry.Reachable.registration_outcome (hreach : registry.Reachable answers)
    (name : String) (spec : CommandSpec) :
    let attempt := registry.register name spec
    let refusal? := Binding.refusal? registry.table.bindings registry.resolver name spec
    (∀ error, attempt.result = .error error ↔ refusal? = some error) ∧
    (∀ error, attempt.result = .error error → attempt.after = registry) ∧
    (refusal? = none → ∀ (position : Nat) (command : LiveCommand),
      registry.table.handlers[position]? = some command → command.name = name →
      attempt.result = .ok command.id ∧
        attempt.after =
          { registry with table := { registry.table with
              handlers := registry.table.handlers.set position
                (command.withVersion (spec.version.getD command.record.version)) } }) ∧
    (refusal? = none → (∀ command ∈ registry.table.handlers, command.name ≠ name) →
      ∃ (resolver : Resolver) (handle : TypeHandle) (id : UInt64),
        registry.resolver = some resolver ∧ resolver spec.requestType = some handle ∧
        id.toNat = (spec.id.map UInt64.toNat).getD registry.firstUnused ∧
        attempt.result = .ok id ∧
        registry.Enters
          ⟨⟨id, name, spec.requestType, spec.version.getD attempt.after.version⟩, handle⟩
          attempt.after) := by
  intro attempt refusal?
  have hconsistent := hreach.sound.consistent
  have hlaw := hreach.cursorLaw
  have hpassed : refusal? = none → ∃ admission, registry.assess name spec = .ok admission := by
    intro hnone
    cases hassess : registry.assess name spec with
    | ok admission => exact ⟨admission, rfl⟩
    | error error =>
        have hsome : refusal? = some error := (Registry.assess_eq_error_iff hconsistent hlaw).1 hassess
        rw [hnone] at hsome
        contradiction
  refine ⟨?_, ?_, ?_, ?_⟩
  · intro error
    exact Registry.register_eq_error_iff hconsistent hlaw
  · intro error hfailed
    exact Registry.register_of_error hfailed
  · intro hnone position command hcommand hname
    obtain ⟨admission, hassess⟩ := hpassed hnone
    exact Registry.register_of_known hconsistent hassess hcommand hname
  · intro hnone hnew
    obtain ⟨admission, hassess⟩ := hpassed hnone
    obtain ⟨resolver, handle, id, hresolver, hhandle, hlacks, rfl, hid⟩ :=
      Registry.admitted_of_new hconsistent hlaw hassess hnew
    have hregister : attempt = registry.settle registry.bump registry.bumpEvents name spec
        (.added id handle) := by
      simp only [attempt, Registry.register, hassess]
    refine ⟨resolver, handle, id, hresolver, hhandle, hid, ?_, ?_⟩
    · rw [hregister]
      rfl
    · rw [hregister]
      exact Registry.enters_append hconsistent hlacks

/-- The sample refuses an id that it has given away before it looks at the type.  It knows
the first command, whose version is set, and a third one comes in with the next id. -/
theorem Registry.registration_outcome_sample :
    Registry.sample.Reachable {sampleSchema.resolver} ∧
      (Registry.sample.register "@a/third" ⟨"@a/missing", some 2, none⟩).result =
        .error (.identityConflict "@a/third" 2) ∧
      (Registry.sample.register "@a/first" ⟨"@a/request", none, some 9⟩).result = .ok 2 ∧
      ∃ id : UInt64, (Registry.sample.register "@a/third" ⟨"@a/request", none, none⟩).result =
        .ok id ∧ id.toNat = 6 := by
  obtain ⟨hrefused, -⟩ := Registry.sample_reachable.registration_outcome "@a/third"
    ⟨"@a/missing", some 2, none⟩
  obtain ⟨-, -, hknown, -⟩ := Registry.sample_reachable.registration_outcome "@a/first"
    ⟨"@a/request", none, some 9⟩
  obtain ⟨-, -, -, hnew⟩ := Registry.sample_reachable.registration_outcome "@a/third"
    ⟨"@a/request", none, none⟩
  obtain ⟨resolver, handle, id, -, -, hid, hresult, -⟩ := hnew (by decide) (by decide)
  refine ⟨Registry.sample_reachable, ?_, ?_, id, hresult, hid⟩
  · exact (hrefused _).2 rfl
  · exact (hknown (by decide) 0 _ rfl rfl).1

end CommandRegistry
