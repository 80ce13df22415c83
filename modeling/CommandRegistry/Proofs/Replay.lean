/-
Replaying the records of commands whose names and ids are distinct.  Every one
of them is new when its turn comes, so the replay appends them one by one, and
a registry that is read from its own snapshot gets its commands back.
-/
import CommandRegistry.Proofs.Evolution

namespace CommandRegistry

variable {answers : Set Resolver} {registry : Registry} {resolver : Resolver}

theorem Registry.restore_of_new {command : LiveCommand}
    (hresolver : registry.resolver = some resolver)
    (hhandle : resolver command.record.requestType = some command.handle)
    (hnew : registry.table.Lacks command.name command.id) :
    registry.restore command.record =
      ⟨.ok command.id, registry.append command, [command.registered]⟩ := by
  have hid : ∀ id, command.record.spec.id = some id → registry.table.byId.find? id = none := by
    rintro id ⟨⟩
    exact hnew.id
  have hpassed : registry.assess command.record.name command.record.spec =
      .ok (.added command.id command.handle) :=
    Registry.assess_of_new hresolver hhandle hnew.name hid
  simp only [Registry.restore, hpassed, Registry.settle, List.nil_append]
  rfl

/-- Putting one new command into a table leaves another one new if the two
differ in name and in id. -/
theorem CommandTable.Lacks.push {table : CommandTable} {command other : LiveCommand}
    (hnew : table.Lacks other.name other.id) (hname : other.name ≠ command.name)
    (hid : other.id ≠ command.id) : (table.push command).Lacks other.name other.id := by
  refine ⟨?_, ?_⟩
  · rw [CommandTable.push, Index.find?_insert, if_neg hname]
    exact hnew.name
  · rw [CommandTable.push, Index.find?_insert, if_neg hid]
    exact hnew.id

/-- A replay of new and distinct commands succeeds and appends them in their
order. -/
theorem Registry.restoreAll_of_new (commands : List LiveCommand)
    (hresolver : registry.resolver = some resolver)
    (hhandles : ∀ command ∈ commands,
      resolver command.record.requestType = some command.handle)
    (hnew : ∀ command ∈ commands, registry.table.Lacks command.name command.id)
    (hnames : (commands.map LiveCommand.name).Nodup)
    (hids : (commands.map LiveCommand.id).Nodup) :
    (registry.restoreAll (commands.map LiveCommand.record)).result = .ok () ∧
      (registry.restoreAll (commands.map LiveCommand.record)).after =
        commands.foldl Registry.append registry := by
  induction commands generalizing registry with
  | nil => exact ⟨rfl, rfl⟩
  | cons command rest ih =>
      simp only [List.map_cons, List.nodup_cons, List.mem_map, not_exists, not_and] at hnames hids
      have hhead := Registry.restore_of_new hresolver (hhandles command List.mem_cons_self)
        (hnew command List.mem_cons_self)
      have hrest : ∀ other ∈ rest,
          (registry.append command).table.Lacks other.name other.id := by
        intro other hmem
        have hother := hnew other (List.mem_cons_of_mem command hmem)
        exact hother.push (hnames.1 other hmem) (hids.1 other hmem)
      have happended : (registry.append command).resolver = some resolver := hresolver
      have htail := ih happended
        (fun other hmem => hhandles other (List.mem_cons_of_mem command hmem)) hrest
        hnames.2 hids.2
      simpa only [List.map_cons, Registry.restoreAll, hhead, Attempt.andThen,
        List.foldl_cons] using htail

theorem Registry.handlers_foldl_append (commands : List LiveCommand) (registry : Registry) :
    (commands.foldl Registry.append registry).table.handlers =
      registry.table.handlers ++ commands := by
  induction commands generalizing registry with
  | nil => simp
  | cons command rest ih =>
      rw [List.foldl_cons, ih]
      simp [Registry.append, CommandTable.push]

theorem Registry.foldl_append_same (commands : List LiveCommand) (registry : Registry) :
    (commands.foldl Registry.append registry).version = registry.version ∧
      (commands.foldl Registry.append registry).offset = registry.offset ∧
      (commands.foldl Registry.append registry).changed = registry.changed ∧
      (commands.foldl Registry.append registry).resolver = registry.resolver := by
  induction commands generalizing registry with
  | nil => exact ⟨rfl, rfl, rfl, rfl⟩
  | cons command rest ih => exact ih (registry.append command)

/-- The records of a consistent registry are brought back one by one, if the resolver
gives each command the handle that it has. -/
theorem Registry.restoreAll_own_snapshot (hconsistent : registry.table.Consistent)
    (hhandles : ∀ command ∈ registry.table.handlers,
      resolver command.record.requestType = some command.handle) :
    ((Registry.forSnapshot registry.snapshot resolver).restoreAll
        registry.snapshot.handlers).result = .ok () ∧
      ((Registry.forSnapshot registry.snapshot resolver).restoreAll
          registry.snapshot.handlers).after =
        registry.table.handlers.foldl Registry.append
          (Registry.forSnapshot registry.snapshot resolver) := by
  have hnew : ∀ command ∈ registry.table.handlers,
      (Registry.forSnapshot registry.snapshot resolver).table.Lacks command.name command.id :=
    fun _ _ => ⟨rfl, rfl⟩
  exact Registry.restoreAll_of_new registry.table.handlers rfl hhandles hnew
    hconsistent.byName.nodup hconsistent.byId.nodup

theorem Registry.handle_of_restore (hresolver : registry.resolver = some resolver)
    {record : CommandRecord} {id : UInt64}
    (hrestored : (registry.restore record).result = .ok id) :
    ∃ handle, resolver record.requestType = some handle := by
  cases hhandle : resolver record.requestType with
  | some handle => exact ⟨handle, rfl⟩
  | none =>
      have hunknown : resolver record.spec.requestType = none := hhandle
      simp only [Registry.restore, Registry.assess, hresolver, Resolver.resolveFor,
        hunknown] at hrestored
      split at hrestored
      · contradiction
      · rename_i hadmitted
        split at hadmitted <;> contradiction

/-- Bringing back a record begins no version. -/
theorem Registry.restore_same (registry : Registry) (record : CommandRecord) :
    (registry.restore record).after.offset = registry.offset ∧
      (registry.restore record).after.version = registry.version ∧
      (registry.restore record).after.changed = registry.changed ∧
      (registry.restore record).after.resolver = registry.resolver := by
  unfold Registry.restore
  split
  · exact ⟨rfl, rfl, rfl, rfl⟩
  · rename_i admission _
    cases admission with
    | known position _ => exact registry.keep_same position record.spec.version
    | added => exact ⟨rfl, rfl, rfl, rfl⟩

theorem Registry.restoreAll_same (registry : Registry) (records : List CommandRecord) :
    (registry.restoreAll records).after.offset = registry.offset ∧
      (registry.restoreAll records).after.version = registry.version ∧
      (registry.restoreAll records).after.changed = registry.changed ∧
      (registry.restoreAll records).after.resolver = registry.resolver := by
  induction records generalizing registry with
  | nil => exact ⟨rfl, rfl, rfl, rfl⟩
  | cons record rest ih =>
      rw [Registry.restoreAll, Attempt.andThen]
      split
      · exact registry.restore_same record
      · simpa only [registry.restore_same record] using ih (registry.restore record).after

/-- A replay goes on with what bringing back its first record has left. -/
theorem Registry.restoreAll_cons_eq_ok_iff {record : CommandRecord}
    {rest : List CommandRecord} :
    (registry.restoreAll (record :: rest)).result = .ok () ↔
      (∃ id, (registry.restore record).result = .ok id) ∧
        ((registry.restore record).after.restoreAll rest).result = .ok () := by
  rw [Registry.restoreAll, Attempt.andThen]
  cases hrestored : (registry.restore record).result with
  | error error => simp
  | ok id => simp

theorem Registry.restoreAll_cons_after {record : CommandRecord} {id : UInt64}
    (hrestored : (registry.restore record).result = .ok id) (rest : List CommandRecord) :
    (registry.restoreAll (record :: rest)).after =
      ((registry.restore record).after.restoreAll rest).after := by
  rw [Registry.restoreAll, Attempt.andThen, hrestored]

/-- A replay that succeeds has found the request types of all its records. -/
theorem Registry.commands_of_restoreAll (hresolver : registry.resolver = some resolver)
    {records : List CommandRecord} (hreplayed : (registry.restoreAll records).result = .ok ()) :
    ∃ commands : List LiveCommand, commands.map LiveCommand.record = records ∧
      ∀ command ∈ commands, resolver command.record.requestType = some command.handle := by
  induction records generalizing registry with
  | nil => exact ⟨[], rfl, by simp⟩
  | cons record rest ih =>
      obtain ⟨⟨id, hrestored⟩, hrest⟩ := Registry.restoreAll_cons_eq_ok_iff.1 hreplayed
      obtain ⟨handle, hhandle⟩ := Registry.handle_of_restore hresolver hrestored
      have hsame := (registry.restore_same record).2.2.2.trans hresolver
      obtain ⟨commands, rfl, hhandles⟩ := ih hsame hrest
      exact ⟨⟨record, handle⟩ :: commands, rfl, List.forall_mem_cons.2 ⟨hhandle, hhandles⟩⟩

/-- What is read of a snapshot besides its commands. -/
theorem Registry.hydrate_same {snapshot : Snapshot} {options : RegistryOptions}
    {opened : Registry}
    (hopened : (Registry.hydrate snapshot options resolver).result = .ok opened) :
    opened.version = snapshot.version ∧ opened.offset = snapshot.offset ∧
      opened.changed = false := by
  obtain ⟨hoffset, hversion, hchanged, -⟩ :=
    (Registry.forSnapshot snapshot resolver).restoreAll_same snapshot.handlers
  rw [(Registry.replay_of_hydrate hopened).2]
  exact ⟨hversion, hoffset, hchanged⟩

/-- Records with distinct names and ids are brought back one by one, whatever resolver
reads them. -/
theorem Registry.hydrate_of_distinct {snapshot : Snapshot} {options : RegistryOptions}
    {opened : Registry} (hnames : (snapshot.handlers.map CommandRecord.name).Nodup)
    (hids : (snapshot.handlers.map CommandRecord.id).Nodup)
    (hopened : (Registry.hydrate snapshot options resolver).result = .ok opened) :
    ∃ commands : List LiveCommand, commands.map LiveCommand.record = snapshot.handlers ∧
      (∀ command ∈ commands, resolver command.record.requestType = some command.handle) ∧
      opened = commands.foldl Registry.append (Registry.forSnapshot snapshot resolver) := by
  obtain ⟨hreplayed, hafter⟩ := Registry.replay_of_hydrate hopened
  obtain ⟨commands, hrecords, hhandles⟩ := Registry.commands_of_restoreAll rfl hreplayed
  rw [← hrecords, List.map_map] at hnames hids
  have hnew : ∀ command ∈ commands,
      (Registry.forSnapshot snapshot resolver).table.Lacks command.name command.id :=
    fun _ _ => ⟨rfl, rfl⟩
  have hreplay := (Registry.restoreAll_of_new commands rfl hhandles hnew hnames hids).2
  rw [hrecords] at hreplay
  exact ⟨commands, hrecords, hhandles, hafter.trans hreplay⟩

/-- A key of the records of a snapshot, read off the commands. -/
theorem Registry.map_snapshot (registry : Registry) {κ : Type} (key : CommandRecord → κ) :
    registry.snapshot.handlers.map key =
      registry.table.handlers.map (key ∘ LiveCommand.record) :=
  List.map_map

/-- Whatever resolver reads the snapshot of a consistent registry, it brings back the
records that are in it. -/
theorem Registry.hydrate_own_snapshot (hconsistent : registry.table.Consistent)
    {options : RegistryOptions} {opened : Registry}
    (hopened : (Registry.hydrate registry.snapshot options resolver).result = .ok opened) :
    opened.snapshot = registry.snapshot := by
  have hnames : (registry.snapshot.handlers.map CommandRecord.name).Nodup :=
    registry.map_snapshot CommandRecord.name ▸ hconsistent.byName.nodup
  have hids : (registry.snapshot.handlers.map CommandRecord.id).Nodup :=
    registry.map_snapshot CommandRecord.id ▸ hconsistent.byId.nodup
  obtain ⟨commands, hrecords, -, rfl⟩ := Registry.hydrate_of_distinct hnames hids hopened
  obtain ⟨hversion, hoffset, -⟩ :=
    Registry.foldl_append_same commands (Registry.forSnapshot registry.snapshot resolver)
  rw [Registry.snapshot, hversion, hoffset, Registry.handlers_foldl_append, List.map_append,
    hrecords]
  rfl

/-- Reading a sound registry from its own snapshot replays its commands, if its
resolver still answers as it did. -/
theorem Registry.Sound.replay_own_snapshot (hsound : registry.Sound answers)
    (hconstant : answers.Subsingleton) (hresolver : registry.resolver = some resolver)
    {options : RegistryOptions} {opened : Registry}
    (hopened : (Registry.hydrate registry.snapshot options resolver).result = .ok opened) :
    opened = registry.table.handlers.foldl Registry.append
      (Registry.forSnapshot registry.snapshot resolver) := by
  have hanswers := hsound.attached resolver hresolver
  have hhandles : ∀ command ∈ registry.table.handlers,
      resolver command.record.requestType = some command.handle := by
    intro command hmem
    obtain ⟨other, hother, hhandle⟩ := hsound.resolved command hmem
    exact hconstant hother hanswers ▸ hhandle
  rw [(Registry.replay_of_hydrate hopened).2]
  exact (Registry.restoreAll_own_snapshot hsound.consistent hhandles).2

end CommandRegistry
