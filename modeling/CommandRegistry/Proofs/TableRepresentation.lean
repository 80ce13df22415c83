/-
A compiled table as a plain list of commands.  Its two indexes add nothing to the
list but speed, whether the table was compiled from a registry in use or read from
a snapshot, however the snapshot was written.
-/
import CommandRegistry.Proofs.Evolution

namespace CommandRegistry

variable {answers : Set Resolver} {table : CommandTable}

/-- The tables that encode, decode and route messages. -/
inductive CommandTable.Compiled (answers : Set Resolver) : CommandTable → Prop
  | compile {registry : Registry} (hreach : registry.Reachable answers) :
      Compiled answers registry.compile
  | ofSnapshot {snapshot : Snapshot} {resolver : Resolver} {table : CommandTable}
      (hanswers : resolver ∈ answers)
      (htable : (CommandTable.ofSnapshot snapshot resolver).result = .ok table) :
      Compiled answers table

theorem CommandTable.Compiled.consistent (hcompiled : table.Compiled answers) :
    table.Consistent := by
  cases hcompiled with
  | compile hreach => exact hreach.sound.consistent
  | @ofSnapshot snapshot resolver _ hanswers htable =>
      simp only [CommandTable.ofSnapshot] at htable
      cases hopened : (Registry.hydrate snapshot {} resolver).result with
      | error error => simp [hopened, Except.map] at htable
      | ok opened =>
          simp only [hopened, Except.map, Except.ok.injEq] at htable
          have hreach : opened.Reachable answers := .hydrated hanswers hopened (.refl opened)
          exact htable ▸ hreach.sound.consistent

/-- Ids and names are distinct, both indexes hold the positions of the list and
nothing else, and every look-up is a scan of the list. -/
theorem CommandTable.Compiled.represents_list (hcompiled : table.Compiled answers) :
    (table.handlers.map LiveCommand.id).Nodup ∧
    (table.handlers.map LiveCommand.name).Nodup ∧
    (∀ name position, table.byName.find? name = some position ↔
      ∃ command, table.handlers[position]? = some command ∧ command.name = name) ∧
    (∀ id position, table.byId.find? id = some position ↔
      ∃ command, table.handlers[position]? = some command ∧ command.id = id) ∧
    (∀ name, table.get? name = table.handlers.find? fun command => command.name = name) ∧
    (∀ id, table.getById? id = table.handlers.find? fun command => command.id = id) ∧
    (∀ id, table.containsId id = table.handlers.any fun command => command.id = id) ∧
    (∀ command ∈ table.handlers,
      table.get? command.name = some command ∧ table.getById? command.id = some command) ∧
    table.size = table.byName.size ∧ table.size = table.byId.size := by
  have hconsistent := hcompiled.consistent
  refine ⟨hconsistent.byId.nodup, hconsistent.byName.nodup, ?_, ?_,
    hconsistent.get?_eq_find?, hconsistent.getById?_eq_find?,
    hconsistent.containsId_eq_any, ?_, ?_, ?_⟩
  · intro name position
    rw [hconsistent.byName.find?_iff, List.getElem?_map, Option.map_eq_some_iff]
  · intro id position
    rw [hconsistent.byId.find?_iff, List.getElem?_map, Option.map_eq_some_iff]
  · intro command hmem
    exact ⟨hconsistent.get?_eq_some_iff.2 ⟨hmem, rfl⟩,
      hconsistent.getById?_eq_some_iff.2 ⟨hmem, rfl⟩⟩
  · rw [hconsistent.byName.size_eq, List.length_map, CommandTable.size]
  · rw [hconsistent.byId.size_eq, List.length_map, CommandTable.size]

/-- A snapshot that has one record twice, the second time with another version. -/
def sampleRepeats : Snapshot :=
  ⟨3, 5, [⟨2, "@a/first", "@a/request", 1⟩, ⟨5, "@a/second", "@a/request", 1⟩,
    ⟨2, "@a/first", "@a/request", 2⟩]⟩

def CommandTable.sampleRead : CommandTable :=
  ((Registry.forSnapshot sampleRepeats sampleSchema.resolver).restoreAll
    sampleRepeats.handlers).after.compile

theorem CommandTable.represents_list_sample :
    CommandTable.sampleRead.Compiled {sampleSchema.resolver} ∧
      CommandTable.sampleRead.size = 2 ∧
      (CommandTable.sampleRead.handlers.map LiveCommand.id).Nodup ∧
      CommandTable.sampleRead.get? "@a/second" =
        CommandTable.sampleRead.handlers.find? fun command => command.name = "@a/second" := by
  have hread : (CommandTable.ofSnapshot sampleRepeats sampleSchema.resolver).result =
      .ok CommandTable.sampleRead := rfl
  have hcompiled : CommandTable.sampleRead.Compiled {sampleSchema.resolver} :=
    .ofSnapshot (Set.mem_singleton _) hread
  obtain ⟨hids, -, -, -, hget, -⟩ := hcompiled.represents_list
  exact ⟨hcompiled, rfl, hids, hget "@a/second"⟩

end CommandRegistry
