/-
Messages across a change of the command set.  A table that keeps the identities
of another in front of its own reads and writes whatever the other one does.
-/
import CommandRegistry.Proofs.Bindings
import CommandRegistry.Proofs.History

namespace CommandRegistry

variable {answers : Set Resolver} {table later : CommandTable}

theorem CommandTable.KeptBy.bindings_subset (hkeeps : table.KeptBy later) :
    table.bindings ⊆ later.bindings := by
  intro binding hmem
  obtain ⟨command, hcommand, rfl⟩ := List.mem_map.1 hmem
  obtain ⟨kept, hkept, hidentity⟩ := hkeeps.exists_mem hcommand
  have hbinding : kept.binding = command.binding :=
    congrArg (fun identity : CommandIdentity =>
      (⟨identity.id, identity.name, identity.handle⟩ : Binding)) hidentity
  exact hbinding ▸ List.mem_map_of_mem hkept

/-- A later table reads every message as before, but for ids that were unknown. -/
theorem CommandTable.Consistent.decode_of_keptBy (hconsistent : table.Consistent)
    (hlater : later.Consistent) (hkeeps : table.KeptBy later)
    (bytes : Bytes) :
    (∃ id, table.decode bytes = .error (.unknownId id)) ∨
      later.decode bytes = table.decode bytes :=
  hconsistent.decode_of_subset hlater hkeeps.bindings_subset bytes

/-- A later table writes the messages of every known name as before. -/
theorem CommandTable.Consistent.encode_of_keptBy (hconsistent : table.Consistent)
    (hlater : later.Consistent) (hkeeps : table.KeptBy later)
    {name : String} {command : LiveCommand} (hget : table.get? name = some command)
    (value : Json) : later.encode name value = table.encode name value :=
  hconsistent.encode_of_subset hlater hkeeps.bindings_subset hget value

/-- However a registry goes on, restarts included, every byte string that it could
read or refuse for another reason than an unknown id is read or refused in the
same way, and every value is written in the same way under every known name. -/
theorem Registry.Reachable.wire_compatible {first last : Registry}
    (hreach : first.Reachable answers) (hevolves : first.Evolves answers last) :
    (∀ bytes, (∃ id, first.compile.decode bytes = .error (.unknownId id)) ∨
      last.compile.decode bytes = first.compile.decode bytes) ∧
    ∀ command ∈ first.compile.handlers, ∀ value,
      last.compile.encode command.name value = first.compile.encode command.name value := by
  have hconsistent := hreach.sound.consistent
  have hlater := (hreach.evolves hevolves).sound.consistent
  have hkeeps := hevolves.keptBy hreach.sound
  refine ⟨fun bytes => hconsistent.decode_of_keptBy hlater hkeeps bytes, ?_⟩
  intro command hmem value
  have hget := hconsistent.get?_eq_some_iff.2 ⟨hmem, rfl⟩
  exact hconsistent.encode_of_keptBy hlater hkeeps hget value

/-- A pass that adds a command and gives an old one another version. -/
def Registry.samplePass (working : Registry) : Attempt Unit :=
  ((working.register "@a/third" ⟨"@a/request", none, none⟩).after.register "@a/first"
    ⟨"@a/request", some 2, some 9⟩).map fun _ => ()

/-- The sample after such a pass, read from its snapshot again. -/
def Registry.sampleRestarted : Registry :=
  let rebuilt := (Registry.sample.rebuild {} Registry.samplePass).after
  ((Registry.forSnapshot rebuilt.snapshot sampleSchema.resolver).restoreAll
    rebuilt.snapshot.handlers).after

theorem Registry.sample_evolves :
    Registry.sample.Evolves {sampleSchema.resolver} Registry.sampleRestarted := by
  have hpass : Registry.sample.working.Evolves {sampleSchema.resolver}
      (Registry.samplePass Registry.sample.working).after :=
    .register (.register (.refl _) "@a/third" _) "@a/first" _
  have hrebuilt := Registry.Evolves.rebuild (.refl _) {} Registry.samplePass hpass
  have hopened : (Registry.hydrate (Registry.sample.rebuild {} Registry.samplePass).after.snapshot
      {} sampleSchema.resolver).result = .ok Registry.sampleRestarted := rfl
  exact hrebuilt.restart Set.subsingleton_singleton rfl hopened

theorem Registry.wire_compatible_sample :
    Registry.sample.Reachable {sampleSchema.resolver} ∧
      Registry.sample.Evolves {sampleSchema.resolver} Registry.sampleRestarted ∧
      Registry.sampleRestarted.size = 3 ∧
      Registry.sampleRestarted.compile.decode [0x82, 0x00, 1, 0, 7] =
        Registry.sample.compile.decode [0x82, 0x00, 1, 0, 7] := by
  refine ⟨Registry.sample_reachable, Registry.sample_evolves, rfl, ?_⟩
  have hcompatible := Registry.sample_reachable.wire_compatible Registry.sample_evolves
  apply (hcompatible.1 [0x82, 0x00, 1, 0, 7]).resolve_left
  rintro ⟨id, ⟨⟩⟩

end CommandRegistry
