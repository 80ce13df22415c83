/-
What messages know of a table: which id, name and handle belong together.  A table
that has all the bindings of another one reads and writes whatever the other one does.
-/
import CommandRegistry.Proofs.TableConsistency
import CommandRegistry.Table

namespace CommandRegistry

variable {table later : CommandTable} {name : String} {id : UInt64} {command : LiveCommand}

structure Binding where
  id : UInt64
  name : String
  handle : TypeHandle

def LiveCommand.binding (command : LiveCommand) : Binding :=
  ⟨command.id, command.name, command.handle⟩

def CommandTable.bindings (table : CommandTable) : List Binding :=
  table.handlers.map LiveCommand.binding

theorem CommandTable.bindings_setVersion (table : CommandTable) (position : Nat)
    (version : UInt64) : (table.setVersion position version).bindings = table.bindings :=
  CommandTable.map_handlers_setVersion (fun _ _ => rfl) table position version

theorem CommandTable.exists_of_subset (hincluded : table.bindings ⊆ later.bindings)
    (hmem : command ∈ table.handlers) :
    ∃ kept ∈ later.handlers, kept.binding = command.binding :=
  List.mem_map.1 (hincluded (List.mem_map_of_mem hmem))

theorem CommandTable.Consistent.get?_of_subset (hconsistent : table.Consistent)
    (hlater : later.Consistent) (hincluded : table.bindings ⊆ later.bindings)
    (hget : table.get? name = some command) :
    ∃ kept, later.get? name = some kept ∧ kept.binding = command.binding := by
  obtain ⟨hmem, hname⟩ := hconsistent.get?_eq_some_iff.1 hget
  obtain ⟨kept, hkept, hbinding⟩ := CommandTable.exists_of_subset hincluded hmem
  have hkeptName : kept.name = command.name := congrArg Binding.name hbinding
  exact ⟨kept, hlater.get?_eq_some_iff.2 ⟨hkept, hkeptName.trans hname⟩, hbinding⟩

theorem CommandTable.Consistent.getById?_of_subset (hconsistent : table.Consistent)
    (hlater : later.Consistent) (hincluded : table.bindings ⊆ later.bindings)
    (hget : table.getById? id = some command) :
    ∃ kept, later.getById? id = some kept ∧ kept.binding = command.binding := by
  obtain ⟨hmem, hid⟩ := hconsistent.getById?_eq_some_iff.1 hget
  obtain ⟨kept, hkept, hbinding⟩ := CommandTable.exists_of_subset hincluded hmem
  have hkeptId : kept.id = command.id := congrArg Binding.id hbinding
  exact ⟨kept, hlater.getById?_eq_some_iff.2 ⟨hkept, hkeptId.trans hid⟩, hbinding⟩

/-- Every message is read as before, but for ids that were unknown. -/
theorem CommandTable.Consistent.decode_of_subset (hconsistent : table.Consistent)
    (hlater : later.Consistent) (hincluded : table.bindings ⊆ later.bindings) (bytes : Bytes) :
    (∃ id, table.decode bytes = .error (.unknownId id)) ∨
      later.decode bytes = table.decode bytes := by
  simp only [CommandTable.decode]
  cases Envelope.decodeHeader bytes with
  | error error => exact .inr rfl
  | ok parts =>
      obtain ⟨id, body⟩ := parts
      cases hget : table.getById? id with
      | none => exact .inl ⟨id, by simp only [hget]⟩
      | some command =>
          obtain ⟨kept, hkept, hbinding⟩ := hconsistent.getById?_of_subset hlater hincluded hget
          have hname : kept.name = command.name := congrArg Binding.name hbinding
          have hhandle : kept.handle = command.handle := congrArg Binding.handle hbinding
          right
          simp only [hget, hkept, hname, hhandle]

/-- The messages of every known name are written as before. -/
theorem CommandTable.Consistent.encode_of_subset (hconsistent : table.Consistent)
    (hlater : later.Consistent) (hincluded : table.bindings ⊆ later.bindings)
    (hget : table.get? name = some command) (value : Json) :
    later.encode name value = table.encode name value := by
  obtain ⟨kept, hkept, hbinding⟩ := hconsistent.get?_of_subset hlater hincluded hget
  have hid : kept.id = command.id := congrArg Binding.id hbinding
  have hhandle : kept.handle = command.handle := congrArg Binding.handle hbinding
  simp only [CommandTable.encode, hget, hkept, hid, hhandle]

theorem CommandTable.unknownId_of_decode {bytes : Bytes}
    (hdecode : table.decode bytes = .error (.unknownId id)) :
    ∃ body, Envelope.decodeHeader bytes = .ok (id, body) := by
  cases hheader : Envelope.decodeHeader bytes with
  | error error =>
      simp only [CommandTable.decode, hheader, Except.error.injEq] at hdecode
      subst hdecode
      unfold Envelope.decodeHeader at hheader
      split at hheader <;> cases hheader
  | ok parts =>
      obtain ⟨found, body⟩ := parts
      simp only [CommandTable.decode, hheader] at hdecode
      split at hdecode
      · cases hdecode
        exact ⟨body, rfl⟩
      · split at hdecode <;> cases hdecode

theorem CommandTable.Consistent.decode_eq (hconsistent : table.Consistent)
    (hlater : later.Consistent) (hincluded : table.bindings ⊆ later.bindings)
    (hbounded : later.bindings ⊆ table.bindings) (bytes : Bytes) :
    later.decode bytes = table.decode bytes := by
  rcases hconsistent.decode_of_subset hlater hincluded bytes with ⟨id, hunknown⟩ | hsame
  · rcases hlater.decode_of_subset hconsistent hbounded bytes with ⟨other, hother⟩ | hsame
    · obtain ⟨_, hheader⟩ := CommandTable.unknownId_of_decode hunknown
      obtain ⟨_, hread⟩ := CommandTable.unknownId_of_decode hother
      rw [hheader, Except.ok.injEq, Prod.mk.injEq] at hread
      rw [hunknown, hother, hread.1]
    · exact hsame.symm
  · exact hsame

theorem CommandTable.Consistent.encode_eq (hconsistent : table.Consistent)
    (hlater : later.Consistent) (hincluded : table.bindings ⊆ later.bindings)
    (hbounded : later.bindings ⊆ table.bindings) (name : String) (value : Json) :
    later.encode name value = table.encode name value := by
  cases hget : table.get? name with
  | some command => exact hconsistent.encode_of_subset hlater hincluded hget value
  | none =>
      cases hother : later.get? name with
      | some command => exact (hlater.encode_of_subset hconsistent hbounded hother value).symm
      | none => simp only [CommandTable.encode, hget, hother]

end CommandRegistry
