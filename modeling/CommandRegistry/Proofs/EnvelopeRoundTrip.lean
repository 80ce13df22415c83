/-
Messages read back.  The id at the front of a message leads to the command whose
name it was written under, and that command reads the body that it has written.
-/
import CommandRegistry.Proofs.Evolution
import CommandRegistry.Proofs.LayoutRoundTrip
import CommandRegistry.Table

namespace CommandRegistry

variable {table : CommandTable} {name : String} {value item : Json} {bytes body : Bytes}

theorem Envelope.encodeHeader_eq (id : UInt64) : Envelope.encodeHeader id = Varint.write id :=
  Varint.fst_append id []

/-- A message is the header and behind it the body that the layout of the command writes. -/
theorem CommandTable.encode_of_layout {command : LiveCommand} {layout : Layout}
    (hget : table.get? name = some command)
    (hhandle : command.handle.requestType = layout.requestType) (value : Json) :
    table.encode name value = ((layout.encode value).complete.map
      (Envelope.encodeHeader command.id ++ ·)).mapError DispatchError.codec := by
  have happend : ∀ buffer, command.handle.requestType.append value buffer =
      (layout.encode value).onto buffer := by
    rw [hhandle]
    exact layout.append_eq value
  cases hbody : (layout.encode value).complete with
  | error fault =>
      simp only [CommandTable.encode, hget, happend, Written.complete_onto, hbody, Except.map,
        Except.mapError]
  | ok body =>
      simp only [CommandTable.encode, hget, happend, Written.complete_onto, hbody, Except.map,
        Except.mapError]

theorem CommandTable.exists_of_encode_eq_ok (hencode : table.encode name value = .ok bytes) :
    ∃ command, table.get? name = some command := by
  cases hget : table.get? name with
  | none =>
      simp only [CommandTable.encode, hget] at hencode
      cases hencode
  | some command => exact ⟨command, rfl⟩

theorem CommandTable.decode_encodeHeader {id : UInt64} {command : LiveCommand}
    (hget : table.getById? id = some command)
    (hbody : command.handle.requestType.decode body = .ok item) :
    table.decode (Envelope.encodeHeader id ++ body) = .ok ⟨id, command.name, item⟩ := by
  simp only [CommandTable.decode, Envelope.decodeHeader, Envelope.encodeHeader_eq,
    Varint.split_write, hget, hbody]

/-- A message is read back by the command that it was written for. -/
theorem CommandTable.Consistent.decode_of_encode (hconsistent : table.Consistent)
    {command : LiveCommand} (hget : table.get? name = some command)
    (hbody : command.handle.requestType.decode body = .ok item) :
    table.decode (Envelope.encodeHeader command.id ++ body) =
      .ok ⟨command.id, name, item⟩ := by
  obtain ⟨hmem, hname⟩ := hconsistent.get?_eq_some_iff.1 hget
  have hgetById := hconsistent.getById?_eq_some_iff.2 ⟨hmem, rfl⟩
  rw [CommandTable.decode_encodeHeader hgetById hbody, hname]

/-- Where a schema answers, every command works by one of its layouts. -/
theorem Registry.Sound.exists_layout {schema : Schema} {registry : Registry}
    (hsound : registry.Sound {schema.resolver}) {command : LiveCommand}
    (hmem : command ∈ registry.table.handlers) :
    ∃ layout, schema.find? command.record.requestType = some layout ∧
      command.handle.requestType = layout.requestType := by
  obtain ⟨resolver, rfl, hresolve⟩ := hsound.resolved command hmem
  obtain ⟨place, layout, -, hfind, hhandle⟩ := Schema.resolver_eq_some_iff.1 hresolve
  exact ⟨layout, hfind, congrArg TypeHandle.requestType hhandle.symm⟩

/-- The layout that a command works by is the one that its recorded type name leads to. -/
theorem Registry.Sound.requestType_eq {schema : Schema} {registry : Registry}
    (hsound : registry.Sound {schema.resolver}) {command : LiveCommand} {layout : Layout}
    (hmem : command ∈ registry.table.handlers)
    (hfind : schema.find? command.record.requestType = some layout) :
    command.handle.requestType = layout.requestType := by
  obtain ⟨own, hown, hhandle⟩ := hsound.exists_layout hmem
  rw [hown, Option.some.injEq] at hfind
  rw [hhandle, hfind]

/-- Where a schema answers, a message is read back as the declared members of its value. -/
theorem Registry.Sound.decode_of_encode {schema : Schema} {registry : Registry}
    (hsound : registry.Sound {schema.resolver})
    (hencode : registry.compile.encode name value = .ok bytes)
    (hsize : bytes.length < UInt64.size) :
    ∃ command layout kept, registry.compile.get? name = some command ∧
      schema.find? command.record.requestType = some layout ∧
      registry.compile.decode bytes = .ok ⟨command.id, name, .object kept⟩ ∧
      Json.Restricts layout.fieldNames value kept := by
  obtain ⟨command, hget⟩ := CommandTable.exists_of_encode_eq_ok hencode
  obtain ⟨hmem, _⟩ := hsound.consistent.get?_eq_some_iff.1 hget
  obtain ⟨layout, hfind, hhandle⟩ := hsound.exists_layout hmem
  have hwritten := CommandTable.encode_of_layout hget hhandle value
  cases hbody : (layout.encode value).complete with
  | error fault =>
      rw [hbody, hencode] at hwritten
      cases hwritten
  | ok body =>
      rw [hbody, hencode] at hwritten
      obtain rfl : bytes = Envelope.encodeHeader command.id ++ body := Except.ok.inj hwritten
      rw [List.length_append] at hsize
      obtain ⟨kept, hdecode, hkept⟩ := Layout.decode_encode hbody (by omega)
      refine ⟨command, layout, kept, hget, hfind, ?_, hkept⟩
      apply hsound.consistent.decode_of_encode hget
      rw [hhandle]
      exact hdecode

/-- Whatever a registry over a schema writes under a name is read back with the id
of that name, the name, and the members of the value that its request type declares.
The bound holds of every byte string in memory; a list as such has none. -/
theorem Registry.Reachable.envelope_round_trip {schema : Schema} {registry : Registry}
    (hreach : registry.Reachable {schema.resolver})
    (hencode : registry.compile.encode name value = .ok bytes)
    (hsize : bytes.length < UInt64.size) :
    ∃ command layout kept, registry.compile.get? name = some command ∧
      schema.find? command.record.requestType = some layout ∧
      registry.compile.decode bytes = .ok ⟨command.id, name, .object kept⟩ ∧
      Json.Restricts layout.fieldNames value kept ∧
      ∀ members, value = .object members → Json.KeysIncrease members →
        (∀ member ∈ members, member.1 ∈ layout.fieldNames) → kept = members := by
  obtain ⟨command, layout, kept, hget, hfind, hdecode, hkept⟩ :=
    hreach.sound.decode_of_encode hencode hsize
  refine ⟨command, layout, kept, hget, hfind, hdecode, hkept, ?_⟩
  rintro members rfl hsorted hdeclared
  exact hkept.eq_of_declared hsorted hdeclared

/-- A request with an undeclared member and a text outside of ASCII. -/
def Json.sampleRequest : Json :=
  .object [("count", .ofNatural 300), ("extra", .null), ("label", .string "ü")]

theorem Registry.envelope_round_trip_sample :
    Registry.sample.Reachable {sampleSchema.resolver} ∧
      Registry.sample.compile.encode "@a/first" Json.sampleRequest =
        .ok [2, 0xAC, 2, 2, 0xC3, 0xBC, 0xAC, 2] ∧
      8 < UInt64.size ∧
      ∃ kept, Registry.sample.compile.decode [2, 0xAC, 2, 2, 0xC3, 0xBC, 0xAC, 2] =
          .ok ⟨2, "@a/first", .object kept⟩ ∧
        Json.Restricts ["count", "label", "count"] Json.sampleRequest kept := by
  have hencode : Registry.sample.compile.encode "@a/first" Json.sampleRequest =
      .ok [2, 0xAC, 2, 2, 0xC3, 0xBC, 0xAC, 2] := rfl
  have hsize : 8 < UInt64.size := by decide
  obtain ⟨command, layout, kept, hget, hfind, hdecode, hkept, _⟩ :=
    Registry.sample_reachable.envelope_round_trip hencode hsize
  obtain rfl := Option.some.inj hget
  obtain rfl := Option.some.inj hfind
  exact ⟨Registry.sample_reachable, hencode, hsize, kept, hdecode, hkept⟩

end CommandRegistry
