/-
The records of a snapshot in another order.  What a replay accepts and what messages know
of the table it leaves depend on the records as a collection; the order shows only in the
places of the commands, and in which of two records of one command gives its version and
the name of its request type.
-/
import CommandRegistry.Proofs.Acceptance
import CommandRegistry.Proofs.IdAllocation

namespace CommandRegistry

variable {resolver : Resolver} {table other : CommandTable} {records : List CommandRecord}
  {snapshot : Snapshot} {options : RegistryOptions} {opened reordered : Registry}

/-- No two commands of a table bind the same. -/
theorem CommandTable.Consistent.bindings_nodup (hconsistent : table.Consistent) :
    table.bindings.Nodup := by
  have hids : (table.bindings.map Binding.id).Nodup := by
    rw [CommandTable.bindings, List.map_map]
    exact hconsistent.byId.nodup
  exact hids.of_map

theorem CommandTable.Consistent.bindings_perm (hconsistent : table.Consistent)
    (hother : other.Consistent)
    (hsame : ∀ binding, binding ∈ other.bindings ↔ binding ∈ table.bindings) :
    other.bindings.Perm table.bindings :=
  (List.perm_ext_iff_of_nodup hother.bindings_nodup hconsistent.bindings_nodup).2 hsame

theorem max?_eq_of_perm {numbers others : List Nat} (hperm : others.Perm numbers) :
    others.max? = numbers.max? := by
  apply Option.ext
  intro greatest
  simp only [List.max?_eq_some_iff, hperm.mem_iff]

theorem CommandTable.greatestId?_eq_of_perm (hperm : other.bindings.Perm table.bindings) :
    other.greatestId? = table.greatestId? := by
  have hids : ∀ table : CommandTable,
      table.greatestId? = (table.bindings.map fun binding => binding.id.toNat).max? := by
    intro table
    rw [CommandTable.greatestId?, CommandTable.bindings, List.map_map]
    rfl
  rw [hids, hids]
  exact max?_eq_of_perm (hperm.map _)

theorem CommandTable.size_eq_of_perm (hperm : other.bindings.Perm table.bindings) :
    other.size = table.size := by
  have hlength := hperm.length_eq
  simp only [CommandTable.bindings, List.length_map] at hlength
  exact hlength

theorem Registry.hydrate_eq_ok_iff_of_perm (hperm : records.Perm snapshot.handlers) :
    (∃ opened, (Registry.hydrate snapshot options resolver).result = .ok opened) ↔
      ∃ reordered,
        (Registry.hydrate { snapshot with handlers := records } options resolver).result =
          .ok reordered := by
  have hagree : (resolver.bindings records).Pairwise Binding.Agrees ↔
      (resolver.bindings snapshot.handlers).Pairwise Binding.Agrees :=
    (hperm.filterMap _).pairwise_iff Binding.Agrees.symm
  rw [Registry.hydrate_eq_ok_iff, Registry.hydrate_eq_ok_iff]
  simp only [hperm.mem_iff, hagree]

theorem Resolver.map_bindings {κ : Type} (view : Binding → κ) (source : CommandRecord → κ)
    (hview : ∀ record handle, view ⟨record.id, record.name, handle⟩ = source record)
    (hknown : ∀ record ∈ records, ∃ handle, resolver record.requestType = some handle) :
    (resolver.bindings records).map view = records.map source := by
  induction records with
  | nil => rfl
  | cons record rest ih =>
      obtain ⟨⟨handle, hhandle⟩, hrest⟩ := List.forall_mem_cons.1 hknown
      rw [Resolver.bindings_cons hhandle, List.map_cons, List.map_cons, hview, ih hrest]

/-- Records that could be read and have distinct names have distinct ids as well. -/
theorem Registry.ids_nodup_of_hydrate
    (hnames : (snapshot.handlers.map CommandRecord.name).Nodup)
    (hopened : (Registry.hydrate snapshot options resolver).result = .ok opened) :
    (snapshot.handlers.map CommandRecord.id).Nodup := by
  obtain ⟨-, hknown, hagree⟩ := Registry.hydrate_eq_ok_iff.1 ⟨opened, hopened⟩
  rw [← Resolver.map_bindings Binding.name CommandRecord.name (fun _ _ => rfl) hknown] at hnames
  rw [← Resolver.map_bindings Binding.id CommandRecord.id (fun _ _ => rfl) hknown]
  refine List.pairwise_map.2 ((hagree.and (List.pairwise_map.1 hnames)).imp ?_)
  rintro first second ⟨hagrees, hname⟩ hid
  exact hname (hagrees (.inl hid)).name

/-- Of records with distinct names each has become a command, with the handle of its
request type. -/
theorem Registry.mem_handlers_of_hydrate
    (hnames : (snapshot.handlers.map CommandRecord.name).Nodup)
    (hopened : (Registry.hydrate snapshot options resolver).result = .ok opened)
    (command : LiveCommand) :
    command ∈ opened.table.handlers ↔ command.record ∈ snapshot.handlers ∧
      resolver command.record.requestType = some command.handle := by
  have hids := Registry.ids_nodup_of_hydrate hnames hopened
  obtain ⟨commands, hrecords, hhandles, rfl⟩ :=
    Registry.hydrate_of_distinct hnames hids hopened
  rw [Registry.handlers_foldl_append, ← hrecords]
  change command ∈ commands ↔ _
  constructor
  · intro hmem
    exact ⟨List.mem_map_of_mem hmem, hhandles command hmem⟩
  · rintro ⟨hmem, hhandle⟩
    obtain ⟨record, handle⟩ := command
    obtain ⟨⟨_, found⟩, hcommand, rfl⟩ := List.mem_map.1 hmem
    obtain rfl : found = handle := Option.some.inj ((hhandles _ hcommand).symm.trans hhandle)
    exact hcommand

/-- The order of the records in a snapshot is no part of the protocol.  Either both orders
can be read or neither can; and then the two registries are in the same state but for the
order of their commands, and write and read the same messages.  Where no name has two
records, every name and every id leads to the same command. -/
theorem Registry.record_order_free (hcoherent : resolver.Coherent) (snapshot : Snapshot)
    (hperm : records.Perm snapshot.handlers) (options : RegistryOptions) :
    ((∃ opened, (Registry.hydrate snapshot options resolver).result = .ok opened) ↔
      ∃ reordered,
        (Registry.hydrate { snapshot with handlers := records } options resolver).result =
          .ok reordered) ∧
    ∀ opened reordered : Registry,
      (Registry.hydrate snapshot options resolver).result = .ok opened →
      (Registry.hydrate { snapshot with handlers := records } options resolver).result =
        .ok reordered →
      reordered.version = opened.version ∧ reordered.offset = opened.offset ∧
      reordered.nextId = opened.nextId ∧ reordered.size = opened.size ∧
      (∀ name value,
        reordered.compile.encode name value = opened.compile.encode name value) ∧
      (∀ bytes, reordered.compile.decode bytes = opened.compile.decode bytes) ∧
      ((snapshot.handlers.map CommandRecord.name).Nodup →
        (∀ name, reordered.compile.get? name = opened.compile.get? name) ∧
        ∀ id, reordered.compile.getById? id = opened.compile.getById? id) := by
  constructor
  · exact Registry.hydrate_eq_ok_iff_of_perm hperm
  · intro opened reordered hopened hreordered
    have hreach : opened.Reachable {resolver} :=
      .hydrated (Set.mem_singleton resolver) hopened (.refl opened)
    have hother : reordered.Reachable {resolver} :=
      .hydrated (Set.mem_singleton resolver) hreordered (.refl reordered)
    have hfirst := hreach.sound.consistent
    have hlast := hother.sound.consistent
    have hbindings : ∀ binding,
        binding ∈ reordered.table.bindings ↔ binding ∈ opened.table.bindings := by
      intro binding
      rw [Registry.mem_bindings_hydrate hcoherent hopened,
        Registry.mem_bindings_hydrate hcoherent hreordered]
      exact (hperm.filterMap _).mem_iff
    have hshuffled := hfirst.bindings_perm hlast hbindings
    obtain ⟨hversion, hoffset, -⟩ := Registry.hydrate_same hopened
    obtain ⟨hlastVersion, hlastOffset, -⟩ := Registry.hydrate_same hreordered
    have hsameOffset : reordered.offset = opened.offset := hlastOffset.trans hoffset.symm
    have hnextId := hreach.cursorLaw.nextId_eq hother.cursorLaw
      (CommandTable.greatestId?_eq_of_perm hshuffled) hsameOffset
    refine ⟨hlastVersion.trans hversion.symm, hsameOffset, hnextId,
      CommandTable.size_eq_of_perm hshuffled,
      hfirst.encode_eq hlast hshuffled.symm.subset hshuffled.subset,
      hfirst.decode_eq hlast hshuffled.symm.subset hshuffled.subset, ?_⟩
    intro hnames
    have hlastNames : (records.map CommandRecord.name).Nodup :=
      (hperm.map CommandRecord.name).nodup_iff.2 hnames
    have hcommands : ∀ command,
        command ∈ reordered.table.handlers ↔ command ∈ opened.table.handlers := by
      intro command
      rw [Registry.mem_handlers_of_hydrate hnames hopened,
        Registry.mem_handlers_of_hydrate hlastNames hreordered, hperm.mem_iff]
    constructor
    · intro name
      apply Option.ext
      intro command
      simp only [Registry.compile, hlast.get?_eq_some_iff, hfirst.get?_eq_some_iff, hcommands]
    · intro id
      apply Option.ext
      intro command
      simp only [Registry.compile, hlast.getById?_eq_some_iff, hfirst.getById?_eq_some_iff,
        hcommands]

/-- A resolver with two names for one request type. -/
def sampleAliases : Resolver := fun name =>
  sampleSchema.resolver (if name = "@a/alias" then "@a/request" else name)

theorem sampleAliases_coherent : sampleAliases.Coherent :=
  fun _ _ => sampleSchema.resolver_coherent _ _

/-- One command under two names of its request type, and another one. -/
def sampleMerged : Snapshot :=
  ⟨3, 5, [⟨2, "@a/first", "@a/request", 1⟩, ⟨9, "@a/second", "@a/alias", 1⟩,
    ⟨2, "@a/first", "@a/alias", 2⟩]⟩

theorem Registry.record_order_free_sample :
    sampleAliases.Coherent ∧ sampleMerged.handlers.reverse.Perm sampleMerged.handlers ∧
      ∃ opened reordered,
        (Registry.hydrate sampleMerged {} sampleAliases).result = .ok opened ∧
        (Registry.hydrate { sampleMerged with handlers := sampleMerged.handlers.reverse } {}
          sampleAliases).result = .ok reordered ∧
        opened.table.handlers.map (fun command => command.record.version) = [2, 1] ∧
        reordered.table.handlers.map (fun command => command.record.version) = [1, 1] ∧
        reordered.nextId = opened.nextId ∧
        reordered.compile.decode [2, 1, 0, 7] = opened.compile.decode [2, 1, 0, 7] := by
  have hperm := sampleMerged.handlers.reverse_perm
  obtain ⟨hreads, hsame⟩ := Registry.record_order_free sampleAliases_coherent sampleMerged hperm {}
  have hopened : (Registry.hydrate sampleMerged {} sampleAliases).result =
      .ok ((Registry.forSnapshot sampleMerged sampleAliases).restoreAll
        sampleMerged.handlers).after := rfl
  obtain ⟨reordered, hreordered⟩ := hreads.1 ⟨_, hopened⟩
  obtain ⟨-, -, hnextId, -, -, hdecode, -⟩ := hsame _ reordered hopened hreordered
  refine ⟨sampleAliases_coherent, hperm, _, reordered, hopened, hreordered, rfl, ?_, hnextId,
    hdecode [2, 1, 0, 7]⟩
  rw [(Registry.replay_of_hydrate hreordered).2]
  rfl

end CommandRegistry
