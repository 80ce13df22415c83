/-
How ids are assigned.  The search for a free id begins at the offset or after the
greatest id, whichever is more, as far as the word has room; so its first try is
free, unless the greatest word itself is taken.
-/
import CommandRegistry.Proofs.History

namespace CommandRegistry

variable {answers : Set Resolver} {registry : Registry}

/-- The greatest id among the commands of a table. -/
def CommandTable.greatestId? (table : CommandTable) : Option Nat :=
  (table.handlers.map fun command => command.id.toNat).max?

/-- The least number that is neither below the offset nor taken, nor before a
taken one. -/
def Registry.firstUnused (registry : Registry) : Nat :=
  match registry.table.greatestId? with
  | none => registry.offset.toNat
  | some greatest => max registry.offset.toNat (greatest + 1)

/-- The cursor is the offset of an empty registry, and of any other the number after
the greatest id unless the offset is more.  The greatest word stands for itself and
for the number after it. -/
def Registry.CursorLaw (registry : Registry) : Prop :=
  registry.nextId.toNat =
    match registry.table.greatestId? with
    | none => registry.offset.toNat
    | some greatest =>
        max registry.offset.toNat (min (greatest + 1) (UInt64.size - 1))

theorem toNat_successorId (id : UInt64) :
    (successorId id).toNat = min (id.toNat + 1) (UInt64.size - 1) := by
  have hlt := id.toNat_lt_size
  unfold successorId
  split
  · rename_i hroom
    rw [UInt64.toNat_add, UInt64.toNat_one]
    simp only [UInt64.size] at hroom ⊢
    omega
  · rename_i hfull
    simp only [UInt64.size] at hlt hfull ⊢
    omega

theorem Registry.toNat_nextId_append (registry : Registry) (command : LiveCommand) :
    (registry.append command).nextId.toNat =
      max registry.nextId.toNat (min (command.id.toNat + 1) (UInt64.size - 1)) := by
  rw [← toNat_successorId]
  change (if registry.nextId ≤ successorId command.id then successorId command.id
    else registry.nextId).toNat = _
  split
  · rename_i hle
    rw [UInt64.le_iff_toNat_le] at hle
    omega
  · rename_i hle
    rw [UInt64.le_iff_toNat_le] at hle
    omega

theorem max?_concat (numbers : List Nat) (last : Nat) :
    (numbers ++ [last]).max? =
      some (match numbers.max? with
        | none => last
        | some greatest => max greatest last) := by
  cases numbers with
  | nil => rfl
  | cons head tail =>
      simp only [List.cons_append, List.max?_cons', List.foldl_append, List.foldl_cons,
        List.foldl_nil]

theorem CommandTable.greatestId?_push (table : CommandTable) (command : LiveCommand) :
    (table.push command).greatestId? =
      some (match table.greatestId? with
        | none => command.id.toNat
        | some greatest => max greatest command.id.toNat) := by
  rw [CommandTable.greatestId?, CommandTable.push, List.map_append]
  exact max?_concat _ _

private theorem max_min_succ (start greatest id bound : Nat) :
    max (max start (min (greatest + 1) bound)) (min (id + 1) bound) =
      max start (min (max greatest id + 1) bound) := by
  omega

theorem Registry.Move.cursorLaw {next : Registry} (hmove : registry.Move answers next)
    (hlaw : registry.CursorLaw) : next.CursorLaw := by
  cases hmove with
  | revise position version =>
      have hsame : (registry.table.setVersion position version).greatestId? =
          registry.table.greatestId? :=
        congrArg List.max?
          (CommandTable.map_handlers_setVersion (fun _ _ => rfl) registry.table position version)
      simpa only [Registry.CursorLaw, hsame] using hlaw
  | @add opened command resolver hopened =>
      obtain ⟨htable, -, hoffset, hnextId⟩ := Registry.same_of_opened hopened
      have hgreatest : (opened.append command).table.greatestId? =
          some (match registry.table.greatestId? with
            | none => command.id.toNat
            | some greatest => max greatest command.id.toNat) := by
        rw [← htable]
        exact CommandTable.greatestId?_push opened.table command
      have happended : (opened.append command).offset = registry.offset := hoffset
      unfold Registry.CursorLaw at hlaw ⊢
      rw [Registry.toNat_nextId_append, hgreatest, happended, hnextId, hlaw]
      cases registry.table.greatestId? with
      | none => dsimp only
      | some greatest => exact max_min_succ _ _ _ _
  | consult => exact hlaw
  | start => exact hlaw

theorem Registry.cursorLaw_of_empty (hempty : registry.table = .empty)
    (hnextId : registry.nextId = registry.offset) : registry.CursorLaw := by
  have hnone : CommandTable.empty.greatestId? = none := rfl
  rw [Registry.CursorLaw, hempty, hnone, hnextId]

theorem Registry.Reachable.cursorLaw (hreach : registry.Reachable answers) :
    registry.CursorLaw := by
  refine (hreach.induction (P := Registry.CursorLaw) ?_ ?_ ?_).2
  · intro options
    exact Registry.cursorLaw_of_empty rfl rfl
  · intro snapshot resolver
    exact Registry.cursorLaw_of_empty rfl rfl
  · intro before after _ hlaw hmove
    exact hmove.cursorLaw hlaw

/-- The cursor follows from the offset and the greatest id. -/
theorem Registry.CursorLaw.nextId_eq {other : Registry} (hlaw : registry.CursorLaw)
    (hother : other.CursorLaw)
    (hgreatest : other.table.greatestId? = registry.table.greatestId?)
    (hoffset : other.offset = registry.offset) : other.nextId = registry.nextId := by
  unfold Registry.CursorLaw at hlaw hother
  rw [hgreatest, hoffset] at hother
  exact UInt64.toNat_inj.1 (hother.trans hlaw.symm)

theorem CommandTable.Consistent.containsId_iff {table : CommandTable}
    (hconsistent : table.Consistent) (id : UInt64) :
    table.containsId id = true ↔ ∃ command ∈ table.handlers, command.id = id := by
  rw [hconsistent.containsId_eq_any, List.any_eq_true]
  simp only [decide_eq_true_eq]

theorem CommandTable.le_greatestId {table : CommandTable} {command : LiveCommand}
    (hmem : command ∈ table.handlers) :
    ∃ greatest, table.greatestId? = some greatest ∧ command.id.toNat ≤ greatest := by
  have hid : command.id.toNat ∈ table.handlers.map fun command => command.id.toNat :=
    List.mem_map_of_mem hmem
  cases hgreatest : table.greatestId? with
  | none =>
      rw [List.max?_eq_none_iff.1 hgreatest] at hid
      cases hid
  | some greatest => exact ⟨greatest, rfl, (List.max?_eq_some_iff.1 hgreatest).2 _ hid⟩

theorem CommandTable.exists_greatestId {table : CommandTable} {greatest : Nat}
    (hgreatest : table.greatestId? = some greatest) :
    ∃ command ∈ table.handlers, command.id.toNat = greatest :=
  List.mem_map.1 (List.max?_eq_some_iff.1 hgreatest).1

/-- While the greatest word is free the cursor is the first unused id. -/
theorem Registry.CursorLaw.toNat_nextId (hlaw : registry.CursorLaw)
    (hroom : ∀ command ∈ registry.table.handlers, command.id.toNat ≠ UInt64.size - 1) :
    registry.nextId.toNat = registry.firstUnused := by
  cases hgreatest : registry.table.greatestId? with
  | none => simpa only [Registry.CursorLaw, Registry.firstUnused, hgreatest] using hlaw
  | some greatest =>
      simp only [Registry.CursorLaw, Registry.firstUnused, hgreatest] at hlaw ⊢
      obtain ⟨command, hmem, hid⟩ := CommandTable.exists_greatestId hgreatest
      have hne := hroom command hmem
      have hlt := command.id.toNat_lt_size
      omega

theorem Registry.lt_firstUnused {command : LiveCommand}
    (hmem : command ∈ registry.table.handlers) :
    command.id.toNat < registry.firstUnused := by
  obtain ⟨greatest, hgreatest, hle⟩ := CommandTable.le_greatestId hmem
  simp only [Registry.firstUnused, hgreatest]
  omega

theorem Registry.offset_le_firstUnused (registry : Registry) :
    registry.offset.toNat ≤ registry.firstUnused := by
  unfold Registry.firstUnused
  split
  · exact Nat.le_refl _
  · exact Nat.le_max_left _ _

theorem Registry.nextFreeId_eq_nextId (hconsistent : registry.table.Consistent)
    (hlaw : registry.CursorLaw)
    (hroom : ∀ command ∈ registry.table.handlers, command.id.toNat ≠ UInt64.size - 1) :
    registry.nextFreeId = .ok registry.nextId := by
  have hfree : registry.table.containsId registry.nextId = false := by
    rw [← Bool.not_eq_true, hconsistent.containsId_iff]
    rintro ⟨command, hmem, hid⟩
    have hlt := Registry.lt_firstUnused hmem
    rw [hid, hlaw.toNat_nextId hroom] at hlt
    exact Nat.lt_irrefl _ hlt
  simp only [Registry.nextFreeId, CommandTable.freeIdFrom, hfree, Bool.false_eq_true,
    ↓reduceIte]

/-- With the greatest word taken the cursor stands on it, and nothing is after it. -/
theorem Registry.nextFreeId_eq_error (hconsistent : registry.table.Consistent)
    (hlaw : registry.CursorLaw)
    (hfull : ∃ command ∈ registry.table.handlers, command.id.toNat = UInt64.size - 1) :
    registry.nextFreeId = .error .idSpaceExhausted := by
  obtain ⟨command, hmem, hid⟩ := hfull
  have hlast : registry.nextId.toNat = UInt64.size - 1 := by
    obtain ⟨greatest, hgreatest, hle⟩ := CommandTable.le_greatestId hmem
    simp only [Registry.CursorLaw, hgreatest] at hlaw
    have hoffset := registry.offset.toNat_lt_size
    omega
  have htaken : registry.table.containsId registry.nextId = true :=
    (hconsistent.containsId_iff _).2 ⟨command, hmem, UInt64.toNat_inj.1 (hid.trans hlast.symm)⟩
  have hstop : ¬ registry.nextId.toNat + 1 < UInt64.size := by
    have hsize : 0 < UInt64.size := by decide
    omega
  simp only [Registry.nextFreeId, CommandTable.freeIdFrom, htaken, hstop, ↓reduceIte]

/-- A registration of a new name without an id comes to what the search does. -/
theorem Registry.register_of_new {resolver : Resolver} {handle : TypeHandle} {name : String}
    {spec : CommandSpec} (hresolver : registry.resolver = some resolver)
    (hhandle : resolver spec.requestType = some handle)
    (hname : registry.table.byName.find? name = none) (hid : spec.id = none) :
    (registry.register name spec).result = registry.nextFreeId := by
  have hpassed := Registry.assess_of_new hresolver hhandle hname (by simp [hid])
  rw [hid] at hpassed
  unfold Registry.register
  rw [hpassed]
  cases registry.nextFreeId with
  | error error => rfl
  | ok id => rfl

/-- The cursor is known at every moment, and an assigned id is the first unused one:
not below the offset, and above every id that the registry has ever had.  Only when
the greatest word is taken is there none. -/
theorem Registry.Reachable.id_allocation (hreach : registry.Reachable answers) :
    registry.CursorLaw ∧
    ∀ (name : String) (spec : CommandSpec) (resolver : Resolver) (handle : TypeHandle),
      registry.get? name = none → spec.id = none → registry.resolver = some resolver →
      resolver spec.requestType = some handle →
      ((registry.register name spec).result = .error .idSpaceExhausted ↔
        ∃ command ∈ registry.table.handlers, command.id.toNat = UInt64.size - 1) ∧
      ((∀ command ∈ registry.table.handlers, command.id.toNat ≠ UInt64.size - 1) →
        ∃ id, (registry.register name spec).result = .ok id ∧
          id.toNat = registry.firstUnused ∧ registry.offset ≤ id ∧
          ∀ earlier : Registry, earlier.Reachable answers → earlier.Evolves answers registry →
            ∀ command ∈ earlier.table.handlers, command.id < id) := by
  have hconsistent := hreach.sound.consistent
  have hlaw := hreach.cursorLaw
  refine ⟨hlaw, ?_⟩
  intro name spec resolver handle hget hid hresolver hhandle
  have hname := hconsistent.find?_of_get?_eq_none hget
  rw [Registry.register_of_new hresolver hhandle hname hid]
  refine ⟨⟨?_, Registry.nextFreeId_eq_error hconsistent hlaw⟩, ?_⟩
  · intro herror
    by_contra hroom
    push Not at hroom
    rw [Registry.nextFreeId_eq_nextId hconsistent hlaw hroom] at herror
    contradiction
  · intro hroom
    have hfirst := hlaw.toNat_nextId hroom
    refine ⟨registry.nextId, Registry.nextFreeId_eq_nextId hconsistent hlaw hroom, hfirst, ?_, ?_⟩
    · rw [UInt64.le_iff_toNat_le, hfirst]
      exact registry.offset_le_firstUnused
    · intro earlier hearlier hevolves command hmem
      obtain ⟨kept, hkept, hidentity⟩ := (hevolves.keptBy hearlier.sound).exists_mem hmem
      have hsame : kept.id = command.id := congrArg CommandIdentity.id hidentity
      rw [UInt64.lt_iff_toNat_lt, hfirst, ← hsame]
      exact Registry.lt_firstUnused hkept

/-- The sample with the greatest word taken by a pinned id. -/
def Registry.sampleFull : Registry :=
  (Registry.sample.register "@a/last" ⟨"@a/request", some 0xFFFFFFFFFFFFFFFF, none⟩).after

theorem Registry.sampleFull_reachable :
    Registry.sampleFull.Reachable {sampleSchema.resolver} :=
  Registry.sample_reachable.evolves (.register (.refl _) "@a/last" _)

/-- The sample, whose ids are 2 and 5, assigns 6; with the greatest word taken it
assigns nothing. -/
theorem Registry.id_allocation_sample :
    Registry.sample.Reachable {sampleSchema.resolver} ∧
      Registry.sampleFull.Reachable {sampleSchema.resolver} ∧
      (∃ id : UInt64, (Registry.sample.register "@a/third" ⟨"@a/request", none, none⟩).result =
        .ok id ∧ id.toNat = 6) ∧
      (Registry.sampleFull.register "@a/third" ⟨"@a/request", none, none⟩).result =
        .error .idSpaceExhausted := by
  have hroom := Registry.sample_reachable.id_allocation.2 "@a/third" ⟨"@a/request", none, none⟩
    sampleSchema.resolver _ rfl rfl rfl rfl
  have hfull := Registry.sampleFull_reachable.id_allocation.2 "@a/third"
    ⟨"@a/request", none, none⟩ sampleSchema.resolver _ rfl rfl rfl rfl
  refine ⟨Registry.sample_reachable, Registry.sampleFull_reachable, ?_, ?_⟩
  · obtain ⟨id, hid, hfirst, -⟩ := hroom.2 (by decide)
    exact ⟨id, hid, hfirst⟩
  · exact hfull.1.2 (by decide)

end CommandRegistry
