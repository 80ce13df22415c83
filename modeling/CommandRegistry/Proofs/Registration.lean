/-
What a registration that passes its checks may rest on.  A request either meets
a command that the table knows under its name, or brings in one whose name and
id are new to both indexes and whose type was resolved.
-/
import CommandRegistry.Proofs.TableConsistency
import CommandRegistry.Registry

namespace CommandRegistry

variable {registry opened : Registry} {name : String} {spec : CommandSpec}

theorem CommandTable.locate?_eq_some_iff {table : CommandTable} {position : Nat}
    {command : LiveCommand} :
    table.locate? name = some (position, command) ↔
      table.byName.find? name = some position ∧ table.handlers[position]? = some command := by
  simp only [CommandTable.locate?, Option.bind_eq_some_iff, Option.map_eq_some_iff,
    Prod.mk.injEq]
  constructor
  · rintro ⟨found, hfound, other, hother, rfl, rfl⟩
    exact ⟨hfound, hother⟩
  · rintro ⟨hfound, hcommand⟩
    exact ⟨position, hfound, command, hcommand, rfl, rfl⟩

theorem CommandTable.get?_of_locate? {table : CommandTable} {position : Nat}
    {command : LiveCommand} (hlocate : table.locate? name = some (position, command)) :
    table.get? name = some command := by
  obtain ⟨hfound, hcommand⟩ := CommandTable.locate?_eq_some_iff.1 hlocate
  rw [CommandTable.get?, hfound, Option.bind_some, hcommand]

theorem CommandTable.locate?_of_new {table : CommandTable}
    (hname : table.byName.find? name = none) : table.locate? name = none := by
  rw [CommandTable.locate?, hname, Option.bind_none]

/-- A position in the index by name always leads to a command. -/
theorem CommandTable.Consistent.find?_of_locate?_eq_none {table : CommandTable}
    (hconsistent : table.Consistent) (hlocate : table.locate? name = none) :
    table.byName.find? name = none := by
  rw [Option.eq_none_iff_forall_ne_some]
  intro position hfound
  have hkey := (hconsistent.byName.find?_iff name position).1 hfound
  rw [List.getElem?_map, Option.map_eq_some_iff] at hkey
  obtain ⟨command, hcommand, -⟩ := hkey
  rw [CommandTable.locate?_eq_some_iff.2 ⟨hfound, hcommand⟩] at hlocate
  contradiction

theorem CommandTable.freeIdFrom_free {table : CommandTable} {left : Nat} {start id : UInt64}
    (hfree : table.freeIdFrom left start = some id) : table.byId.find? id = none := by
  induction left generalizing start with
  | zero => contradiction
  | succ left ih =>
      rw [CommandTable.freeIdFrom] at hfree
      split at hfree
      · split at hfree
        · exact ih hfree
        · contradiction
      · rename_i hfound
        rw [Option.some.injEq] at hfree
        subst hfree
        simpa [CommandTable.containsId, Index.contains] using hfound

theorem Registry.nextFreeId_free {id : UInt64} (hnext : registry.nextFreeId = .ok id) :
    registry.table.byId.find? id = none := by
  rw [Registry.nextFreeId] at hnext
  split at hnext
  · rename_i found hfree
    rw [Except.ok.injEq] at hnext
    exact hnext ▸ CommandTable.freeIdFrom_free hfree
  · contradiction

/-- For a new name an id that is asked for has to be new as well. -/
theorem Registry.checkId_of_new {id : UInt64}
    (hname : registry.table.byName.find? name = none)
    (hcheck : registry.checkId name (some id) = .ok ()) :
    registry.table.byId.find? id = none := by
  simp only [Registry.checkId, Registry.checkOwner] at hcheck
  cases howner : registry.table.byId.find? id with
  | none => rfl
  | some owner => simp [howner, hname] at hcheck

theorem Registry.checkId_eq_ok_of_new {requested : Option UInt64}
    (hname : registry.table.byName.find? name = none)
    (hid : ∀ id, requested = some id → registry.table.byId.find? id = none) :
    registry.checkId name requested = .ok () := by
  cases requested with
  | none => rfl
  | some id =>
      simp only [Registry.checkId, Registry.checkOwner, Registry.checkAssigned, hid id rfl,
        CommandTable.locate?_of_new hname]

/-- A registration that may be carried out: of a known command, or of a new one
under an id that nobody has. -/
inductive Registry.Admits (registry : Registry) (name : String) (spec : CommandSpec) :
    Admission → Prop
  | known {position : Nat} {command : LiveCommand}
      (hlocate : registry.table.locate? name = some (position, command)) :
      Admits registry name spec (.known position command)
  | added {id : UInt64} {handle : TypeHandle} {resolver : Resolver}
      (hresolver : registry.resolver = some resolver)
      (hhandle : resolver spec.requestType = some handle)
      (hnew : registry.table.Lacks name id) :
      Admits registry name spec (.added id handle)

theorem Registry.admits_of_resolved (hconsistent : registry.table.Consistent)
    {resolver : Resolver} {handle : TypeHandle} {admission : Admission}
    (hresolver : registry.resolver = some resolver)
    (hhandle : resolver spec.requestType = some handle)
    (hcheck : registry.checkId name spec.id = .ok ())
    (hpassed : registry.assessResolved name spec handle = .ok admission) :
    registry.Admits name spec admission := by
  unfold Registry.assessResolved at hpassed
  cases hlocate : registry.table.locate? name with
  | some found =>
      simp only [hlocate] at hpassed
      split at hpassed
      · rw [Except.ok.injEq] at hpassed
        exact hpassed ▸ .known hlocate
      · contradiction
  | none =>
      have hname := hconsistent.find?_of_locate?_eq_none hlocate
      cases hid : spec.id with
      | some id =>
          simp only [hlocate, hid, Except.ok.injEq] at hpassed hcheck
          exact hpassed ▸ .added hresolver hhandle ⟨hname, Registry.checkId_of_new hname hcheck⟩
      | none =>
          cases hnext : registry.nextFreeId with
          | error error => simp [hlocate, hid, hnext, Except.map] at hpassed
          | ok id =>
              simp only [hlocate, hid, hnext, Except.map, Except.ok.injEq] at hpassed
              exact hpassed ▸ .added hresolver hhandle ⟨hname, Registry.nextFreeId_free hnext⟩

theorem Registry.admits_of_eq_ok (hconsistent : registry.table.Consistent)
    {admission : Admission} (hpassed : registry.assess name spec = .ok admission) :
    registry.Admits name spec admission := by
  unfold Registry.assess at hpassed
  cases hresolver : registry.resolver with
  | none => simp [hresolver] at hpassed
  | some resolver =>
      cases hcheck : registry.checkId name spec.id with
      | error error => simp [hresolver, hcheck] at hpassed
      | ok =>
          cases hhandle : resolver spec.requestType with
          | none => simp [hresolver, hcheck, Resolver.resolveFor, hhandle] at hpassed
          | some handle =>
              simp only [hresolver, hcheck, Resolver.resolveFor, hhandle] at hpassed
              exact Registry.admits_of_resolved hconsistent hresolver hhandle hcheck hpassed

/-- Without an id of its own a request has only its type to check. -/
theorem Registry.assess_of_unpinned {resolver : Resolver} {handle : TypeHandle}
    (hresolver : registry.resolver = some resolver)
    (hhandle : resolver spec.requestType = some handle) (hid : spec.id = none) :
    registry.assess name spec = registry.assessResolved name spec handle := by
  simp only [Registry.assess, hresolver, hid, Registry.checkId, Resolver.resolveFor, hhandle]

/-- For a name and an id that are new only the type and the choice of an id are
left to check. -/
theorem Registry.assess_of_new {resolver : Resolver} {handle : TypeHandle}
    (hresolver : registry.resolver = some resolver)
    (hhandle : resolver spec.requestType = some handle)
    (hname : registry.table.byName.find? name = none)
    (hid : ∀ id, spec.id = some id → registry.table.byId.find? id = none) :
    registry.assess name spec =
      match spec.id with
      | some id => .ok (.added id handle)
      | none => registry.nextFreeId.map fun id => .added id handle := by
  have hchecked := Registry.checkId_eq_ok_of_new hname hid
  have hlocate := CommandTable.locate?_of_new hname
  have hpassed : registry.assess name spec = registry.assessResolved name spec handle := by
    simp only [Registry.assess, hresolver, hchecked, Resolver.resolveFor, hhandle]
  rw [hpassed]
  cases hspec : spec.id with
  | some id => simp only [Registry.assessResolved, hlocate, hspec]
  | none => simp only [Registry.assessResolved, hlocate, hspec]

theorem Registry.checkId_of_assess {admission : Admission}
    (hpassed : registry.assess name spec = .ok admission) :
    registry.checkId name spec.id = .ok () := by
  unfold Registry.assess at hpassed
  split at hpassed
  · contradiction
  · split at hpassed
    · contradiction
    · assumption

theorem Registry.checkId_of_known (hconsistent : registry.table.Consistent) {position : Nat}
    {command : LiveCommand} (hlocate : registry.table.locate? name = some (position, command))
    (id : UInt64) : registry.checkId name (some id) = .ok () ↔ command.id = id := by
  obtain ⟨hfound, hcommand⟩ := CommandTable.locate?_eq_some_iff.1 hlocate
  have hplace : registry.table.byId.find? id = some position ↔ command.id = id := by
    rw [hconsistent.byId.find?_iff, List.getElem?_map, hcommand, Option.map_some,
      Option.some.injEq]
  simp only [Registry.checkId, Registry.checkOwner, Registry.checkAssigned, hlocate, hfound]
  by_cases hid : command.id = id
  · simp only [hplace.2 hid, hid, if_true]
  · refine iff_of_false ?_ hid
    cases howner : registry.table.byId.find? id with
    | none => simp [hid]
    | some owner =>
        have hother : position ≠ owner := by
          rintro rfl
          exact hid (hplace.1 howner)
        simp [hother]

/-- A known command is admitted under the id and the type that it has, and no others. -/
theorem Registry.assess_of_known (hconsistent : registry.table.Consistent) {position : Nat}
    {command : LiveCommand} {resolver : Resolver} {handle : TypeHandle} {id : UInt64}
    {admission : Admission} (hresolver : registry.resolver = some resolver)
    (hhandle : resolver spec.requestType = some handle)
    (hlocate : registry.table.locate? name = some (position, command))
    (hid : spec.id = some id) :
    registry.assess name spec = .ok admission ↔
      command.id = id ∧ command.handle.same handle = true ∧
        admission = .known position command := by
  have hchecked := Registry.checkId_of_known hconsistent hlocate id
  simp only [hresolver, Registry.assess, hid, Resolver.resolveFor, hhandle]
  cases hcheck : registry.checkId name (some id) with
  | error error =>
      have hother : command.id ≠ id := by
        rw [ne_eq, ← hchecked, hcheck]
        simp
      simp [hother]
  | ok =>
      simp only [Registry.assessResolved, hlocate, hchecked.1 hcheck, true_and]
      by_cases hsame : command.handle.same handle = true
      · rw [if_pos hsame, Except.ok.injEq, eq_comm, and_iff_right hsame]
      · rw [if_neg hsame]
        simp only [reduceCtorEq, hsame, false_and]

end CommandRegistry
