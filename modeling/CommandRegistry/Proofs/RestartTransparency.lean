/-
Restarts.  A registry that is read from its own snapshot is the working copy of the
registry that it was taken of, field by field.  Its table is built of its commands
alone, its cursor follows from their ids, and its handles are the resolver's answers,
which are the same as ever if the resolver has not changed them.
-/
import CommandRegistry.Proofs.AppendOnly
import CommandRegistry.Proofs.IdAllocation
import CommandRegistry.Proofs.Replay

namespace CommandRegistry

variable {answers : Set Resolver} {drifts : Resolver → Resolver → Prop} {depth : Nat}
  {first registry next last : Registry} {log entries : List Registration}
  {resolver : Resolver}

/-- Every command has the handle that the attached resolver has given for its request
type, at that time perhaps as one that has drifted since. -/
def Registry.Resolved (drifts : Resolver → Resolver → Prop) (registry : Registry) : Prop :=
  ∀ command ∈ registry.table.handlers, ∃ asked resolver,
    registry.resolver = some resolver ∧ Relation.ReflTransGen drifts asked resolver ∧
      asked command.record.requestType = some command.handle

theorem Registry.resolved_of_empty (hempty : registry.table.handlers = []) :
    registry.Resolved drifts := by
  intro command hmem
  rw [hempty] at hmem
  cases hmem

theorem Registry.Effect.resolved (heffect : registry.Effect drifts entries next)
    (hconsistent : registry.table.Consistent) (hresolved : registry.Resolved drifts) :
    next.Resolved drifts := by
  cases heffect with
  | none => exact hresolved
  | @known name spec position command hlocate =>
      intro other hmem
      rw [Registry.handlers_keep hconsistent hlocate spec false, List.mem_map] at hmem
      obtain ⟨old, hold, rfl⟩ := hmem
      obtain ⟨-, -, -, hsame⟩ := registry.keep_same position spec.version
      simp only [hsame]
      exact hresolved old hold
  | @added name spec id handle resolver hresolver hhandle hnew =>
      have hopened : registry.bump = registry ∨ registry.bump = registry.bump := .inr rfl
      have hsame : registry.bump.resolver = registry.resolver :=
        (Registry.same_of_opened hopened).2.1
      intro other hmem
      rw [Registry.handlers_append_opened hopened, List.mem_append, List.mem_singleton] at hmem
      rcases hmem with hmem | rfl
      · obtain ⟨asked, current, hcurrent, hdrifted, hanswer⟩ := hresolved other hmem
        exact ⟨asked, current, hsame.trans hcurrent, hdrifted, hanswer⟩
      · exact ⟨resolver, resolver, hsame.trans hresolver, .refl, hhandle⟩
  | attached hdetached =>
      intro command hmem
      obtain ⟨-, current, hcurrent, -, -⟩ := hresolved command hmem
      rw [hdetached] at hcurrent
      contradiction
  | @drifted old new hattached hdrifts =>
      intro command hmem
      obtain ⟨asked, current, hcurrent, hdrifted, hanswer⟩ := hresolved command hmem
      rw [hattached, Option.some.injEq] at hcurrent
      subst hcurrent
      exact ⟨asked, new, rfl, hdrifted.tail hdrifts, hanswer⟩

theorem Registry.Chronicle.resolved (hchronicle : first.Chronicle drifts depth log last)
    (hconsistent : first.table.Consistent) (hresolved : first.Resolved drifts) :
    last.Resolved drifts := by
  refine hchronicle.induction (P := fun first _ last =>
    first.Resolved drifts → last.Resolved drifts) hconsistent (fun _ => id) ?_
    (fun hcurrent heffect => heffect.resolved hcurrent) id hresolved
  intro first registry last log entries hbefore hafter hfirst
  exact hafter (hbefore hfirst)

/-- Where only one resolver answers, it stays the attached one. -/
theorem Registry.Move.resolver_eq (hmove : registry.Move {resolver} next)
    (hresolver : registry.resolver = some resolver) : next.resolver = some resolver := by
  cases hmove with
  | revise => exact hresolver
  | add hopened => exact (Registry.same_of_opened hopened).2.1.trans hresolver
  | consult hconsulted => exact congrArg some hconsulted
  | start => exact hresolver

theorem Registry.resolver_of_hydrate {snapshot : Snapshot} {options : RegistryOptions}
    {opened : Registry}
    (hopened : (Registry.hydrate snapshot options resolver).result = .ok opened) :
    opened.resolver = some resolver :=
  (Registry.hydrate_induction (P := fun registry => registry.resolver = some resolver)
    (Set.mem_singleton resolver) hopened rfl
    fun _ hbefore hmove => hmove.resolver_eq hbefore).2

theorem Registry.resolved_of_hydrate {snapshot : Snapshot} {options : RegistryOptions}
    {opened : Registry}
    (hopened : (Registry.hydrate snapshot options resolver).result = .ok opened) :
    opened.Resolved drifts := by
  have hsound := Registry.sound_of_hydrate (Set.mem_singleton resolver) hopened
  intro command hmem
  obtain ⟨asked, hasked, hanswer⟩ := hsound.resolved command hmem
  exact ⟨asked, resolver, Registry.resolver_of_hydrate hopened, hasked ▸ .refl, hanswer⟩

/-- Every registry in use, with all the resolvers that have been tried on it. -/
inductive Registry.Arises (drifts : Resolver → Resolver → Prop) (registry : Registry) : Prop
  | created (options : RegistryOptions) {depth : Nat} {log : List Registration}
      (hchronicle : (Registry.create options).Chronicle drifts depth log registry)
  | hydrated {snapshot : Snapshot} {options : RegistryOptions} {resolver : Resolver}
      {opened : Registry} {depth : Nat} {log : List Registration}
      (hopened : (Registry.hydrate snapshot options resolver).result = .ok opened)
      (hchronicle : opened.Chronicle drifts depth log registry)

theorem Registry.Arises.reachable (harises : registry.Arises drifts) :
    registry.Reachable Set.univ := by
  cases harises with
  | created options hchronicle => exact .created options hchronicle.evolves
  | hydrated hopened hchronicle => exact .hydrated (Set.mem_univ _) hopened hchronicle.evolves

theorem Registry.Arises.resolved (harises : registry.Arises drifts) :
    registry.Resolved drifts := by
  cases harises with
  | created options hchronicle =>
      exact hchronicle.resolved (Registry.sound_create Set.univ options).consistent
        (Registry.resolved_of_empty rfl)
  | @hydrated _ _ _ opened _ _ hopened hchronicle =>
      have hreach : opened.Reachable Set.univ := .hydrated (Set.mem_univ _) hopened (.refl opened)
      exact hchronicle.resolved hreach.sound.consistent (Registry.resolved_of_hydrate hopened)

/-- A resolver that nothing else has drifted into has given all the handles itself. -/
theorem Registry.Arises.handle_eq (harises : registry.Arises drifts)
    (hresolver : registry.resolver = some resolver)
    (hconstant : ∀ other, drifts other resolver → other = resolver) :
    ∀ command ∈ registry.table.handlers,
      resolver command.record.requestType = some command.handle := by
  intro command hmem
  obtain ⟨asked, current, hcurrent, hdrifted, hanswer⟩ := harises.resolved command hmem
  rw [hresolver, Option.some.injEq] at hcurrent
  subst hcurrent
  have hasked : asked = resolver := by
    clear hanswer
    induction hdrifted using Relation.ReflTransGen.head_induction_on with
    | refl => rfl
    | head hdrifts _ ih => exact hconstant _ (ih ▸ hdrifts)
  exact hasked ▸ hanswer

/-- The entries of an index stand in the order of the keys, the latest first. -/
def Index.Lists {κ : Type} (index : Index κ) (keys : List κ) : Prop :=
  index.entries = keys.zipIdx.reverse

theorem Index.Lists.push {κ : Type} [DecidableEq κ] {index : Index κ} {keys : List κ} {key : κ}
    (hlists : index.Lists keys) (hnew : index.find? key = none) :
    (index.insert key keys.length).Lists (keys ++ [key]) := by
  rw [Index.Lists, Index.entries_insert _ hnew, hlists, List.zipIdx_append, List.reverse_append]
  simp

structure CommandTable.Canonical (table : CommandTable) : Prop where
  byName : table.byName.Lists (table.handlers.map LiveCommand.name)
  byId : table.byId.Lists (table.handlers.map LiveCommand.id)

theorem CommandTable.canonical_empty : CommandTable.empty.Canonical :=
  ⟨rfl, rfl⟩

theorem CommandTable.Canonical.push {table : CommandTable} (hcanonical : table.Canonical)
    {command : LiveCommand} (hnew : table.Lacks command.name command.id) :
    (table.push command).Canonical := by
  have hnames := hcanonical.byName.push hnew.name
  have hids := hcanonical.byId.push hnew.id
  rw [List.length_map] at hnames hids
  constructor
  · rw [CommandTable.push, List.map_append]
    exact hnames
  · rw [CommandTable.push, List.map_append]
    exact hids

theorem CommandTable.Canonical.setVersion {table : CommandTable} (hcanonical : table.Canonical)
    (position : Nat) (version : UInt64) : (table.setVersion position version).Canonical := by
  constructor
  · rw [CommandTable.map_handlers_setVersion fun _ _ => rfl]
    exact hcanonical.byName
  · rw [CommandTable.map_handlers_setVersion fun _ _ => rfl]
    exact hcanonical.byId

theorem CommandTable.Canonical.ext {table other : CommandTable} (hcanonical : table.Canonical)
    (hother : other.Canonical) (hhandlers : table.handlers = other.handlers) :
    table = other := by
  obtain ⟨handlers, ⟨names⟩, ⟨ids⟩⟩ := table
  obtain ⟨_, ⟨otherNames⟩, ⟨otherIds⟩⟩ := other
  obtain rfl : handlers = _ := hhandlers
  obtain rfl : names = otherNames := hcanonical.byName.trans hother.byName.symm
  obtain rfl : ids = otherIds := hcanonical.byId.trans hother.byId.symm
  rfl

theorem Registry.Reachable.canonical (hreach : registry.Reachable answers) :
    registry.table.Canonical := by
  refine (hreach.induction (P := fun registry => registry.table.Canonical)
    (fun _ => CommandTable.canonical_empty) (fun _ _ => CommandTable.canonical_empty) ?_).2
  intro before after _ hcanonical hmove
  cases hmove with
  | revise position version => exact hcanonical.setVersion position version
  | add hopened _ _ hnew =>
      obtain ⟨htable, -⟩ := Registry.same_of_opened hopened
      simp only [Registry.append, htable]
      exact hcanonical.push hnew
  | consult => exact hcanonical
  | start => exact hcanonical

theorem checkOffset_eq_ok_iff {persisted : UInt64} {options : RegistryOptions} :
    checkOffset persisted options = .ok () ↔
      options.offset = none ∨ options.offset = some persisted := by
  unfold checkOffset
  cases options.offset with
  | none => simp
  | some requested => by_cases hsame : requested = persisted <;> simp [hsame]

/-- The registry that is read from a snapshot is the working copy of the one that the
snapshot was taken of. -/
theorem Registry.Reachable.hydrate_snapshot (hreach : registry.Reachable answers)
    (hresolver : registry.resolver = some resolver)
    (hhandles : ∀ command ∈ registry.table.handlers,
      resolver command.record.requestType = some command.handle)
    {options : RegistryOptions}
    (hoffset : options.offset = none ∨ options.offset = some registry.offset) :
    (Registry.hydrate registry.snapshot options resolver).result = .ok registry.working := by
  let opened := registry.table.handlers.foldl Registry.append
    (Registry.forSnapshot registry.snapshot resolver)
  obtain ⟨hreplayed, hafter⟩ :=
    Registry.restoreAll_own_snapshot hreach.sound.consistent hhandles
  have hchecked : checkOffset registry.snapshot.offset options = .ok () :=
    checkOffset_eq_ok_iff.2 hoffset
  have hopened : (Registry.hydrate registry.snapshot options resolver).result = .ok opened := by
    simp only [Registry.hydrate, hchecked, hreplayed, hafter, opened]
  have hopenedReach : opened.Reachable Set.univ :=
    .hydrated (Set.mem_univ resolver) hopened (.refl opened)
  obtain ⟨hversion, hsameOffset, hchanged, hattached⟩ :=
    Registry.foldl_append_same registry.table.handlers
      (Registry.forSnapshot registry.snapshot resolver)
  have htable : opened.table = registry.table :=
    hopenedReach.canonical.ext hreach.canonical (Registry.handlers_foldl_append _ _)
  have hnextId : opened.nextId = registry.nextId :=
    hreach.cursorLaw.nextId_eq hopenedReach.cursorLaw
      (congrArg CommandTable.greatestId? htable) hsameOffset
  have hsame : opened = registry.working :=
    calc
      opened = ⟨opened.version, opened.offset, opened.nextId, opened.changed, opened.table,
          opened.resolver⟩ := rfl
      _ = ⟨registry.version, registry.offset, registry.nextId, false, registry.table,
          some resolver⟩ := by rw [hversion, hsameOffset, hnextId, hchanged, htable, hattached]; rfl
      _ = registry.working := by rw [Registry.working, hresolver]
  rw [hopened, hsame]

/-- A pass never sees the mark that the registry has from before it. -/
theorem Registry.rebuild_working (registry : Registry) (options : RegistryOptions)
    (pass : Registry → Attempt Unit) :
    (registry.working.rebuild options pass).result = (registry.rebuild options pass).result ∧
      ∀ snapshot, (registry.rebuild options pass).result = .ok snapshot →
        (registry.working.rebuild options pass).after = (registry.rebuild options pass).after := by
  have hworking : registry.working.working = registry.working := rfl
  have hoffset : registry.working.offset = registry.offset := rfl
  unfold Registry.rebuild
  rw [hworking, hoffset]
  cases checkOffset registry.offset options with
  | error error => exact ⟨rfl, fun _ hresult => by cases hresult⟩
  | ok =>
      dsimp only
      cases (pass registry.working).result with
      | error error => exact ⟨rfl, fun _ hresult => by cases hresult⟩
      | ok => exact ⟨rfl, fun _ _ => rfl⟩

/-- A registry with a resolver that has never answered otherwise, and that gives the
same handle on every call, can be read from its own snapshot.  What is read has all
its fields but the mark of the last pass, so every pass comes to the same on both and
leaves the same registry; and the table that is read is the compiled one. -/
theorem Registry.Arises.restart_transparent (harises : registry.Arises drifts)
    (hresolver : registry.resolver = some resolver)
    (hconstant : ∀ other, drifts other resolver → other = resolver)
    (hsteady : resolver.Steady) {options : RegistryOptions}
    (hoffset : options.offset = none ∨ options.offset = some registry.offset) :
    ∃ opened,
      (Registry.hydrate registry.snapshot options resolver).result = .ok opened ∧
      opened.version = registry.version ∧ opened.offset = registry.offset ∧
      opened.nextId = registry.nextId ∧ opened.resolver = registry.resolver ∧
      opened.table.handlers = registry.table.handlers ∧
      opened.table.byName = registry.table.byName ∧ opened.table.byId = registry.table.byId ∧
      (∀ (position : Nat) (command kept : LiveCommand),
        registry.table.handlers[position]? = some command →
        opened.table.handlers[position]? = some kept →
        kept.handle.same command.handle = true) ∧
      (∀ (passOptions : RegistryOptions) (pass : Registry → Attempt Unit),
        (opened.rebuild passOptions pass).result = (registry.rebuild passOptions pass).result ∧
        ∀ snapshot, (registry.rebuild passOptions pass).result = .ok snapshot →
          (opened.rebuild passOptions pass).after =
            (registry.rebuild passOptions pass).after) ∧
      (CommandTable.ofSnapshot registry.snapshot resolver).result = .ok registry.compile := by
  have hhandles := harises.handle_eq hresolver hconstant
  have hopened := harises.reachable.hydrate_snapshot hresolver hhandles hoffset
  refine ⟨registry.working, hopened, rfl, rfl, rfl, rfl, rfl, rfl, rfl, ?_,
    registry.rebuild_working, ?_⟩
  · intro position command kept hcommand hkept
    obtain rfl : command = kept := Option.some.inj (hcommand.symm.trans hkept)
    exact hsteady _ _ (hhandles command (List.mem_of_getElem? hcommand))
  · have hread : (Registry.hydrate registry.snapshot {} resolver).result = .ok registry.working :=
      harises.reachable.hydrate_snapshot hresolver hhandles (.inl rfl)
    rw [CommandTable.ofSnapshot, hread]
    rfl

/-- The sample with the greatest word taken, after another resolver was tried on it. -/
theorem Registry.sampleFull_arises : Registry.sampleFull.Arises fun _ _ => False := by
  have hattached : (Registry.create ⟨some 5⟩).Chronicle (fun _ _ => False) 0 []
      ((Registry.create ⟨some 5⟩).attach sampleSchema.resolver).after :=
    .call (.refl 0 _) (.attach sampleSchema.resolver)
  have hfilled : (Registry.create ⟨some 5⟩).Chronicle (fun _ _ => False) 0 _
      Registry.sampleFull :=
    .call (.call (.call hattached (.register "@a/first" _)) (.register "@a/second" _))
      (.register "@a/last" _)
  have htried : (Registry.sampleFull.attach fun _ => none).after = Registry.sampleFull := rfl
  rw [← htried]
  exact .created ⟨some 5⟩ (.call hfilled (.attach fun _ => none))

theorem Registry.restart_transparent_sample :
    Registry.sampleFull.Arises (fun _ _ => False) ∧
      Registry.sampleFull.resolver = some sampleSchema.resolver ∧
      sampleSchema.resolver.Steady ∧
      ∃ opened,
        (Registry.hydrate Registry.sampleFull.snapshot ⟨some 5⟩ sampleSchema.resolver).result =
          .ok opened ∧
        opened.nextId = 0xFFFFFFFFFFFFFFFF ∧
        (opened.rebuild {} Registry.sampleNest).result =
          (Registry.sampleFull.rebuild {} Registry.sampleNest).result := by
  have hresolver : Registry.sampleFull.resolver = some sampleSchema.resolver := rfl
  have hoffset : (⟨some 5⟩ : RegistryOptions).offset = none ∨
      (⟨some 5⟩ : RegistryOptions).offset = some Registry.sampleFull.offset := .inr rfl
  obtain ⟨opened, hopened, -, -, hnextId, -, -, -, -, -, hpasses, -⟩ :=
    Registry.sampleFull_arises.restart_transparent hresolver (fun _ => False.elim)
      sampleSchema.resolver_steady hoffset
  exact ⟨Registry.sampleFull_arises, hresolver, sampleSchema.resolver_steady, opened, hopened,
    hnextId, (hpasses {} Registry.sampleNest).1⟩

end CommandRegistry
