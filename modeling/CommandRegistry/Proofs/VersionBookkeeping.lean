/-
Versions and what is registered.  A pass that makes no rebuild of its own opens a
version with the first name that it adds and with no other one.  A version therefore
stands for one list of commands, over restarts as well, and a later version for a
longer list.
-/
import CommandRegistry.Proofs.AppendOnly
import CommandRegistry.Proofs.Replay
import Mathlib.Data.List.Pairwise

namespace CommandRegistry

variable {answers : Set Resolver} {drifts : Resolver → Resolver → Prop}
  {first registry next last : Registry} {log entries : List Registration}
  {earlier later : Snapshot}

/-- The later registry has a command whose name the earlier one does not know. -/
def Registry.Gains (before after : Registry) : Prop :=
  ∃ command ∈ after.table.handlers, before.get? command.name = none

theorem Registry.not_gains_self (hconsistent : registry.table.Consistent) :
    ¬registry.Gains registry := by
  rintro ⟨command, hmem, hunknown⟩
  have hknown : registry.get? command.name = some command :=
    hconsistent.get?_eq_some_iff.2 ⟨hmem, rfl⟩
  rw [hknown] at hunknown
  contradiction

theorem Registry.gains_iff_of_names {other : Registry}
    (hnames : other.table.handlers.map LiveCommand.name =
      last.table.handlers.map LiveCommand.name) : first.Gains other ↔ first.Gains last := by
  have hgains : ∀ registry : Registry, first.Gains registry ↔
      ∃ name ∈ registry.table.handlers.map LiveCommand.name, first.get? name = none := by
    intro registry
    simp only [Registry.Gains, List.mem_map, exists_exists_and_eq_and]
  rw [hgains, hgains, hnames]

/-- What is known stays known. -/
theorem Registry.ExtendedBy.get?_eq_none (hextended : first.ExtendedBy log last)
    (hconsistent : first.table.Consistent) (hlast : last.table.Consistent) {name : String}
    (hunknown : last.table.byName.find? name = none) : first.get? name = none := by
  rw [Option.eq_none_iff_forall_ne_some]
  intro command hget
  obtain ⟨hmem, rfl⟩ := hconsistent.get?_eq_some_iff.1 hget
  apply (hlast.byName.find?_eq_none_iff command.name).1 hunknown
  have hkept : command.revised log ∈ last.table.handlers :=
    hextended.handlers.subset (List.mem_map_of_mem hmem)
  exact List.mem_map.2 ⟨command.revised log, hkept, rfl⟩

/-- How a pass stands that has begun with `start`: whether it has opened its version,
and what its new commands record. -/
structure Registry.PassLaw (start : Registry) (log : List Registration) (last : Registry) :
    Prop where
  version : last.version = start.version + UInt64.ofNat (if last.changed then 1 else 0)
  changed_iff : last.changed = true ↔ start.Gains last
  logged : ∀ entry ∈ log, entry.name ∈ last.table.handlers.map LiveCommand.name
  recorded : ∀ command ∈ last.table.handlers, start.get? command.name = none →
    command.record.version = (chosenVersion? log command.name).getD last.version

theorem Registry.passLaw_start (hconsistent : first.table.Consistent)
    (hfresh : first.changed = false) : first.PassLaw [] first := by
  refine ⟨?_, ?_, by simp, ?_⟩
  · rw [hfresh]
    exact (UInt64.add_zero first.version).symm
  · simp only [hfresh, Bool.false_eq_true, Registry.not_gains_self hconsistent]
  · intro command hmem hunknown
    exact absurd ⟨command, hmem, hunknown⟩ (Registry.not_gains_self hconsistent)

theorem Registry.PassLaw.known (hlaw : first.PassLaw log registry)
    (hconsistent : registry.table.Consistent) {name : String} {spec : CommandSpec}
    {position : Nat} {command : LiveCommand}
    (hlocate : registry.table.locate? name = some (position, command)) :
    first.PassLaw (log ++ [⟨name, spec, false⟩]) (registry.keep position spec.version) := by
  have hhandlers := Registry.handlers_keep hconsistent hlocate spec false
  have hnames : (registry.keep position spec.version).table.handlers.map LiveCommand.name =
      registry.table.handlers.map LiveCommand.name := by
    rw [hhandlers, List.map_map]
    rfl
  obtain ⟨-, hversion, hchanged, -⟩ := registry.keep_same position spec.version
  refine ⟨?_, ?_, ?_, ?_⟩
  · rw [hversion, hchanged]
    exact hlaw.version
  · rw [hchanged, Registry.gains_iff_of_names hnames]
    exact hlaw.changed_iff
  · intro entry hentry
    rw [hnames]
    rcases List.mem_append.1 hentry with hentry | hentry
    · exact hlaw.logged entry hentry
    · obtain ⟨hmem, hname⟩ :=
        hconsistent.get?_eq_some_iff.1 (CommandTable.get?_of_locate? hlocate)
      rw [List.mem_singleton.1 hentry, ← hname]
      exact List.mem_map_of_mem hmem
  · intro revised hmem hunknown
    rw [hhandlers, List.mem_map] at hmem
    obtain ⟨old, hold, rfl⟩ := hmem
    have hname : (old.revised [⟨name, spec, false⟩]).name = old.name := rfl
    rw [hname, chosenVersion?_append, Option.getD_or, hversion,
      ← hlaw.recorded old hold hunknown]
    rfl

/-- A new command has the version that the first new one of the pass has opened, and its
name was not registered before in the pass. -/
theorem Registry.PassLaw.added (hlaw : first.PassLaw log registry) {name : String}
    {spec : CommandSpec} {id : UInt64} {handle : TypeHandle}
    (hconsistent : registry.table.Consistent)
    (hnew : registry.table.byName.find? name = none) (hunknown : first.get? name = none) :
    first.PassLaw (log ++ [⟨name, spec, !registry.changed⟩])
      (registry.bump.append (registry.bump.newCommand name spec id handle)) := by
  let command := registry.bump.newCommand name spec id handle
  have habsent := (hconsistent.byName.find?_eq_none_iff name).1 hnew
  have hhandlers : (registry.bump.append command).table.handlers =
      registry.table.handlers ++ [command] :=
    Registry.handlers_append_opened (.inr rfl) command
  have hchanged : (registry.bump.append command).changed = true := registry.bump_changed
  have hversion : (registry.bump.append command).version =
      registry.version + UInt64.ofNat (if registry.changed then 0 else 1) :=
    registry.bump_version
  refine ⟨?_, ?_, ?_, ?_⟩
  · rw [hversion, hlaw.version, hchanged, UInt64.add_assoc]
    cases registry.changed <;> rfl
  · have hgains : first.Gains (registry.bump.append command) :=
      ⟨command, by simp [hhandlers], hunknown⟩
    exact iff_of_true hchanged hgains
  · intro entry hentry
    rw [hhandlers, List.map_append, List.mem_append]
    rcases List.mem_append.1 hentry with hentry | hentry
    · exact .inl (hlaw.logged entry hentry)
    · rw [List.mem_singleton.1 hentry]
      exact .inr (List.mem_singleton_self name)
  · intro other hmem hother
    rw [hhandlers, List.mem_append, List.mem_singleton] at hmem
    rw [chosenVersion?_append, chosenVersion?_singleton]
    rcases hmem with hmem | rfl
    · have hopen : registry.changed = true := hlaw.changed_iff.2 ⟨other, hmem, hother⟩
      have hne : name ≠ other.name := by
        rintro rfl
        exact habsent (List.mem_map_of_mem hmem)
      rw [if_neg hne, Option.none_or, hversion, hopen, hlaw.recorded other hmem hother]
      exact congrArg _ (UInt64.add_zero registry.version).symm
    · have hfirst : chosenVersion? log name = none := by
        apply chosenVersion?_of_not_mem
        rintro entry hentry rfl
        exact habsent (hlaw.logged entry hentry)
      have hname : command.name = name := rfl
      rw [hname, if_pos rfl, hfirst, Option.or_none]
      rfl

theorem Registry.PassLaw.effect (hlaw : first.PassLaw log registry)
    (hfirst : first.table.Consistent) (hconsistent : registry.table.Consistent)
    (hextended : first.ExtendedBy log registry)
    (heffect : registry.Effect drifts entries next) : first.PassLaw (log ++ entries) next := by
  cases heffect with
  | none => simpa only [List.append_nil] using hlaw
  | known hlocate => exact hlaw.known hconsistent hlocate
  | added hresolver hhandle hnew =>
      exact hlaw.added hconsistent hnew.name
        (hextended.get?_eq_none hfirst hconsistent hnew.name)
  | attached | drifted =>
      rw [List.append_nil]
      exact ⟨hlaw.version, hlaw.changed_iff, hlaw.logged, hlaw.recorded⟩

/-- A chronicle of depth zero keeps the law of its pass; it has no rebuild inside it. -/
theorem Registry.Chronicle.passLaw (hchronicle : first.Chronicle drifts 0 log last)
    (hconsistent : first.table.Consistent) (hfresh : first.changed = false) :
    first.PassLaw log last := by
  generalize hdepth : 0 = depth at hchronicle
  induction hchronicle with
  | refl => exact Registry.passLaw_start hconsistent hfresh
  | call hbefore hcall ih =>
      have hcurrent := hbefore.consistent hconsistent
      exact (ih hconsistent hfresh hdepth).effect hconsistent hcurrent
        (hbefore.extendedBy hconsistent) (hcall.effect hcurrent)
  | rebuild => contradiction

theorem Registry.PassLaw.version_of_gains (hlaw : first.PassLaw log last)
    (hgains : first.Gains last) (hroom : first.version.toNat + 1 < UInt64.size) :
    last.version.toNat = first.version.toNat + 1 := by
  rw [hlaw.version, hlaw.changed_iff.2 hgains, UInt64.toNat_add]
  exact Nat.mod_eq_of_lt hroom

theorem Registry.PassLaw.version_of_not_gains (hlaw : first.PassLaw log last)
    (hgains : ¬first.Gains last) : last.version = first.version := by
  have hclosed : last.changed = false := by
    rw [Bool.eq_false_iff]
    exact fun hchanged => hgains (hlaw.changed_iff.1 hchanged)
  rw [hlaw.version, hclosed]
  exact UInt64.add_zero first.version

theorem Registry.passLaw_of_rebuild (hconsistent : registry.table.Consistent)
    {options : RegistryOptions} {pass : Registry → Attempt Unit} {snapshot : Snapshot}
    (hpass : registry.working.Chronicle drifts 0 log (pass registry.working).after)
    (hsucceeded : (registry.rebuild options pass).result = .ok snapshot) :
    registry.PassLaw log (registry.rebuild options pass).after := by
  have hlaw := hpass.passLaw hconsistent rfl
  rw [(Registry.rebuild_of_ok hsucceeded).1]
  exact ⟨hlaw.version, hlaw.changed_iff, hlaw.logged, hlaw.recorded⟩

/-- What a snapshot says of its commands besides their recorded versions. -/
def Snapshot.outline (snapshot : Snapshot) : List (UInt64 × String × String) :=
  snapshot.handlers.map fun record => (record.id, record.name, record.requestType)

/-- The later snapshot is of the same version and lists the same commands, or it is of
a later version and lists more. -/
inductive Snapshot.Precedes (earlier later : Snapshot) : Prop
  | same (hversion : earlier.version = later.version)
      (houtline : later.outline = earlier.outline)
  | grown {added : List (UInt64 × String × String)} (hversion : earlier.version < later.version)
      (hadded : added ≠ []) (houtline : later.outline = earlier.outline ++ added)

theorem Snapshot.Precedes.trans {middle : Snapshot} (hfirst : earlier.Precedes middle)
    (hlast : middle.Precedes later) : earlier.Precedes later := by
  cases hfirst with
  | same hversion houtline =>
      cases hlast with
      | same hnext hlater => exact .same (hversion.trans hnext) (hlater.trans houtline)
      | grown hnext hadded hlater => exact .grown (hversion ▸ hnext) hadded (houtline ▸ hlater)
  | @grown added hversion hadded houtline =>
      cases hlast with
      | same hnext hlater => exact .grown (hnext ▸ hversion) hadded (hlater.trans houtline)
      | @grown more hnext _ hlater =>
          have hall : later.outline = earlier.outline ++ (added ++ more) := by
            rw [hlater, houtline, List.append_assoc]
          exact .grown (UInt64.lt_trans hversion hnext)
            (List.append_ne_nil_of_left_ne_nil hadded more) hall

theorem Snapshot.Precedes.version_le (hprecedes : earlier.Precedes later) :
    earlier.version ≤ later.version := by
  cases hprecedes with
  | same hversion => exact hversion ▸ UInt64.le_refl _
  | grown hversion => exact UInt64.le_of_lt hversion

theorem Snapshot.Precedes.version_eq_iff (hprecedes : earlier.Precedes later) :
    earlier.version = later.version ↔ earlier.outline = later.outline := by
  cases hprecedes with
  | same hversion houtline => exact iff_of_true hversion houtline.symm
  | grown hversion hadded houtline =>
      refine iff_of_false (UInt64.ne_of_lt hversion) ?_
      rw [houtline]
      intro hsame
      exact hadded (List.self_eq_append_right.1 hsame)

theorem Snapshot.Precedes.grown_of_lt (hprecedes : earlier.Precedes later)
    (hversion : earlier.version < later.version) :
    ∃ added ≠ [], later.outline = earlier.outline ++ added := by
  cases hprecedes with
  | same hsame => exact absurd hsame (UInt64.ne_of_lt hversion)
  | @grown added _ hadded houtline => exact ⟨added, hadded, houtline⟩

/-- The names that are new are those at the end. -/
theorem Registry.gains_iff_of_names_append (hfirst : first.table.Consistent)
    (hlast : last.table.Consistent) {added : List String}
    (hnames : last.table.handlers.map LiveCommand.name =
      first.table.handlers.map LiveCommand.name ++ added) : first.Gains last ↔ added ≠ [] := by
  constructor
  · rintro hgains rfl
    rw [List.append_nil] at hnames
    exact Registry.not_gains_self hfirst ((Registry.gains_iff_of_names hnames).1 hgains)
  · intro hadded
    obtain ⟨name, hname⟩ := List.exists_mem_of_ne_nil added hadded
    have hlisted : name ∈ last.table.handlers.map LiveCommand.name := by
      rw [hnames]
      exact List.mem_append_right _ hname
    obtain ⟨command, hmem, rfl⟩ := List.mem_map.1 hlisted
    refine ⟨command, hmem, ?_⟩
    rw [Option.eq_none_iff_forall_ne_some]
    intro old hget
    obtain ⟨hold, hsame⟩ := hfirst.get?_eq_some_iff.1 hget
    have hnodup := hlast.byName.nodup
    rw [hnames] at hnodup
    exact List.disjoint_of_nodup_append hnodup (List.mem_map.2 ⟨old, hold, hsame⟩) hname

theorem Registry.gains_iff_of_handlers (hfirst : first.table.Consistent)
    (hlast : last.table.Consistent) {added : List LiveCommand}
    (hhandlers : last.table.handlers =
      first.table.handlers.map (LiveCommand.revised log) ++ added) :
    first.Gains last ↔ added ≠ [] := by
  have hnames : last.table.handlers.map LiveCommand.name =
      first.table.handlers.map LiveCommand.name ++ added.map LiveCommand.name := by
    rw [hhandlers, List.map_append, List.map_map]
    rfl
  rw [Registry.gains_iff_of_names_append hfirst hlast hnames, ne_eq, ne_eq, List.map_eq_nil_iff]

theorem Registry.PassLaw.precedes (hlaw : first.PassLaw log last)
    (hextended : first.ExtendedBy log last) (hfirst : first.table.Consistent)
    (hlast : last.table.Consistent)
    (hroom : first.Gains last → first.version.toNat + 1 < UInt64.size) :
    first.snapshot.Precedes last.snapshot := by
  obtain ⟨added, hadded⟩ := hextended.handlers
  have hgains := Registry.gains_iff_of_handlers hfirst hlast hadded.symm
  have houtline : last.snapshot.outline = first.snapshot.outline ++
      added.map fun command => (command.id, command.name, command.record.requestType) := by
    simp only [Snapshot.outline, Registry.snapshot, ← hadded, List.map_append, List.map_map]
    rfl
  by_cases hnone : added = []
  · have hversion := hlaw.version_of_not_gains (mt hgains.1 (not_not.2 hnone))
    rw [hnone, List.map_nil, List.append_nil] at houtline
    exact .same hversion.symm houtline
  · have hopened := hgains.2 hnone
    have hversion := hlaw.version_of_gains hopened (hroom hopened)
    have hlt : first.version < last.version := UInt64.lt_iff_toNat_lt.2 (by omega)
    exact .grown hlt (mt List.map_eq_nil_iff.1 hnone) houtline

/-- A run of passes and restarts, with the snapshot that it began with and those that
its passes have returned, the latest first.  A restart reads the latest one. -/
inductive Registry.Publishes (drifts : Resolver → Resolver → Prop) (first : Registry) :
    List Snapshot → Registry → Prop
  | start : Publishes drifts first [first.snapshot] first
  | rebuild {registry : Registry} {snapshots : List Snapshot} {log : List Registration}
      (hbefore : Publishes drifts first snapshots registry) (options : RegistryOptions)
      (pass : Registry → Attempt Unit)
      (hpass : registry.working.Chronicle drifts 0 log (pass registry.working).after)
      (hroom : registry.Gains (registry.rebuild options pass).after →
        registry.version.toNat + 1 < UInt64.size) :
      Publishes drifts first ((registry.rebuild options pass).result.toOption.toList ++ snapshots)
        (registry.rebuild options pass).after
  | restart {registry opened : Registry} {latest : Snapshot} {snapshots : List Snapshot}
      (hbefore : Publishes drifts first (latest :: snapshots) registry)
      {options : RegistryOptions} {resolver : Resolver}
      (hopened : (Registry.hydrate latest options resolver).result = .ok opened) :
      Publishes drifts first (latest :: snapshots) opened

/-- The latest snapshot is that of the registry, and all that were returned before it
precede it. -/
structure Registry.Published (snapshots : List Snapshot) (last : Registry) : Prop where
  consistent : last.table.Consistent
  latest : snapshots.head? = some last.snapshot
  ordered : snapshots.Pairwise fun later earlier => earlier.Precedes later

theorem Registry.Published.rebuild {snapshots : List Snapshot}
    (hpublished : Registry.Published snapshots registry) {options : RegistryOptions}
    {pass : Registry → Attempt Unit}
    (hpass : registry.working.Chronicle drifts 0 log (pass registry.working).after)
    (hroom : registry.Gains (registry.rebuild options pass).after →
      registry.version.toNat + 1 < UInt64.size) :
    Registry.Published ((registry.rebuild options pass).result.toOption.toList ++ snapshots)
      (registry.rebuild options pass).after := by
  cases hresult : (registry.rebuild options pass).result with
  | error error =>
      rw [Registry.rebuild_of_error hresult]
      exact hpublished
  | ok snapshot =>
      have hlaw := Registry.passLaw_of_rebuild hpublished.consistent hpass hresult
      obtain ⟨hafter, rfl⟩ := Registry.rebuild_of_ok hresult
      rw [hafter] at hlaw hroom ⊢
      have hconsistent := hpass.consistent hpublished.consistent
      have hextended := (hpass.extendedBy hpublished.consistent).of_working
      have hprecedes := hlaw.precedes hextended hpublished.consistent hconsistent hroom
      obtain ⟨-, hlatest, hordered⟩ := hpublished
      cases snapshots with
      | nil => contradiction
      | cons latest rest =>
          obtain rfl : latest = registry.snapshot := Option.some.inj hlatest
          refine ⟨hconsistent, rfl, List.pairwise_cons.2 ⟨?_, hordered⟩⟩
          intro earlier hearlier
          rcases List.mem_cons.1 hearlier with rfl | hearlier
          · exact hprecedes
          · exact ((List.pairwise_cons.1 hordered).1 earlier hearlier).trans hprecedes

theorem Registry.Publishes.published {snapshots : List Snapshot}
    (hpublishes : first.Publishes drifts snapshots last) (hconsistent : first.table.Consistent) :
    Registry.Published snapshots last := by
  induction hpublishes with
  | start => exact ⟨hconsistent, rfl, List.pairwise_singleton _ _⟩
  | rebuild _ options pass hpass hroom ih => exact ih.rebuild hpass hroom
  | @restart registry opened latest snapshots _ options resolver hopened ih =>
      obtain rfl : latest = registry.snapshot := Option.some.inj ih.latest
      have hsound := Registry.sound_of_hydrate (Set.mem_univ resolver) hopened
      refine ⟨hsound.consistent, ?_, ih.ordered⟩
      rw [Registry.hydrate_own_snapshot ih.consistent hopened]
      rfl

theorem Registry.Published.precedes {snapshots : List Snapshot}
    (hpublished : Registry.Published snapshots last) (hearlier : earlier ∈ snapshots)
    (hlater : later ∈ snapshots) : earlier.Precedes later ∨ later.Precedes earlier := by
  let Ordered := fun earlier later : Snapshot => earlier.Precedes later ∨ later.Precedes earlier
  have hsymm : Std.Symm Ordered := ⟨fun _ _ => Or.symm⟩
  have hordered : snapshots.Pairwise Ordered := hpublished.ordered.imp .inr
  exact hordered.forall_of_forall (fun _ _ => .inl (.same rfl rfl)) hearlier hlater

/-- A pass that makes no rebuild opens the next version if it adds a name, and leaves
the version otherwise or if it is given up.  A name that it has added records the
version after the pass unless the pass itself has given it another one.  Over any run
of such passes and of restarts two snapshots are of one version exactly if they list
the same commands, and the list of a later version goes on where the other ends. -/
theorem Registry.Reachable.version_bookkeeping (hreach : registry.Reachable answers) :
    (∀ (options : RegistryOptions) (pass : Registry → Attempt Unit) (log : List Registration),
      registry.working.Chronicle drifts 0 log (pass registry.working).after →
      (∀ error, (registry.rebuild options pass).result = .error error →
        (registry.rebuild options pass).after.version = registry.version) ∧
      ∀ snapshot, (registry.rebuild options pass).result = .ok snapshot →
        (registry.Gains (registry.rebuild options pass).after →
          registry.version.toNat + 1 < UInt64.size →
          (registry.rebuild options pass).after.version.toNat = registry.version.toNat + 1) ∧
        (¬registry.Gains (registry.rebuild options pass).after →
          (registry.rebuild options pass).after.version = registry.version) ∧
        ∀ command ∈ (registry.rebuild options pass).after.table.handlers,
          registry.get? command.name = none →
          command.record.version = (chosenVersion? log command.name).getD
            (registry.rebuild options pass).after.version) ∧
    ∀ (snapshots : List Snapshot) (last : Registry), registry.Publishes drifts snapshots last →
      ∀ earlier ∈ snapshots, ∀ later ∈ snapshots,
        (earlier.version = later.version ↔ earlier.outline = later.outline) ∧
        (earlier.version < later.version →
          ∃ added ≠ [], later.outline = earlier.outline ++ added) := by
  have hconsistent := hreach.sound.consistent
  constructor
  · intro options pass log hpass
    refine ⟨?_, ?_⟩
    · intro error hfailed
      rw [Registry.rebuild_of_error hfailed]
    · intro snapshot hsucceeded
      have hlaw := Registry.passLaw_of_rebuild hconsistent hpass hsucceeded
      exact ⟨hlaw.version_of_gains, hlaw.version_of_not_gains, hlaw.recorded⟩
  · intro snapshots last hpublishes earlier hearlier later hlater
    rcases (hpublishes.published hconsistent).precedes hearlier hlater with hprecedes | hprecedes
    · exact ⟨hprecedes.version_eq_iff, hprecedes.grown_of_lt⟩
    · refine ⟨eq_comm.trans (hprecedes.version_eq_iff.trans eq_comm), ?_⟩
      intro hlt
      exact absurd hlt (UInt64.not_lt.2 hprecedes.version_le)

/-- A pass that gives a command of the sample another version, and adds a command after
its request for it was refused once. -/
def Registry.sampleAdd (working : Registry) : Attempt Unit :=
  let revised := working.register "@a/first" ⟨"@a/request", none, some 7⟩
  let refused := revised.after.register "@a/third" ⟨"@a/missing", none, some 9⟩
  (refused.after.register "@a/third" ⟨"@a/request", none, none⟩).map fun _ => ()

theorem Registry.sampleAdd_chronicle :
    Registry.sample.working.Chronicle drifts 0 sampleLog
      (Registry.sampleAdd Registry.sample.working).after :=
  .call (.call (.call (.refl 0 Registry.sample.working)
    (.register "@a/first" ⟨"@a/request", none, some 7⟩))
    (.register "@a/third" ⟨"@a/missing", none, some 9⟩))
    (.register "@a/third" ⟨"@a/request", none, none⟩)

theorem Registry.version_bookkeeping_sample :
    Registry.sample.Reachable {sampleSchema.resolver} ∧
      (∃ snapshot, (Registry.sample.rebuild {} Registry.sampleAdd).result = .ok snapshot) ∧
      (Registry.sample.rebuild {} Registry.sampleAdd).after.version.toNat = 2 ∧
      (∃ added ≠ [], (Registry.sample.rebuild {} Registry.sampleAdd).after.snapshot.outline =
        Registry.sample.snapshot.outline ++ added) := by
  let rebuilt := (Registry.sample.rebuild {} Registry.sampleAdd).after
  have hpass : Registry.sample.working.Chronicle (fun _ _ => True) 0 sampleLog
      (Registry.sampleAdd Registry.sample.working).after := Registry.sampleAdd_chronicle
  have hroom : Registry.sample.version.toNat + 1 < UInt64.size := by decide
  have hgains : Registry.sample.Gains rebuilt := ⟨_, List.mem_of_getElem? (i := 2) rfl, rfl⟩
  have hsucceeded : (Registry.sample.rebuild {} Registry.sampleAdd).result =
      .ok rebuilt.snapshot := rfl
  have hruns : Registry.sample.Publishes (fun _ _ => True)
      [rebuilt.snapshot, Registry.sample.snapshot] rebuilt :=
    .rebuild .start {} Registry.sampleAdd hpass fun _ => hroom
  obtain ⟨hopens, -, -⟩ :=
    (Registry.sample_reachable.version_bookkeeping.1 {} Registry.sampleAdd sampleLog hpass).2
      rebuilt.snapshot hsucceeded
  have hversion := hopens hgains hroom
  have hlt : Registry.sample.snapshot.version < rebuilt.snapshot.version := by decide
  have hlonger := (Registry.sample_reachable.version_bookkeeping.2 _ rebuilt hruns
    Registry.sample.snapshot (by simp) rebuilt.snapshot (by simp)).2 hlt
  exact ⟨Registry.sample_reachable, ⟨_, hsucceeded⟩, hversion, hlonger⟩

end CommandRegistry
