/-
Versions without gaps.  As long as nobody asks for a version, the commands of a registry
record one version after another in the order of registration, from the first to the
current one; passes that are given up, passes inside passes and restarts leave no gap.
-/
import CommandRegistry.Proofs.AppendOnly
import CommandRegistry.Proofs.Replay
import Mathlib.Data.List.Chain

namespace CommandRegistry

variable {drifts : Resolver → Resolver → Prop} {first registry last : Registry}
  {log : List Registration}

/-- A sequence of calls and restarts with its log.  A restart reads the registry's own
snapshot, under any resolver that can read it, and may be part of a pass. -/
inductive Registry.Lineage (drifts : Resolver → Resolver → Prop) :
    Registry → List Registration → Registry → Prop
  | refl (registry : Registry) : Lineage drifts registry [] registry
  | call {first registry next : Registry} {log entries : List Registration}
      (hbefore : Lineage drifts first log registry)
      (hcall : registry.Call drifts entries next) : Lineage drifts first (log ++ entries) next
  | rebuild {first registry : Registry} {log inner : List Registration}
      (hbefore : Lineage drifts first log registry)
      (options : RegistryOptions) (pass : Registry → Attempt Unit)
      (hpass : Lineage drifts registry.working inner (pass registry.working).after) :
      Lineage drifts first (log ++ (registry.rebuild options pass).kept inner)
        (registry.rebuild options pass).after
  | restart {first registry opened : Registry} {log : List Registration}
      (hbefore : Lineage drifts first log registry) {options : RegistryOptions}
      {resolver : Resolver}
      (hopened : (Registry.hydrate registry.snapshot options resolver).result = .ok opened) :
      Lineage drifts first log opened

theorem Registry.Call.consistent {entries : List Registration} {next : Registry}
    (hcall : registry.Call drifts entries next) (hconsistent : registry.table.Consistent) :
    next.table.Consistent := by
  have hchronicle : registry.Chronicle drifts 0 ([] ++ entries) next := .call (.refl 0 _) hcall
  exact hchronicle.consistent hconsistent

theorem Registry.Lineage.consistent (hlineage : first.Lineage drifts log last)
    (hconsistent : first.table.Consistent) : last.table.Consistent := by
  induction hlineage with
  | refl => exact hconsistent
  | call _ hcall ih => exact hcall.consistent (ih hconsistent)
  | @rebuild _ registry _ _ _ options pass _ ih ihpass =>
      rcases registry.rebuild_after options pass with hafter | hafter
      · rw [hafter]
        exact ih hconsistent
      · rw [hafter]
        exact ihpass (ih hconsistent)
  | restart _ hopened =>
      exact (Registry.sound_of_hydrate (Set.mem_univ _) hopened).consistent

/-- What holds of no call, of every effect and of every restart, and carries over from one
sequence to the next, holds of every lineage.  A pass counts from its working copy. -/
theorem Registry.Lineage.induction {P : Registry → List Registration → Registry → Prop}
    (hlineage : first.Lineage drifts log last)
    (hconsistent : first.table.Consistent) (hrefl : ∀ registry, P registry [] registry)
    (htrans : ∀ {first registry last : Registry} {log entries : List Registration},
      P first log registry → P registry entries last → P first (log ++ entries) last)
    (heffect : ∀ {registry next : Registry} {entries : List Registration},
      registry.table.Consistent → registry.Effect drifts entries next →
        P registry entries next)
    (hworking : ∀ {registry last : Registry} {log : List Registration},
      P registry.working log last → P registry log last)
    (hrestart : ∀ {registry opened : Registry} {options : RegistryOptions}
      {resolver : Resolver}, registry.table.Consistent →
      (Registry.hydrate registry.snapshot options resolver).result = .ok opened →
        P registry [] opened) : P first log last := by
  induction hlineage with
  | refl registry => exact hrefl registry
  | call hbefore hcall ih =>
      have hcurrent := hbefore.consistent hconsistent
      exact htrans (ih hconsistent) (heffect hcurrent (hcall.effect hcurrent))
  | rebuild hbefore _ _ _ ih ihpass =>
      have hcurrent := hbefore.consistent hconsistent
      exact Registry.rebuild_kept (ih hconsistent) (ihpass hcurrent) htrans hworking
  | restart hbefore hopened ih =>
      have hall := htrans (ih hconsistent) (hrestart (hbefore.consistent hconsistent) hopened)
      rwa [List.append_nil] at hall

/-- Versions that count up from one to the current one, each as often as it likes. -/
structure CountsUp (versions : List Nat) (current : Nat) : Prop where
  head : ∀ version ∈ versions.head?, version = 1
  steps : versions.IsChain fun earlier later => earlier ≤ later ∧ later ≤ earlier + 1
  last : versions.getLast?.getD 0 = current
  positive : ∀ version ∈ versions, 0 < version

variable {versions : List Nat} {current next : Nat}

theorem countsUp_nil : CountsUp [] 0 :=
  ⟨by simp, .nil, rfl, by simp⟩

theorem CountsUp.getLast?_eq (hcounts : CountsUp versions current) (hsome : versions ≠ []) :
    versions.getLast? = some current := by
  rw [← hcounts.last, List.getLast?_eq_some_getLast hsome, Option.getD_some]

theorem CountsUp.eq_nil_iff (hcounts : CountsUp versions current) :
    versions = [] ↔ current = 0 := by
  constructor
  · rintro rfl
    exact hcounts.last.symm
  · rintro rfl
    by_contra hsome
    have hmem := List.mem_of_getLast? (hcounts.getLast?_eq hsome)
    exact absurd (hcounts.positive 0 hmem) (Nat.lt_irrefl 0)

/-- The next version is one more, or the same again unless it is the first of all. -/
theorem CountsUp.concat (hcounts : CountsUp versions current)
    (hnext : next = current + 1 ∨ next = current ∧ versions ≠ []) :
    CountsUp (versions ++ [next]) next := by
  have hpositive : 0 < next := by
    rcases hnext with rfl | ⟨rfl, hsome⟩
    · exact Nat.succ_pos current
    · exact Nat.pos_of_ne_zero fun hzero => hsome (hcounts.eq_nil_iff.2 hzero)
  refine ⟨?_, ?_, by simp, ?_⟩
  · cases versions with
    | nil =>
        have hzero : current = 0 := hcounts.eq_nil_iff.1 rfl
        simpa [hzero] using hnext
    | cons version rest => simpa using hcounts.head
  · refine List.isChain_append.2 ⟨hcounts.steps, .singleton next, ?_⟩
    rintro earlier hearlier later ⟨⟩
    have hcurrent : earlier = current := by
      rw [← hcounts.last, hearlier, Option.getD_some]
    omega
  · intro version hmem
    rcases List.mem_append.1 hmem with hmem | hmem
    · exact hcounts.positive version hmem
    · rwa [List.mem_singleton.1 hmem]

def Registry.recordedVersions (registry : Registry) : List Nat :=
  registry.table.handlers.map fun command => command.record.version.toNat

/-- The commands are dated without a gap, and a version that is open has a command. -/
structure Registry.Dated (registry : Registry) : Prop where
  counts : CountsUp registry.recordedVersions registry.version.toNat
  opened : registry.changed = true → registry.recordedVersions ≠ []

theorem Registry.recordedVersions_eq_nil_iff :
    registry.recordedVersions = [] ↔ registry.table.handlers = [] :=
  List.map_eq_nil_iff

theorem Registry.dated_create (options : RegistryOptions) : (Registry.create options).Dated :=
  ⟨countsUp_nil, fun hchanged => absurd hchanged Bool.false_ne_true⟩

theorem Registry.Dated.working (hdated : registry.Dated) : registry.working.Dated :=
  ⟨hdated.counts, fun hchanged => absurd hchanged Bool.false_ne_true⟩

/-- A registry that has been read back has its dates, and no version is open. -/
theorem Registry.Dated.restart {opened : Registry} {options : RegistryOptions}
    {resolver : Resolver} (hdated : registry.Dated) (hconsistent : registry.table.Consistent)
    (hopened : (Registry.hydrate registry.snapshot options resolver).result = .ok opened) :
    opened.Dated ∧ opened.version = registry.version := by
  obtain ⟨hversion, -, hchanged⟩ := Registry.hydrate_same hopened
  have hrecords := congrArg Snapshot.handlers (Registry.hydrate_own_snapshot hconsistent hopened)
  have hsame : opened.recordedVersions = registry.recordedVersions := by
    have hversions := congrArg (List.map fun record => record.version.toNat) hrecords
    rwa [Registry.snapshot, Registry.snapshot, List.map_map, List.map_map] at hversions
  have hcounts : CountsUp opened.recordedVersions opened.version.toNat := by
    rw [hsame, hversion]
    exact hdated.counts
  refine ⟨⟨hcounts, fun htrue => ?_⟩, hversion⟩
  rw [hchanged] at htrue
  contradiction

/-- A new command that asks for no version is dated with the one that is open. -/
theorem Registry.Dated.added {name : String} {spec : CommandSpec} {id : UInt64}
    {handle : TypeHandle} (hdated : registry.Dated) (himplicit : spec.version = none)
    (hroom : registry.changed = false → registry.version.toNat + 1 < UInt64.size) :
    (registry.bump.append (registry.bump.newCommand name spec id handle)).Dated := by
  have hversions :
      (registry.bump.append
        (registry.bump.newCommand name spec id handle)).recordedVersions =
        registry.recordedVersions ++ [registry.bump.version.toNat] := by
    rw [Registry.recordedVersions, Registry.handlers_append_opened (.inr rfl), List.map_append,
      Registry.newCommand, himplicit]
    rfl
  have hnext : registry.bump.version.toNat = registry.version.toNat + 1 ∨
      registry.bump.version.toNat = registry.version.toNat ∧ registry.recordedVersions ≠ [] := by
    cases hchanged : registry.changed with
    | false =>
        have hsucc : (registry.version + 1).toNat = registry.version.toNat + 1 := by
          rw [UInt64.toNat_add, UInt64.toNat_one, Nat.mod_eq_of_lt (hroom hchanged)]
        rw [Registry.bump, hchanged]
        exact .inl hsucc
    | true =>
        rw [Registry.bump, hchanged]
        exact .inr ⟨rfl, hdated.opened hchanged⟩
  refine ⟨?_, fun _ => ?_⟩
  · rw [hversions]
    exact hdated.counts.concat hnext
  · rw [hversions]
    exact List.concat_ne_nil _ _

theorem Registry.Effect.dated {registry next : Registry} {entries : List Registration}
    (heffect : registry.Effect drifts entries next) (hdated : registry.Dated)
    (himplicit : ∀ entry ∈ entries, entry.spec.version = Option.none)
    (hroom : registry.version.toNat + entries.countP Registration.opens < UInt64.size) :
    next.Dated := by
  cases heffect with
  | none => exact hdated
  | @known name spec position command hlocate =>
      have hnone : spec.version = Option.none := himplicit _ List.mem_cons_self
      rw [hnone]
      exact hdated
  | @added name spec id handle resolver hresolver hhandle hnew =>
      refine hdated.added (himplicit _ List.mem_cons_self) fun hchanged => ?_
      rwa [hchanged] at hroom
  | attached => exact ⟨hdated.counts, hdated.opened⟩
  | drifted => exact ⟨hdated.counts, hdated.opened⟩

/-- Without explicit versions, a dated registry stays dated and its version counts the
registrations that open one. -/
def Registry.KeepsDates (first : Registry) (log : List Registration) (last : Registry) : Prop :=
  (∀ entry ∈ log, entry.spec.version = none) →
  first.version.toNat + log.countP Registration.opens < UInt64.size → first.Dated →
  last.Dated ∧ last.version.toNat = first.version.toNat + log.countP Registration.opens

theorem Registry.KeepsDates.trans {entries : List Registration}
    (hfirst : first.KeepsDates log registry) (hlast : registry.KeepsDates entries last) :
    first.KeepsDates (log ++ entries) last := by
  intro himplicit hroom hdated
  rw [List.countP_append] at hroom ⊢
  obtain ⟨hcurrent, hversion⟩ := hfirst
    (fun entry hentry => himplicit entry (List.mem_append_left _ hentry)) (by omega) hdated
  obtain ⟨hend, hcount⟩ := hlast
    (fun entry hentry => himplicit entry (List.mem_append_right _ hentry)) (by omega) hcurrent
  exact ⟨hend, by omega⟩

/-- No call, pass or restart leaves a gap between the versions of the commands. -/
theorem Registry.Lineage.keepsDates (hlineage : first.Lineage drifts log last)
    (hconsistent : first.table.Consistent) : first.KeepsDates log last := by
  refine hlineage.induction hconsistent ?_ Registry.KeepsDates.trans ?_ ?_ ?_
  · intro registry _ _ hdated
    exact ⟨hdated, rfl⟩
  · intro registry next entries hcurrent heffect himplicit hroom hdated
    exact ⟨heffect.dated hdated himplicit hroom,
      (heffect.extendedBy hcurrent).version_toNat hroom⟩
  · intro registry last log hworking himplicit hroom hdated
    exact hworking himplicit hroom hdated.working
  · intro registry opened options resolver hcurrent hopened _ _ hdated
    obtain ⟨hrestarted, hversion⟩ := hdated.restart hcurrent hopened
    exact ⟨hrestarted, congrArg UInt64.toNat hversion⟩

/-- From an empty registry on, whatever passes are made, given up or nested and however
often it is read back, the commands record the versions one after another: a registry at
version zero has no commands, and any other one begins with version one, goes up by one
at most from each command to the next and ends with its own version, as long as no
registration that has come to stay asks for a version and the word has room. -/
theorem Registry.Lineage.dense_versions {options : RegistryOptions}
    (hlineage : (Registry.create options).Lineage drifts log registry)
    (himplicit : ∀ entry ∈ log, entry.spec.version = none)
    (hroom : log.countP Registration.opens < UInt64.size) :
    (registry.version = 0 ↔ registry.table.handlers = []) ∧
    (registry.table.handlers ≠ [] →
      registry.recordedVersions.head? = some 1 ∧
      registry.recordedVersions.IsChain
        (fun earlier later => earlier ≤ later ∧ later ≤ earlier + 1) ∧
      registry.recordedVersions.getLast? = some registry.version.toNat) := by
  have hstart : (Registry.create options).version.toNat + log.countP Registration.opens <
      UInt64.size := (Nat.zero_add _).symm ▸ hroom
  obtain ⟨hdated, -⟩ := hlineage.keepsDates CommandTable.consistent_empty himplicit hstart
    (Registry.dated_create options)
  refine ⟨?_, fun hsome => ?_⟩
  · rw [← Registry.recordedVersions_eq_nil_iff, hdated.counts.eq_nil_iff, ← UInt64.toNat_inj]
    rfl
  · have hversions := Registry.recordedVersions_eq_nil_iff.not.2 hsome
    refine ⟨?_, hdated.counts.steps, hdated.counts.getLast?_eq hversions⟩
    obtain ⟨version, hhead⟩ := Option.isSome_iff_exists.1 (List.isSome_head?.2 hversions)
    rw [hhead, hdated.counts.head version hhead]

/-- A request without an id and a version of its own. -/
def CommandSpec.sample : CommandSpec :=
  ⟨"@a/request", none, none⟩

/-- A pass that adds a command and ends as it is told. -/
def Registry.sampleGrow (name : String) (verdict : Except DispatchError Unit)
    (working : Registry) : Attempt Unit :=
  let grown := working.register name .sample
  ⟨verdict, grown.after, grown.events⟩

/-- A pass that adds a command in a pass of its own, and another one after it. -/
def Registry.sampleGrowTwice (working : Registry) : Attempt Unit :=
  Registry.sampleGrow "@a/fourth" (.ok ())
    (working.rebuild {} (Registry.sampleGrow "@a/third" (.ok ()))).after

/-- The sample after a pass that was given up and one that was not. -/
def Registry.sampleGrown : Registry :=
  let aborted := (Registry.sample.rebuild {}
    (Registry.sampleGrow "@a/lost" (.error .idSpaceExhausted))).after
  (aborted.rebuild {} Registry.sampleGrowTwice).after

/-- The same after a restart. -/
def Registry.sampleReread : Registry :=
  ((Registry.forSnapshot Registry.sampleGrown.snapshot sampleSchema.resolver).restoreAll
    Registry.sampleGrown.snapshot.handlers).after

/-- The same after one more registration. -/
def Registry.sampleRegrown : Registry :=
  (Registry.sampleReread.register "@a/fifth" .sample).after

def sampleGrowLog : List Registration :=
  [⟨"@a/first", ⟨"@a/request", some 2, none⟩, true⟩,
    ⟨"@a/second", .sample, false⟩,
    ⟨"@a/third", .sample, true⟩,
    ⟨"@a/fourth", .sample, false⟩,
    ⟨"@a/fifth", .sample, true⟩]

theorem Registry.sampleGrow_lineage (working : Registry) (name : String)
    (verdict : Except DispatchError Unit) :
    working.Lineage drifts
      ((working.register name .sample).kept
        [working.registration name .sample])
      (Registry.sampleGrow name verdict working).after :=
  .call (.refl working) (.register name _)

theorem Registry.sampleRegrown_lineage :
    (Registry.create ⟨some 5⟩).Lineage drifts sampleGrowLog Registry.sampleRegrown := by
  let abort := Registry.sampleGrow "@a/lost" (.error .idSpaceExhausted)
  let grow := Registry.sampleGrow "@a/third" (.ok ())
  let aborted := (Registry.sample.rebuild {} abort).after
  have hattached : (Registry.create ⟨some 5⟩).Lineage drifts []
      ((Registry.create ⟨some 5⟩).attach sampleSchema.resolver).after :=
    .call (.refl _) (.attach sampleSchema.resolver)
  have hsample : (Registry.create ⟨some 5⟩).Lineage drifts (sampleGrowLog.take 2)
      Registry.sample :=
    .call (.call hattached (.register "@a/first" ⟨"@a/request", some 2, none⟩))
      (.register "@a/second" .sample)
  have haborted : (Registry.create ⟨some 5⟩).Lineage drifts (sampleGrowLog.take 2) aborted :=
    .rebuild hsample {} abort (Registry.sampleGrow_lineage _ "@a/lost" _)
  have hnested : aborted.working.Lineage drifts
      [⟨"@a/third", .sample, true⟩] (aborted.working.rebuild {} grow).after :=
    .rebuild (.refl _) {} grow (Registry.sampleGrow_lineage _ "@a/third" _)
  have hgrown : (Registry.create ⟨some 5⟩).Lineage drifts (sampleGrowLog.take 4)
      Registry.sampleGrown :=
    .rebuild haborted {} Registry.sampleGrowTwice (.call hnested (.register "@a/fourth" .sample))
  have hopened : (Registry.hydrate Registry.sampleGrown.snapshot {}
      sampleSchema.resolver).result = .ok Registry.sampleReread := rfl
  exact .call (.restart hgrown hopened) (.register "@a/fifth" .sample)

theorem Registry.dense_versions_sample :
    (Registry.create ⟨some 5⟩).Lineage (fun _ _ => True) sampleGrowLog Registry.sampleRegrown ∧
      (∀ entry ∈ sampleGrowLog, entry.spec.version = none) ∧
      sampleGrowLog.countP Registration.opens < UInt64.size ∧
      Registry.sampleRegrown.recordedVersions = [1, 1, 2, 2, 3] ∧
      Registry.sampleRegrown.recordedVersions.getLast? =
        some Registry.sampleRegrown.version.toNat := by
  have hlineage : (Registry.create ⟨some 5⟩).Lineage (fun _ _ => True) sampleGrowLog
      Registry.sampleRegrown := Registry.sampleRegrown_lineage
  have himplicit : ∀ entry ∈ sampleGrowLog, entry.spec.version = none := by
    simp [sampleGrowLog, CommandSpec.sample]
  have hroom : sampleGrowLog.countP Registration.opens < UInt64.size := by decide
  obtain ⟨-, hdense⟩ := hlineage.dense_versions himplicit hroom
  obtain ⟨-, -, hlast⟩ := hdense (List.cons_ne_nil _ _)
  exact ⟨hlineage, himplicit, hroom, rfl, hlast⟩

end CommandRegistry
