/-
The registries that calls lead to, from one registry or from the beginning.  A
pass is any function on registries that makes nothing but such calls, so passes
may nest, stop half way, or go on after a failure.
-/
import CommandRegistry.Proofs.Moves

namespace CommandRegistry

variable {answers : Set Resolver} {first registry last : Registry}

/-- What calls can make of a registry while its resolver answers as `answers`
allows.  A restart reads the registry's own snapshot with its own resolver, which
by then must not have changed its answers. -/
inductive Registry.Evolves (answers : Set Resolver) : Registry → Registry → Prop
  | refl (registry : Registry) : Evolves answers registry registry
  | register {first registry : Registry} (hbefore : Evolves answers first registry)
      (name : String) (spec : CommandSpec) :
      Evolves answers first (registry.register name spec).after
  | registerIn {first registry : Registry} (hbefore : Evolves answers first registry)
      (space name : String) (spec : CommandSpec) :
      Evolves answers first (registry.registerIn space name spec).after
  | attach {first registry : Registry} (hbefore : Evolves answers first registry)
      {resolver : Resolver} (hanswers : resolver ∈ answers) :
      Evolves answers first (registry.attach resolver).after
  | consult {first registry : Registry} (hbefore : Evolves answers first registry)
      {resolver : Resolver} (hanswers : resolver ∈ answers)
      (hattached : registry.resolver.isSome) :
      Evolves answers first { registry with resolver := some resolver }
  | rebuild {first registry : Registry} (hbefore : Evolves answers first registry)
      (options : RegistryOptions) (pass : Registry → Attempt Unit)
      (hpass : Evolves answers registry.working (pass registry.working).after) :
      Evolves answers first (registry.rebuild options pass).after
  | restart {first registry opened : Registry} (hbefore : Evolves answers first registry)
      {options : RegistryOptions} {resolver : Resolver} (hconstant : answers.Subsingleton)
      (hresolver : registry.resolver = some resolver)
      (hopened : (Registry.hydrate registry.snapshot options resolver).result = .ok opened) :
      Evolves answers first opened

theorem Registry.Evolves.trans (hfirst : first.Evolves answers registry)
    (hlast : registry.Evolves answers last) : first.Evolves answers last := by
  induction hlast with
  | refl => exact hfirst
  | register _ name spec ih => exact .register (ih hfirst) name spec
  | registerIn _ space name spec ih => exact .registerIn (ih hfirst) space name spec
  | attach _ hanswers ih => exact .attach (ih hfirst) hanswers
  | consult _ hanswers hattached ih => exact .consult (ih hfirst) hanswers hattached
  | rebuild _ options pass hpass ih => exact .rebuild (ih hfirst) options pass hpass
  | restart _ hconstant hresolver hopened ih =>
      exact .restart (ih hfirst) hconstant hresolver hopened

/-- Every registry in use: one that was created or read from any snapshot, and
what calls have made of it. -/
inductive Registry.Reachable (answers : Set Resolver) (registry : Registry) : Prop
  | created (options : RegistryOptions)
      (hevolves : (Registry.create options).Evolves answers registry)
  | hydrated {snapshot : Snapshot} {options : RegistryOptions} {resolver : Resolver}
      {opened : Registry} (hanswers : resolver ∈ answers)
      (hopened : (Registry.hydrate snapshot options resolver).result = .ok opened)
      (hevolves : opened.Evolves answers registry)

theorem Registry.Reachable.evolves (hreach : registry.Reachable answers)
    (hevolves : registry.Evolves answers last) : last.Reachable answers := by
  cases hreach with
  | created options hbefore => exact .created options (hbefore.trans hevolves)
  | hydrated hanswers hopened hbefore => exact .hydrated hanswers hopened (hbefore.trans hevolves)

theorem Registry.sound_create (answers : Set Resolver) (options : RegistryOptions) :
    (Registry.create options).Sound answers :=
  ⟨CommandTable.consistent_empty, by simp [Registry.create],
    by simp [Registry.create, CommandTable.empty]⟩

theorem Registry.sound_forSnapshot {resolver : Resolver} (hanswers : resolver ∈ answers)
    (snapshot : Snapshot) : (Registry.forSnapshot snapshot resolver).Sound answers := by
  refine ⟨CommandTable.consistent_empty, ?_, ?_⟩
  · rintro _ ⟨⟩
    exact hanswers
  · simp [Registry.forSnapshot, Registry.create, CommandTable.empty]

/-- A registry that was read from a snapshot is sound, and has what the empty
registry before it has and every move keeps. -/
theorem Registry.hydrate_induction {P : Registry → Prop} {snapshot : Snapshot}
    {options : RegistryOptions} {resolver : Resolver} {opened : Registry}
    (hanswers : resolver ∈ answers)
    (hopened : (Registry.hydrate snapshot options resolver).result = .ok opened)
    (hempty : P (Registry.forSnapshot snapshot resolver))
    (hmove : ∀ {before after : Registry}, before.Sound answers → P before →
      before.Move answers after → P after) : opened.Sound answers ∧ P opened := by
  have hsound := Registry.sound_forSnapshot hanswers snapshot
  rw [(Registry.replay_of_hydrate hopened).2]
  exact Registry.moves_induction (Registry.restoreAll_moves hsound snapshot.handlers) hsound
    hempty hmove

theorem Registry.sound_of_hydrate {snapshot : Snapshot} {options : RegistryOptions}
    {resolver : Resolver} {opened : Registry} (hanswers : resolver ∈ answers)
    (hopened : (Registry.hydrate snapshot options resolver).result = .ok opened) :
    opened.Sound answers :=
  (Registry.hydrate_induction (P := fun _ => True) hanswers hopened trivial
    fun _ _ _ => trivial).1

/-- What every move and every restart keeps is kept by all calls. -/
theorem Registry.Evolves.induction {P : Registry → Prop} (hevolves : first.Evolves answers last)
    (hsound : first.Sound answers) (hfirst : P first)
    (hmove : ∀ {before after : Registry}, before.Sound answers → P before →
      before.Move answers after → P after)
    (hrestart : ∀ {before opened : Registry} {options : RegistryOptions} {resolver : Resolver},
      before.Sound answers → P before → answers.Subsingleton →
      before.resolver = some resolver →
      (Registry.hydrate before.snapshot options resolver).result = .ok opened → P opened) :
    last.Sound answers ∧ P last := by
  induction hevolves with
  | refl => exact ⟨hsound, hfirst⟩
  | register _ name spec ih =>
      obtain ⟨hs, hp⟩ := ih hsound hfirst
      exact Registry.moves_induction (Registry.register_moves hs.consistent name spec) hs hp hmove
  | registerIn _ space name spec ih =>
      obtain ⟨hs, hp⟩ := ih hsound hfirst
      exact Registry.moves_induction
        (Registry.register_moves hs.consistent (qualify space name) spec) hs hp hmove
  | attach _ hanswers ih =>
      obtain ⟨hs, hp⟩ := ih hsound hfirst
      exact Registry.moves_induction (Registry.attach_moves hanswers) hs hp hmove
  | consult _ hanswers _ ih =>
      obtain ⟨hs, hp⟩ := ih hsound hfirst
      exact Registry.moves_induction (.single (.consult hanswers)) hs hp hmove
  | @rebuild _ registry _ options pass _ ih ihpass =>
      obtain ⟨hs, hp⟩ := ih hsound hfirst
      have hstart : registry.Move answers registry.working := .start
      have hend := ihpass (hstart.sound hs) (hmove hs hp hstart)
      rcases Registry.rebuild_after registry options pass with hafter | hafter
      · rw [hafter]
        exact ⟨hs, hp⟩
      · rw [hafter]
        exact hend
  | restart _ hconstant hresolver hopened ih =>
      obtain ⟨hs, hp⟩ := ih hsound hfirst
      have hanswers := hs.attached _ hresolver
      have hopenedSound := Registry.sound_of_hydrate hanswers hopened
      exact ⟨hopenedSound, hrestart hs hp hconstant hresolver hopened⟩

theorem Registry.Evolves.sound (hevolves : first.Evolves answers last)
    (hsound : first.Sound answers) : last.Sound answers :=
  (hevolves.induction (P := fun _ => True) hsound trivial (fun _ _ _ => trivial)
    fun _ _ _ _ _ => trivial).1

/-- What the empty registries have and every move keeps holds of every registry
in use. -/
theorem Registry.Reachable.induction {P : Registry → Prop} (hreach : registry.Reachable answers)
    (hcreated : ∀ options, P (Registry.create options))
    (hsnapshot : ∀ snapshot resolver, P (Registry.forSnapshot snapshot resolver))
    (hmove : ∀ {before after : Registry}, before.Sound answers → P before →
      before.Move answers after → P after) : registry.Sound answers ∧ P registry := by
  have hrestart : ∀ {before opened : Registry} {options : RegistryOptions}
      {resolver : Resolver}, before.Sound answers → P before → answers.Subsingleton →
      before.resolver = some resolver →
      (Registry.hydrate before.snapshot options resolver).result = .ok opened → P opened := by
    intro before opened options resolver hs _ _ hresolver hopened
    exact (Registry.hydrate_induction (hs.attached _ hresolver) hopened
      (hsnapshot before.snapshot resolver) hmove).2
  cases hreach with
  | created options hevolves =>
      exact hevolves.induction (Registry.sound_create answers options) (hcreated options)
        hmove hrestart
  | @hydrated snapshot _ resolver _ hanswers hopened hevolves =>
      obtain ⟨hs, hp⟩ := Registry.hydrate_induction hanswers hopened
        (hsnapshot snapshot resolver) hmove
      exact hevolves.induction hs hp hmove hrestart

theorem Registry.Reachable.sound (hreach : registry.Reachable answers) :
    registry.Sound answers :=
  (hreach.induction (P := fun _ => True) (fun _ => trivial) (fun _ _ => trivial)
    fun _ _ _ => trivial).1

/-- A request type that has a field twice. -/
def sampleSchema : Schema :=
  ⟨[⟨"@a/request", [⟨"count", .uint⟩, ⟨"label", .string⟩, ⟨"count", .uint⟩]⟩]⟩

/-- A pinned id below the offset and an assigned one. -/
def Registry.sample : Registry :=
  ((((Registry.create ⟨some 5⟩).attach sampleSchema.resolver).after.register "@a/first"
    ⟨"@a/request", some 2, none⟩).after.register "@a/second" ⟨"@a/request", none, none⟩).after

theorem Registry.sample_reachable : Registry.sample.Reachable {sampleSchema.resolver} := by
  have hattached : (Registry.create ⟨some 5⟩).Evolves {sampleSchema.resolver}
      ((Registry.create ⟨some 5⟩).attach sampleSchema.resolver).after :=
    .attach (.refl _) (Set.mem_singleton _)
  exact .created ⟨some 5⟩ (.register (.register hattached "@a/first" _) "@a/second" _)

end CommandRegistry
