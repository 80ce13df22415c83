/-
Calls as moves.  Every call on a registry comes down to a few moves, or to none
if it fails, and each move keeps the table consistent; what every move keeps
therefore needs no look at the calls.

The resolver behind a registry is foreign code.  `answers` is the set of ways in
which it may answer, one for each moment at which it is asked.
-/
import CommandRegistry.Proofs.Registration
import Mathlib.Data.Set.Subsingleton

namespace CommandRegistry

variable {answers : Set Resolver} {registry next : Registry}

/-- One write to a registry, or another answer from behind it. -/
inductive Registry.Move (answers : Set Resolver) (registry : Registry) : Registry → Prop
  | revise (position : Nat) (version : UInt64) :
      Move answers registry
        { registry with table := registry.table.setVersion position version }
  | add {opened : Registry} {command : LiveCommand} {resolver : Resolver}
      (hopened : opened = registry ∨ opened = registry.bump)
      (hresolver : registry.resolver = some resolver)
      (hhandle : resolver command.record.requestType = some command.handle)
      (hnew : registry.table.Lacks command.name command.id) :
      Move answers registry (opened.append command)
  | consult {resolver : Resolver} (hanswers : resolver ∈ answers) :
      Move answers registry { registry with resolver := some resolver }
  | start : Move answers registry registry.working

/-- The indexes agree with the commands, and every request type was resolved by
one of the answers. -/
structure Registry.Sound (answers : Set Resolver) (registry : Registry) : Prop where
  consistent : registry.table.Consistent
  attached : ∀ resolver, registry.resolver = some resolver → resolver ∈ answers
  resolved : ∀ command ∈ registry.table.handlers,
    ∃ resolver ∈ answers, resolver command.record.requestType = some command.handle

/-- Where a version may begin, nothing else changes but the mark of the pass. -/
theorem Registry.same_of_opened {opened : Registry}
    (hopened : opened = registry ∨ opened = registry.bump) :
    opened.table = registry.table ∧ opened.resolver = registry.resolver ∧
      opened.offset = registry.offset ∧ opened.nextId = registry.nextId := by
  rcases hopened with rfl | rfl
  · exact ⟨rfl, rfl, rfl, rfl⟩
  · rw [Registry.bump]
    split <;> exact ⟨rfl, rfl, rfl, rfl⟩

theorem Registry.handlers_append_opened {opened : Registry}
    (hopened : opened = registry ∨ opened = registry.bump) (command : LiveCommand) :
    (opened.append command).table.handlers = registry.table.handlers ++ [command] := by
  simp only [Registry.append, (Registry.same_of_opened hopened).1, CommandTable.push]

theorem Registry.keep_same (registry : Registry) (position : Nat) (version : Option UInt64) :
    (registry.keep position version).offset = registry.offset ∧
      (registry.keep position version).version = registry.version ∧
      (registry.keep position version).changed = registry.changed ∧
      (registry.keep position version).resolver = registry.resolver := by
  cases version with
  | none => exact ⟨rfl, rfl, rfl, rfl⟩
  | some version => exact ⟨rfl, rfl, rfl, rfl⟩

theorem Registry.Move.sound (hmove : registry.Move answers next)
    (hsound : registry.Sound answers) : next.Sound answers := by
  cases hmove with
  | revise position version =>
      refine ⟨hsound.consistent.setVersion position version, hsound.attached, ?_⟩
      intro command hmem
      let view := fun command : LiveCommand => (command.record.requestType, command.handle)
      have hview : view command ∈ registry.table.handlers.map view := by
        rw [← CommandTable.map_handlers_setVersion (fun _ _ => rfl) _ position version]
        exact List.mem_map_of_mem hmem
      obtain ⟨old, hold, heq⟩ := List.mem_map.1 hview
      obtain ⟨hrequestType, hhandle⟩ := Prod.mk.inj heq
      rw [← hrequestType, ← hhandle]
      exact hsound.resolved old hold
  | @add opened command resolver hopened hresolver hhandle hnew =>
      obtain ⟨htable, hsame, -, -⟩ := Registry.same_of_opened hopened
      have hanswers := hsound.attached resolver hresolver
      refine ⟨?_, ?_, ?_⟩
      · simp only [Registry.append, htable]
        exact hsound.consistent.push hnew
      · simp only [Registry.append, hsame]
        exact hsound.attached
      · intro other hmem
        simp only [Registry.append, htable, CommandTable.push, List.mem_append,
          List.mem_singleton] at hmem
        rcases hmem with hmem | rfl
        · exact hsound.resolved other hmem
        · exact ⟨resolver, hanswers, hhandle⟩
  | consult hanswers =>
      refine ⟨hsound.consistent, ?_, hsound.resolved⟩
      rintro resolver ⟨⟩
      exact hanswers
  | start => exact ⟨hsound.consistent, hsound.attached, hsound.resolved⟩

/-- What holds at first and is kept by every move holds after any number of
them. -/
theorem Registry.moves_induction {P : Registry → Prop}
    (hmoves : Relation.ReflTransGen (Registry.Move answers) registry next)
    (hsound : registry.Sound answers) (hfirst : P registry)
    (hmove : ∀ {before after : Registry}, before.Sound answers → P before →
      before.Move answers after → P after) : next.Sound answers ∧ P next := by
  induction hmoves with
  | refl => exact ⟨hsound, hfirst⟩
  | tail _ hlast ih => exact ⟨hlast.sound ih.1, hmove ih.1 ih.2 hlast⟩

theorem Registry.sound_of_moves
    (hmoves : Relation.ReflTransGen (Registry.Move answers) registry next)
    (hsound : registry.Sound answers) : next.Sound answers :=
  (Registry.moves_induction (P := fun _ => True) hmoves hsound trivial fun _ _ _ => trivial).1

theorem Registry.settle_moves {opened : Registry} {name : String} {spec : CommandSpec}
    {admission : Admission} (hadmits : registry.Admits name spec admission)
    (hopened : opened = registry ∨ opened = registry.bump) (events : List Event) :
    Relation.ReflTransGen (Registry.Move answers) registry
      (registry.settle opened events name spec admission).after := by
  cases hadmits with
  | @known position command hlocate =>
      simp only [Registry.settle, Registry.succeed, Registry.keep]
      cases spec.version with
      | none => exact .refl
      | some version => exact .single (.revise position version)
  | @added id handle resolver hresolver hhandle hnew =>
      have hadd : registry.Move answers
          (opened.append (opened.newCommand name spec id handle)) :=
        .add hopened hresolver hhandle hnew
      exact .single hadd

theorem Registry.register_moves (hconsistent : registry.table.Consistent) (name : String)
    (spec : CommandSpec) :
    Relation.ReflTransGen (Registry.Move answers) registry
      (registry.register name spec).after := by
  unfold Registry.register
  cases hpassed : registry.assess name spec with
  | error error => exact .refl
  | ok admission =>
      exact Registry.settle_moves (Registry.admits_of_eq_ok hconsistent hpassed) (.inr rfl) _

/-- A command that is let in as a new one is found under its name. -/
theorem Registry.Sound.get?_register_of_added (hsound : registry.Sound answers) {name : String}
    {spec : CommandSpec} {id : UInt64} {handle : TypeHandle}
    (hpassed : registry.assess name spec = .ok (.added id handle)) :
    (registry.register name spec).after.get? name =
      some (registry.bump.newCommand name spec id handle) := by
  have hafter : (registry.register name spec).after =
      registry.bump.append (registry.bump.newCommand name spec id handle) := by
    simp only [Registry.register, hpassed, Registry.settle]
  have hmem : registry.bump.newCommand name spec id handle ∈
      (registry.register name spec).after.table.handlers := by
    rw [hafter, Registry.handlers_append_opened (.inr rfl)]
    exact List.mem_append_right _ (List.mem_singleton_self _)
  have hlater : (registry.register name spec).after.Sound answers :=
    Registry.sound_of_moves (Registry.register_moves hsound.consistent name spec) hsound
  exact hlater.consistent.get?_eq_some_iff.2 ⟨hmem, rfl⟩

theorem Registry.restore_moves (hconsistent : registry.table.Consistent)
    (record : CommandRecord) :
    Relation.ReflTransGen (Registry.Move answers) registry (registry.restore record).after := by
  unfold Registry.restore
  cases hpassed : registry.assess record.name record.spec with
  | error error => exact .refl
  | ok admission =>
      exact Registry.settle_moves (Registry.admits_of_eq_ok hconsistent hpassed) (.inl rfl) _

theorem Registry.restoreAll_moves (hsound : registry.Sound answers)
    (records : List CommandRecord) :
    Relation.ReflTransGen (Registry.Move answers) registry (registry.restoreAll records).after := by
  induction records generalizing registry with
  | nil => exact .refl
  | cons record rest ih =>
      have hmoves : Relation.ReflTransGen (Registry.Move answers) registry
          (registry.restore record).after := Registry.restore_moves hsound.consistent record
      rw [Registry.restoreAll, Attempt.andThen]
      split
      · exact hmoves
      · exact hmoves.trans (ih (Registry.sound_of_moves hmoves hsound))

theorem Registry.attach_moves {resolver : Resolver} (hanswers : resolver ∈ answers) :
    Relation.ReflTransGen (Registry.Move answers) registry (registry.attach resolver).after := by
  unfold Registry.attach
  split
  · exact .refl
  · exact .single (.consult hanswers)

/-- A rebuild fails and leaves the registry as it was, or succeeds and leaves it as
the pass has made it. -/
theorem Registry.rebuild_cases (registry : Registry) (options : RegistryOptions)
    (pass : Registry → Attempt Unit) :
    (∃ error, (registry.rebuild options pass).result = .error error ∧
      (registry.rebuild options pass).after = registry) ∨
    ((registry.rebuild options pass).result = .ok (pass registry.working).after.snapshot ∧
      (registry.rebuild options pass).after = (pass registry.working).after) := by
  unfold Registry.rebuild
  split
  · exact .inl ⟨_, rfl, rfl⟩
  · dsimp only
    split
    · exact .inl ⟨_, rfl, rfl⟩
    · exact .inr ⟨rfl, rfl⟩

theorem Registry.rebuild_of_error {options : RegistryOptions} {pass : Registry → Attempt Unit}
    {error : DispatchError} (hfailed : (registry.rebuild options pass).result = .error error) :
    (registry.rebuild options pass).after = registry := by
  rcases Registry.rebuild_cases registry options pass with ⟨-, -, hafter⟩ | ⟨hresult, -⟩
  · exact hafter
  · rw [hfailed] at hresult
    contradiction

theorem Registry.rebuild_of_ok {options : RegistryOptions} {pass : Registry → Attempt Unit}
    {snapshot : Snapshot} (hsucceeded : (registry.rebuild options pass).result = .ok snapshot) :
    (registry.rebuild options pass).after = (pass registry.working).after ∧
      snapshot = (pass registry.working).after.snapshot := by
  rcases Registry.rebuild_cases registry options pass with ⟨_, hresult, -⟩ | ⟨hresult, hafter⟩
  · rw [hsucceeded] at hresult
    contradiction
  · exact ⟨hafter, Except.ok.inj (hsucceeded.symm.trans hresult)⟩

theorem Registry.rebuild_after (registry : Registry) (options : RegistryOptions)
    (pass : Registry → Attempt Unit) :
    (registry.rebuild options pass).after = registry ∨
      (registry.rebuild options pass).after = (pass registry.working).after :=
  (Registry.rebuild_cases registry options pass).imp (fun ⟨_, _, hafter⟩ => hafter) And.right

theorem Registry.replay_of_hydrate {snapshot : Snapshot} {options : RegistryOptions}
    {resolver : Resolver} {opened : Registry}
    (hopened : (Registry.hydrate snapshot options resolver).result = .ok opened) :
    ((Registry.forSnapshot snapshot resolver).restoreAll snapshot.handlers).result = .ok () ∧
      opened =
        ((Registry.forSnapshot snapshot resolver).restoreAll snapshot.handlers).after := by
  unfold Registry.hydrate at hopened
  split at hopened
  · contradiction
  · dsimp only at hopened
    split at hopened
    · contradiction
    · rename_i hreplayed
      exact ⟨hreplayed, (Except.ok.inj hopened).symm⟩

end CommandRegistry
