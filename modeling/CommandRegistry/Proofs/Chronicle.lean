/-
Calls and what they keep.  A call that fails keeps nothing, and a pass keeps what its
calls have kept if its rebuild succeeds; so the log of a registry holds the
registrations that have come to stay, in their order.
-/
import CommandRegistry.Proofs.Evolution

namespace CommandRegistry

/-- A registration that was carried out.  `opens` tells whether a version began
with it. -/
structure Registration where
  name : String
  spec : CommandSpec
  opens : Bool

/-- A registration as it would go into the log. -/
def Registry.registration (registry : Registry) (name : String) (spec : CommandSpec) :
    Registration :=
  ⟨name, spec, !registry.changed && (registry.get? name).isNone⟩

/-- What stays of a log once the attempt that it belongs to has ended. -/
def Attempt.kept (attempt : Attempt α) (log : List Registration) : List Registration :=
  match attempt.result with
  | .ok _ => log
  | .error _ => []

/-- A call other than a rebuild.  Between two calls an attached resolver may drift:
where `drifts` allows it, it answers otherwise from then on. -/
inductive Registry.Call (drifts : Resolver → Resolver → Prop) (registry : Registry) :
    List Registration → Registry → Prop
  | register (name : String) (spec : CommandSpec) :
      Call drifts registry
        ((registry.register name spec).kept [registry.registration name spec])
        (registry.register name spec).after
  | registerIn (space name : String) (spec : CommandSpec) :
      Call drifts registry
        ((registry.registerIn space name spec).kept
          [registry.registration (qualify space name) spec])
        (registry.registerIn space name spec).after
  | attach (resolver : Resolver) : Call drifts registry [] (registry.attach resolver).after
  | drift {old new : Resolver} (hattached : registry.resolver = some old)
      (hdrifts : drifts old new) :
      Call drifts registry [] { registry with resolver := some new }

/-- A sequence of calls with its log.  Rebuilds are nested at most `depth` deep, and
a pass is any function whose work on its registry is such a sequence, however it
ends. -/
inductive Registry.Chronicle (drifts : Resolver → Resolver → Prop) :
    Nat → Registry → List Registration → Registry → Prop
  | refl (depth : Nat) (registry : Registry) : Chronicle drifts depth registry [] registry
  | call {depth : Nat} {first registry next : Registry} {log entries : List Registration}
      (hbefore : Chronicle drifts depth first log registry)
      (hcall : registry.Call drifts entries next) :
      Chronicle drifts depth first (log ++ entries) next
  | rebuild {depth : Nat} {first registry : Registry} {log inner : List Registration}
      (hbefore : Chronicle drifts (depth + 1) first log registry)
      (options : RegistryOptions) (pass : Registry → Attempt Unit)
      (hpass : Chronicle drifts depth registry.working inner (pass registry.working).after) :
      Chronicle drifts (depth + 1) first
        (log ++ (registry.rebuild options pass).kept inner)
        (registry.rebuild options pass).after

variable {drifts : Resolver → Resolver → Prop} {depth : Nat}
  {first registry next last : Registry} {log entries : List Registration}

/-- All that a call can do to a registry. -/
inductive Registry.Effect (drifts : Resolver → Resolver → Prop) (registry : Registry) :
    List Registration → Registry → Prop
  | none : Effect drifts registry [] registry
  | known {name : String} {spec : CommandSpec} {position : Nat} {command : LiveCommand}
      (hlocate : registry.table.locate? name = some (position, command)) :
      Effect drifts registry [⟨name, spec, false⟩] (registry.keep position spec.version)
  | added {name : String} {spec : CommandSpec} {id : UInt64} {handle : TypeHandle}
      {resolver : Resolver} (hresolver : registry.resolver = some resolver)
      (hhandle : resolver spec.requestType = some handle)
      (hnew : registry.table.Lacks name id) :
      Effect drifts registry [⟨name, spec, !registry.changed⟩]
        (registry.bump.append (registry.bump.newCommand name spec id handle))
  | attached {resolver : Resolver} (hdetached : registry.resolver = Option.none) :
      Effect drifts registry [] { registry with resolver := some resolver }
  | drifted {old new : Resolver} (hattached : registry.resolver = some old)
      (hdrifts : drifts old new) :
      Effect drifts registry [] { registry with resolver := some new }

theorem Registry.register_effect (hconsistent : registry.table.Consistent) (name : String)
    (spec : CommandSpec) :
    registry.Effect drifts ((registry.register name spec).kept [registry.registration name spec])
      (registry.register name spec).after := by
  unfold Registry.register
  cases hpassed : registry.assess name spec with
  | error error => exact .none
  | ok admission =>
      cases Registry.admits_of_eq_ok hconsistent hpassed with
      | known hlocate =>
          have hget : registry.get? name = some _ := CommandTable.get?_of_locate? hlocate
          have hentry : registry.registration name spec = ⟨name, spec, false⟩ := by
            simp only [Registry.registration, hget, Option.isNone_some, Bool.and_false]
          rw [hentry]
          exact .known hlocate
      | added hresolver hhandle hnew =>
          have hget : registry.get? name = none := by
            rw [Registry.get?, CommandTable.get?, hnew.name, Option.bind_none]
          have hentry : registry.registration name spec = ⟨name, spec, !registry.changed⟩ := by
            simp only [Registry.registration, hget, Option.isNone_none, Bool.and_true]
          rw [hentry]
          exact .added hresolver hhandle hnew

theorem Registry.Call.effect (hcall : registry.Call drifts entries next)
    (hconsistent : registry.table.Consistent) : registry.Effect drifts entries next := by
  cases hcall with
  | register name spec => exact Registry.register_effect hconsistent name spec
  | registerIn space name spec =>
      exact Registry.register_effect hconsistent (qualify space name) spec
  | attach resolver =>
      unfold Registry.attach
      split
      · exact .none
      · rename_i hdetached
        exact .attached hdetached
  | drift hattached hdrifts => exact .drifted hattached hdrifts

theorem Registry.Chronicle.evolves (hchronicle : first.Chronicle drifts depth log last) :
    first.Evolves Set.univ last := by
  induction hchronicle with
  | refl _ registry => exact .refl registry
  | call _ hcall ih =>
      cases hcall with
      | register name spec => exact .register ih name spec
      | registerIn space name spec => exact .registerIn ih space name spec
      | attach resolver => exact .attach ih (Set.mem_univ resolver)
      | drift hattached hdrifts =>
          exact .consult ih (Set.mem_univ _) (Option.isSome_of_mem hattached)
  | rebuild _ options pass _ ih ihpass => exact .rebuild ih options pass ihpass

theorem Registry.sound_univ (hconsistent : registry.table.Consistent) :
    registry.Sound Set.univ :=
  ⟨hconsistent, fun _ _ => Set.mem_univ _,
    fun command _ => ⟨fun _ => some command.handle, Set.mem_univ _, rfl⟩⟩

theorem Registry.Chronicle.consistent (hchronicle : first.Chronicle drifts depth log last)
    (hconsistent : first.table.Consistent) : last.table.Consistent :=
  (hchronicle.evolves.sound (Registry.sound_univ hconsistent)).consistent

/-- A rebuild carries on from what was before it with what its pass has kept. -/
theorem Registry.rebuild_kept {P : Registry → List Registration → Registry → Prop}
    {inner : List Registration} {options : RegistryOptions} {pass : Registry → Attempt Unit}
    (hbefore : P first log registry)
    (hpass : P registry.working inner (pass registry.working).after)
    (htrans : ∀ {first registry last : Registry} {log entries : List Registration},
      P first log registry → P registry entries last → P first (log ++ entries) last)
    (hworking : ∀ {registry last : Registry} {log : List Registration},
      P registry.working log last → P registry log last) :
    P first (log ++ (registry.rebuild options pass).kept inner)
      (registry.rebuild options pass).after := by
  cases hresult : (registry.rebuild options pass).result with
  | error error =>
      have hkept : (registry.rebuild options pass).kept inner = [] := by
        rw [Attempt.kept, hresult]
      rw [Registry.rebuild_of_error hresult, hkept, List.append_nil]
      exact hbefore
  | ok snapshot =>
      have hkept : (registry.rebuild options pass).kept inner = inner := by
        rw [Attempt.kept, hresult]
      rw [(Registry.rebuild_of_ok hresult).1, hkept]
      exact htrans hbefore (hworking hpass)

/-- What holds of no call and of every effect, and carries over from one sequence to
the next, holds of every chronicle.  A pass counts from its working copy. -/
theorem Registry.Chronicle.induction {P : Registry → List Registration → Registry → Prop}
    (hchronicle : first.Chronicle drifts depth log last)
    (hconsistent : first.table.Consistent) (hrefl : ∀ registry, P registry [] registry)
    (htrans : ∀ {first registry last : Registry} {log entries : List Registration},
      P first log registry → P registry entries last → P first (log ++ entries) last)
    (heffect : ∀ {registry next : Registry} {entries : List Registration},
      registry.table.Consistent → registry.Effect drifts entries next →
        P registry entries next)
    (hworking : ∀ {registry last : Registry} {log : List Registration},
      P registry.working log last → P registry log last) : P first log last := by
  induction hchronicle with
  | refl _ registry => exact hrefl registry
  | call hbefore hcall ih =>
      have hcurrent := hbefore.consistent hconsistent
      exact htrans (ih hconsistent) (heffect hcurrent (hcall.effect hcurrent))
  | rebuild hbefore _ _ _ ih ihpass =>
      have hcurrent := hbefore.consistent hconsistent
      exact Registry.rebuild_kept (ih hconsistent) (ihpass hcurrent) htrans hworking

end CommandRegistry
