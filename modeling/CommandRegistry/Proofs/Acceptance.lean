/-
What a replay accepts and what it leaves.  Each record binds an id and a name to the
handle of its request type, and a replay goes through if all these bindings agree with
each other; the bindings of the table it leaves are those of the records.
-/
import CommandRegistry.Proofs.Bindings
import CommandRegistry.Proofs.Replay
import Mathlib.Data.List.Pairwise

namespace CommandRegistry

variable {registry : Registry} {resolver : Resolver} {record : CommandRecord}
  {handle : TypeHandle} {binding other kept : Binding}

theorem TypeHandle.same_iff {left right : TypeHandle} :
    left.same right = true ↔
      ∃ place, left.identity = .kept place ∧ right.identity = .kept place := by
  unfold TypeHandle.same
  cases left.identity with
  | unique => simp
  | kept place =>
      cases right.identity with
      | unique => simp
      | kept other => simp [eq_comm]

theorem TypeHandle.same_symm {left right : TypeHandle} (hsame : left.same right = true) :
    right.same left = true := by
  obtain ⟨place, hleft, hright⟩ := TypeHandle.same_iff.1 hsame
  exact TypeHandle.same_iff.2 ⟨place, hright, hleft⟩

theorem TypeHandle.same_trans {left middle right : TypeHandle}
    (hfirst : left.same middle = true) (hlast : middle.same right = true) :
    left.same right = true := by
  obtain ⟨place, hleft, hmiddle⟩ := TypeHandle.same_iff.1 hfirst
  obtain ⟨other, hother, hright⟩ := TypeHandle.same_iff.1 hlast
  rw [hmiddle, HandleIdentity.kept.injEq] at hother
  exact TypeHandle.same_iff.2 ⟨place, hleft, hother ▸ hright⟩

/-- Handles that are the same are one handle, so that a definition that a resolver keeps
is known by its identity alone, under whatever names it is given out. -/
def Resolver.Coherent (resolver : Resolver) : Prop :=
  ∀ name other left right, resolver name = some left → resolver other = some right →
    left.same right = true → left = right

/-- At one place of a schema is one layout. -/
theorem Schema.resolver_coherent (schema : Schema) : schema.resolver.Coherent := by
  intro name other left right hleft hright hsame
  obtain ⟨place, layout, hplace, hfind, rfl⟩ := Schema.resolver_eq_some_iff.1 hleft
  obtain ⟨otherPlace, otherLayout, hother, hotherFind, rfl⟩ :=
    Schema.resolver_eq_some_iff.1 hright
  obtain rfl : place = otherPlace := of_decide_eq_true hsame
  rw [Schema.find?_of_place? hplace] at hfind
  rw [Schema.find?_of_place? hother, hfind, Option.some.injEq] at hotherFind
  rw [hotherFind]

/-- A registration cannot tell the two apart. -/
structure Binding.Alike (binding other : Binding) : Prop where
  id : binding.id = other.id
  name : binding.name = other.name
  handle : binding.handle.same other.handle = true

/-- Bindings that have a place in one table: they are alike, or share neither id nor
name. -/
def Binding.Agrees (binding other : Binding) : Prop :=
  binding.id = other.id ∨ binding.name = other.name → binding.Alike other

theorem Binding.Alike.symm (halike : binding.Alike other) : other.Alike binding :=
  ⟨halike.id.symm, halike.name.symm, TypeHandle.same_symm halike.handle⟩

theorem Binding.Alike.trans (hfirst : binding.Alike other) (hlast : other.Alike kept) :
    binding.Alike kept :=
  ⟨hfirst.id.trans hlast.id, hfirst.name.trans hlast.name,
    TypeHandle.same_trans hfirst.handle hlast.handle⟩

theorem Binding.Agrees.symm (hagrees : binding.Agrees other) : other.Agrees binding := by
  intro hshared
  exact (hagrees (hshared.imp Eq.symm Eq.symm)).symm

instance : Std.Symm Binding.Agrees :=
  ⟨fun _ _ => Binding.Agrees.symm⟩

theorem Binding.Agrees.of_alike (hagrees : kept.Agrees other) (halike : kept.Alike binding) :
    binding.Agrees other := by
  intro hshared
  exact halike.symm.trans (hagrees (hshared.imp halike.id.trans halike.name.trans))

theorem Binding.agrees_of_differ (hid : binding.id ≠ other.id) (hname : binding.name ≠ other.name) :
    binding.Agrees other :=
  fun hshared => (hshared.elim hid hname).elim

/-- A binding that is there already adds no demand. -/
theorem Binding.pairwise_repeat {front back : List Binding} (hmem : kept ∈ front)
    (halike : kept.Alike binding) :
    (front ++ binding :: back).Pairwise Binding.Agrees ↔
      (front ++ back).Pairwise Binding.Agrees := by
  constructor
  · intro hall
    exact hall.sublist ((List.sublist_cons_self binding back).append_left front)
  · intro hall
    obtain ⟨hfront, hback, hcross⟩ := List.pairwise_append.1 hall
    have hahead : ∀ other ∈ front, other.Agrees binding := by
      intro other hother
      by_cases hsame : kept = other
      · exact fun _ => hsame ▸ halike
      · have hagrees := hfront.forall hmem hother hsame
        exact (hagrees.of_alike halike).symm
    have hbehind : ∀ other ∈ back, binding.Agrees other :=
      fun other hother => (hcross kept hmem other hother).of_alike halike
    refine List.pairwise_append.2 ⟨hfront, List.pairwise_cons.2 ⟨hbehind, hback⟩, ?_⟩
    intro first hfirst second hsecond
    rcases List.mem_cons.1 hsecond with rfl | hsecond
    · exact hahead first hfirst
    · exact hcross first hfirst second hsecond

/-- What a record binds, if its request type is known. -/
def Resolver.binding? (resolver : Resolver) (record : CommandRecord) : Option Binding :=
  (resolver record.requestType).map fun handle => ⟨record.id, record.name, handle⟩

/-- All that a list of records binds. -/
def Resolver.bindings (resolver : Resolver) (records : List CommandRecord) : List Binding :=
  records.filterMap resolver.binding?

/-- A record is refused if it clashes with a command of the table; otherwise it is
there already and sets the version, or it is appended. -/
inductive Registry.Replays (registry : Registry) (command : LiveCommand) :
    Attempt UInt64 → Prop
  | refused {error : DispatchError} {clash : LiveCommand}
      (hmem : clash ∈ registry.table.handlers)
      (hclash : ¬clash.binding.Agrees command.binding) :
      Replays registry command (registry.fail error)
  | known {position : Nat} {kept : LiveCommand}
      (hmem : kept ∈ registry.table.handlers) (halike : kept.binding.Alike command.binding) :
      Replays registry command
        ((registry.keep position (some command.record.version)).succeed kept.id)
  | added (hnew : registry.table.Lacks command.name command.id) :
      Replays registry command ⟨.ok command.id, registry.append command, [command.registered]⟩

theorem Registry.restore_of_refused
    (hrefused : ∀ admission, registry.assess record.name record.spec ≠ .ok admission) :
    ∃ error, registry.restore record = registry.fail error := by
  cases hpassed : registry.assess record.name record.spec with
  | error error => exact ⟨error, by simp only [Registry.restore, hpassed]⟩
  | ok admission => exact absurd hpassed (hrefused admission)

theorem Registry.restore_replays (hconsistent : registry.table.Consistent)
    {command : LiveCommand} (hresolver : registry.resolver = some resolver)
    (hhandle : resolver command.record.requestType = some command.handle) :
    registry.Replays command (registry.restore command.record) := by
  cases hlocate : registry.table.locate? command.record.name with
  | some found =>
      obtain ⟨position, kept⟩ := found
      obtain ⟨hmem, hname⟩ :=
        hconsistent.get?_eq_some_iff.1 (CommandTable.get?_of_locate? hlocate)
      have hadmitted : ∀ admission,
          registry.assess command.record.name command.record.spec = .ok admission ↔
            kept.id = command.id ∧ kept.handle.same command.handle = true ∧
              admission = .known position kept :=
        fun admission => Registry.assess_of_known hconsistent hresolver hhandle hlocate rfl
      by_cases halike : kept.binding.Alike command.binding
      · have hpassed := (hadmitted _).2 ⟨halike.id, halike.handle, rfl⟩
        have hrestored : registry.restore command.record =
            (registry.keep position (some command.record.version)).succeed kept.id := by
          simp only [Registry.restore, hpassed]
          rfl
        exact hrestored ▸ .known hmem halike
      · have hrefused : ∀ admission,
            registry.assess command.record.name command.record.spec ≠ .ok admission := by
          intro admission hpassed
          obtain ⟨hid, hsame, -⟩ := (hadmitted admission).1 hpassed
          exact halike ⟨hid, hname, hsame⟩
        obtain ⟨error, hrestored⟩ := Registry.restore_of_refused hrefused
        exact hrestored ▸ .refused hmem fun hagrees => halike (hagrees (.inr hname))
  | none =>
      have hname := hconsistent.find?_of_locate?_eq_none hlocate
      cases howner : registry.table.byId.find? command.id with
      | none =>
          rw [Registry.restore_of_new hresolver hhandle ⟨hname, howner⟩]
          exact .added ⟨hname, howner⟩
      | some owner =>
          have htaken := (hconsistent.byId.find?_iff command.id owner).1 howner
          obtain ⟨kept, hmem, hid⟩ := List.mem_map.1 (List.mem_of_getElem? htaken)
          obtain ⟨error, hrestored⟩ := Registry.restore_of_refused fun admission hpassed => by
            have hfree : registry.table.byId.find? command.id = none :=
              Registry.checkId_of_new hname (Registry.checkId_of_assess hpassed)
            rw [howner] at hfree
            contradiction
          refine hrestored ▸ .refused hmem ?_
          intro hagrees
          have hkept : kept.name = command.name := (hagrees (.inl hid)).name
          have hlisted : command.name ∈ registry.table.handlers.map LiveCommand.name :=
            List.mem_map.2 ⟨kept, hmem, hkept⟩
          exact (hconsistent.byName.find?_eq_none_iff _).1 hname hlisted

theorem CommandTable.Consistent.bindings_agree {table : CommandTable}
    (hconsistent : table.Consistent) : table.bindings.Pairwise Binding.Agrees := by
  have hids := List.pairwise_map.1 hconsistent.byId.nodup
  have hnames := List.pairwise_map.1 hconsistent.byName.nodup
  refine List.pairwise_map.2 ((hids.and hnames).imp ?_)
  rintro first second ⟨hid, hname⟩
  exact Binding.agrees_of_differ hid hname

theorem CommandTable.bindings_push (table : CommandTable) (command : LiveCommand) :
    (table.push command).bindings = table.bindings ++ [command.binding] := by
  simp only [CommandTable.bindings, CommandTable.push, List.map_append, List.map_cons,
    List.map_nil]

theorem Resolver.bindings_cons (hhandle : resolver record.requestType = some handle)
    (rest : List CommandRecord) :
    resolver.bindings (record :: rest) =
      ⟨record.id, record.name, handle⟩ :: resolver.bindings rest := by
  have hbinding : resolver.binding? record = some ⟨record.id, record.name, handle⟩ := by
    rw [Resolver.binding?, hhandle, Option.map_some]
  exact List.filterMap_cons_some hbinding

/-- One record is brought back exactly if its binding agrees with those of the table, and
from then on it counts among them. -/
theorem Registry.restore_agrees (hconsistent : registry.table.Consistent)
    (hresolver : registry.resolver = some resolver)
    (hhandle : resolver record.requestType = some handle) (back : List Binding) :
    ((∃ id, (registry.restore record).result = .ok id) ∧
        ((registry.restore record).after.table.bindings ++ back).Pairwise Binding.Agrees) ↔
      (registry.table.bindings ++ ⟨record.id, record.name, handle⟩ :: back).Pairwise
        Binding.Agrees := by
  let command : LiveCommand := ⟨record, handle⟩
  have hreplays : registry.Replays command (registry.restore record) :=
    Registry.restore_replays hconsistent hresolver hhandle
  generalize registry.restore record = attempt at hreplays ⊢
  cases hreplays with
  | refused hmem hclash =>
      refine iff_of_false ?_ ?_
      · rintro ⟨⟨_, hresult⟩, -⟩
        contradiction
      · intro hall
        obtain ⟨-, -, hcross⟩ := List.pairwise_append.1 hall
        exact hclash (hcross _ (List.mem_map_of_mem hmem) _ List.mem_cons_self)
  | @known position kept hmem halike =>
      have hthere : kept.binding ∈ registry.table.bindings := List.mem_map_of_mem hmem
      have hsame : (registry.keep position (some record.version)).table.bindings =
          registry.table.bindings := registry.table.bindings_setVersion position record.version
      refine (and_iff_right ⟨kept.id, rfl⟩).trans ?_
      rw [Registry.succeed, hsame]
      exact (Binding.pairwise_repeat hthere halike).symm
  | added hnew =>
      have happended : (registry.append command).table.bindings =
          registry.table.bindings ++ [command.binding] := registry.table.bindings_push command
      refine (and_iff_right ⟨command.id, rfl⟩).trans ?_
      rw [happended, List.append_assoc]
      rfl

/-- A replay goes through exactly if all request types are known and all bindings, those
of the table included, agree with each other. -/
theorem Registry.restoreAll_eq_ok_iff (hsound : registry.Sound {resolver})
    (hresolver : registry.resolver = some resolver) (records : List CommandRecord) :
    (registry.restoreAll records).result = .ok () ↔
      (∀ record ∈ records, ∃ handle, resolver record.requestType = some handle) ∧
        (registry.table.bindings ++ resolver.bindings records).Pairwise Binding.Agrees := by
  induction records generalizing registry with
  | nil =>
      have hagree := hsound.consistent.bindings_agree
      rw [← List.append_nil registry.table.bindings] at hagree
      exact iff_of_true rfl ⟨by simp, hagree⟩
  | cons record rest ih =>
      have hafter := Registry.sound_of_moves
        (Registry.restore_moves hsound.consistent record) hsound
      have hattached := (registry.restore_same record).2.2.2.trans hresolver
      rw [Registry.restoreAll_cons_eq_ok_iff, ih hafter hattached, List.forall_mem_cons]
      cases hhandle : resolver record.requestType with
      | none =>
          refine iff_of_false ?_ (by simp)
          rintro ⟨⟨id, hrestored⟩, -⟩
          obtain ⟨handle, hfound⟩ := Registry.handle_of_restore hresolver hrestored
          rw [hhandle] at hfound
          contradiction
      | some handle =>
          have hfirst : ∃ found, some handle = some found := ⟨handle, rfl⟩
          rw [and_iff_right hfirst, and_left_comm, Resolver.bindings_cons hhandle rest,
            Registry.restore_agrees hsound.consistent hresolver hhandle]

/-- Where handles that are the same are one handle, a record that is brought back leaves the
bindings that were there and its own. -/
theorem Registry.mem_bindings_restore (hcoherent : resolver.Coherent)
    (hsound : registry.Sound {resolver}) (hresolver : registry.resolver = some resolver)
    (hhandle : resolver record.requestType = some handle) {id : UInt64}
    (hrestored : (registry.restore record).result = .ok id) (binding : Binding) :
    binding ∈ (registry.restore record).after.table.bindings ↔
      binding ∈ registry.table.bindings ∨ binding = ⟨record.id, record.name, handle⟩ := by
  let command : LiveCommand := ⟨record, handle⟩
  have hreplays : registry.Replays command (registry.restore record) :=
    Registry.restore_replays hsound.consistent hresolver hhandle
  generalize registry.restore record = attempt at hreplays hrestored ⊢
  cases hreplays with
  | refused => contradiction
  | @known position kept hmem halike =>
      obtain ⟨asked, rfl, hanswer⟩ := hsound.resolved kept hmem
      have hid : kept.id = record.id := halike.id
      have hname : kept.name = record.name := halike.name
      have hone : kept.handle = handle := hcoherent _ _ _ _ hanswer hhandle halike.handle
      have hrepeats : kept.binding = ⟨record.id, record.name, handle⟩ := by
        rw [LiveCommand.binding, hid, hname, hone]
      have hthere : kept.binding ∈ registry.table.bindings := List.mem_map_of_mem hmem
      have hsame : (registry.keep position (some record.version)).table.bindings =
          registry.table.bindings := registry.table.bindings_setVersion position record.version
      rw [Registry.succeed, hsame, ← hrepeats]
      refine (or_iff_left_of_imp ?_).symm
      rintro rfl
      exact hthere
  | added hnew =>
      have happended : (registry.append command).table.bindings =
          registry.table.bindings ++ [command.binding] := registry.table.bindings_push command
      rw [happended, List.mem_append, List.mem_singleton]
      rfl

/-- A replay that goes through leaves the bindings that were there and those of its records,
and no others. -/
theorem Registry.mem_bindings_restoreAll (hcoherent : resolver.Coherent)
    (hsound : registry.Sound {resolver}) (hresolver : registry.resolver = some resolver)
    {records : List CommandRecord} (hreplayed : (registry.restoreAll records).result = .ok ()) :
    ∀ binding, binding ∈ (registry.restoreAll records).after.table.bindings ↔
      binding ∈ registry.table.bindings ∨ binding ∈ resolver.bindings records := by
  induction records generalizing registry with
  | nil => simp [Registry.restoreAll, Registry.succeed, Resolver.bindings]
  | cons record rest ih =>
      intro binding
      obtain ⟨⟨id, hrestored⟩, hrest⟩ := Registry.restoreAll_cons_eq_ok_iff.1 hreplayed
      obtain ⟨handle, hhandle⟩ := Registry.handle_of_restore hresolver hrestored
      have hafter := Registry.sound_of_moves
        (Registry.restore_moves hsound.consistent record) hsound
      have hattached := (registry.restore_same record).2.2.2.trans hresolver
      rw [Registry.restoreAll_cons_after hrestored, ih hafter hattached hrest,
        Registry.mem_bindings_restore hcoherent hsound hresolver hhandle hrestored,
        Resolver.bindings_cons hhandle rest, List.mem_cons, or_assoc]

/-- A snapshot is read exactly if its offset is the one asked for, all its request types
are known and its bindings agree. -/
theorem Registry.hydrate_eq_ok_iff {snapshot : Snapshot} {options : RegistryOptions} :
    (∃ opened, (Registry.hydrate snapshot options resolver).result = .ok opened) ↔
      checkOffset snapshot.offset options = .ok () ∧
      (∀ record ∈ snapshot.handlers, ∃ handle, resolver record.requestType = some handle) ∧
      (resolver.bindings snapshot.handlers).Pairwise Binding.Agrees := by
  have hsound := Registry.sound_forSnapshot (Set.mem_singleton resolver) snapshot
  have hreplay : ((Registry.forSnapshot snapshot resolver).restoreAll
      snapshot.handlers).result = .ok () ↔
        (∀ record ∈ snapshot.handlers, ∃ handle, resolver record.requestType = some handle) ∧
          ([] ++ resolver.bindings snapshot.handlers).Pairwise Binding.Agrees :=
    Registry.restoreAll_eq_ok_iff hsound rfl snapshot.handlers
  rw [List.nil_append] at hreplay
  rw [← hreplay]
  constructor
  · rintro ⟨opened, hopened⟩
    refine ⟨?_, (Registry.replay_of_hydrate hopened).1⟩
    unfold Registry.hydrate at hopened
    split at hopened
    · contradiction
    · assumption
  · rintro ⟨hchecked, hreplayed⟩
    simp only [Registry.hydrate, hchecked, hreplayed]
    exact ⟨_, rfl⟩

theorem Registry.mem_bindings_hydrate (hcoherent : resolver.Coherent) {snapshot : Snapshot}
    {options : RegistryOptions} {opened : Registry}
    (hopened : (Registry.hydrate snapshot options resolver).result = .ok opened)
    (binding : Binding) :
    binding ∈ opened.table.bindings ↔ binding ∈ resolver.bindings snapshot.handlers := by
  obtain ⟨hreplayed, rfl⟩ := Registry.replay_of_hydrate hopened
  have hsound := Registry.sound_forSnapshot (Set.mem_singleton resolver) snapshot
  rw [Registry.mem_bindings_restoreAll hcoherent hsound rfl hreplayed]
  exact or_iff_right List.not_mem_nil

end CommandRegistry
