/-
What reading a snapshot comes to, whatever records it has.  The records of one name make
one command, which stands where the first of them stands and has the version of the last;
and the first record that does not go with those before it gives the error.
-/
import CommandRegistry.Proofs.RecordOrder
import CommandRegistry.Proofs.RegistrationOutcome
import CommandRegistry.Proofs.RestartTransparency
import Mathlib.Data.List.Induction

namespace CommandRegistry

variable {registry : Registry} {resolver : Resolver} {record : CommandRecord}
  {records front : List CommandRecord} {snapshot : Snapshot} {options : RegistryOptions}
  {opened : Registry} {error : DispatchError} {name : String}

/-- The first record of every name. -/
def firsts : List CommandRecord → List CommandRecord
  | [] => []
  | record :: rest => record :: (firsts rest).filter fun other => other.name ≠ record.name

/-- The version of the last record of a name. -/
def lastVersion? (records : List CommandRecord) (name : String) : Option UInt64 :=
  (records.reverse.find? fun record => record.name = name).map CommandRecord.version

/-- A record with the version that the last record of its name has. -/
def CommandRecord.latest (records : List CommandRecord) (record : CommandRecord) :
    CommandRecord :=
  { record with version := (lastVersion? records record.name).getD record.version }

/-- A record after another one has come, which may have its name. -/
def CommandRecord.updated (later record : CommandRecord) : CommandRecord :=
  if later.name = record.name then { record with version := later.version } else record

theorem lastVersion?_concat (front : List CommandRecord) (record : CommandRecord)
    (name : String) :
    lastVersion? (front ++ [record]) name =
      if record.name = name then some record.version else lastVersion? front name := by
  rw [lastVersion?, List.reverse_concat, List.find?_cons]
  by_cases hname : record.name = name
  · simp only [hname, decide_true, Option.map_some, if_true]
  · simp only [hname, decide_false, if_false, lastVersion?]

theorem mem_names_firsts : name ∈ (firsts records).map CommandRecord.name ↔
    name ∈ records.map CommandRecord.name := by
  induction records with
  | nil => rfl
  | cons record rest ih =>
      rw [firsts, List.map_cons, List.map_cons, List.mem_cons, List.mem_cons]
      by_cases hname : name = record.name
      · simp only [hname, true_or]
      · rw [← ih]
        simp only [hname, false_or, List.mem_map, List.mem_filter, decide_eq_true_eq]
        constructor
        · rintro ⟨other, ⟨hmem, -⟩, rfl⟩
          exact ⟨other, hmem, rfl⟩
        · rintro ⟨other, hmem, rfl⟩
          exact ⟨other, ⟨hmem, hname⟩, rfl⟩

theorem mem_of_mem_firsts (hmem : record ∈ firsts records) : record ∈ records := by
  induction records with
  | nil => exact hmem
  | cons head rest ih =>
      rw [firsts, List.mem_cons] at hmem
      rcases hmem with rfl | hmem
      · exact List.mem_cons_self
      · exact List.mem_cons_of_mem head (ih (List.mem_of_mem_filter hmem))

theorem names_firsts_nodup (records : List CommandRecord) :
    ((firsts records).map CommandRecord.name).Nodup := by
  induction records with
  | nil => exact List.nodup_nil
  | cons record rest ih =>
      rw [firsts, List.map_cons, List.nodup_cons]
      constructor
      · simp only [List.mem_map, List.mem_filter, decide_eq_true_eq]
        rintro ⟨other, ⟨-, hother⟩, hname⟩
        exact hother hname
      · exact ih.sublist (List.filter_sublist.map _)

theorem firsts_of_nodup (hnames : (records.map CommandRecord.name).Nodup) :
    firsts records = records := by
  induction records with
  | nil => rfl
  | cons record rest ih =>
      rw [List.map_cons, List.nodup_cons] at hnames
      rw [firsts, ih hnames.2, List.filter_eq_self.2]
      intro other hmem
      rw [decide_eq_true_eq]
      rintro hname
      exact hnames.1 (List.mem_map.2 ⟨other, hmem, hname⟩)

/-- A record of another name behind the list is the first one of its name. -/
theorem firsts_concat (front : List CommandRecord) (record : CommandRecord) :
    firsts (front ++ [record]) =
      if record.name ∈ front.map CommandRecord.name then firsts front
      else firsts front ++ [record] := by
  induction front with
  | nil => rfl
  | cons head front ih =>
      have hfilter : ∀ others : List CommandRecord,
          ((others ++ [record]).filter fun other => other.name ≠ head.name) =
            if record.name = head.name then others.filter fun other => other.name ≠ head.name
            else (others.filter fun other => other.name ≠ head.name) ++ [record] := by
        intro others
        rw [List.filter_append, List.filter_singleton]
        by_cases hhead : record.name = head.name
        · simp only [hhead, ne_eq, not_true_eq_false, decide_false, if_true, cond_false,
            List.append_nil]
        · simp only [hhead, ne_eq, not_false_eq_true, decide_true, if_false, cond_true]
      simp only [List.cons_append, firsts, ih, List.map_cons, List.mem_cons]
      by_cases hfront : record.name ∈ front.map CommandRecord.name
      · simp only [hfront, or_true, if_true]
      · simp only [hfront, or_false, if_false, hfilter]
        split
        · rfl
        · rfl

/-- The two records share neither id nor name, or both and the handle as well. -/
def Resolver.Compatible (resolver : Resolver) (record other : CommandRecord) : Prop :=
  record.id = other.id ∨ record.name = other.name →
    record.id = other.id ∧ record.name = other.name ∧
      ∃ handle found, resolver record.requestType = some handle ∧
        resolver other.requestType = some found ∧ handle.same found = true

structure Resolver.Accepts (resolver : Resolver) (records : List CommandRecord) : Prop where
  known : ∀ record ∈ records, ∃ handle, resolver record.requestType = some handle
  compatible : records.Pairwise resolver.Compatible

theorem Resolver.compatible_iff {other : CommandRecord} {handle found : TypeHandle}
    (hhandle : resolver record.requestType = some handle)
    (hfound : resolver other.requestType = some found) :
    resolver.Compatible record other ↔
      Binding.Agrees ⟨record.id, record.name, handle⟩ ⟨other.id, other.name, found⟩ := by
  constructor
  · intro hcompatible hshared
    obtain ⟨hid, hname, first, second, hfirst, hsecond, hsame⟩ := hcompatible hshared
    rw [hhandle, Option.some.injEq] at hfirst
    rw [hfound, Option.some.injEq] at hsecond
    exact ⟨hid, hname, hfirst ▸ hsecond ▸ hsame⟩
  · intro hagrees hshared
    have halike := hagrees hshared
    exact ⟨halike.id, halike.name, handle, found, hhandle, hfound, halike.handle⟩

theorem Resolver.accepts_iff : resolver.Accepts records ↔
    (∀ record ∈ records, ∃ handle, resolver record.requestType = some handle) ∧
      (resolver.bindings records).Pairwise Binding.Agrees := by
  have hbindings : (∀ record ∈ records, ∃ handle, resolver record.requestType = some handle) →
      ((resolver.bindings records).Pairwise Binding.Agrees ↔
        records.Pairwise resolver.Compatible) := by
    intro hknown
    rw [Resolver.bindings, List.pairwise_filterMap]
    apply List.Pairwise.iff_of_mem
    intro record other hrecord hother
    obtain ⟨handle, hhandle⟩ := hknown record hrecord
    obtain ⟨found, hfound⟩ := hknown other hother
    rw [Resolver.compatible_iff hhandle hfound]
    simp only [Resolver.binding?, hhandle, hfound, Option.map_some, Option.some.injEq,
      forall_eq']
  constructor
  · intro haccepts
    exact ⟨haccepts.known, (hbindings haccepts.known).2 haccepts.compatible⟩
  · rintro ⟨hknown, hagree⟩
    exact ⟨hknown, (hbindings hknown).1 hagree⟩

/-- A replay of two lists is a replay of the first, and if it succeeds of the second. -/
theorem Registry.restoreAll_append_eq_ok_iff {back : List CommandRecord} :
    (registry.restoreAll (front ++ back)).result = .ok () ↔
      (registry.restoreAll front).result = .ok () ∧
        ((registry.restoreAll front).after.restoreAll back).result = .ok () := by
  induction front generalizing registry with
  | nil => exact (and_iff_right rfl).symm
  | cons head rest ih =>
      rw [List.cons_append, Registry.restoreAll_cons_eq_ok_iff, Registry.restoreAll_cons_eq_ok_iff,
        ih, and_assoc]
      refine and_congr_right ?_
      rintro ⟨id, hrestored⟩
      rw [Registry.restoreAll_cons_after hrestored]

theorem Registry.restoreAll_append_after (hreplayed : (registry.restoreAll front).result = .ok ())
    (back : List CommandRecord) :
    (registry.restoreAll (front ++ back)).after =
      ((registry.restoreAll front).after.restoreAll back).after := by
  induction front generalizing registry with
  | nil => rfl
  | cons head rest ih =>
      obtain ⟨⟨id, hrestored⟩, hrest⟩ := Registry.restoreAll_cons_eq_ok_iff.1 hreplayed
      rw [List.cons_append, Registry.restoreAll_cons_after hrestored,
        Registry.restoreAll_cons_after hrestored, ih hrest]

/-- A list with a head is split before the head or further on. -/
theorem exists_split_cons {head : α} {rest : List α} {p : List α → α → Prop} :
    (∃ front item back, head :: rest = front ++ item :: back ∧ p front item) ↔
      p [] head ∨ ∃ front item back, rest = front ++ item :: back ∧ p (head :: front) item := by
  constructor
  · rintro ⟨front, item, back, hsplit, hp⟩
    cases front with
    | nil =>
        obtain ⟨rfl, rfl⟩ := List.cons.inj hsplit
        exact .inl hp
    | cons first front =>
        obtain ⟨rfl, rfl⟩ := List.cons.inj hsplit
        exact .inr ⟨front, item, back, rfl, hp⟩
  · rintro (hp | ⟨front, item, back, rfl, hp⟩)
    · exact ⟨[], head, rest, rfl, hp⟩
    · exact ⟨head :: front, item, back, rfl, hp⟩

/-- A replay fails at the first record that cannot be brought back. -/
theorem Registry.restoreAll_eq_error_iff :
    (registry.restoreAll records).result = .error error ↔
      ∃ front record back, records = front ++ record :: back ∧
        (registry.restoreAll front).result = .ok () ∧
        ((registry.restoreAll front).after.restore record).result = .error error := by
  induction records generalizing registry with
  | nil => simp [Registry.restoreAll, Registry.succeed]
  | cons head rest ih =>
      have hstart : registry.restoreAll [] = registry.succeed () := rfl
      rw [exists_split_cons, hstart]
      simp only [Registry.succeed, true_and, Registry.restoreAll_cons_eq_ok_iff]
      cases hrestored : (registry.restore head).result with
      | error other =>
          have hresult : (registry.restoreAll (head :: rest)).result = .error other := by
            rw [Registry.restoreAll, Attempt.andThen, hrestored]
          simp only [hresult, Except.error.injEq, reduceCtorEq, exists_false, false_and, and_false,
            or_false]
      | ok id =>
          have hresult : (registry.restoreAll (head :: rest)).result =
              ((registry.restore head).after.restoreAll rest).result := by
            rw [Registry.restoreAll, Attempt.andThen, hrestored]
          simp only [hresult, ih, Registry.restoreAll_cons_after hrestored, Except.ok.injEq,
            exists_eq', true_and, reduceCtorEq, false_or]

/-- A record of a known name gives its version to the record that is there. -/
theorem Registry.records_restore_of_known (hconsistent : registry.table.Consistent) {id : UInt64}
    (hrestored : (registry.restore record).result = .ok id)
    (hknown : record.name ∈ registry.snapshot.handlers.map CommandRecord.name) :
    (registry.restore record).after.snapshot.handlers =
      registry.snapshot.handlers.map record.updated := by
  cases hpassed : registry.assess record.name record.spec with
  | error error => simp only [Registry.restore, hpassed, Registry.fail, reduceCtorEq] at hrestored
  | ok admission =>
      cases Registry.admits_of_eq_ok hconsistent hpassed with
      | @added id handle resolver hresolver hhandle hnew =>
          rw [registry.map_snapshot] at hknown
          exact absurd hknown ((hconsistent.byName.find?_eq_none_iff record.name).1 hnew.name)
      | @known position command hlocate =>
          have hafter : (registry.restore record).after =
              registry.keep position record.spec.version := by
            simp only [Registry.restore, hpassed, Registry.settle, Registry.succeed]
          have hrevised : ∀ item : LiveCommand,
              (item.revised [⟨record.name, record.spec, false⟩]).record =
                record.updated item.record := by
            intro item
            rw [LiveCommand.revised, chosenVersion?_singleton, CommandRecord.updated]
            change LiveCommand.record (item.withVersion
              ((if record.name = item.record.name then some record.version else none).getD _)) = _
            split
            · rfl
            · rfl
          rw [hafter, Registry.snapshot, Registry.handlers_keep hconsistent hlocate record.spec false,
            List.map_map, Registry.snapshot, List.map_map]
          exact List.map_congr_left fun item _ => hrevised item

/-- A record of a new name is put at the end. -/
theorem Registry.records_restore_of_new (hconsistent : registry.table.Consistent)
    (hresolver : registry.resolver = some resolver) {id : UInt64}
    (hrestored : (registry.restore record).result = .ok id)
    (hnew : record.name ∉ registry.snapshot.handlers.map CommandRecord.name) :
    (registry.restore record).after.snapshot.handlers =
      registry.snapshot.handlers ++ [record] := by
  obtain ⟨handle, hhandle⟩ := Registry.handle_of_restore hresolver hrestored
  let command : LiveCommand := ⟨record, handle⟩
  have hreplays : registry.Replays command (registry.restore record) :=
    Registry.restore_replays hconsistent hresolver hhandle
  generalize registry.restore record = attempt at hreplays hrestored ⊢
  cases hreplays with
  | refused => contradiction
  | @known position kept hmem halike =>
      have hlisted : kept.record ∈ registry.snapshot.handlers := List.mem_map_of_mem hmem
      exact absurd (List.mem_map.2 ⟨kept.record, hlisted, halike.name⟩) hnew
  | added hlacks =>
      change List.map LiveCommand.record (registry.table.handlers ++ [command]) = _
      rw [List.map_append]
      rfl

theorem latest_firsts_concat_of_known
    (hknown : record.name ∈ front.map CommandRecord.name) :
    (firsts (front ++ [record])).map (CommandRecord.latest (front ++ [record])) =
      ((firsts front).map (CommandRecord.latest front)).map record.updated := by
  rw [firsts_concat, if_pos hknown, List.map_map]
  refine List.map_congr_left fun other _ => ?_
  rw [Function.comp_apply, CommandRecord.latest, lastVersion?_concat, CommandRecord.updated]
  change _ = if record.name = other.name then _ else _
  split
  · rfl
  · rfl

theorem latest_firsts_concat_of_new
    (hnew : record.name ∉ front.map CommandRecord.name) :
    (firsts (front ++ [record])).map (CommandRecord.latest (front ++ [record])) =
      (firsts front).map (CommandRecord.latest front) ++ [record] := by
  rw [firsts_concat, if_neg hnew, List.map_append]
  congr 1
  · refine List.map_congr_left fun other hmem => ?_
    have hother : record.name ≠ other.name := by
      rintro hname
      exact hnew (List.mem_map.2 ⟨other, mem_of_mem_firsts hmem, hname.symm⟩)
    rw [CommandRecord.latest, lastVersion?_concat, if_neg hother]
    rfl
  · rw [List.map_singleton, CommandRecord.latest, lastVersion?_concat, if_pos rfl]
    rfl

theorem Registry.resolver_replay (snapshot : Snapshot) (resolver : Resolver)
    (records : List CommandRecord) :
    ((Registry.forSnapshot snapshot resolver).restoreAll records).after.resolver =
      some resolver :=
  ((Registry.forSnapshot snapshot resolver).restoreAll_same records).2.2.2

theorem Registry.sound_replay (snapshot : Snapshot) (resolver : Resolver)
    (records : List CommandRecord) :
    ((Registry.forSnapshot snapshot resolver).restoreAll records).after.Sound {resolver} ∧
      ((Registry.forSnapshot snapshot resolver).restoreAll records).after.CursorLaw := by
  have hsound := Registry.sound_forSnapshot (Set.mem_singleton resolver) snapshot
  refine Registry.moves_induction (P := Registry.CursorLaw)
    (Registry.restoreAll_moves hsound records) hsound ?_ fun _ hlaw hmove => hmove.cursorLaw hlaw
  exact Registry.cursorLaw_of_empty rfl rfl

/-- After a replay every name has one record, in the place of its first one and with the
version of its last. -/
theorem Registry.records_replay
    (hreplayed : ((Registry.forSnapshot snapshot resolver).restoreAll records).result = .ok ()) :
    ((Registry.forSnapshot snapshot resolver).restoreAll records).after.snapshot.handlers =
      (firsts records).map (CommandRecord.latest records) := by
  induction records using List.reverseRecOn with
  | nil => rfl
  | append_singleton front record ih =>
      obtain ⟨hfront, hlast⟩ := Registry.restoreAll_append_eq_ok_iff.1 hreplayed
      obtain ⟨⟨id, hrestored⟩, -⟩ := Registry.restoreAll_cons_eq_ok_iff.1 hlast
      have hconsistent := (Registry.sound_replay snapshot resolver front).1.consistent
      have hresolver := Registry.resolver_replay snapshot resolver front
      have hnames : record.name ∈
          ((Registry.forSnapshot snapshot resolver).restoreAll front).after.snapshot.handlers.map
            CommandRecord.name ↔ record.name ∈ front.map CommandRecord.name := by
        rw [ih hfront, List.map_map, ← mem_names_firsts]
        rfl
      rw [Registry.restoreAll_append_after hfront, Registry.restoreAll_cons_after hrestored]
      change (Registry.restore _ record).after.snapshot.handlers = _
      by_cases hknown : record.name ∈ front.map CommandRecord.name
      · rw [Registry.records_restore_of_known hconsistent hrestored (hnames.2 hknown), ih hfront,
          latest_firsts_concat_of_known hknown]
      · rw [Registry.records_restore_of_new hconsistent hresolver hrestored (hknown ∘ hnames.1),
          ih hfront, latest_firsts_concat_of_new hknown]

/-- Among bindings that agree those of one name have one id. -/
theorem Binding.exists_iff_named? {bindings : List Binding}
    (hagree : bindings.Pairwise Binding.Agrees) (p : UInt64 → String → Prop) :
    (∃ binding ∈ bindings, p binding.id binding.name) ↔
      ∃ name binding, Binding.named? bindings name = some binding ∧ p binding.id name := by
  constructor
  · rintro ⟨binding, hmem, hp⟩
    cases hnamed : Binding.named? bindings binding.name with
    | none => simpa using List.find?_eq_none.1 hnamed binding hmem
    | some first =>
        have hname : first.name = binding.name := by simpa using List.find?_some hnamed
        refine ⟨binding.name, first, hnamed, ?_⟩
        by_cases hsame : first = binding
        · exact hsame ▸ hp
        · have hagrees := hagree.forall (List.mem_of_find?_eq_some hnamed) hmem hsame
          rw [(hagrees (.inr hname)).id]
          exact hp
  · rintro ⟨name, binding, hnamed, hp⟩
    have hname : binding.name = name := by simpa using List.find?_some hnamed
    exact ⟨binding, List.mem_of_find?_eq_some hnamed, hname ▸ hp⟩

theorem Binding.refusal?_congr {left right : List Binding} (hleft : left.Pairwise Binding.Agrees)
    (hright : right.Pairwise Binding.Agrees)
    (hnamed : ∀ name, Binding.named? left name = Binding.named? right name)
    (attached : Option Resolver) (name : String) (spec : CommandSpec) :
    Binding.refusal? left attached name spec = Binding.refusal? right attached name spec := by
  have hexists : ∀ p : UInt64 → String → Prop,
      (∃ binding ∈ left, p binding.id binding.name) ↔
        ∃ binding ∈ right, p binding.id binding.name := by
    intro p
    rw [Binding.exists_iff_named? hleft, Binding.exists_iff_named? hright]
    simp only [hnamed]
  have hconflict := fun id => hexists fun other found => other = id ∧ found ≠ name
  have hshortage := hexists fun other _ => other.toNat = UInt64.size - 1
  unfold Binding.refusal? Binding.idConflict? Binding.idChange? Binding.typeFault?
    Binding.idShortage?
  simp only [hnamed, hconflict, hshortage]

theorem Resolver.named?_bindings
    (hknown : ∀ record ∈ records, ∃ handle, resolver record.requestType = some handle)
    (name : String) :
    Binding.named? (resolver.bindings records) name =
      (records.find? fun record => record.name = name).bind resolver.binding? := by
  induction records with
  | nil => rfl
  | cons record rest ih =>
      obtain ⟨⟨handle, hhandle⟩, hrest⟩ := List.forall_mem_cons.1 hknown
      rw [Resolver.bindings_cons hhandle, Binding.named?, List.find?_cons, List.find?_cons]
      by_cases hname : record.name = name
      · simp only [hname, decide_true, Option.bind_some, Resolver.binding?, hhandle,
          Option.map_some]
      · simp only [hname, decide_false]
        exact ih hrest

theorem find?_firsts (records : List CommandRecord) (name : String) :
    ((firsts records).find? fun record => record.name = name) =
      records.find? fun record => record.name = name := by
  induction records with
  | nil => rfl
  | cons record rest ih =>
      rw [firsts, List.find?_cons, List.find?_cons]
      by_cases hname : record.name = name
      · simp only [hname, decide_true]
      · simp only [hname, decide_false]
        rw [List.find?_filter, ← ih]
        congr 1
        funext other
        rw [Bool.eq_iff_iff]
        simp only [decide_eq_true_eq, ne_eq]
        constructor
        · exact And.right
        · rintro rfl
          exact ⟨fun hsame => hname hsame.symm, rfl⟩

/-- The commands of a table bind what their records bind. -/
theorem Registry.Sound.bindings_eq (hsound : registry.Sound {resolver}) :
    registry.table.bindings = resolver.bindings registry.snapshot.handlers := by
  have hbinding : ∀ command ∈ registry.table.handlers,
      resolver.binding? command.record = some command.binding := by
    intro command hmem
    obtain ⟨other, rfl, hhandle⟩ := hsound.resolved command hmem
    rw [Resolver.binding?, hhandle]
    rfl
  calc registry.table.handlers.map LiveCommand.binding
      = registry.table.handlers.filterMap (some ∘ LiveCommand.binding) :=
        (congrFun List.filterMap_eq_map registry.table.handlers).symm
    _ = registry.table.handlers.filterMap (resolver.binding? ∘ LiveCommand.record) :=
        (List.filterMap_congr hbinding).symm
    _ = resolver.bindings registry.snapshot.handlers := List.filterMap_map.symm

/-- A table that was replayed refuses what the records before would refuse. -/
theorem Registry.refusal?_replay
    (hreplayed : ((Registry.forSnapshot snapshot resolver).restoreAll records).result = .ok ())
    (haccepts : resolver.Accepts records) (attached : Option Resolver) (name : String)
    (spec : CommandSpec) :
    Binding.refusal?
        ((Registry.forSnapshot snapshot resolver).restoreAll records).after.table.bindings
        attached name spec =
      Binding.refusal? (resolver.bindings records) attached name spec := by
  obtain ⟨hsound, -⟩ := Registry.sound_replay snapshot resolver records
  obtain ⟨hknown, hagree⟩ := Resolver.accepts_iff.1 haccepts
  refine Binding.refusal?_congr hsound.consistent.bindings_agree hagree ?_ attached name spec
  intro name
  rw [hsound.bindings_eq, Registry.records_replay hreplayed, Resolver.named?_bindings hknown,
    Resolver.named?_bindings, List.find?_map]
  · have hsame : ((fun record : CommandRecord => decide (record.name = name)) ∘
        CommandRecord.latest records) = fun record => decide (record.name = name) := rfl
    rw [hsame, find?_firsts, Option.bind_map]
    rfl
  · intro record hmem
    obtain ⟨first, hfirst, rfl⟩ := List.mem_map.1 hmem
    exact hknown first (mem_of_mem_firsts hfirst)

theorem Registry.replay_eq_ok_iff :
    ((Registry.forSnapshot snapshot resolver).restoreAll records).result = .ok () ↔
      resolver.Accepts records := by
  have hsound := Registry.sound_forSnapshot (Set.mem_singleton resolver) snapshot
  rw [Registry.restoreAll_eq_ok_iff hsound rfl records, Resolver.accepts_iff]
  rfl

theorem Registry.replay_eq_error_iff :
    ((Registry.forSnapshot snapshot resolver).restoreAll records).result = .error error ↔
      ∃ front record back, records = front ++ record :: back ∧ resolver.Accepts front ∧
        Binding.refusal? (resolver.bindings front) (some resolver) record.name record.spec =
          some error := by
  rw [Registry.restoreAll_eq_error_iff]
  refine exists_congr fun front => exists_congr fun record => exists_congr fun back =>
    and_congr_right fun _ => ?_
  rw [Registry.replay_eq_ok_iff]
  refine and_congr_right fun haccepts => ?_
  obtain ⟨hsound, hlaw⟩ := Registry.sound_replay snapshot resolver front
  rw [Registry.restore_eq_error_iff hsound.consistent hlaw, Registry.resolver_replay,
    Registry.refusal?_replay (Registry.replay_eq_ok_iff.2 haccepts) haccepts]

theorem checkOffset_eq_error_iff {persisted : UInt64} :
    checkOffset persisted options = .error error ↔
      ∃ requested, options.offset = some requested ∧ requested ≠ persisted ∧
        error = .offsetMismatch persisted requested := by
  unfold checkOffset
  cases options.offset with
  | none => simp
  | some requested =>
      by_cases hsame : requested = persisted
      · simp [hsame]
      · simp only [if_neg hsame, Except.error.injEq]
        constructor
        · rintro rfl
          exact ⟨requested, rfl, hsame, rfl⟩
        · rintro ⟨_, ⟨⟩, -, rfl⟩
          rfl

theorem CommandRecord.latest_of_nodup (hnames : (records.map CommandRecord.name).Nodup)
    (hmem : record ∈ records) : record.latest records = record := by
  have hversion : lastVersion? records record.name = some record.version := by
    cases hlast : records.reverse.find? fun other => other.name = record.name with
    | none => simpa using List.find?_eq_none.1 hlast record (List.mem_reverse.2 hmem)
    | some last =>
        have hname : last.name = record.name := by simpa using List.find?_some hlast
        have hlisted := List.mem_reverse.1 (List.mem_of_find?_eq_some hlast)
        have hsame : last = record := List.inj_on_of_nodup_map hnames hlisted hmem hname
        rw [lastVersion?, hlast, Option.map_some, hsame]
  rw [CommandRecord.latest, hversion, Option.getD_some]

/-- Distinct names, and only those, leave every record as it is. -/
theorem latest_firsts_eq_iff :
    (firsts records).map (CommandRecord.latest records) = records ↔
      (records.map CommandRecord.name).Nodup := by
  constructor
  · intro hsame
    have hnames : records.map CommandRecord.name = (firsts records).map CommandRecord.name :=
      calc records.map CommandRecord.name
          = ((firsts records).map (CommandRecord.latest records)).map CommandRecord.name := by
            rw [hsame]
        _ = (firsts records).map CommandRecord.name := List.map_map
    rw [hnames]
    exact names_firsts_nodup records
  · intro hnames
    rw [firsts_of_nodup hnames]
    exact (List.map_congr_left fun record hmem => CommandRecord.latest_of_nodup hnames hmem).trans
      (List.map_id records)

theorem Registry.hydrate_eq_error_iff :
    (Registry.hydrate snapshot options resolver).result = .error error ↔
      checkOffset snapshot.offset options = .error error ∨
      checkOffset snapshot.offset options = .ok () ∧
        ((Registry.forSnapshot snapshot resolver).restoreAll snapshot.handlers).result =
          .error error := by
  unfold Registry.hydrate
  cases hchecked : checkOffset snapshot.offset options with
  | error other => simp
  | ok =>
      dsimp only
      cases hreplayed :
          ((Registry.forSnapshot snapshot resolver).restoreAll snapshot.handlers).result with
      | error other => simp
      | ok => simp

/-- A snapshot is read exactly if its offset is not contradicted, its request types are known,
and records that share an id or a name share both and their handle.  Then every name has one
command, in the place of its first record and with the version of its last, so that the
registry has the same snapshot again unless a name is repeated.  Otherwise the error is about
the offset, or is what the first record that does not go with those before it is refused for. -/
theorem Registry.snapshot_reading (snapshot : Snapshot) (options : RegistryOptions)
    (resolver : Resolver) :
    let attempt := (Registry.hydrate snapshot options resolver).result
    ((∃ opened, attempt = .ok opened) ↔
      (options.offset = none ∨ options.offset = some snapshot.offset) ∧
        resolver.Accepts snapshot.handlers) ∧
    (∀ opened, attempt = .ok opened →
      opened.version = snapshot.version ∧ opened.offset = snapshot.offset ∧
      opened.changed = false ∧
      opened.snapshot.handlers =
        (firsts snapshot.handlers).map (CommandRecord.latest snapshot.handlers) ∧
      (∀ command ∈ opened.table.handlers,
        resolver command.record.requestType = some command.handle) ∧
      (opened.snapshot = snapshot ↔ (snapshot.handlers.map CommandRecord.name).Nodup)) ∧
    ∀ error, attempt = .error error ↔
      (∃ requested, options.offset = some requested ∧ requested ≠ snapshot.offset ∧
        error = .offsetMismatch snapshot.offset requested) ∨
      (options.offset = none ∨ options.offset = some snapshot.offset) ∧
        ∃ front record back, snapshot.handlers = front ++ record :: back ∧
          resolver.Accepts front ∧
          Binding.refusal? (resolver.bindings front) (some resolver) record.name record.spec =
            some error := by
  intro attempt
  refine ⟨?_, ?_, ?_⟩
  · rw [Registry.hydrate_eq_ok_iff, checkOffset_eq_ok_iff, Resolver.accepts_iff]
  · intro opened hopened
    obtain ⟨hreplayed, hafter⟩ := Registry.replay_of_hydrate hopened
    obtain ⟨hversion, hoffset, hchanged⟩ := Registry.hydrate_same hopened
    have hsound := Registry.sound_of_hydrate (Set.mem_singleton resolver) hopened
    have hrecords := Registry.records_replay hreplayed
    rw [← hafter] at hrecords
    refine ⟨hversion, hoffset, hchanged, hrecords, ?_, ?_⟩
    · intro command hmem
      obtain ⟨other, rfl, hhandle⟩ := hsound.resolved command hmem
      exact hhandle
    · rw [← latest_firsts_eq_iff, ← hrecords]
      constructor
      · intro hsame
        rw [hsame]
      · intro hsame
        change Snapshot.mk opened.version opened.offset opened.snapshot.handlers = snapshot
        rw [hversion, hoffset, hsame]
  · intro error
    rw [Registry.hydrate_eq_error_iff, checkOffset_eq_error_iff, checkOffset_eq_ok_iff,
      Registry.replay_eq_error_iff]

example : (Registry.hydrate sampleMerged {} sampleAliases).result.map Registry.snapshot =
    .ok ⟨3, 5, [⟨2, "@a/first", "@a/request", 2⟩, ⟨9, "@a/second", "@a/alias", 1⟩]⟩ := rfl

end CommandRegistry
