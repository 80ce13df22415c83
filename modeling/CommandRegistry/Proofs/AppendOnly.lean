/-
Registries only grow.  Whatever is called, the commands that are there keep their
places and all that identifies them; the one thing that can change is the recorded
version, and the log tells what it has become.
-/
import CommandRegistry.Proofs.Chronicle
import CommandRegistry.Proofs.History

namespace CommandRegistry

variable {answers : Set Resolver} {drifts : Resolver → Resolver → Prop} {depth : Nat}
  {first registry next last : Registry} {log entries : List Registration}
  {command : LiveCommand} {name : String}

/-- The version that a log gives to a name: the explicit one of the last registration
of this name that has one. -/
def chosenVersion? (log : List Registration) (name : String) : Option UInt64 :=
  log.reverse.findSome? fun entry =>
    if entry.name = name then entry.spec.version else none

theorem chosenVersion?_append (log entries : List Registration) (name : String) :
    chosenVersion? (log ++ entries) name =
      (chosenVersion? entries name).or (chosenVersion? log name) := by
  rw [chosenVersion?, List.reverse_append, List.findSome?_append]
  rfl

theorem chosenVersion?_singleton (entry : Registration) (name : String) :
    chosenVersion? [entry] name = if entry.name = name then entry.spec.version else none := by
  simp [chosenVersion?]

theorem chosenVersion?_of_not_mem (habsent : ∀ entry ∈ log, entry.name ≠ name) :
    chosenVersion? log name = none := by
  rw [chosenVersion?, List.findSome?_eq_none_iff]
  intro entry hentry
  exact if_neg (habsent entry (List.mem_reverse.1 hentry))

/-- A command after the registrations of a log. -/
def LiveCommand.revised (log : List Registration) (command : LiveCommand) : LiveCommand :=
  command.withVersion ((chosenVersion? log command.name).getD command.record.version)

theorem LiveCommand.revised_of_not_chosen (hfree : chosenVersion? log command.name = none) :
    command.revised log = command := by
  rw [LiveCommand.revised, hfree, Option.getD_none]
  rfl

theorem LiveCommand.revised_append (log entries : List Registration) (command : LiveCommand) :
    command.revised (log ++ entries) = (command.revised log).revised entries := by
  have hname : (command.revised log).name = command.name := rfl
  rw [LiveCommand.revised, LiveCommand.revised, hname, chosenVersion?_append, Option.getD_or]
  rfl

/-- What the calls of a log have made of a registry. -/
structure Registry.ExtendedBy (first : Registry) (log : List Registration) (last : Registry) :
    Prop where
  offset : last.offset = first.offset
  version : last.version = first.version + UInt64.ofNat (log.countP Registration.opens)
  handlers : first.table.handlers.map (LiveCommand.revised log) <+: last.table.handlers

theorem Registry.extendedBy_of_handlers (hoffset : last.offset = first.offset)
    (hversion : last.version = first.version)
    (hhandlers : last.table.handlers = first.table.handlers) : first.ExtendedBy [] last := by
  have hsame : LiveCommand.revised [] = id := by
    funext command
    exact LiveCommand.revised_of_not_chosen rfl
  have hkept : first.table.handlers.map (LiveCommand.revised []) = last.table.handlers := by
    rw [hsame, List.map_id, hhandlers]
  exact ⟨hoffset, by simp [hversion], hkept ▸ List.prefix_rfl⟩

theorem Registry.ExtendedBy.trans (hfirst : first.ExtendedBy log registry)
    (hlast : registry.ExtendedBy entries last) : first.ExtendedBy (log ++ entries) last := by
  refine ⟨hlast.offset.trans hfirst.offset, ?_, ?_⟩
  · rw [hlast.version, hfirst.version, List.countP_append, UInt64.ofNat_add, UInt64.add_assoc]
  · have hboth : LiveCommand.revised (log ++ entries) =
        LiveCommand.revised entries ∘ LiveCommand.revised log :=
      funext (LiveCommand.revised_append log entries)
    rw [hboth, ← List.map_map]
    exact (hfirst.handlers.map _).trans hlast.handlers

/-- While its word has room, the version counts the registrations that open one. -/
theorem Registry.ExtendedBy.version_toNat (hextended : first.ExtendedBy log last)
    (hroom : first.version.toNat + log.countP Registration.opens < UInt64.size) :
    last.version.toNat = first.version.toNat + log.countP Registration.opens := by
  have hcount : (UInt64.ofNat (log.countP Registration.opens)).toNat =
      log.countP Registration.opens := UInt64.toNat_ofNat_of_lt (by omega)
  rw [hextended.version, UInt64.toNat_add, hcount, Nat.mod_eq_of_lt hroom]

theorem Registry.ExtendedBy.of_working (hextended : registry.working.ExtendedBy log last) :
    registry.ExtendedBy log last :=
  ⟨hextended.offset, hextended.version, hextended.handlers⟩

/-- A registration of a known name revises the command of this name and no other. -/
theorem Registry.handlers_keep (hconsistent : registry.table.Consistent) {position : Nat}
    (hlocate : registry.table.locate? name = some (position, command)) (spec : CommandSpec)
    (opens : Bool) :
    (registry.keep position spec.version).table.handlers =
      registry.table.handlers.map (LiveCommand.revised [⟨name, spec, opens⟩]) := by
  obtain ⟨hfound, -⟩ := CommandTable.locate?_eq_some_iff.1 hlocate
  have hposition : ∀ other item, registry.table.handlers[other]? = some item →
      (position = other ↔ item.name = name) := by
    intro other item hitem
    have hkey := hconsistent.byName.find?_iff name other
    rwa [hfound, Option.some.injEq, List.getElem?_map, hitem, Option.map_some,
      Option.some.injEq] at hkey
  have hrevised : ∀ item : LiveCommand, item.revised [⟨name, spec, opens⟩] =
      if name = item.name then item.withVersion (spec.version.getD item.record.version)
      else item := by
    intro item
    rw [LiveCommand.revised, chosenVersion?_singleton]
    split <;> rfl
  cases hversion : spec.version with
  | none =>
      have hsame : LiveCommand.revised [⟨name, spec, opens⟩] = id := by
        funext item
        rw [hrevised, hversion, Option.getD_none]
        split <;> rfl
      rw [hsame, List.map_id]
      rfl
  | some version =>
      apply List.ext_getElem?
      intro other
      simp only [Registry.keep, CommandTable.setVersion, List.getElem?_modify,
        List.getElem?_map]
      cases hitem : registry.table.handlers[other]? with
      | none => rfl
      | some item =>
          have hchanged : item.revised [⟨name, spec, opens⟩] =
              if position = other then item.withVersion version else item := by
            rw [hrevised, hversion, Option.getD_some]
            simp only [hposition other item hitem, eq_comm]
          rw [Option.map_some, hchanged]
          rfl

theorem Registry.bump_changed (registry : Registry) : registry.bump.changed = true := by
  unfold Registry.bump
  split
  · assumption
  · rfl

theorem Registry.bump_version (registry : Registry) :
    registry.bump.version =
      registry.version + UInt64.ofNat (if registry.changed then 0 else 1) := by
  unfold Registry.bump
  split
  · exact (UInt64.add_zero registry.version).symm
  · rfl

/-- A registration of a new name leaves the commands that are there as they are. -/
theorem CommandTable.Consistent.map_revised_of_new {table : CommandTable}
    (hconsistent : table.Consistent) (hname : table.byName.find? name = none)
    (spec : CommandSpec) (opens : Bool) :
    table.handlers.map (LiveCommand.revised [⟨name, spec, opens⟩]) = table.handlers := by
  have habsent := (hconsistent.byName.find?_eq_none_iff name).1 hname
  refine (List.map_congr_left ?_).trans (List.map_id _)
  intro item hitem
  have hother : name ≠ item.name := by
    rintro rfl
    exact habsent (List.mem_map_of_mem hitem)
  apply LiveCommand.revised_of_not_chosen
  rw [chosenVersion?_singleton, if_neg hother]

theorem Registry.Effect.extendedBy (heffect : registry.Effect drifts entries next)
    (hconsistent : registry.table.Consistent) : registry.ExtendedBy entries next := by
  cases heffect with
  | none => exact Registry.extendedBy_of_handlers rfl rfl rfl
  | attached | drifted => exact Registry.extendedBy_of_handlers rfl rfl rfl
  | @known name spec position command hlocate =>
      obtain ⟨hoffset, hversion, -⟩ := registry.keep_same position spec.version
      have hhandlers := Registry.handlers_keep hconsistent hlocate spec false
      refine ⟨hoffset, ?_, hhandlers ▸ List.prefix_rfl⟩
      rw [hversion]
      exact (UInt64.add_zero registry.version).symm
  | @added name spec id handle resolver hresolver hhandle hnew =>
      have hopened : registry.bump = registry ∨ registry.bump = registry.bump := .inr rfl
      refine ⟨(Registry.same_of_opened hopened).2.2.1, ?_, ?_⟩
      · have hcount : [(⟨name, spec, !registry.changed⟩ : Registration)].countP Registration.opens =
            if registry.changed then 0 else 1 := by
          cases registry.changed <;> rfl
        rw [hcount]
        exact registry.bump_version
      · rw [hconsistent.map_revised_of_new hnew.name, Registry.handlers_append_opened hopened]
        exact List.prefix_append _ _

theorem Registry.Chronicle.extendedBy (hchronicle : first.Chronicle drifts depth log last)
    (hconsistent : first.table.Consistent) : first.ExtendedBy log last := by
  refine hchronicle.induction hconsistent ?_ Registry.ExtendedBy.trans
    (fun hcurrent heffect => heffect.extendedBy hcurrent) Registry.ExtendedBy.of_working
  intro registry
  exact Registry.extendedBy_of_handlers rfl rfl rfl

/-- Whatever is called, the offset stays, the version does not go back while its word
has room, and every command keeps its place, its id, its name, its request type and its
handle.  Its recorded version is the last explicit one that a registration of its name
has given and that has come to stay; without any it is the old one. -/
theorem Registry.Reachable.append_only_history (hreach : registry.Reachable answers)
    (hchronicle : registry.Chronicle drifts depth log last)
    (hroom : registry.version.toNat + log.countP Registration.opens < UInt64.size) :
    last.offset = registry.offset ∧ registry.version ≤ last.version ∧
    ∀ (position : Nat) (command : LiveCommand),
      registry.table.handlers[position]? = some command →
      ∃ kept, last.table.handlers[position]? = some kept ∧
        kept.identity = command.identity ∧
        kept.record.version =
          (chosenVersion? log command.name).getD command.record.version := by
  have hextended := hchronicle.extendedBy hreach.sound.consistent
  refine ⟨hextended.offset, ?_, ?_⟩
  · rw [UInt64.le_iff_toNat_le, hextended.version_toNat hroom]
    exact Nat.le_add_right _ _
  · intro position command hcommand
    obtain ⟨added, hhandlers⟩ := hextended.handlers
    have hplace : position < (registry.table.handlers.map (LiveCommand.revised log)).length := by
      rw [List.length_map]
      exact (List.getElem?_eq_some_iff.1 hcommand).1
    refine ⟨command.revised log, ?_, rfl, rfl⟩
    rw [← hhandlers, List.getElem?_append_left hplace, List.getElem?_map, hcommand,
      Option.map_some]

/-- A pass that gives a command of the sample another version, and ends as it is told. -/
def Registry.sampleRevise (version : UInt64) (verdict : Except DispatchError Unit)
    (working : Registry) : Attempt Unit :=
  let revised := working.register "@a/first" ⟨"@a/request", none, some version⟩
  ⟨verdict, revised.after, revised.events⟩

/-- A pass that makes such a pass of its own and adds a command. -/
def Registry.sampleNest (working : Registry) : Attempt Unit :=
  let inner := working.rebuild {} (Registry.sampleRevise 7 (.ok ()))
  (inner.after.register "@a/third" ⟨"@a/request", none, none⟩).map fun _ => ()

/-- The sample after a revision to 9 that was given up and one to 7 that was not. -/
def Registry.sampleRevised : Registry :=
  let aborted := (Registry.sample.rebuild {}
    (Registry.sampleRevise 9 (.error .idSpaceExhausted))).after
  (aborted.rebuild {} Registry.sampleNest).after

def sampleLog : List Registration :=
  [⟨"@a/first", ⟨"@a/request", none, some 7⟩, false⟩,
    ⟨"@a/third", ⟨"@a/request", none, none⟩, true⟩]

theorem Registry.sampleRevise_chronicle (depth : Nat) (working : Registry) (version : UInt64)
    (verdict : Except DispatchError Unit) :
    working.Chronicle drifts depth
      ((working.register "@a/first" ⟨"@a/request", none, some version⟩).kept
        [working.registration "@a/first" ⟨"@a/request", none, some version⟩])
      (Registry.sampleRevise version verdict working).after :=
  .call (.refl depth working) (.register "@a/first" _)

theorem Registry.sample_chronicle :
    Registry.sample.Chronicle drifts 2 sampleLog Registry.sampleRevised := by
  let given := Registry.sampleRevise 9 (.error .idSpaceExhausted)
  let taken := Registry.sampleRevise 7 (.ok ())
  let aborted := (Registry.sample.rebuild {} given).after
  have haborted : Registry.sample.Chronicle drifts 2 [] aborted :=
    .rebuild (.refl 2 Registry.sample) {} given
      (Registry.sampleRevise_chronicle 1 Registry.sample.working 9 _)
  have hnested : aborted.working.Chronicle drifts 1
      [⟨"@a/first", ⟨"@a/request", none, some 7⟩, false⟩]
      (aborted.working.rebuild {} taken).after :=
    .rebuild (.refl 1 aborted.working) {} taken
      (Registry.sampleRevise_chronicle 0 aborted.working.working 7 _)
  exact .rebuild haborted {} Registry.sampleNest
    (.call hnested (.register "@a/third" ⟨"@a/request", none, none⟩))

theorem Registry.append_only_history_sample :
    Registry.sample.Reachable {sampleSchema.resolver} ∧
      Registry.sample.Chronicle (fun _ _ => True) 2 sampleLog Registry.sampleRevised ∧
      Registry.sample.version.toNat + sampleLog.countP Registration.opens < UInt64.size ∧
      Registry.sampleRevised.version = 2 ∧
      ∃ kept, Registry.sampleRevised.table.handlers[0]? = some kept ∧ kept.id = 2 ∧
        kept.record.version = 7 := by
  have hroom : Registry.sample.version.toNat + sampleLog.countP Registration.opens <
      UInt64.size := by decide
  have hchronicle : Registry.sample.Chronicle (fun _ _ => True) 2 sampleLog
      Registry.sampleRevised := Registry.sample_chronicle
  obtain ⟨-, -, hkept⟩ := Registry.sample_reachable.append_only_history hchronicle hroom
  obtain ⟨kept, hplace, hidentity, hversion⟩ := hkept 0 _ rfl
  have hid : kept.id = 2 := congrArg CommandIdentity.id hidentity
  exact ⟨Registry.sample_reachable, hchronicle, hroom, rfl, kept, hplace, hid, hversion⟩

end CommandRegistry
