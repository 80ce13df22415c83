/-
What calls leave of the commands that are there.  A command keeps its id, its
name, its request type and its handle for good, and commands come in at the end
only, so an earlier list is a prefix of every later one.
-/
import CommandRegistry.Proofs.Replay

namespace CommandRegistry

variable {answers : Set Resolver} {first last : Registry}

/-- What a command never changes: all but its recorded version. -/
structure CommandIdentity where
  id : UInt64
  name : String
  requestType : String
  handle : TypeHandle

def LiveCommand.identity (command : LiveCommand) : CommandIdentity :=
  ⟨command.id, command.name, command.record.requestType, command.handle⟩

def CommandTable.identities (table : CommandTable) : List CommandIdentity :=
  table.handlers.map LiveCommand.identity

/-- The commands of a table stand unchanged in front of those of a later one. -/
def CommandTable.KeptBy (table later : CommandTable) : Prop :=
  table.identities <+: later.identities

theorem CommandTable.keptBy_of_eq {table later : CommandTable}
    (hsame : later.identities = table.identities) : table.KeptBy later := by
  unfold CommandTable.KeptBy
  exact hsame ▸ List.prefix_rfl

theorem Registry.Move.keptBy (hmove : first.Move answers last) :
    first.table.KeptBy last.table := by
  cases hmove with
  | revise position version =>
      apply CommandTable.keptBy_of_eq
      exact CommandTable.map_handlers_setVersion (fun _ _ => rfl) first.table position version
  | @add opened command resolver hopened =>
      obtain ⟨htable, -⟩ := Registry.same_of_opened hopened
      have happended : (opened.append command).table.identities =
          first.table.identities ++ [command.identity] := by
        simp only [Registry.append, htable, CommandTable.identities, CommandTable.push,
          List.map_append, List.map_cons, List.map_nil]
      exact ⟨[command.identity], happended.symm⟩
  | consult => exact List.prefix_rfl
  | start => exact List.prefix_rfl

/-- No sequence of calls changes, drops or moves a command that is there. -/
theorem Registry.Evolves.keptBy (hevolves : first.Evolves answers last)
    (hsound : first.Sound answers) : first.table.KeptBy last.table := by
  refine (hevolves.induction (P := fun registry =>
    first.table.KeptBy registry.table) hsound List.prefix_rfl ?_ ?_).2
  · intro before after _ hkept hmove
    exact hkept.trans hmove.keptBy
  · intro before opened options resolver hbefore hkept hconstant hresolver hopened
    have hsame : opened.table.handlers = before.table.handlers := by
      rw [hbefore.replay_own_snapshot hconstant hresolver hopened,
        Registry.handlers_foldl_append]
      rfl
    have hidentities : before.table.KeptBy opened.table :=
      CommandTable.keptBy_of_eq (congrArg (List.map LiveCommand.identity) hsame)
    exact hkept.trans hidentities

theorem CommandTable.KeptBy.exists_mem {table later : CommandTable}
    (hkept : table.KeptBy later) {command : LiveCommand}
    (hmem : command ∈ table.handlers) :
    ∃ kept ∈ later.handlers, kept.identity = command.identity := by
  have hidentity : command.identity ∈ table.identities := List.mem_map_of_mem hmem
  exact List.mem_map.1 (hkept.subset hidentity)

/-- A name leads to the same command for good. -/
theorem Registry.Evolves.get?_kept (hevolves : first.Evolves answers last)
    (hsound : first.Sound answers) {name : String} {command : LiveCommand}
    (hget : first.get? name = some command) :
    ∃ kept, last.get? name = some kept ∧ kept.identity = command.identity := by
  obtain ⟨hmem, hname⟩ := hsound.consistent.get?_eq_some_iff.1 hget
  obtain ⟨kept, hkept, hidentity⟩ := (hevolves.keptBy hsound).exists_mem hmem
  have hsame : kept.name = command.name := congrArg CommandIdentity.name hidentity
  have hconsistent := (hevolves.sound hsound).consistent
  exact ⟨kept, hconsistent.get?_eq_some_iff.2 ⟨hkept, hsame.trans hname⟩, hidentity⟩

end CommandRegistry
