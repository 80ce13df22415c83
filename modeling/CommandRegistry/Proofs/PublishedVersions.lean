/-
Versions after they have been published.  A rebuild that succeeds leaves the registry with
the mark of its pass, so that a name that is added next, outside of any pass, counts for the
version that the pass has opened, if it has opened one.  Only a name that comes after the
beginning of another rebuild opens the next version for certain.
-/
import CommandRegistry.Proofs.NestedVersions
import Mathlib.Data.List.Induction

namespace CommandRegistry

variable {answers : Set Resolver} {drifts : Resolver → Resolver → Prop}
  {first registry next last : Registry} {marks inner : List PassMark}
  {entries : List Registration} {snapshot : Snapshot}

/-- The names that a call has added. -/
def Registry.addedMarks (before after : Registry) : List PassMark :=
  (after.table.handlers.drop before.size).map fun command => .added command.name

/-- What stays of the marks of a pass once its rebuild has ended. -/
def Attempt.passMarks (attempt : Attempt α) (inner : List PassMark) : List PassMark :=
  match attempt.result with
  | .ok _ => .entered :: inner
  | .error _ => []

/-- A sequence of calls with its marks.  A pass is any function whose work on its registry
is such a sequence, however it ends. -/
inductive Registry.Course (drifts : Resolver → Resolver → Prop) :
    Registry → List PassMark → Registry → Prop
  | refl (registry : Registry) : Course drifts registry [] registry
  | call {first registry next : Registry} {marks : List PassMark} {entries : List Registration}
      (hbefore : Course drifts first marks registry)
      (hcall : registry.Call drifts entries next) :
      Course drifts first (marks ++ registry.addedMarks next) next
  | rebuild {first registry : Registry} {marks inner : List PassMark}
      (hbefore : Course drifts first marks registry)
      (options : RegistryOptions) (pass : Registry → Attempt Unit)
      (hpass : Course drifts registry.working inner (pass registry.working).after) :
      Course drifts first (marks ++ (registry.rebuild options pass).passMarks inner)
        (registry.rebuild options pass).after

/-- A version is open at the end exactly if a name was added last. -/
theorem PassMark.opened_eq_true_iff (marks : List PassMark) :
    PassMark.opened false marks = true ↔ ∃ name, marks.getLast? = some (.added name) := by
  induction marks using List.reverseRecOn with
  | nil => simp [PassMark.opened]
  | append_singleton front mark _ =>
      rw [PassMark.opened_append, List.getLast?_concat]
      cases mark with
      | added name => simp [PassMark.opened]
      | entered => simp [PassMark.opened]

/-- Without an open version any name opens one; with one it takes another rebuild before. -/
theorem PassMark.openings_ne_zero_iff (changed : Bool) (hadded : marks.filterMap name? ≠ []) :
    PassMark.openings changed marks ≠ 0 ↔
      changed = false ∨ ∃ name, [.entered, .added name].Sublist marks := by
  cases changed with
  | false =>
      refine iff_of_true ?_ (.inl rfl)
      rwa [ne_eq, PassMark.openings_eq_zero_iff]
  | true =>
      rw [ne_eq, PassMark.openings_true_eq_zero_iff, not_forall]
      simp only [not_not, Bool.true_eq_false, false_or]

theorem Registry.addedMarks_of_length (hlength : next.size = registry.size) :
    registry.addedMarks next = [] := by
  rw [Registry.addedMarks, List.map_eq_nil_iff, List.drop_eq_nil_iff]
  exact hlength.le

theorem Registry.addedMarks_of_concat {command : LiveCommand}
    (hhandlers : next.table.handlers = registry.table.handlers ++ [command]) :
    registry.addedMarks next = [.added command.name] := by
  have hsize : registry.size = registry.table.handlers.length := rfl
  rw [Registry.addedMarks, hhandlers, hsize, List.drop_left, List.map_singleton]

theorem Registry.Effect.marked (heffect : registry.Effect drifts entries next)
    (hconsistent : registry.table.Consistent) :
    registry.Marked (registry.addedMarks next) next := by
  cases heffect with
  | none =>
      rw [Registry.addedMarks_of_length rfl]
      exact .refl hconsistent
  | attached | drifted =>
      rw [Registry.addedMarks_of_length]
      · exact ⟨hconsistent, (List.append_nil _).symm, (UInt64.add_zero _).symm, rfl⟩
      · rfl
  | @known name spec position command hlocate =>
      have hlength : (registry.keep position spec.version).size = registry.size := by
        rw [Registry.size, CommandTable.size, Registry.handlers_keep hconsistent hlocate spec false,
          List.length_map]
        rfl
      rw [Registry.addedMarks_of_length hlength]
      exact Registry.marked_keep hconsistent position spec.version
  | @added name spec id handle resolver hresolver hhandle hnew =>
      rw [Registry.addedMarks_of_concat (Registry.handlers_append_opened (.inr rfl) _)]
      exact Registry.marked_added hconsistent hnew spec handle

theorem Registry.Course.marked (hcourse : first.Course drifts marks last)
    (hconsistent : first.table.Consistent) : first.Marked marks last := by
  induction hcourse with
  | refl => exact .refl hconsistent
  | call hbefore hcall ih =>
      have hmarked := ih hconsistent
      exact hmarked.trans ((hcall.effect hmarked.consistent).marked hmarked.consistent)
  | @rebuild first registry marks inner hbefore options pass hpass ih ihpass =>
      have hmarked := ih hconsistent
      cases hresult : (registry.rebuild options pass).result with
      | error error =>
          have hnone : (registry.rebuild options pass).passMarks inner = [] := by
            rw [Attempt.passMarks, hresult]
          rw [Registry.rebuild_of_error hresult, hnone, List.append_nil]
          exact hmarked
      | ok snapshot =>
          have hkept : (registry.rebuild options pass).passMarks inner = .entered :: inner := by
            rw [Attempt.passMarks, hresult]
          rw [(Registry.rebuild_of_ok hresult).1, hkept]
          exact hmarked.trans (ihpass hmarked.consistent).of_working

/-- While its word has room, the version counts the versions that the marks open. -/
theorem Registry.Marked.version_toNat (hmarked : first.Marked marks last)
    (hroom : first.version.toNat + PassMark.openings first.changed marks < UInt64.size) :
    last.version.toNat = first.version.toNat + PassMark.openings first.changed marks := by
  rw [hmarked.version, UInt64.toNat_add, UInt64.toNat_ofNat_of_lt' (by omega)]
  exact Nat.mod_eq_of_lt hroom

theorem Registry.Marked.added_of_unlisted (hmarked : first.Marked marks last)
    {command : LiveCommand} (hmem : command ∈ last.table.handlers)
    (hunlisted : command.name ∉ first.snapshot.handlers.map CommandRecord.name) :
    marks.filterMap PassMark.name? ≠ [] := by
  have hnames : first.snapshot.handlers.map CommandRecord.name =
      first.table.handlers.map LiveCommand.name := first.map_snapshot CommandRecord.name
  intro hnone
  apply hunlisted
  rw [hnames, ← List.append_nil (first.table.handlers.map LiveCommand.name), ← hnone,
    ← hmarked.names]
  exact List.mem_map_of_mem hmem

/-- After a rebuild has published a snapshot, a registry that has got a name which is not in
it is of a later version unless the pass has added a name last and every further name has
come before any other rebuild that was kept. -/
theorem Registry.Reachable.version_after_publication (hreach : registry.Reachable answers)
    {options : RegistryOptions} {pass : Registry → Attempt Unit}
    (hpass : registry.working.Course drifts inner (pass registry.working).after)
    (hsucceeded : (registry.rebuild options pass).result = .ok snapshot)
    (hcourse : (registry.rebuild options pass).after.Course drifts marks last)
    (hroom : snapshot.version.toNat +
      PassMark.openings (PassMark.opened false inner) marks < UInt64.size) :
    last.version.toNat = snapshot.version.toNat +
      PassMark.openings (PassMark.opened false inner) marks ∧
    ∀ command ∈ last.table.handlers,
      command.name ∉ snapshot.handlers.map CommandRecord.name →
      (snapshot.version < last.version ↔
        (∀ name, inner.getLast? ≠ some (.added name)) ∨
          ∃ name, [.entered, .added name].Sublist marks) := by
  obtain ⟨hafter, rfl⟩ := Registry.rebuild_of_ok hsucceeded
  have hinner := hpass.marked hreach.sound.consistent
  have hchanged : (pass registry.working).after.changed = PassMark.opened false inner :=
    hinner.changed
  rw [hafter] at hcourse
  have hmarked := hcourse.marked hinner.consistent
  rw [← hchanged] at hroom ⊢
  have hversion := hmarked.version_toNat hroom
  refine ⟨hversion, ?_⟩
  intro command hmem hunlisted
  have hadded := hmarked.added_of_unlisted hmem hunlisted
  have hclosed : (pass registry.working).after.changed = false ↔
      ∀ name, inner.getLast? ≠ some (.added name) := by
    rw [hchanged, ← Bool.not_eq_true, PassMark.opened_eq_true_iff, not_exists]
  rw [← hclosed, ← PassMark.openings_ne_zero_iff _ hadded, UInt64.lt_iff_toNat_lt, hversion]
  change (pass registry.working).after.version.toNat < _ ↔ _
  omega

/-- A pass that adds one command. -/
def Registry.sampleSingle (name : String) (working : Registry) : Attempt Unit :=
  (working.register name ⟨"@a/request", none, none⟩).map fun _ => ()

/-- The sample after a rebuild that has added a third command. -/
def Registry.samplePublished : Registry :=
  (Registry.sample.rebuild {} (Registry.sampleSingle "@a/third")).after

/-- A fourth command that comes in through a rebuild of its own begins a later version. -/
theorem Registry.version_after_publication_sample :
    Registry.sample.Reachable {sampleSchema.resolver} ∧
      (Registry.sample.rebuild {} (Registry.sampleSingle "@a/third")).result =
        .ok Registry.samplePublished.snapshot ∧
      Registry.samplePublished.snapshot.version <
        (Registry.samplePublished.rebuild {} (Registry.sampleSingle "@a/fourth")).after.version := by
  let last := (Registry.samplePublished.rebuild {} (Registry.sampleSingle "@a/fourth")).after
  have hpass : Registry.sample.working.Course (fun _ _ => True) [.added "@a/third"]
      (Registry.sampleSingle "@a/third" Registry.sample.working).after :=
    .call (.refl _) (.register "@a/third" ⟨"@a/request", none, none⟩)
  have hlater : Registry.samplePublished.working.Course (fun _ _ => True) [.added "@a/fourth"]
      (Registry.sampleSingle "@a/fourth" Registry.samplePublished.working).after :=
    .call (.refl _) (.register "@a/fourth" ⟨"@a/request", none, none⟩)
  have hcourse : Registry.samplePublished.Course (fun _ _ => True)
      [.entered, .added "@a/fourth"] last :=
    .rebuild (.refl _) {} (Registry.sampleSingle "@a/fourth") hlater
  obtain ⟨-, hgrown⟩ := Registry.sample_reachable.version_after_publication hpass rfl hcourse
    (by decide)
  have hfourth := hgrown _ (List.mem_of_getElem? (i := 3) rfl) (by decide)
  exact ⟨Registry.sample_reachable, rfl,
    hfourth.2 (.inr ⟨"@a/fourth", List.Sublist.refl _⟩)⟩

/-- A fourth command that is registered outside of any pass is new, and the version is the
published one. -/
theorem Registry.two_lists_of_one_version :
    Registry.sample.Reachable {sampleSchema.resolver} ∧
      (Registry.sample.rebuild {} (Registry.sampleSingle "@a/third")).result =
        .ok Registry.samplePublished.snapshot ∧
      (∃ command ∈ (Registry.samplePublished.register "@a/fourth"
          ⟨"@a/request", none, none⟩).after.table.handlers,
        command.name ∉ Registry.samplePublished.snapshot.handlers.map CommandRecord.name) ∧
      ¬Registry.samplePublished.snapshot.version <
        (Registry.samplePublished.register "@a/fourth" ⟨"@a/request", none, none⟩).after.version :=
  ⟨Registry.sample_reachable, rfl, ⟨_, List.mem_of_getElem? (i := 3) rfl, by decide⟩, by decide⟩

end CommandRegistry
