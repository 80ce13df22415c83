/-
Rebuilds inside a rebuild.  An inner rebuild that succeeds takes the place of the outer
working copy, and its mark of an open version takes the place of the outer one.  A name
that is added after it may therefore open a version although the outer pass has opened
one before.
-/
import CommandRegistry.Proofs.Tolerance
import CommandRegistry.Proofs.VersionBookkeeping

namespace CommandRegistry

variable {answers : Set Resolver} {first registry last : Registry}

/-- A name that a pass has added, or the beginning of an inner rebuild that it has kept. -/
inductive PassMark where
  | added (name : String)
  | entered

def PassMark.name? : PassMark → Option String
  | .added name => some name
  | .entered => none

/-- How many versions are opened, where `changed` tells whether one is open at first. -/
def PassMark.openings : Bool → List PassMark → Nat
  | _, [] => 0
  | changed, .added _ :: rest => (if changed then 0 else 1) + PassMark.openings true rest
  | _, .entered :: rest => PassMark.openings false rest

/-- Whether a version is open at the end. -/
def PassMark.opened : Bool → List PassMark → Bool
  | changed, [] => changed
  | _, .added _ :: rest => PassMark.opened true rest
  | _, .entered :: rest => PassMark.opened false rest

theorem PassMark.openings_append (changed : Bool) (marks more : List PassMark) :
    PassMark.openings changed (marks ++ more) =
      PassMark.openings changed marks + PassMark.openings (PassMark.opened changed marks) more := by
  induction marks generalizing changed with
  | nil => exact (Nat.zero_add _).symm
  | cons mark rest ih =>
      cases mark with
      | added name =>
          simp only [List.cons_append, PassMark.openings, PassMark.opened, ih, Nat.add_assoc]
      | entered => simp only [List.cons_append, PassMark.openings, PassMark.opened, ih]

theorem PassMark.opened_append (changed : Bool) (marks more : List PassMark) :
    PassMark.opened changed (marks ++ more) =
      PassMark.opened (PassMark.opened changed marks) more := by
  induction marks generalizing changed with
  | nil => rfl
  | cons mark rest ih => cases mark <;> exact ih _

/-- A version is opened for the first name, and for none without one. -/
theorem PassMark.openings_eq_zero_iff (marks : List PassMark) :
    PassMark.openings false marks = 0 ↔ marks.filterMap PassMark.name? = [] := by
  induction marks with
  | nil => exact iff_of_true rfl rfl
  | cons mark rest ih =>
      cases mark with
      | added name => simp [PassMark.openings, PassMark.name?]
      | entered => simpa only [PassMark.openings, List.filterMap_cons, PassMark.name?] using ih

theorem PassMark.filterMap_name?_eq_nil_iff (marks : List PassMark) :
    marks.filterMap PassMark.name? = [] ↔ ∀ name, .added name ∉ marks := by
  rw [List.filterMap_eq_nil_iff]
  constructor
  · intro hnone name hmem
    exact Option.some_ne_none name (hnone (.added name) hmem)
  · intro habsent mark hmem
    cases mark with
    | added name => exact absurd hmem (habsent name)
    | entered => rfl

/-- While a version is open it takes an inner rebuild and a name after it to open
another one. -/
theorem PassMark.openings_true_eq_zero_iff (marks : List PassMark) :
    PassMark.openings true marks = 0 ↔ ∀ name, ¬[.entered, .added name].Sublist marks := by
  induction marks with
  | nil => simp [PassMark.openings]
  | cons mark rest ih =>
      cases mark with
      | added name => simpa [PassMark.openings, List.cons_sublist_cons'] using ih
      | entered =>
          rw [PassMark.openings, PassMark.openings_eq_zero_iff,
            PassMark.filterMap_name?_eq_nil_iff]
          refine forall_congr' fun name => not_congr ?_
          rw [List.cons_sublist_cons, List.singleton_sublist]

/-- Two versions are opened exactly if a name is added on both sides of the beginning of
an inner rebuild. -/
theorem PassMark.openings_le_one_iff (marks : List PassMark) :
    PassMark.openings false marks ≤ 1 ↔
      ∀ before after, ¬[.added before, .entered, .added after].Sublist marks := by
  induction marks with
  | nil => simp [PassMark.openings]
  | cons mark rest ih =>
      cases mark with
      | entered => simpa [PassMark.openings, List.cons_sublist_cons'] using ih
      | added name =>
          have hfirst : PassMark.openings false (.added name :: rest) ≤ 1 ↔
              PassMark.openings true rest = 0 := by
            rw [PassMark.openings, if_neg Bool.false_ne_true]
            omega
          rw [hfirst, PassMark.openings_true_eq_zero_iff]
          constructor
          · intro hnone before after hsublist
            exact hnone after hsublist.tail
          · intro hnone after hsublist
            exact hnone name after (hsublist.cons_cons _)

mutual
/-- What a step leaves behind of names and inner rebuilds: nothing if it fails. -/
def Step.marks : Step → Registry → List PassMark
  | .register name spec, registry =>
      match registry.assess name spec with
      | .ok (.added _ _) => [.added name]
      | _ => []
  | .rebuild options pass, registry =>
      match ((Step.rebuild options pass).run registry).result with
      | .ok _ => .entered :: Step.marksAll pass registry.working
      | .error _ => []
  | .tolerate step, registry => step.marks registry
  | .attach _, _ => []
  | .abort _, _ => []

/-- The marks of a pass, up to the first step that fails. -/
def Step.marksAll : List Step → Registry → List PassMark
  | [], _ => []
  | step :: rest, registry =>
      match (step.run registry).result with
      | .ok _ => step.marks registry ++ Step.marksAll rest (step.run registry).after
      | .error _ => []
end

/-- How a registry stands after what the marks tell. -/
structure Registry.Marked (first : Registry) (marks : List PassMark) (last : Registry) :
    Prop where
  consistent : last.table.Consistent
  names : last.table.handlers.map LiveCommand.name =
    first.table.handlers.map LiveCommand.name ++ marks.filterMap PassMark.name?
  version : last.version =
    first.version + UInt64.ofNat (PassMark.openings first.changed marks)
  changed : last.changed = PassMark.opened first.changed marks

theorem Registry.Marked.refl (hconsistent : registry.table.Consistent) :
    registry.Marked [] registry :=
  ⟨hconsistent, (List.append_nil _).symm, (UInt64.add_zero _).symm, rfl⟩

theorem Registry.marked_attach (hconsistent : registry.table.Consistent) (resolver : Resolver) :
    registry.Marked [] (registry.attach resolver).after := by
  unfold Registry.attach
  split
  · exact .refl hconsistent
  · exact ⟨hconsistent, (List.append_nil _).symm, (UInt64.add_zero _).symm, rfl⟩

theorem Registry.Marked.trans {marks more : List PassMark} (hfirst : first.Marked marks registry)
    (hlast : registry.Marked more last) : first.Marked (marks ++ more) last := by
  refine ⟨hlast.consistent, ?_, ?_, ?_⟩
  · rw [hlast.names, hfirst.names, List.filterMap_append, List.append_assoc]
  · rw [hlast.version, hfirst.version, hfirst.changed, PassMark.openings_append,
      UInt64.ofNat_add, UInt64.add_assoc]
  · rw [hlast.changed, hfirst.changed, PassMark.opened_append]

theorem Registry.marked_keep (hconsistent : registry.table.Consistent) (position : Nat)
    (version : Option UInt64) : registry.Marked [] (registry.keep position version) := by
  cases version with
  | none => exact .refl hconsistent
  | some version =>
      refine ⟨hconsistent.setVersion position version, ?_, (UInt64.add_zero _).symm, rfl⟩
      rw [List.filterMap_nil, List.append_nil]
      exact CommandTable.map_handlers_setVersion (fun _ _ => rfl) _ position version

theorem Registry.marked_added (hconsistent : registry.table.Consistent) {name : String}
    {id : UInt64} (hnew : registry.table.Lacks name id) (spec : CommandSpec)
    (handle : TypeHandle) :
    registry.Marked [.added name]
      (registry.bump.append (registry.bump.newCommand name spec id handle)) := by
  have htable : registry.bump.table = registry.table :=
    (Registry.same_of_opened (.inr rfl)).1
  refine ⟨?_, ?_, ?_, registry.bump_changed⟩
  · rw [Registry.append, htable]
    exact hconsistent.push hnew
  · rw [Registry.handlers_append_opened (.inr rfl), List.map_append]
    rfl
  · exact registry.bump_version

theorem Registry.marked_register (hconsistent : registry.table.Consistent) (name : String)
    (spec : CommandSpec) :
    registry.Marked ((Step.register name spec).marks registry)
      (registry.register name spec).after := by
  unfold Step.marks Registry.register
  cases hpassed : registry.assess name spec with
  | error error => exact .refl hconsistent
  | ok admission =>
      cases Registry.admits_of_eq_ok hconsistent hpassed with
      | known => exact Registry.marked_keep hconsistent _ spec.version
      | added _ _ hnew => exact Registry.marked_added hconsistent hnew spec _

/-- From the working copy on there is no open version, whatever the registry has had. -/
theorem Registry.Marked.of_working {marks : List PassMark}
    (hmarked : registry.working.Marked marks last) : registry.Marked (.entered :: marks) last :=
  ⟨hmarked.consistent, hmarked.names, hmarked.version, hmarked.changed⟩

mutual
theorem Step.run_marked : ∀ (step : Step) (registry : Registry), registry.table.Consistent →
    registry.Marked (step.marks registry) (step.run registry).after
  | .register name spec, registry, hconsistent => Registry.marked_register hconsistent name spec
  | .abort error, registry, hconsistent => .refl hconsistent
  | .attach resolver, registry, hconsistent => Registry.marked_attach hconsistent resolver
  | .tolerate step, registry, hconsistent => by
      unfold Step.marks Step.run
      rw [Attempt.after_tolerated]
      exact Step.run_marked step registry hconsistent
  | .rebuild options pass, registry, hconsistent => by
      have hpass := Step.runAll_marked pass registry.working hconsistent
      rw [Step.marks]
      cases hresult : ((Step.rebuild options pass).run registry).result with
      | error error =>
          rw [Step.after_of_failed (.inl hresult)]
          exact .refl hconsistent
      | ok value =>
          rcases Registry.rebuild_cases registry options (Step.runAll pass) with
            ⟨error, hfailed, -⟩ | ⟨-, hafter⟩
          · simp [Step.run, Attempt.map, hfailed, Except.map] at hresult
          · unfold Step.run Attempt.map
            rw [hafter]
            exact hpass.of_working

theorem Step.runAll_marked : ∀ (pass : List Step) (registry : Registry),
    registry.table.Consistent →
    registry.Marked (Step.marksAll pass registry) (Step.runAll pass registry).after
  | [], registry, hconsistent => .refl hconsistent
  | step :: rest, registry, hconsistent => by
      have hstep := Step.run_marked step registry hconsistent
      have hrest := Step.runAll_marked rest (step.run registry).after hstep.consistent
      rw [Step.marksAll, Step.runAll, Attempt.andThen]
      cases hresult : (step.run registry).result with
      | error error =>
          dsimp only
          rw [Step.after_of_failed (.inl hresult)]
          exact .refl hconsistent
      | ok value => exact hstep.trans hrest
end

/-- A pass of any shape that succeeds opens a version for its first name, and another
one for each name that is the first since the beginning of an inner rebuild.  So the
version grows if and only if names were added, and by one and no more exactly if no
inner rebuild began after one of them and before another. -/
theorem Registry.Reachable.version_of_nested_pass (hreach : registry.Reachable answers)
    (options : RegistryOptions) (pass : List Step) {snapshot : Snapshot}
    (hsucceeded : (registry.rebuild options (Step.runAll pass)).result = .ok snapshot)
    (hroom : registry.version.toNat +
      PassMark.openings false (Step.marksAll pass registry.working) < UInt64.size) :
    snapshot.version.toNat = registry.version.toNat +
      PassMark.openings false (Step.marksAll pass registry.working) ∧
    (registry.Gains (registry.rebuild options (Step.runAll pass)).after ↔
      registry.version < snapshot.version) ∧
    ((snapshot.version.toNat ≤ registry.version.toNat + 1 ∧
      (snapshot.version.toNat = registry.version.toNat + 1 ↔
        registry.Gains (registry.rebuild options (Step.runAll pass)).after)) ↔
      ∀ before after, ¬[.added before, .entered, .added after].Sublist
        (Step.marksAll pass registry.working)) := by
  have hconsistent := hreach.sound.consistent
  have hmarked := Step.runAll_marked pass registry.working hconsistent
  obtain ⟨hafter, rfl⟩ := Registry.rebuild_of_ok hsucceeded
  have hgains : registry.Gains (registry.rebuild options (Step.runAll pass)).after ↔
      PassMark.openings false (Step.marksAll pass registry.working) ≠ 0 := by
    rw [hafter, ne_eq, PassMark.openings_eq_zero_iff]
    exact Registry.gains_iff_of_names_append hconsistent hmarked.consistent hmarked.names
  have hversion : (Step.runAll pass registry.working).after.snapshot.version.toNat =
      registry.version.toNat +
        PassMark.openings false (Step.marksAll pass registry.working) := by
    have hopened : (Step.runAll pass registry.working).after.snapshot.version =
        registry.version +
          UInt64.ofNat (PassMark.openings false (Step.marksAll pass registry.working)) :=
      hmarked.version
    rw [hopened, UInt64.toNat_add, UInt64.toNat_ofNat_of_lt' (by omega)]
    exact Nat.mod_eq_of_lt hroom
  refine ⟨hversion, ?_, ?_⟩
  · rw [hgains, UInt64.lt_iff_toNat_lt, hversion]
    omega
  · rw [hgains, hversion, ← PassMark.openings_le_one_iff]
    omega

/-- Inner rebuilds before the first name and after the last one. -/
theorem Registry.version_of_nested_pass_sample :
    Registry.sample.Reachable {sampleSchema.resolver} ∧
      ∃ snapshot, (Registry.sample.rebuild {} (Step.runAll
        [.rebuild {} [.register "@a/third" ⟨"@a/request", none, none⟩],
          .register "@a/fourth" ⟨"@a/request", none, none⟩, .rebuild {} []])).result =
            .ok snapshot ∧
        snapshot.version.toNat = Registry.sample.version.toNat + 1 := by
  let pass : List Step := [.rebuild {} [.register "@a/third" ⟨"@a/request", none, none⟩],
    .register "@a/fourth" ⟨"@a/request", none, none⟩, .rebuild {} []]
  have hmarks : Step.marksAll pass Registry.sample.working =
      [.entered, .added "@a/third", .added "@a/fourth", .entered] := rfl
  have hroom : Registry.sample.version.toNat +
      PassMark.openings false (Step.marksAll pass Registry.sample.working) < UInt64.size := by
    rw [hmarks]
    decide
  obtain ⟨hversion, -, -⟩ := Registry.sample_reachable.version_of_nested_pass {} pass rfl hroom
  exact ⟨Registry.sample_reachable, _, rfl, hversion⟩

/-- An inner rebuild without any step of its own, between two names: the version grows
by two. -/
theorem Registry.two_versions_in_one_pass :
    Registry.sample.Reachable {sampleSchema.resolver} ∧
      ∃ snapshot, (Registry.sample.rebuild {} (Step.runAll
        [.register "@a/third" ⟨"@a/request", none, none⟩, .rebuild {} [],
          .register "@a/fourth" ⟨"@a/request", none, none⟩])).result = .ok snapshot ∧
        ¬snapshot.version.toNat ≤ Registry.sample.version.toNat + 1 :=
  ⟨Registry.sample_reachable, _, rfl, by decide⟩

end CommandRegistry
