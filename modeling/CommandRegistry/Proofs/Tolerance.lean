/-
Failures inside a pass.  A step that fails leaves the registry as it was, however much
it had done before, so a tolerated failure might as well have been left out: a pass less
all its tolerated failures comes to the same, and so does every step that is left in it.
-/
import CommandRegistry.Proofs.Evolution
import CommandRegistry.Registry.Pass

namespace CommandRegistry

variable {α β : Type} {registry : Registry}

/-- Two attempts with one result that leave one registry, whatever they reported. -/
def Attempt.Same (attempt other : Attempt α) : Prop :=
  attempt.result = other.result ∧ attempt.after = other.after

theorem Attempt.Same.trans {attempt other third : Attempt α} (hfirst : attempt.Same other)
    (hlast : other.Same third) : attempt.Same third :=
  ⟨hfirst.1.trans hlast.1, hfirst.2.trans hlast.2⟩

theorem Attempt.Same.symm {attempt other : Attempt α} (hsame : attempt.Same other) :
    other.Same attempt :=
  ⟨hsame.1.symm, hsame.2.symm⟩

theorem Attempt.Same.map {attempt other : Attempt α} (hsame : attempt.Same other) (f : α → β) :
    (attempt.map f).Same (other.map f) :=
  ⟨congrArg (Except.map f) hsame.1, hsame.2⟩

theorem Attempt.after_tolerated (attempt : Attempt StepResult) :
    attempt.tolerated.after = attempt.after := by
  unfold Attempt.tolerated
  split <;> rfl

theorem Attempt.Same.tolerated {attempt other : Attempt StepResult} (hsame : attempt.Same other) :
    attempt.tolerated.Same other.tolerated := by
  obtain ⟨hresult, hafter⟩ := hsame
  unfold Attempt.tolerated
  rw [hresult]
  cases other.result with
  | ok value => exact ⟨hresult, hafter⟩
  | error error => exact ⟨rfl, hafter⟩

theorem Attempt.Same.andThen {attempt other : Attempt α} (hsame : attempt.Same other)
    {next nextOther : Registry → Attempt β}
    (hnext : ∀ value, other.result = .ok value →
      (next other.after).Same (nextOther other.after)) :
    (attempt.andThen next).Same (other.andThen nextOther) := by
  obtain ⟨hresult, hafter⟩ := hsame
  unfold Attempt.andThen
  rw [hresult, hafter]
  cases hother : other.result with
  | ok value => exact hnext value hother
  | error error => exact ⟨rfl, rfl⟩

theorem Attempt.andThen_of_ok {attempt : Attempt α} {value : α}
    (hresult : attempt.result = .ok value) (next : Registry → Attempt β) :
    (attempt.andThen next).Same (next attempt.after) := by
  rw [Attempt.andThen, hresult]
  exact ⟨rfl, rfl⟩

/-- A rebuild sees of its pass only the result and the registry on the working copy. -/
theorem Registry.rebuild_same (registry : Registry) (options : RegistryOptions)
    {pass other : Registry → Attempt Unit}
    (hsame : (pass registry.working).Same (other registry.working)) :
    (registry.rebuild options pass).Same (registry.rebuild options other) := by
  obtain ⟨hresult, hafter⟩ := hsame
  unfold Registry.rebuild
  cases checkOffset registry.offset options with
  | error error => exact ⟨rfl, rfl⟩
  | ok =>
      dsimp only
      rw [hresult, hafter]
      cases (other registry.working).result with
      | error error => exact ⟨rfl, rfl⟩
      | ok => exact ⟨rfl, rfl⟩

theorem Registry.register_of_error {name : String} {spec : CommandSpec} {error : DispatchError}
    (hfailed : (registry.register name spec).result = .error error) :
    (registry.register name spec).after = registry := by
  unfold Registry.register at hfailed ⊢
  cases hpassed : registry.assess name spec with
  | error error => rfl
  | ok admission =>
      cases admission with
      | known => simp [hpassed, Registry.settle, Registry.succeed] at hfailed
      | added => simp [hpassed, Registry.settle] at hfailed

theorem Registry.attach_of_error {resolver : Resolver} {error : DispatchError}
    (hfailed : (registry.attach resolver).result = .error error) :
    (registry.attach resolver).after = registry := by
  unfold Registry.attach at hfailed ⊢
  split at hfailed
  · rfl
  · contradiction

/-- The step has failed, and if it was tolerated this has become its result. -/
def Attempt.Failed (attempt : Attempt StepResult) (error : DispatchError) : Prop :=
  attempt.result = .error error ∨ attempt.result = .ok (.tolerated error)

theorem Attempt.Failed.of_tolerated {attempt : Attempt StepResult} {error : DispatchError}
    (hfailed : attempt.tolerated.Failed error) : attempt.Failed error := by
  unfold Attempt.Failed Attempt.tolerated at hfailed
  unfold Attempt.Failed
  cases hresult : attempt.result with
  | ok value => simpa [hresult] using hfailed
  | error other => simpa [hresult] using hfailed

/-- Only a tolerated step has a failure for its result. -/
theorem Attempt.Failed.of_map {attempt : Attempt α} {f : α → StepResult} {error : DispatchError}
    (hf : ∀ value error, f value ≠ .tolerated error) (hfailed : (attempt.map f).Failed error) :
    attempt.result = .error error := by
  unfold Attempt.Failed Attempt.map at hfailed
  cases hresult : attempt.result with
  | ok value => simp [hresult, Except.map, hf] at hfailed
  | error other => simpa [hresult, Except.map] using hfailed

/-- A step of any kind that fails has changed nothing. -/
theorem Step.after_of_failed {error : DispatchError} : ∀ {step : Step} {registry : Registry},
    (step.run registry).Failed error → (step.run registry).after = registry
  | .register name spec, registry, hfailed =>
      Registry.register_of_error (hfailed.of_map (by simp))
  | .attach resolver, registry, hfailed => Registry.attach_of_error (hfailed.of_map (by simp))
  | .rebuild options pass, registry, hfailed =>
      Registry.rebuild_of_error (hfailed.of_map (by simp))
  | .abort error, registry, hfailed => rfl
  | .tolerate step, registry, hfailed => by
      unfold Step.run at hfailed ⊢
      rw [Attempt.after_tolerated]
      exact Step.after_of_failed hfailed.of_tolerated

mutual
/-- A step less the tolerated failures inside it. -/
def Step.pruned : Step → Registry → Step
  | .rebuild options pass, registry =>
      match checkOffset registry.offset options with
      | .ok () => .rebuild options (Step.prunedAll pass registry.working)
      | .error _ => .rebuild options pass
  | .tolerate step, registry => .tolerate (step.pruned registry)
  | .register name spec, _ => .register name spec
  | .attach resolver, _ => .attach resolver
  | .abort error, _ => .abort error

/-- A pass less its tolerated failures, those of the steps inside it included.  What
comes after the end of the pass is not run and stays. -/
def Step.prunedAll : List Step → Registry → List Step
  | [], _ => []
  | step :: rest, registry =>
      match (step.run registry).result with
      | .ok (.tolerated _) => Step.prunedAll rest (step.run registry).after
      | .ok _ => step.pruned registry :: Step.prunedAll rest (step.run registry).after
      | .error _ => step.pruned registry :: rest
end

mutual
/-- A report less the reports of the tolerated failures inside it. -/
def Report.pruned : Report → Report
  | .mk inner attempt => .mk (Report.prunedAll inner) attempt

def Report.prunedAll : List Report → List Report
  | [] => []
  | report :: rest =>
      match report.attempt.result with
      | .ok (.tolerated _) => Report.prunedAll rest
      | _ => report.pruned :: Report.prunedAll rest
end

mutual
/-- A report of results and registries alone, without the events. -/
def Report.silent : Report → Report
  | .mk inner attempt => .mk (Report.silentAll inner) { attempt with events := [] }

def Report.silentAll : List Report → List Report
  | [] => []
  | report :: rest => report.silent :: Report.silentAll rest
end

theorem Step.prunedAll_cons (step : Step) (rest : List Step) (registry : Registry) :
    (∃ error, (step.run registry).result = .ok (.tolerated error) ∧
      Step.prunedAll (step :: rest) registry = Step.prunedAll rest registry) ∨
    (∃ value, (step.run registry).result = .ok value ∧ (∀ error, value ≠ .tolerated error) ∧
      Step.prunedAll (step :: rest) registry =
        step.pruned registry :: Step.prunedAll rest (step.run registry).after) ∨
    (∃ error, (step.run registry).result = .error error ∧
      Step.prunedAll (step :: rest) registry = step.pruned registry :: rest) := by
  rw [Step.prunedAll]
  cases hresult : (step.run registry).result with
  | error error => exact .inr (.inr ⟨error, rfl, rfl⟩)
  | ok value =>
      cases value with
      | tolerated error =>
          have hsame : (step.run registry).after = registry := Step.after_of_failed (.inr hresult)
          exact .inl ⟨error, rfl, by rw [hsame]⟩
      | assigned | attached | rebuilt => exact .inr (.inl ⟨_, rfl, by simp, rfl⟩)

mutual
theorem Step.run_pruned : ∀ (step : Step) (registry : Registry),
    ((step.pruned registry).run registry).Same (step.run registry)
  | .register name spec, registry => ⟨rfl, rfl⟩
  | .attach resolver, registry => ⟨rfl, rfl⟩
  | .abort error, registry => ⟨rfl, rfl⟩
  | .tolerate step, registry => by
      have hinner := Step.run_pruned step registry
      unfold Step.pruned Step.run
      exact hinner.tolerated
  | .rebuild options pass, registry => by
      have hpass := Step.runAll_prunedAll pass registry.working
      unfold Step.pruned
      split
      · unfold Step.run
        exact (registry.rebuild_same options hpass).map _
      · exact ⟨rfl, rfl⟩

theorem Step.runAll_prunedAll : ∀ (pass : List Step) (registry : Registry),
    (Step.runAll (Step.prunedAll pass registry) registry).Same (Step.runAll pass registry)
  | [], registry => ⟨rfl, rfl⟩
  | step :: rest, registry => by
      have hstep := Step.run_pruned step registry
      have hrest := Step.runAll_prunedAll rest (step.run registry).after
      rcases Step.prunedAll_cons step rest registry with ⟨error, hresult, hpruned⟩ |
        ⟨value, hresult, -, hpruned⟩ | ⟨error, hresult, hpruned⟩
      · have hafter : (step.run registry).after = registry := Step.after_of_failed (.inr hresult)
        have hskipped := Attempt.andThen_of_ok hresult fun registry => Step.runAll rest registry
        rw [hafter] at hrest hskipped
        rw [hpruned]
        exact hrest.trans hskipped.symm
      · rw [hpruned]
        exact hstep.andThen fun _ _ => hrest
      · rw [hpruned]
        refine hstep.andThen fun value hok => ?_
        rw [hresult] at hok
        contradiction
end

theorem Report.silent_of_same {inner other : List Report} {attempt given : Attempt StepResult}
    (hinner : Report.silentAll inner = Report.silentAll other) (hsame : attempt.Same given) :
    (Report.mk inner attempt).silent = (Report.mk other given).silent := by
  obtain ⟨hresult, hafter⟩ := hsame
  simp only [Report.silent, hinner, hresult, hafter]

theorem Step.report_eq (step : Step) (registry : Registry) :
    step.report registry = .mk (step.report registry).inner (step.run registry) := by
  cases step <;> rfl

theorem Step.attempt_report (step : Step) (registry : Registry) :
    (step.report registry).attempt = step.run registry := by
  rw [Step.report_eq]
  rfl

theorem Step.reportAll_of_ok {step : Step} {value : StepResult}
    (hresult : (step.run registry).result = .ok value) (rest : List Step) :
    Step.reportAll (step :: rest) registry =
      step.report registry :: Step.reportAll rest (step.run registry).after := by
  rw [Step.reportAll, Step.attempt_report, hresult]

theorem Step.reportAll_of_error {step : Step} {error : DispatchError}
    (hresult : (step.run registry).result = .error error) (rest : List Step) :
    Step.reportAll (step :: rest) registry = [step.report registry] := by
  rw [Step.reportAll, Step.attempt_report, hresult]

/-- The attempt of a whole pass, put together from the reports of its steps. -/
def Report.conclude (registry : Registry) : List Report → Attempt Unit
  | [] => registry.succeed ()
  | report :: rest => report.attempt.andThen fun after => Report.conclude after rest

/-- What is reported of a pass is what its steps came to as it was run. -/
theorem Step.conclude_reportAll (pass : List Step) (registry : Registry) :
    Report.conclude registry (Step.reportAll pass registry) = Step.runAll pass registry := by
  induction pass generalizing registry with
  | nil => rfl
  | cons step rest ih =>
      cases hresult : (step.run registry).result with
      | error error =>
          simp only [Step.reportAll_of_error hresult, Report.conclude, Step.attempt_report,
            Step.runAll, Attempt.andThen, hresult]
      | ok value =>
          simp only [Step.reportAll_of_ok hresult, Report.conclude, Step.attempt_report,
            Step.runAll, Attempt.andThen, hresult, ih]

/-- A rebuild runs the pass whose steps are reported inside its own report. -/
theorem Step.rebuild_conclude (options : RegistryOptions) (pass : List Step)
    (registry : Registry) :
    (registry.rebuild options fun working => Report.conclude working
      ((Step.rebuild options pass).report registry).inner).map .rebuilt =
        (Step.rebuild options pass).run registry := by
  cases hchecked : checkOffset registry.offset options with
  | error error => simp only [Step.run, Registry.rebuild, hchecked]
  | ok =>
      simp only [Step.run, Registry.rebuild, Step.report, Report.inner, hchecked,
        Step.conclude_reportAll]

theorem Report.prunedAll_cons_of_kept {report : Report} (rest : List Report)
    (hkept : ∀ error, report.attempt.result ≠ .ok (.tolerated error)) :
    Report.prunedAll (report :: rest) = report.pruned :: Report.prunedAll rest := by
  rw [Report.prunedAll]
  split
  · rename_i error hresult
    exact absurd hresult (hkept error)
  · rfl

theorem Step.report_pruned {step : Step}
    (hinner : Report.silentAll ((step.pruned registry).report registry).inner =
      Report.silentAll (Report.prunedAll (step.report registry).inner)) :
    ((step.pruned registry).report registry).silent = (step.report registry).pruned.silent := by
  rw [Step.report_eq (step.pruned registry), Step.report_eq step, Report.pruned]
  exact Report.silent_of_same hinner (Step.run_pruned step registry)

mutual
theorem Step.inner_report_pruned : ∀ (step : Step) (registry : Registry),
    Report.silentAll ((step.pruned registry).report registry).inner =
      Report.silentAll (Report.prunedAll (step.report registry).inner)
  | .register name spec, registry => rfl
  | .attach resolver, registry => rfl
  | .abort error, registry => rfl
  | .tolerate step, registry => Step.inner_report_pruned step registry
  | .rebuild options pass, registry => by
      have hpass := Step.reportAll_prunedAll pass registry.working
      cases hchecked : checkOffset registry.offset options with
      | error error => simp only [Step.pruned, Step.report, hchecked, Report.inner, Report.prunedAll]
      | ok => simpa only [Step.pruned, Step.report, hchecked, Report.inner] using hpass

theorem Step.reportAll_prunedAll : ∀ (pass : List Step) (registry : Registry),
    Report.silentAll (Step.reportAll (Step.prunedAll pass registry) registry) =
      Report.silentAll (Report.prunedAll (Step.reportAll pass registry))
  | [], registry => rfl
  | step :: rest, registry => by
      have hsame := Step.run_pruned step registry
      have hstep := Step.report_pruned (Step.inner_report_pruned step registry)
      have hrest := Step.reportAll_prunedAll rest (step.run registry).after
      rcases Step.prunedAll_cons step rest registry with ⟨error, hresult, hpruned⟩ |
        ⟨value, hresult, hkept, hpruned⟩ | ⟨error, hresult, hpruned⟩
      · have hafter : (step.run registry).after = registry := Step.after_of_failed (.inr hresult)
        rw [hafter] at hrest
        rw [hpruned, hrest, Step.reportAll_of_ok hresult, hafter, Report.prunedAll,
          Step.attempt_report, hresult]
      · have hreported : ∀ error, (step.report registry).attempt.result ≠ .ok (.tolerated error) := by
          intro error
          rw [Step.attempt_report, hresult]
          simpa using hkept error
        rw [hpruned, Step.reportAll_of_ok (hsame.1.trans hresult), Step.reportAll_of_ok hresult,
          Report.prunedAll_cons_of_kept _ hreported, hsame.2, Report.silentAll, Report.silentAll,
          hstep, hrest]
      · have hreported : ∀ error, (step.report registry).attempt.result ≠ .ok (.tolerated error) := by
          intro other
          rw [Step.attempt_report, hresult]
          simp
        rw [hpruned, Step.reportAll_of_error (hsame.1.trans hresult),
          Step.reportAll_of_error hresult, Report.prunedAll_cons_of_kept _ hreported,
          Report.prunedAll, Report.silentAll, Report.silentAll, Report.silentAll,
          Report.silentAll, hstep]
end

/-- A rebuild that fails leaves the registry as it was, and so does every step of a pass,
tolerated or not.  Without the tolerated failures at any depth the rebuild has the same
result and leaves the same registry, and so does every step that stays, as the reports say.
The reports of a pass, those inside them included, make up the pass as it was run. -/
theorem Registry.transactional_passes (registry : Registry) (options : RegistryOptions)
    (pass : List Step) :
    (∀ error, (registry.rebuild options (Step.runAll pass)).result = .error error →
      (registry.rebuild options (Step.runAll pass)).after = registry) ∧
    (∀ (step : Step) (current : Registry) (error : DispatchError),
      (step.run current).Failed error → (step.run current).after = current) ∧
    (registry.rebuild options (Step.runAll (Step.prunedAll pass registry.working))).Same
      (registry.rebuild options (Step.runAll pass)) ∧
    Report.silentAll (Step.reportAll (Step.prunedAll pass registry.working) registry.working) =
      Report.silentAll (Report.prunedAll (Step.reportAll pass registry.working)) ∧
    Report.conclude registry.working (Step.reportAll pass registry.working) =
      Step.runAll pass registry.working ∧
    ∀ (options : RegistryOptions) (pass : List Step) (current : Registry),
      (current.rebuild options fun working => Report.conclude working
        ((Step.rebuild options pass).report current).inner).map .rebuilt =
          (Step.rebuild options pass).run current := by
  refine ⟨?_, fun step current error => Step.after_of_failed, ?_, ?_,
    Step.conclude_reportAll pass registry.working, Step.rebuild_conclude⟩
  · intro error hfailed
    exact Registry.rebuild_of_error hfailed
  · exact registry.rebuild_same options (Step.runAll_prunedAll pass registry.working)
  · exact Step.reportAll_prunedAll pass registry.working

/-- A pass that goes on after a rebuild which has added a command, after a second
resolver, and inside a rebuild after a command of an unknown type. -/
def Step.sampleFailures : List Step :=
  [.tolerate (.rebuild {} [.register "@a/third" ⟨"@a/request", none, none⟩,
      .abort .idSpaceExhausted]),
    .tolerate (.attach sampleSchema.resolver),
    .rebuild {} [.tolerate (.register "@a/third" ⟨"@a/missing", none, none⟩),
      .register "@a/fourth" ⟨"@a/request", none, none⟩]]

/-- The sample after this pass, and after the same pass with a failure at its end. -/
theorem Registry.transactional_passes_sample :
    (∃ snapshot, (Registry.sample.rebuild {} (Step.runAll Step.sampleFailures)).result =
        .ok snapshot ∧
      (Registry.sample.rebuild {} (Step.runAll
        [.rebuild {} [.register "@a/fourth" ⟨"@a/request", none, none⟩]])).result =
          .ok snapshot) ∧
      (Registry.sample.rebuild {} (Step.runAll
        (Step.sampleFailures ++ [.abort .idSpaceExhausted]))).after = Registry.sample := by
  have hpruned : Step.prunedAll Step.sampleFailures Registry.sample.working =
      [.rebuild {} [.register "@a/fourth" ⟨"@a/request", none, none⟩]] := rfl
  obtain ⟨-, -, hsame, -⟩ := Registry.sample.transactional_passes {} Step.sampleFailures
  rw [hpruned] at hsame
  obtain ⟨hfailed, -⟩ := Registry.sample.transactional_passes {}
    (Step.sampleFailures ++ [.abort .idSpaceExhausted])
  exact ⟨⟨_, rfl, hsame.1⟩, hfailed .idSpaceExhausted rfl⟩

end CommandRegistry
