/-
Passes as data.  A pass is a list of steps; a step may be a whole rebuild, and
a tolerated step does not end its pass when it fails.
-/
import CommandRegistry.Registry

namespace CommandRegistry

inductive Step where
  | register (name : String) (spec : CommandSpec)
  | attach (resolver : Resolver)
  | rebuild (options : RegistryOptions) (pass : List Step)
  | abort (error : DispatchError)
  | tolerate (step : Step)

/-- What a step has brought about. -/
inductive StepResult where
  | assigned (id : UInt64)
  | attached
  | rebuilt (snapshot : Snapshot)
  | tolerated (error : DispatchError)

/-- Turn a failure into a result of its own. -/
def Attempt.tolerated (attempt : Attempt StepResult) : Attempt StepResult :=
  match attempt.result with
  | .ok _ => attempt
  | .error error => { attempt with result := .ok (.tolerated error) }

mutual
def Step.run : Step → Registry → Attempt StepResult
  | .register name spec, registry => (registry.register name spec).map .assigned
  | .attach resolver, registry => (registry.attach resolver).map fun _ => .attached
  | .rebuild options pass, registry =>
      (registry.rebuild options fun working => Step.runAll pass working).map .rebuilt
  | .abort error, registry => registry.fail error
  | .tolerate step, registry => (step.run registry).tolerated

/-- Run a pass up to the first step that fails. -/
def Step.runAll : List Step → Registry → Attempt Unit
  | [], registry => registry.succeed ()
  | step :: rest, registry =>
      (step.run registry).andThen fun registry => Step.runAll rest registry
end

/-- What a step came to, and for a rebuild what each step of its pass came to. -/
inductive Report where
  | mk (inner : List Report) (attempt : Attempt StepResult)

def Report.inner : Report → List Report
  | .mk inner _ => inner

def Report.attempt : Report → Attempt StepResult
  | .mk _ attempt => attempt

mutual
def Step.report : Step → Registry → Report
  | .rebuild options pass, registry =>
      let inner :=
        match checkOffset registry.offset options with
        | .ok () => Step.reportAll pass registry.working
        | .error _ => []
      .mk inner ((Step.rebuild options pass).run registry)
  | .tolerate step, registry =>
      .mk (step.report registry).inner ((Step.tolerate step).run registry)
  | .register name spec, registry => .mk [] ((Step.register name spec).run registry)
  | .attach resolver, registry => .mk [] ((Step.attach resolver).run registry)
  | .abort error, registry => .mk [] ((Step.abort error).run registry)

/-- A report for each step that was run. -/
def Step.reportAll : List Step → Registry → List Report
  | [], _ => []
  | step :: rest, registry =>
      let report := step.report registry
      match report.attempt.result with
      | .ok _ => report :: Step.reportAll rest report.attempt.after
      | .error _ => [report]
end

end CommandRegistry
