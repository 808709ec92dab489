import ModelCodegen.Generation.Job

/-!
# Generation runs

The jobs of a run are done in order, and an output path belongs to the first artifact that is
generated for it: a later one for the same path is a failure.  A run keeps going after a failure or
stops at the first one.
-/

namespace ModelCodegen

/-- What a failure does to a run. -/
inductive FailurePolicy where
  /-- The first failure ends the run and is its result. -/
  | failFast
  /-- Every job is done. -/
  | bestEffort
  deriving DecidableEq, Repr

/-- What came of the jobs of a run, each in order. -/
structure Report where
  outputs : List Artifact := []
  failures : List Failure := []
  deriving DecidableEq, Repr

namespace Report

/-- A run in which nothing failed. -/
def isSuccess (report : Report) : Bool := report.failures.isEmpty

/-- An artifact whose path is taken already is a failure. -/
def settle (taken : List String) (outcome : Except Failure Artifact) :
    Except Failure Artifact := do
  let artifact ← outcome
  if taken.contains artifact.path then
    throw { artifact.toCoordinate with error := .pathCollision artifact.path }
  else return artifact

/-- What comes of all outcomes, when some paths are taken already. -/
def collect (taken : List String) : List (Except Failure Artifact) → Report
  | [] => {}
  | outcome :: rest =>
    match settle taken outcome with
    | .ok artifact =>
      let report := collect (artifact.path :: taken) rest
      { report with outputs := artifact :: report.outputs }
    | .error failure =>
      let report := collect taken rest
      { report with failures := failure :: report.failures }

/-- The artifacts of outcomes without a failure, or else the first failure. -/
def untilFailure (taken : List String) :
    List (Except Failure Artifact) → Except Failure (List Artifact)
  | [] => .ok []
  | outcome :: rest => do
    let artifact ← settle taken outcome
    return artifact :: (← untilFailure (artifact.path :: taken) rest)

end Report

/-- Generate the artifacts of stacks for a set of schemas. -/
def generate (registry : Registry) (config : Config) (policy : FailurePolicy) (set : SchemaSet)
    (ids : List StackId) : Except Failure Report :=
  let outcomes := (Job.ofStacks registry set ids).map (Job.attempt registry.templates config)
  match policy with
  | .failFast => do return { outputs := ← Report.untilFailure [] outcomes }
  | .bestEffort => .ok (Report.collect [] outcomes)

end ModelCodegen
