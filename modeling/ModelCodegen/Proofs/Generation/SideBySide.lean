import ModelCodegen.Proofs.Generation.FailurePolicy

/-!
# Runs side by side

Two runs go side by side if job by job they fail alike or yield artifacts that match:
for the same coordinate, with the same path and policy, and at some coordinates with the
same text. Then they abort with the same failure, or their reports have the same
failures and outputs that match.
-/

namespace ModelCodegen

/-- The artifacts are the same, but the text may be another one except at some coordinates. -/
structure Artifact.Matches (same : Coordinate → Prop) (artifact other : Artifact) : Prop where
  coordinate : artifact.toCoordinate = other.toCoordinate
  path : artifact.path = other.path
  policy : artifact.policy = other.policy
  content : same artifact.toCoordinate → artifact.content = other.content

/-- The reports have the same failures, and output by output artifacts that match. -/
structure Report.Matches (same : Coordinate → Prop) (report other : Report) : Prop where
  outputs : List.Forall₂ (Artifact.Matches same) report.outputs other.outputs
  failures : report.failures = other.failures

/-- The results are the same failure, or both are there and related. -/
inductive SideBySide {α : Type} (related : α → α → Prop) :
    Except Failure α → Except Failure α → Prop
  | failed (failure : Failure) : SideBySide related (.error failure) (.error failure)
  | done {a b : α} (h : related a b) : SideBySide related (.ok a) (.ok b)

/-- Artifacts that match everywhere are the same. -/
theorem Artifact.Matches.eq {same : Coordinate → Prop} {artifact other : Artifact}
    (h : artifact.Matches same other) (hsame : same artifact.toCoordinate) : artifact = other :=
  eq_of_parts h.coordinate h.path (h.content hsame) h.policy

/-- Results that are related stay so under every weaker relation. -/
theorem SideBySide.imp {α : Type} {related others : α → α → Prop} {result other : Except Failure α}
    (h : SideBySide related result other) (himp : ∀ {a b}, related a b → others a b) :
    SideBySide others result other := by
  cases h with
  | failed failure => exact .failed failure
  | done h => exact .done (himp h)

/-! ## Collecting outcomes -/

/-- The reports have the same failures, and output by output artifacts that are related. -/
structure Report.Related (related : Artifact → Artifact → Prop) (report other : Report) : Prop where
  outputs : List.Forall₂ related report.outputs other.outputs
  failures : report.failures = other.failures

section Related

variable {related : Artifact → Artifact → Prop}
  (hplace : ∀ {artifact other}, related artifact other →
    artifact.toCoordinate = other.toCoordinate ∧ artifact.path = other.path)

include hplace

/-- Outcomes side by side whose artifacts share their place end side by side. -/
theorem SideBySide.settle {outcome other : Except Failure Artifact}
    (h : SideBySide related outcome other) (taken : List String) :
    SideBySide related (Report.settle taken outcome) (Report.settle taken other) := by
  cases h with
  | failed failure => exact .failed failure
  | @done artifact other h =>
    obtain ⟨hcoordinate, hpath⟩ := hplace h
    simp only [Report.settle, Result.ok_bind, ← hpath, ← hcoordinate]
    split
    · exact .failed _
    · exact .done h

/-- What is related outcome by outcome is related when it is collected. -/
theorem Report.related_collect {outcomes others : List (Except Failure Artifact)}
    (h : List.Forall₂ (SideBySide related) outcomes others) (taken : List String) :
    (collect taken outcomes).Related related (collect taken others) := by
  induction h generalizing taken with
  | nil => exact ⟨.nil, rfl⟩
  | @cons outcome other outcomes others hfirst _ ih =>
    have hsettle := hfirst.settle hplace taken
    rw [collect, collect]
    generalize settle taken outcome = settled, settle taken other = otherSettled at hsettle
    cases hsettle with
    | failed failure =>
      obtain ⟨houtputs, hfailures⟩ := ih taken
      exact ⟨houtputs, congrArg (failure :: ·) hfailures⟩
    | @done artifact other hrelated =>
      obtain ⟨houtputs, hfailures⟩ := ih (artifact.path :: taken)
      simp only [← (hplace hrelated).2]
      exact ⟨.cons hrelated houtputs, hfailures⟩

/-- Runs whose outcomes go side by side do so themselves. -/
theorem sideBySide_generate_of_related {registry otherRegistry : Registry} {config other : Config}
    {set otherSet : SchemaSet} {ids : List StackId}
    (h : List.Forall₂ (SideBySide related)
      ((Job.ofStacks registry set ids).map (Job.attempt registry.templates config))
      ((Job.ofStacks otherRegistry otherSet ids).map (Job.attempt otherRegistry.templates other)))
    (policy : FailurePolicy) :
    SideBySide (Report.Related related) (generate registry config policy set ids)
      (generate otherRegistry other policy otherSet ids) := by
  have hrelated := Report.related_collect hplace h []
  cases policy with
  | bestEffort => exact .done hrelated
  | failFast =>
    simp only [generate, Report.untilFailure_eq_collect]
    generalize Report.collect [] ((Job.ofStacks registry set ids).map _) = report,
      Report.collect [] ((Job.ofStacks otherRegistry otherSet ids).map _) = otherReport at hrelated
    obtain ⟨outputs, failures⟩ := report
    obtain ⟨otherOutputs, otherFailures⟩ := otherReport
    obtain ⟨houtputs, rfl⟩ := hrelated
    cases failures with
    | nil => exact .done ⟨houtputs, rfl⟩
    | cons failure rest => exact .failed failure

end Related

/-! ## Matching artifacts -/

section Runs

variable {same : Coordinate → Prop}

/-- Runs whose outcomes match have reports that match. -/
theorem sideBySide_generate {registry otherRegistry : Registry} {config other : Config}
    {set : SchemaSet} {ids : List StackId}
    (h : List.Forall₂ (SideBySide (Artifact.Matches same))
      ((Job.ofStacks registry set ids).map (Job.attempt registry.templates config))
      ((Job.ofStacks otherRegistry set ids).map (Job.attempt otherRegistry.templates other)))
    (policy : FailurePolicy) :
    SideBySide (Report.Matches same) (generate registry config policy set ids)
      (generate otherRegistry other policy set ids) :=
  (sideBySide_generate_of_related (fun h => ⟨h.coordinate, h.path⟩) h policy).imp
    fun h => ⟨h.outputs, h.failures⟩

/-- The outputs of runs that may not fail match if those of each job do. -/
theorem matches_of_generate {registry otherRegistry : Registry} {config other : Config}
    {set : SchemaSet} {ids : List StackId} {report otherReport : Report}
    (h : generate registry config .failFast set ids = .ok report)
    (ho : generate otherRegistry other .failFast set ids = .ok otherReport)
    (hjobs : Job.ofStacks registry set ids = Job.ofStacks otherRegistry set ids)
    (hmatch : ∀ job ∈ Job.ofStacks registry set ids, ∀ artifact otherArtifact,
      job.attempt registry.templates config = .ok artifact →
      job.attempt otherRegistry.templates other = .ok otherArtifact →
      artifact.Matches same otherArtifact) :
    report.Matches same otherReport := by
  obtain ⟨hfailures, houtcomes, -⟩ := generate_failFast.mp h
  obtain ⟨hotherFailures, hotherOutcomes, -⟩ := generate_failFast.mp ho
  refine ⟨?_, hfailures.trans hotherFailures.symm⟩
  rw [← hjobs] at hotherOutcomes
  generalize Job.ofStacks registry set ids = jobs at houtcomes hotherOutcomes hmatch
  generalize report.outputs = outputs at houtcomes ⊢
  generalize otherReport.outputs = otherOutputs at hotherOutcomes ⊢
  induction jobs generalizing outputs otherOutputs with
  | nil =>
    obtain rfl := List.map_eq_nil_iff.mp houtcomes.symm
    obtain rfl := List.map_eq_nil_iff.mp hotherOutcomes.symm
    exact .nil
  | cons job rest ih =>
    obtain ⟨artifact, outputs, rfl, hfirst, hrest⟩ := List.map_eq_cons_iff.mp houtcomes.symm
    obtain ⟨otherArtifact, otherOutputs, rfl, hotherFirst, hotherRest⟩ :=
      List.map_eq_cons_iff.mp hotherOutcomes.symm
    exact .cons (hmatch job (.head _) _ _ hfirst.symm hotherFirst.symm)
      (ih (fun job hjob => hmatch job (.tail _ hjob)) outputs hrest.symm otherOutputs
        hotherRest.symm)

end Runs

end ModelCodegen
