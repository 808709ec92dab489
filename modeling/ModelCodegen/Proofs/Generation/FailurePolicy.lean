import ModelCodegen.Proofs.Generation.Job

/-!
# Failure policies

A run that stops at a failure and one that goes on do the same up to the first
failure: they keep the same outputs, and with them the same paths are taken. So the
run that stops has the report of the one that goes on, or its first failure.
-/

namespace ModelCodegen

open Result

namespace Report

variable {taken : List String} {outcome : Except Failure Artifact}

/-! ## One step -/

/-- An artifact that is kept comes first, and its path is taken from then on. -/
theorem collect_of_settle_ok {artifact : Artifact} (h : settle taken outcome = .ok artifact)
    (rest : List (Except Failure Artifact)) :
    (collect taken (outcome :: rest)).outputs =
        artifact :: (collect (artifact.path :: taken) rest).outputs ∧
      (collect taken (outcome :: rest)).failures =
        (collect (artifact.path :: taken) rest).failures := by
  rw [collect, h]
  exact ⟨rfl, rfl⟩

/-- A failure comes first, and no path is taken. -/
theorem collect_of_settle_error {failure : Failure} (h : settle taken outcome = .error failure)
    (rest : List (Except Failure Artifact)) :
    (collect taken (outcome :: rest)).outputs = (collect taken rest).outputs ∧
      (collect taken (outcome :: rest)).failures = failure :: (collect taken rest).failures := by
  rw [collect, h]
  exact ⟨rfl, rfl⟩

/-! ## A run -/

/-- With the same paths taken, the run that stops fails with the first failure of the run that
goes on, and has its outputs if there is none. -/
theorem untilFailure_eq_collect (taken : List String)
    (outcomes : List (Except Failure Artifact)) :
    untilFailure taken outcomes =
      (collect taken outcomes).failures.head?.elim (.ok (collect taken outcomes).outputs)
        .error := by
  induction outcomes generalizing taken with
  | nil => rfl
  | cons outcome rest ih =>
    rw [untilFailure]
    cases hs : settle taken outcome with
    | error failure =>
      obtain ⟨-, hfailures⟩ := collect_of_settle_error hs rest
      rw [hfailures]
      rfl
    | ok artifact =>
      obtain ⟨houtputs, hfailures⟩ := collect_of_settle_ok hs rest
      rw [houtputs, hfailures, ok_bind, ih]
      cases (collect (artifact.path :: taken) rest).failures.head? <;> rfl

end Report

/-- A run that stops at a failure succeeds if and only if the run that goes on has no failures, and
then with the same report. Otherwise the first of these failures is its result. -/
theorem failFast_agrees_with_bestEffort (registry : Registry) (config : Config) (set : SchemaSet)
    (ids : List StackId) :
    ∃ report, generate registry config .bestEffort set ids = .ok report ∧
      ((∃ other, generate registry config .failFast set ids = .ok other) ↔
        report.failures = []) ∧
      (∀ other, generate registry config .failFast set ids = .ok other → other = report) ∧
      ∀ failure others, report.failures = failure :: others →
        generate registry config .failFast set ids = .error failure := by
  have hrun := Report.untilFailure_eq_collect []
    ((Job.ofStacks registry set ids).map (Job.attempt registry.templates config))
  refine ⟨_, rfl, ?_⟩
  simp only [generate, hrun]
  generalize Report.collect [] _ = report
  obtain ⟨outputs, failures⟩ := report
  cases failures with
  | nil =>
    refine ⟨⟨fun _ => rfl, fun _ => ⟨⟨outputs, []⟩, rfl⟩⟩, fun other h => ?_, fun _ _ h => ?_⟩
    · exact (pure_eq_ok.mp h).symm
    · cases h
  | cons first others =>
    refine ⟨⟨?_, fun h => ?_⟩, fun _ h => ?_, fun failure _ h => ?_⟩
    · rintro ⟨_, h⟩
      cases h
    · cases h
    · cases h
    · rw [(List.cons.inj h).1]
      rfl

end ModelCodegen
