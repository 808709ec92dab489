import ModelCodegen.Proofs.Generation.FailurePolicy

/-!
# Runs of edited schemas

When every schema of a set is edited and keeps its names, the run of the edited set
has the same jobs for the edited subjects. Two runs whose outcomes have the same
coordinates, paths and failures have the same failures or the same abort, and those
of their outputs are the same whose outcomes are.
-/

namespace ModelCodegen

/-! ## Edited schemas -/

/-- The edit keeps the names of every schema. -/
structure ModelSchema.KeepsNames (edit : ModelSchema → ModelSchema) : Prop where
  application : ∀ schema, (edit schema).applicationName = schema.applicationName
  model : ∀ schema, (edit schema).modelName = schema.modelName

/-- The set in which every schema is edited. -/
def SchemaSet.map (edit : ModelSchema → ModelSchema) (set : SchemaSet) : SchemaSet :=
  ⟨set.schemas.map edit⟩

def ApplicationGroup.map (edit : ModelSchema → ModelSchema) (group : ApplicationGroup) :
    ApplicationGroup :=
  ⟨group.name, group.models.map edit⟩

def Subject.map (edit : ModelSchema → ModelSchema) : Subject → Subject
  | .model schema => .model (edit schema)
  | .application group => .application (group.map edit)
  | .run schemas => .run (schemas.map edit)

def Job.map (edit : ModelSchema → ModelSchema) : Job → Job
  | .unregistered stack kind => .unregistered stack kind
  | .produce stack registration subject => .produce stack registration (subject.map edit)

section Edited

variable {edit : ModelSchema → ModelSchema}

private theorem addToGroups_map (h : ModelSchema.KeepsNames edit) (schema : ModelSchema)
    (groups : List ApplicationGroup) :
    SchemaSet.addToGroups (edit schema) (groups.map (.map edit)) =
      (SchemaSet.addToGroups schema groups).map (.map edit) := by
  induction groups with
  | nil => simp [SchemaSet.addToGroups, ApplicationGroup.map, h.application]
  | cons group rest ih =>
    simp only [List.map_cons, SchemaSet.addToGroups, h.application, ih]
    by_cases he : group.name = schema.applicationName
    · simp [ApplicationGroup.map, he]
    · simp [ApplicationGroup.map, he]

/-- The groups of the edited set are the edited groups. -/
theorem SchemaSet.applications_map (h : ModelSchema.KeepsNames edit) (set : SchemaSet) :
    (set.map edit).applications = set.applications.map (.map edit) := by
  have hfold : ∀ (schemas : List ModelSchema) (groups : List ApplicationGroup),
      (schemas.map edit).foldl (fun groups schema => addToGroups schema groups)
          (groups.map (.map edit)) =
        (schemas.foldl (fun groups schema => addToGroups schema groups) groups).map
          (.map edit) := by
    intro schemas
    induction schemas with
    | nil => exact fun _ => rfl
    | cons schema rest ih =>
      intro groups
      rw [List.map_cons, List.foldl_cons, List.foldl_cons, addToGroups_map h, ih]
  exact hfold set.schemas []

namespace Job

/-- The jobs for an edited set are the edited jobs. -/
theorem ofStack_map (h : ModelSchema.KeepsNames edit) (stack : StackDescriptor)
    (set : SchemaSet) : ofStack stack (set.map edit) = (ofStack stack set).map (map edit) := by
  rw [ofStack, ofStack, SchemaSet.applications_map h]
  simp only [List.map_append, List.map_flatMap, List.map_map, List.flatMap_map, SchemaSet.map]
  rfl

/-- The jobs of the edited set are the edited jobs. -/
theorem ofStacks_map (h : ModelSchema.KeepsNames edit) (registry : Registry) (set : SchemaSet)
    (ids : List StackId) :
    ofStacks registry (set.map edit) ids = (ofStacks registry set ids).map (map edit) := by
  rw [ofStacks, ofStacks, List.map_flatMap]
  refine List.flatMap_congr fun id _ => ?_
  cases registry.stack? id with
  | some stack => exact ofStack_map h stack set
  | none => simp [map]

end Job

/-- An edit that keeps names keeps the paths of a subject. -/
theorem Subject.vars_map (h : ModelSchema.KeepsNames edit) (subject : Subject) :
    (subject.map edit).vars = subject.vars := by
  cases subject with
  | model schema => rw [map, vars, vars, h.application, h.model]
  | application group => rfl
  | run schemas => rfl

/-- An edit that keeps names keeps the coordinate of a job. -/
theorem Job.coordinate_map (h : ModelSchema.KeepsNames edit) (job : Job) :
    (job.map edit).coordinate = job.coordinate := by
  cases job with
  | unregistered stack kind => rfl
  | produce stack registration subject =>
    cases subject with
    | model schema =>
      simp only [map, coordinate, Subject.map, Subject.application?, Subject.model?, h.application,
        h.model]
    | application group => rfl
    | run schemas => rfl

end Edited

/-! ## Outcomes that agree -/

/-- The outcomes are the same, but artifacts at other coordinates may have other texts. -/
inductive Agree (concerned : Coordinate → Bool) :
    Except Failure Artifact → Except Failure Artifact → Prop
  | failed (failure : Failure) : Agree concerned (.error failure) (.error failure)
  | done {artifact other : Artifact} (hcoordinate : artifact.toCoordinate = other.toCoordinate)
      (hpath : artifact.path = other.path)
      (hsame : concerned artifact.toCoordinate = true → artifact = other) :
      Agree concerned (.ok artifact) (.ok other)

/-- What a report says of the outputs at some coordinates, and of all failures. -/
def Report.about (concerned : Coordinate → Bool) (report : Report) : Report :=
  { report with outputs := report.outputs.filter (concerned ·.toCoordinate) }

namespace Agree

variable {concerned : Coordinate → Bool}

/-- Outcomes that agree end alike, whatever paths are taken. -/
theorem settle {outcome other : Except Failure Artifact} (h : Agree concerned outcome other)
    (taken : List String) :
    Agree concerned (Report.settle taken outcome) (Report.settle taken other) := by
  cases h with
  | failed failure => exact .failed failure
  | @done artifact other hcoordinate hpath hsame =>
    simp only [Report.settle, Result.ok_bind, ← hpath, ← hcoordinate]
    split
    · exact .failed _
    · exact .done hcoordinate hpath hsame

/-- Reports of outcomes that agree say the same about what is concerned. -/
theorem about_collect {outcomes others : List (Except Failure Artifact)}
    (h : List.Forall₂ (Agree concerned) outcomes others) (taken : List String) :
    (Report.collect taken outcomes).about concerned =
      (Report.collect taken others).about concerned := by
  induction h generalizing taken with
  | nil => rfl
  | @cons outcome other outcomes others hfirst _ ih =>
    have hsettle := hfirst.settle taken
    rw [Report.collect, Report.collect]
    generalize Report.settle taken outcome = settled, Report.settle taken other = otherSettled
      at hsettle
    cases hsettle with
    | failed failure =>
      have hrest := ih taken
      simp only [Report.about, Report.mk.injEq] at hrest ⊢
      exact ⟨hrest.1, congrArg (failure :: ·) hrest.2⟩
    | @done artifact other hcoordinate hpath hsame =>
      have hrest := ih (artifact.path :: taken)
      simp only [Report.about, Report.mk.injEq, ← hpath, List.filter_cons, ← hcoordinate]
        at hrest ⊢
      refine ⟨?_, hrest.2⟩
      split
      · next hc => exact congrArg₂ (· :: ·) (hsame hc) hrest.1
      · exact hrest.1

end Agree

/-- Runs whose outcomes agree have the same abort, or reports that say the same about what is
concerned. -/
theorem about_generate {registry : Registry} {config other : Config} {set edited : SchemaSet}
    {ids : List StackId} {concerned : Coordinate → Bool}
    (h : List.Forall₂ (Agree concerned)
      ((Job.ofStacks registry set ids).map (Job.attempt registry.templates config))
      ((Job.ofStacks registry edited ids).map (Job.attempt registry.templates other)))
    (policy : FailurePolicy) :
    (generate registry config policy set ids).map (Report.about concerned) =
      (generate registry other policy edited ids).map (Report.about concerned) := by
  have habout := Agree.about_collect h []
  cases policy with
  | bestEffort => exact congrArg Except.ok habout
  | failFast =>
    simp only [generate, Report.untilFailure_eq_collect]
    generalize Report.collect [] ((Job.ofStacks registry set ids).map _) = report,
      Report.collect [] ((Job.ofStacks registry edited ids).map _) = otherReport at habout
    obtain ⟨outputs, failures⟩ := report
    obtain ⟨otherOutputs, otherFailures⟩ := otherReport
    obtain ⟨houtputs, rfl⟩ := Report.mk.inj habout
    cases failures with
    | nil => exact congrArg (fun outputs => Except.ok (Report.mk outputs [])) houtputs
    | cons failure rest => rfl

end ModelCodegen
