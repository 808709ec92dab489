import ModelCodegen.Proofs.Generation.BuiltinJobs
import ModelCodegen.Proofs.Generation.FailurePolicy
import ModelCodegen.Proofs.Stack.Lookup

/-!
# The coordinates of a run

What a run has to produce can be listed beforehand. A run that goes on deals with
each coordinate of this list once and in order: it ends as an output or as a
failure, and an output has the policy and the path that the registration found
under its coordinate says.
-/

namespace ModelCodegen

open Result

/-- The third list consists of the members of the first two, each in order. -/
inductive Interleaves {α : Type} : List α → List α → List α → Prop
  | nil : Interleaves [] [] []
  | left {x : α} {xs ys zs : List α} : Interleaves xs ys zs → Interleaves (x :: xs) ys (x :: zs)
  | right {y : α} {xs ys zs : List α} : Interleaves xs ys zs → Interleaves xs (y :: ys) (y :: zs)

/-- Two lists are together as long as what they interleave to. -/
theorem Interleaves.length_eq {α : Type} {xs ys zs : List α} (h : Interleaves xs ys zs) :
    xs.length + ys.length = zs.length := by
  induction h with
  | nil => rfl
  | left _ ih => rw [List.length_cons, List.length_cons, ← ih, Nat.add_right_comm]
  | right _ ih => rw [List.length_cons, List.length_cons, ← ih, Nat.add_assoc]

/-! ## What is to be produced -/

/-- The coordinates of a stack for a set of schemas: each schema with the artifacts of models, each
application, where it first occurs, with those of applications, and those of the run. -/
def StackDescriptor.coordinates (stack : StackDescriptor) (set : SchemaSet) : List Coordinate :=
  let inScope (scope : ArtifactScope) (application model : Option String) :=
    (stack.artifacts.filter (·.scope == scope)).map fun registration =>
      ({ stack := stack.id, artifact := registration.kind, application := application
         model := model } : Coordinate)
  set.schemas.flatMap
      (fun schema => inScope .model (some schema.applicationName) (some schema.modelName)) ++
    (set.schemas.map (·.applicationName)).eraseDups.flatMap
      (fun application => inScope .application (some application) none) ++
    inScope .run none none

/-- The coordinates of stacks, stack by stack; every kind of artifact of a stack that is not
registered is one. -/
def Registry.coordinates (registry : Registry) (set : SchemaSet) (ids : List StackId) :
    List Coordinate :=
  ids.flatMap fun id =>
    match registry.stack? id with
    | some stack => stack.coordinates set
    | none => ArtifactKind.all.map fun kind => { stack := id, artifact := kind }

/-- The names that the path at a coordinate is made of. -/
def Coordinate.vars (coordinate : Coordinate) : Except Error PathVars :=
  match coordinate.application, coordinate.model with
  | some application, some model => PathVars.ofModel application model
  | some application, none => PathVars.ofApplication application
  | none, _ => .ok .ofRun

namespace Job

/-- The jobs of a stack are at its coordinates. -/
theorem map_coordinate_ofStack (stack : StackDescriptor) (set : SchemaSet) :
    (ofStack stack set).map coordinate = stack.coordinates set := by
  rw [StackDescriptor.coordinates, ← set.names_applications, ofStack]
  simp only [List.map_append, List.map_flatMap, List.flatMap_map, List.map_map]
  rfl

/-- The jobs of a run are at its coordinates. -/
theorem map_coordinate_ofStacks (registry : Registry) (set : SchemaSet) (ids : List StackId) :
    (ofStacks registry set ids).map coordinate = registry.coordinates set ids := by
  rw [ofStacks, Registry.coordinates, List.map_flatMap]
  congr 1
  funext id
  cases registry.stack? id with
  | some stack => exact map_coordinate_ofStack stack set
  | none => exact List.map_map

/-- A job tells that an artifact is not registered, or is one of a registered stack. -/
theorem mem_ofStacks {registry : Registry} {set : SchemaSet} {ids : List StackId} {job : Job}
    (h : job ∈ ofStacks registry set ids) :
    (∃ id kind, job = .unregistered id kind) ∨
      ∃ id stack, registry.stack? id = some stack ∧ job ∈ ofStack stack set := by
  obtain ⟨id, -, hjob⟩ := List.mem_flatMap.mp h
  cases hstack : registry.stack? id with
  | some stack =>
    rw [hstack] at hjob
    exact Or.inr ⟨id, stack, hstack, hjob⟩
  | none =>
    rw [hstack] at hjob
    obtain ⟨kind, -, rfl⟩ := List.mem_map.mp hjob
    exact Or.inl ⟨id, kind, rfl⟩

/-- The names in the path of a job are those of its coordinate. -/
theorem vars_coordinate {stack : StackDescriptor} {registration : Registration} {subject : Subject}
    (h : subject.IsNamed) :
    (produce stack registration subject).coordinate.vars = .ok subject.vars := by
  cases subject with
  | model schema => exact PathVars.ofModel_of_isIdentifier h.1 h.2
  | application group => exact PathVars.ofApplication_of_isIdentifier h
  | run schemas => rfl

end Job

/-! ## What came of it -/

namespace Report

/-- The coordinate of an outcome. -/
def coordinateOf : Except Failure Artifact → Coordinate
  | .ok artifact => artifact.toCoordinate
  | .error failure => failure.toCoordinate

/-- A job ends at its own coordinate. -/
theorem coordinateOf_attempt (templates : TemplateCollection) (config : Config) (job : Job) :
    coordinateOf (job.attempt templates config) = job.coordinate := by
  cases job with
  | unregistered stack kind => rfl
  | produce stack registration subject =>
    cases h : Job.attempt templates config (.produce stack registration subject) with
    | ok artifact => exact (Job.attempt_produce_ok h).2.2.2
    | error failure =>
      rw [Job.attempt, Coordinate.outcome, mapError_eq_error] at h
      obtain ⟨error, -, rfl⟩ := h
      rfl

/-- Settling an outcome keeps its coordinate. -/
theorem coordinateOf_settle (taken : List String) (outcome : Except Failure Artifact) :
    coordinateOf (settle taken outcome) = coordinateOf outcome := by
  cases outcome with
  | error failure => rfl
  | ok artifact =>
    rw [settle, ok_bind]
    split <;> rfl

/-- Every outcome is an output or a failure, in order. -/
theorem interleaves_collect (taken : List String) (outcomes : List (Except Failure Artifact)) :
    Interleaves ((collect taken outcomes).outputs.map (·.toCoordinate))
      ((collect taken outcomes).failures.map (·.toCoordinate)) (outcomes.map coordinateOf) := by
  induction outcomes generalizing taken with
  | nil => exact .nil
  | cons outcome rest ih =>
    rw [List.map_cons, ← coordinateOf_settle taken outcome]
    cases hs : settle taken outcome with
    | ok artifact =>
      obtain ⟨houtputs, hfailures⟩ := collect_of_settle_ok hs rest
      rw [houtputs, hfailures]
      exact .left (ih _)
    | error failure =>
      obtain ⟨houtputs, hfailures⟩ := collect_of_settle_error hs rest
      rw [houtputs, hfailures]
      exact .right (ih _)

/-- An output of a run that goes on is that of a job. -/
theorem mem_outputs_collect {taken : List String} {outcomes : List (Except Failure Artifact)}
    {artifact : Artifact} (h : artifact ∈ (collect taken outcomes).outputs) :
    .ok artifact ∈ outcomes := by
  induction outcomes generalizing taken with
  | nil => cases h
  | cons outcome rest ih =>
    cases hs : settle taken outcome with
    | ok first =>
      rw [(collect_of_settle_ok hs rest).1] at h
      rcases List.mem_cons.mp h with rfl | h
      · rw [(settle_eq_ok.mp hs).1]
        exact List.mem_cons_self ..
      · exact List.mem_cons_of_mem _ (ih h)
    | error failure =>
      rw [(collect_of_settle_error hs rest).1] at h
      exact List.mem_cons_of_mem _ (ih h)

end Report

/-- Every output of a run is that of a job, whether or not the run may go on. -/
theorem exists_job_of_output {registry : Registry} {config : Config} {policy : FailurePolicy}
    {set : SchemaSet} {ids : List StackId} {report : Report}
    (h : generate registry config policy set ids = .ok report) {artifact : Artifact}
    (hmem : artifact ∈ report.outputs) :
    ∃ job ∈ Job.ofStacks registry set ids,
      job.attempt registry.templates config = .ok artifact := by
  cases policy with
  | failFast => exact exists_job_of_mem h hmem
  | bestEffort =>
    obtain rfl := Except.ok.inj h
    exact List.mem_map.mp (Report.mem_outputs_collect hmem)

/-- A run that goes on, over a registry that was built, deals with every coordinate once and in
order. An output has the policy of the registration that is found under its coordinate, and the
path of its rule for the names of the coordinate. -/
theorem generate_bestEffort_coordinates {draft : RegistryDraft} {registry : Registry}
    (hb : draft.build = .ok registry) (config : Config) (set : SchemaSet) (ids : List StackId) :
    ∃ report, generate registry config .bestEffort set ids = .ok report ∧
      Interleaves (report.outputs.map (·.toCoordinate)) (report.failures.map (·.toCoordinate))
        (registry.coordinates set ids) ∧
      report.outputs.length + report.failures.length = (registry.coordinates set ids).length ∧
      ∀ artifact ∈ report.outputs, ∃ registration vars,
        registry.lookup artifact.stack artifact.artifact = .ok registration ∧
          artifact.policy = registration.policy ∧
          artifact.toCoordinate.vars = .ok vars ∧
          artifact.path = registration.path.resolve vars := by
  have hall := Report.interleaves_collect []
    ((Job.ofStacks registry set ids).map (Job.attempt registry.templates config))
  have hcoordinates :
      ((Job.ofStacks registry set ids).map (Job.attempt registry.templates config)).map
        Report.coordinateOf = registry.coordinates set ids := by
    rw [← Job.map_coordinate_ofStacks, List.map_map]
    exact List.map_congr_left fun job _ => Report.coordinateOf_attempt _ config job
  rw [hcoordinates] at hall
  refine ⟨_, rfl, hall, by simpa using hall.length_eq, fun artifact hmem => ?_⟩
  obtain ⟨job, hjob, hattempt⟩ := List.mem_map.mp (Report.mem_outputs_collect hmem)
  rcases Job.mem_ofStacks hjob with ⟨id, kind, rfl⟩ | ⟨id, stack, hstack, hjob⟩
  · cases hattempt
  obtain ⟨registration, hr, subject, rfl, -, -⟩ := Job.mem_ofStack.mp hjob
  obtain ⟨hnamed, hpath, hpolicy, hcoordinate⟩ := Job.attempt_produce_ok hattempt
  have hfound := Registry.lookup_of_build hb hstack hr
  rw [← (Registry.mem_of_stack? hstack).2] at hfound
  refine ⟨registration, subject.vars, ?_, hpolicy, ?_, hpath⟩
  · rw [hcoordinate]
    exact hfound
  · rw [hcoordinate]
    exact Job.vars_coordinate hnamed

/-- The built-in registry asked for ember twice has eight coordinates for one schema. -/
theorem generate_bestEffort_coordinates_ember :
    ∃ registry report, RegistryDraft.ofBuiltin.build = .ok registry ∧
      generate registry {} .bestEffort ⟨[post]⟩ [.ember, .ember] = .ok report ∧
      report.outputs.length + report.failures.length = 8 := by
  obtain ⟨registry, hb⟩ := Registry.exists_builtin
  have hbuild := hb
  rw [Registry.builtin_eq] at hbuild
  obtain ⟨report, hreport, -, hlength, -⟩ :=
    generate_bestEffort_coordinates hbuild {} ⟨[post]⟩ [.ember, .ember]
  refine ⟨registry, report, hbuild, hreport, hlength.trans ?_⟩
  simp only [Registry.coordinates, Registry.stack?_of_builtin hb]
  rfl

end ModelCodegen
