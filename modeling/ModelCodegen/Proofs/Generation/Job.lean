import Mathlib.Data.List.Nodup
import ModelCodegen.Generation.Run
import ModelCodegen.Proofs.PathRule
import ModelCodegen.Proofs.Result
import ModelCodegen.Proofs.Schema.Groups

/-!
# The outputs of jobs

A job's path is its rule filled with the names of its subject, whatever its
template says. A run that may not fail yields one output for each job, in order,
and no path twice; in a run that goes on, a failure is that of a job or a path
that was taken.
-/

namespace ModelCodegen

open Result

namespace Subject

/-- How often artifacts are produced that are generated from such a subject. -/
def scope : Subject → ArtifactScope
  | model _ => .model
  | application _ => .application
  | run _ => .run

/-- The names in paths. -/
def vars : Subject → PathVars
  | model schema => .all schema.applicationName schema.modelName
  | application group => .outer group.name
  | run _ => .ofRun

/-- The names that a path is made of are identifiers. -/
def IsNamed : Subject → Prop
  | model schema =>
    Name.IsIdentifier schema.applicationName ∧ Name.IsIdentifier schema.modelName
  | application group => Name.IsIdentifier group.name
  | run _ => True

/-- The subject belongs to a set of schemas. -/
def IsOf (set : SchemaSet) : Subject → Prop
  | model schema => schema ∈ set.schemas
  | application group => group ∈ set.applications
  | run schemas => schemas = set.schemas

/-- The values in the path of a subject are spelled as identifiers. -/
theorem isProper_vars {subject : Subject} (h : subject.IsNamed) : subject.vars.IsProper := by
  cases subject with
  | model schema => exact PathVars.isProper_all h.1 h.2
  | application group => exact PathVars.isProper_outer h
  | run schemas => exact PathVars.isProper_ofRun

end Subject

/-- An artifact is told by its coordinate, its path, its text and its policy. -/
theorem Artifact.eq_of_parts {artifact other : Artifact}
    (hcoordinate : artifact.toCoordinate = other.toCoordinate) (hpath : artifact.path = other.path)
    (hcontent : artifact.content = other.content) (hpolicy : artifact.policy = other.policy) :
    artifact = other := by
  obtain ⟨coordinate, path, content, policy⟩ := artifact
  obtain ⟨coordinate', path', content', policy'⟩ := other
  obtain rfl : coordinate = coordinate' := hcoordinate
  obtain rfl : path = path' := hpath
  obtain rfl : content = content' := hcontent
  obtain rfl : policy = policy' := hpolicy
  rfl

namespace Job

/-! ## The jobs of a stack -/

/-- The jobs of a stack are its artifacts, each for the subjects of its scope. -/
theorem mem_ofStack {stack : StackDescriptor} {set : SchemaSet} {job : Job} :
    job ∈ ofStack stack set ↔
      ∃ registration ∈ stack.artifacts, ∃ subject : Subject,
        job = .produce stack registration subject ∧ registration.scope = subject.scope ∧
          subject.IsOf set := by
  simp only [ofStack, StackDescriptor.inScope, List.mem_append, List.mem_flatMap, List.mem_map,
    List.mem_filter, beq_iff_eq]
  constructor
  · rintro ((⟨schema, hs, r, ⟨hr, hscope⟩, rfl⟩ | ⟨group, hg, r, ⟨hr, hscope⟩, rfl⟩) |
      ⟨r, ⟨hr, hscope⟩, rfl⟩)
    · exact ⟨r, hr, .model schema, rfl, hscope, hs⟩
    · exact ⟨r, hr, .application group, rfl, hscope, hg⟩
    · exact ⟨r, hr, .run set.schemas, rfl, hscope, rfl⟩
  · rintro ⟨r, hr, subject, rfl, hscope, hof⟩
    cases subject with
    | model schema => exact Or.inl (Or.inl ⟨schema, hof, r, ⟨hr, hscope⟩, rfl⟩)
    | application group => exact Or.inl (Or.inr ⟨group, hof, r, ⟨hr, hscope⟩, rfl⟩)
    | run schemas => exact Or.inr ⟨r, ⟨hr, hscope⟩, by rw [show schemas = set.schemas from hof]⟩

private theorem nodup_products {α : Type} (stack : StackDescriptor)
    {registrations : List Registration} (hr : registrations.Nodup) {xs : List α} (hx : xs.Nodup)
    {subject : α → Subject} (hs : Function.Injective subject) :
    (xs.flatMap fun x => registrations.map fun r => produce stack r (subject x)).Nodup := by
  rw [List.nodup_flatMap]
  constructor
  · exact fun x _ => hr.map fun _ _ he => (Job.produce.inj he).2.1
  · refine hx.imp fun {x y} hne => List.disjoint_left.mpr fun job hjob hother => ?_
    obtain ⟨r, -, rfl⟩ := List.mem_map.mp hjob
    obtain ⟨other, -, he⟩ := List.mem_map.mp hother
    exact hne (hs (Job.produce.inj he).2.2.symm)

/-- A stack has no job twice. -/
theorem nodup_ofStack {stack : StackDescriptor} {set : SchemaSet} (hr : stack.artifacts.Nodup)
    (hs : set.schemas.Nodup) : (ofStack stack set).Nodup := by
  have hscope : ∀ scope, (stack.inScope scope).Nodup := fun scope => hr.filter _
  have hgroups := set.nodup_names_applications.of_map
  rw [ofStack, List.nodup_append, List.nodup_append]
  refine ⟨⟨nodup_products stack (hscope _) hs fun _ _ he => Subject.model.inj he,
    nodup_products stack (hscope _) hgroups fun _ _ he => Subject.application.inj he,
    fun job hjob other hother he => ?_⟩,
    (hscope _).map fun _ _ he => (Job.produce.inj he).2.1, fun job hjob other hother he => ?_⟩
  · obtain ⟨schema, -, hjob⟩ := List.mem_flatMap.mp hjob
    obtain ⟨r, -, rfl⟩ := List.mem_map.mp hjob
    obtain ⟨group, -, hother⟩ := List.mem_flatMap.mp hother
    obtain ⟨r', -, rfl⟩ := List.mem_map.mp hother
    cases he
  · obtain ⟨r, -, rfl⟩ := List.mem_map.mp hother
    rcases List.mem_append.mp hjob with hjob | hjob
    · obtain ⟨schema, -, hjob⟩ := List.mem_flatMap.mp hjob
      obtain ⟨r', -, rfl⟩ := List.mem_map.mp hjob
      cases he
    · obtain ⟨group, -, hjob⟩ := List.mem_flatMap.mp hjob
      obtain ⟨r', -, rfl⟩ := List.mem_map.mp hjob
      cases he

/-! ## The path of a job -/

/-- The path of a rendered artifact is its rule, resolved for the names of its subject. -/
theorem render_path {templates : TemplateCollection} {context : RenderContext}
    {registration : Registration} {subject : Subject} {path content : String}
    (h : render templates context registration subject = .ok (path, content)) :
    subject.IsNamed ∧ path = registration.path.resolve subject.vars := by
  cases subject with
  | model schema =>
    obtain ⟨vars, hvars, h⟩ := bind_eq_ok.mp h
    obtain ⟨data, hdata, h⟩ := bind_eq_ok.mp h
    obtain ⟨text, htext, h⟩ := bind_eq_ok.mp h
    obtain ⟨ha, hm⟩ := PathVars.isIdentifier_of_ofModel hvars
    rw [PathVars.ofModel_of_isIdentifier ha hm, Except.ok.injEq] at hvars
    obtain ⟨hpath, -⟩ := Prod.mk.inj (pure_eq_ok.mp h)
    exact ⟨⟨ha, hm⟩, by rw [← hpath, ← hvars]; rfl⟩
  | application group =>
    obtain ⟨vars, hvars, h⟩ := bind_eq_ok.mp h
    obtain ⟨text, htext, h⟩ := bind_eq_ok.mp h
    have ha := PathVars.isIdentifier_of_ofApplication hvars
    rw [PathVars.ofApplication_of_isIdentifier ha, Except.ok.injEq] at hvars
    obtain ⟨hpath, -⟩ := Prod.mk.inj (pure_eq_ok.mp h)
    exact ⟨ha, by rw [← hpath, ← hvars]; rfl⟩
  | run schemas =>
    obtain ⟨text, htext, h⟩ := bind_eq_ok.mp h
    obtain ⟨hpath, -⟩ := Prod.mk.inj (pure_eq_ok.mp h)
    exact ⟨trivial, hpath.symm⟩

/-- A job that succeeds has rendered its artifact. -/
theorem render_of_attempt {templates : TemplateCollection} {config : Config}
    {stack : StackDescriptor} {registration : Registration} {subject : Subject}
    {artifact : Artifact}
    (h : attempt templates config (.produce stack registration subject) = .ok artifact) :
    render templates (stackContext config stack) registration subject =
      .ok (artifact.path, artifact.content) := by
  obtain ⟨pair, hrender, h⟩ := bind_eq_ok.mp (mapError_eq_ok.mp h)
  cases h
  exact hrender

/-- An artifact has the path and the policy of its registration, at the coordinate of its job. -/
theorem attempt_produce_ok {templates : TemplateCollection} {config : Config}
    {stack : StackDescriptor} {registration : Registration} {subject : Subject}
    {artifact : Artifact}
    (h : attempt templates config (.produce stack registration subject) = .ok artifact) :
    subject.IsNamed ∧ artifact.path = registration.path.resolve subject.vars ∧
      artifact.policy = registration.policy ∧
      artifact.toCoordinate = (produce stack registration subject).coordinate := by
  obtain ⟨hnamed, hpath⟩ := render_path (render_of_attempt h)
  obtain ⟨pair, -, h⟩ := bind_eq_ok.mp (mapError_eq_ok.mp h)
  cases h
  exact ⟨hnamed, hpath, rfl, rfl⟩

/-- The path that a job is for. -/
def path? : Job → Option String
  | unregistered _ _ => none
  | produce _ registration subject => some (registration.path.resolve subject.vars)

/-- The path of an artifact can be told before it is rendered. -/
theorem path?_of_attempt_eq_ok {templates : TemplateCollection} {config : Config} {job : Job}
    {artifact : Artifact} (h : job.attempt templates config = .ok artifact) :
    job.path? = some artifact.path := by
  cases job with
  | unregistered stack kind => cases h
  | produce stack registration subject => rw [path?, (attempt_produce_ok h).2.1]

/-- Jobs that succeed do so at their paths. -/
theorem map_path?_of_attempt {templates : TemplateCollection} {config : Config} {jobs : List Job}
    {outputs : List Artifact} (h : jobs.map (attempt templates config) = outputs.map .ok) :
    jobs.map path? = (outputs.map (·.path)).map some := by
  induction jobs generalizing outputs with
  | nil => simp_all
  | cons job rest ih =>
    cases outputs with
    | nil => cases h
    | cons artifact others =>
      obtain ⟨hfirst, hrest⟩ := List.cons.inj h
      rw [List.map_cons, List.map_cons, List.map_cons, path?_of_attempt_eq_ok hfirst, ih hrest]

end Job

/-! ## The outputs of a run -/

namespace Report

/-- An outcome becomes an output if it is an artifact whose path is free. -/
theorem settle_eq_ok {taken : List String} {outcome : Except Failure Artifact}
    {artifact : Artifact} :
    settle taken outcome = .ok artifact ↔ outcome = .ok artifact ∧ artifact.path ∉ taken := by
  rw [settle, bind_eq_ok]
  constructor
  · rintro ⟨found, rfl, h⟩
    split at h
    · cases h
    · next hfree =>
      rw [pure_eq_ok] at h
      subst h
      exact ⟨rfl, by simpa using hfree⟩
  · rintro ⟨rfl, hfree⟩
    exact ⟨artifact, rfl, by rw [if_neg (by simpa using hfree)]; rfl⟩

/-- An outcome fails as it did before, or with a collision of paths. -/
theorem settle_eq_error {taken : List String} {outcome : Except Failure Artifact}
    {failure : Failure} (h : settle taken outcome = .error failure) :
    outcome = .error failure ∨ ∃ path, failure.error = .pathCollision path := by
  rw [settle, bind_eq_error] at h
  rcases h with h | ⟨artifact, _, h⟩
  · exact Or.inl h
  · split at h
    · cases h
      exact Or.inr ⟨artifact.path, rfl⟩
    · cases h

/-- A run succeeds when all its jobs do and no path comes twice. -/
theorem untilFailure_eq_ok {taken : List String} {outcomes : List (Except Failure Artifact)}
    {outputs : List Artifact} :
    untilFailure taken outcomes = .ok outputs ↔
      outcomes = outputs.map .ok ∧ (outputs.map (·.path)).Nodup ∧
        ∀ artifact ∈ outputs, artifact.path ∉ taken := by
  induction outcomes generalizing taken outputs with
  | nil =>
    cases outputs <;> simp [untilFailure]
  | cons outcome rest ih =>
    rw [untilFailure, bind_eq_ok]
    constructor
    · rintro ⟨artifact, hsettle, h⟩
      obtain ⟨others, hrest, h⟩ := bind_eq_ok.mp h
      rw [pure_eq_ok] at h
      subst h
      obtain ⟨rfl, hfree⟩ := settle_eq_ok.mp hsettle
      obtain ⟨rfl, hnodup, hothers⟩ := ih.mp hrest
      refine ⟨rfl, ?_, ?_⟩
      · rw [List.map_cons, List.nodup_cons]
        refine ⟨fun hmem => ?_, hnodup⟩
        obtain ⟨other, hother, he⟩ := List.mem_map.mp hmem
        exact hothers other hother (he ▸ List.mem_cons_self ..)
      · intro other hother
        rcases List.mem_cons.mp hother with rfl | hother
        · exact hfree
        · exact fun hmem => hothers other hother (List.mem_cons_of_mem _ hmem)
    · rintro ⟨houtcomes, hnodup, hfree⟩
      cases outputs with
      | nil => cases houtcomes
      | cons artifact others =>
        obtain ⟨rfl, rfl⟩ := List.cons.inj houtcomes
        rw [List.map_cons, List.nodup_cons] at hnodup
        refine ⟨artifact, settle_eq_ok.mpr ⟨rfl, hfree artifact (List.mem_cons_self ..)⟩, ?_⟩
        refine bind_eq_ok.mpr ⟨others, ih.mpr ⟨rfl, hnodup.2, ?_⟩, rfl⟩
        intro other hother hmem
        rcases List.mem_cons.mp hmem with he | hmem
        · exact hnodup.1 (he ▸ List.mem_map_of_mem hother)
        · exact hfree other (List.mem_cons_of_mem _ hother) hmem

/-- A failure of a run that goes on is that of a job, or else a path was taken. -/
theorem mem_failures_collect {taken : List String} {outcomes : List (Except Failure Artifact)}
    {failure : Failure} (h : failure ∈ (collect taken outcomes).failures) :
    .error failure ∈ outcomes ∨ ∃ path, failure.error = .pathCollision path := by
  induction outcomes generalizing taken with
  | nil => simp [collect] at h
  | cons outcome rest ih =>
    rw [collect] at h
    cases hs : settle taken outcome with
    | ok artifact =>
      simp only [hs] at h
      exact (ih h).imp_left (List.mem_cons_of_mem _)
    | error first =>
      simp only [hs, List.mem_cons] at h
      rcases h with rfl | h
      · rcases settle_eq_error hs with rfl | hcollision
        · exact Or.inl (List.mem_cons_self ..)
        · exact Or.inr hcollision
      · exact (ih h).imp_left (List.mem_cons_of_mem _)

end Report

/-- The outputs of a run that may not fail are those of its jobs, without a path twice. -/
theorem generate_failFast {registry : Registry} {config : Config} {set : SchemaSet}
    {ids : List StackId} {report : Report} :
    generate registry config .failFast set ids = .ok report ↔
      report.failures = [] ∧
      (Job.ofStacks registry set ids).map (Job.attempt registry.templates config) =
        report.outputs.map .ok ∧
      (report.outputs.map (·.path)).Nodup := by
  rw [generate, bind_eq_ok]
  constructor
  · rintro ⟨outputs, houtputs, h⟩
    rw [pure_eq_ok] at h
    subst h
    obtain ⟨he, hnodup, -⟩ := Report.untilFailure_eq_ok.mp houtputs
    exact ⟨rfl, he, hnodup⟩
  · rintro ⟨hf, he, hnodup⟩
    refine ⟨report.outputs, Report.untilFailure_eq_ok.mpr ⟨he, hnodup, by simp⟩, ?_⟩
    rw [pure_eq_ok]
    obtain ⟨outputs, failures⟩ := report
    rw [← hf]

/-- A run whose jobs all succeed has a report if they are for different paths. -/
theorem exists_report_of_attempts {registry : Registry} {config : Config} {set : SchemaSet}
    {ids : List StackId}
    (hjobs : ∀ job ∈ Job.ofStacks registry set ids,
      ∃ artifact, job.attempt registry.templates config = .ok artifact)
    (hpaths : ((Job.ofStacks registry set ids).map Job.path?).Nodup) :
    ∃ report, generate registry config .failFast set ids = .ok report := by
  obtain ⟨outputs, houtputs⟩ := exists_map_ok hjobs
  rw [Job.map_path?_of_attempt houtputs] at hpaths
  exact ⟨⟨outputs, []⟩, generate_failFast.mpr ⟨rfl, houtputs, hpaths.of_map some⟩⟩

section Outputs

variable {registry : Registry} {config : Config} {set : SchemaSet} {ids : List StackId}
  {report : Report}

/-- Every output is that of a job. -/
theorem exists_job_of_mem (h : generate registry config .failFast set ids = .ok report)
    {artifact : Artifact} (hmem : artifact ∈ report.outputs) :
    ∃ job ∈ Job.ofStacks registry set ids,
      job.attempt registry.templates config = .ok artifact := by
  obtain ⟨-, houtcomes, -⟩ := generate_failFast.mp h
  refine List.mem_map.mp (?_ : Except.ok artifact ∈ List.map _ _)
  rw [houtcomes]
  exact List.mem_map_of_mem hmem

/-- Every job has an output. -/
theorem exists_output_of_job (h : generate registry config .failFast set ids = .ok report)
    {job : Job} (hjob : job ∈ Job.ofStacks registry set ids) :
    ∃ artifact ∈ report.outputs, job.attempt registry.templates config = .ok artifact := by
  obtain ⟨-, houtcomes, -⟩ := generate_failFast.mp h
  have hmem := List.mem_map_of_mem (f := Job.attempt registry.templates config) hjob
  rw [houtcomes] at hmem
  obtain ⟨artifact, hartifact, hattempt⟩ := List.mem_map.mp hmem
  exact ⟨artifact, hartifact, hattempt.symm⟩

end Outputs

end ModelCodegen
