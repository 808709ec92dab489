import ModelCodegen.Proofs.Generation.Coordinates
import ModelCodegen.Proofs.Stack.TemplateDirectory

/-!
# Runs that look their artifacts up

The jobs of a run hold the artifacts that they produce. One may also take no more from
a job than the kind of its artifact and look up what the registry has for the stack and
the kind. Over a registry that was built every such look-up leads back to the artifact
of the job, so the run is the same, and the registries of sessions are built.
-/

namespace ModelCodegen

open Result

/-- Do a job with the artifact that the registry has for its stack and its kind. -/
def Job.attemptByKind (registry : Registry) (config : Config) (job : Job) :
    Except Failure Artifact :=
  job.coordinate.outcome <|
    match job with
    | unregistered stack kind => .error (.unknownTarget stack kind)
    | produce stack registration subject => do
      let found ← registry.lookup stack.id registration.kind
      let (path, content) ←
        render registry.templates (stackContext config stack) found subject
      return {
        stack := stack.id
        artifact := found.kind
        application := subject.application?
        model := subject.model?
        path := path
        content := content
        policy := found.policy }

/-- Generate the artifacts of stacks, each looked up by its kind. -/
def generateByKind (registry : Registry) (config : Config) (policy : FailurePolicy)
    (set : SchemaSet) (ids : List StackId) : Except Failure Report :=
  let outcomes := (Job.ofStacks registry set ids).map (Job.attemptByKind registry config)
  match policy with
  | .failFast => do return { outputs := ← Report.untilFailure [] outcomes }
  | .bestEffort => .ok (Report.collect [] outcomes)

section Built

variable {reader : TemplateReader} {draft : RegistryDraft} {registry : Registry} {set : SchemaSet}
  {ids : List StackId}

/-- The look-up of a job finds the artifact that the job holds. -/
theorem Job.lookup_of_mem_ofStacks (hb : draft.buildWith reader = .ok registry)
    {stack : StackDescriptor} {registration : Registration} {subject : Subject}
    (h : produce stack registration subject ∈ ofStacks registry set ids) :
    registry.lookup stack.id registration.kind = .ok registration := by
  rcases mem_ofStacks h with ⟨id, kind, he⟩ | ⟨id, known, hstack, hjob⟩
  · cases he
  · obtain ⟨found, hfound, other, he, -, -⟩ := mem_ofStack.mp hjob
    cases he
    rw [(Registry.mem_of_stack? hstack).2]
    exact Registry.lookup_of_build hb hstack hfound

/-- A job of a run comes to the same whether or not its artifact is looked up. -/
theorem Job.attemptByKind_eq (hb : draft.buildWith reader = .ok registry) (config : Config)
    {job : Job} (h : job ∈ ofStacks registry set ids) :
    job.attemptByKind registry config = job.attempt registry.templates config := by
  cases job with
  | unregistered stack kind => rfl
  | produce stack registration subject =>
    rw [attemptByKind, lookup_of_mem_ofStacks hb h]
    rfl

/-- Over a registry that was built, the run that looks its artifacts up is the run. -/
theorem generateByKind_eq_generate (hb : draft.buildWith reader = .ok registry) (config : Config)
    (policy : FailurePolicy) (set : SchemaSet) (ids : List StackId) :
    generateByKind registry config policy set ids = generate registry config policy set ids := by
  have hjobs : (Job.ofStacks registry set ids).map (Job.attemptByKind registry config) =
      (Job.ofStacks registry set ids).map (Job.attempt registry.templates config) :=
    List.map_congr_left fun _ hjob => Job.attemptByKind_eq hb config hjob
  cases policy <;> simp only [generateByKind, generate, hjobs]

end Built

/-! ## Registries of sessions -/

open Disk in
/-- A registry that is loaded, with or without a template directory, was built of a draft. -/
theorem Registry.exists_draft_of_load {templateDirectory : Option String} {disk last : Disk}
    {registry : Registry} (h : act (load templateDirectory) disk = (.ok registry, last)) :
    ∃ draft : RegistryDraft, draft.build = .ok registry := by
  cases templateDirectory with
  | none =>
    rw [act_load_none, builtin_eq] at h
    exact ⟨_, (Prod.mk.inj h).1⟩
  | some directory =>
    rw [act_load_some] at h
    obtain ⟨bodies, -, hbuild⟩ := exists_bodies_of_ofDirectory (Prod.mk.inj h).1
    exact ⟨_, hbuild⟩

open Disk in
/-- In a session the run that looks its artifacts up is the run. -/
theorem generateByKind_eq_generate_of_load {templateDirectory : Option String} {disk last : Disk}
    {registry : Registry} (h : act (Registry.load templateDirectory) disk = (.ok registry, last))
    (config : Config) (policy : FailurePolicy) (set : SchemaSet) (ids : List StackId) :
    generateByKind registry config policy set ids = generate registry config policy set ids := by
  obtain ⟨draft, hb⟩ := Registry.exists_draft_of_load h
  exact generateByKind_eq_generate hb config policy set ids

end ModelCodegen
