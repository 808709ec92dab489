import ModelCodegen.Proofs.Generation.Coordinates
import ModelCodegen.Proofs.Generation.Data

/-!
# The output at a coordinate

In a run over the built-in registry that succeeds a coordinate belongs to one job:
the stack and the kind of artifact tell the registration, the application and the
model tell the subject. So there is one output at the coordinate of a job, and it is
what came of the job: its path is told by the rule, and its text is what the script
of the template yields.
-/

namespace ModelCodegen

open Result Template

namespace Coordinate

/-- The coordinate of an artifact of a model. -/
def ofModel (stack : StackId) (kind : ArtifactKind) (schema : ModelSchema) : Coordinate :=
  ⟨stack, kind, some schema.applicationName, some schema.modelName⟩

/-- The coordinate of an artifact of an application. -/
def ofApplication (stack : StackId) (kind : ArtifactKind) (application : String) : Coordinate :=
  ⟨stack, kind, some application, none⟩

end Coordinate

/-- There is one output at the coordinate, and it has the property. -/
def Report.HasAt (report : Report) (coordinate : Coordinate) (p : Artifact → Prop) : Prop :=
  ∃ artifact ∈ report.outputs, artifact.toCoordinate = coordinate ∧ p artifact ∧
    ∀ other ∈ report.outputs, other.toCoordinate = coordinate → other = artifact

/-- An output with a property has every weaker one. -/
theorem Report.HasAt.imp {report : Report} {coordinate : Coordinate} {p q : Artifact → Prop}
    (h : report.HasAt coordinate p) (hpq : ∀ artifact, p artifact → q artifact) :
    report.HasAt coordinate q := by
  obtain ⟨artifact, hmem, hcoordinate, hp, hunique⟩ := h
  exact ⟨artifact, hmem, hcoordinate, hpq artifact hp, hunique⟩

section Run

variable {registry : Registry} {config : Config} {set : SchemaSet} {ids : List StackId}
  {report : Report}

/-- A kind of artifact comes once in a stack. -/
private theorem eq_of_kind_eq (hb : Registry.builtin = .ok registry) {id : StackId}
    {registration other : Registration} (hr : registration ∈ (StackDescriptor.builtin id).artifacts)
    (ho : other ∈ (StackDescriptor.builtin id).artifacts)
    (hkind : registration.kind = other.kind) : registration = other := by
  obtain ⟨hstack, -⟩ := Registry.mem_of_stack? (Registry.stack?_of_builtin hb id)
  rw [Registry.builtin_eq] at hb
  exact List.inj_on_of_nodup_map ((RegistryDraft.nodup_of_build hb).2 _ hstack) hr ho hkind

/-- A subject with the names of a model of the set is that model. -/
theorem Subject.eq_model (hkeys : (set.schemas.map ModelSchema.key).Nodup)
    {subject : Subject} (hof : subject.IsOf set) {schema : ModelSchema} (hs : schema ∈ set.schemas)
    (happlication : subject.application? = some schema.applicationName)
    (hmodel : subject.model? = some schema.modelName) : subject = .model schema := by
  cases subject with
  | application group => cases hmodel
  | run schemas => cases hmodel
  | model other =>
    have hkey : other.key = schema.key := by
      rw [ModelSchema.key, ModelSchema.key, Option.some.inj happlication, Option.some.inj hmodel]
    rw [List.inj_on_of_nodup_map hkeys hof hs hkey]

/-- The application and the model of a subject tell which one of its kind it is. -/
private theorem subject_eq (hkeys : (set.schemas.map ModelSchema.key).Nodup)
    {subject other : Subject} (hof : subject.IsOf set) (hoof : other.IsOf set)
    (hscope : subject.scope = other.scope)
    (happlication : subject.application? = other.application?)
    (hmodel : subject.model? = other.model?) : subject = other := by
  cases subject <;> cases other <;> try cases hscope
  case model.model schema other => exact Subject.eq_model hkeys hof hoof happlication hmodel
  case application.application group other =>
    rw [List.inj_on_of_nodup_map set.nodup_names_applications hof hoof
      (Option.some.inj happlication)]
  case run.run schemas other =>
    rw [show schemas = other from Eq.trans hof (Eq.symm hoof)]

/-- An output at the coordinate of a model came of a job for this model. -/
theorem exists_job_of_model (hb : Registry.builtin = .ok registry) {policy : FailurePolicy}
    (h : generate registry config policy set ids = .ok report)
    (hkeys : (set.schemas.map ModelSchema.key).Nodup) {schema : ModelSchema}
    (hs : schema ∈ set.schemas) {id : StackId} {kind : ArtifactKind} {artifact : Artifact}
    (hmem : artifact ∈ report.outputs) (hat : artifact.toCoordinate = .ofModel id kind schema) :
    ∃ registration ∈ (StackDescriptor.builtin id).artifacts, registration.kind = kind ∧
      registration.scope = .model ∧ Job.attempt registry.templates config
        (.produce (.builtin id) registration (.model schema)) = .ok artifact := by
  obtain ⟨job, hjob, hattempt⟩ := exists_job_of_output h hmem
  obtain ⟨own, -, registration, hr, subject, rfl, hscope, hof⟩ := (mem_ofStacks_builtin hb).mp hjob
  have hcoordinate := (Job.attempt_produce_ok hattempt).2.2.2.symm.trans hat
  obtain rfl : own = id :=
    (StackDescriptor.builtin_id own).symm.trans (congrArg Coordinate.stack hcoordinate)
  obtain rfl := subject.eq_model hkeys hof hs (congrArg Coordinate.application hcoordinate)
    (congrArg Coordinate.model hcoordinate)
  exact ⟨registration, hr, congrArg Coordinate.artifact hcoordinate, hscope, hattempt⟩

/-- A run that succeeds has an output at the coordinate of each artifact of a model. -/
theorem exists_output_of_model (hb : Registry.builtin = .ok registry)
    (h : generate registry config .failFast set ids = .ok report) {schema : ModelSchema}
    (hs : schema ∈ set.schemas) {id : StackId} (hid : id ∈ ids) {registration : Registration}
    (hr : registration ∈ (StackDescriptor.builtin id).artifacts)
    (hscope : registration.scope = .model) :
    ∃ artifact ∈ report.outputs, artifact.toCoordinate = .ofModel id registration.kind schema := by
  obtain ⟨artifact, hmem, hattempt⟩ := exists_output_of_job h <| (mem_ofStacks_builtin hb).mpr
    ⟨id, hid, registration, hr, .model schema, rfl, hscope, hs⟩
  refine ⟨artifact, hmem, (Job.attempt_produce_ok hattempt).2.2.2.trans ?_⟩
  rw [Job.coordinate, StackDescriptor.builtin_id]
  rfl

/-- What came of a job is the output at its coordinate. -/
theorem Report.hasAt_of_job (hb : Registry.builtin = .ok registry)
    (h : generate registry config .failFast set ids = .ok report)
    (hkeys : (set.schemas.map ModelSchema.key).Nodup) {id : StackId} (hid : id ∈ ids)
    {registration : Registration} (hr : registration ∈ (StackDescriptor.builtin id).artifacts)
    (subject : Subject) (hscope : registration.scope = subject.scope) (hof : subject.IsOf set)
    {p : Artifact → Prop}
    (hp : ∀ artifact, Job.attempt registry.templates config
      (.produce (.builtin id) registration subject) = .ok artifact → p artifact) :
    report.HasAt ⟨id, registration.kind, subject.application?, subject.model?⟩ p := by
  have hat : (Job.produce (.builtin id) registration subject).coordinate =
      ⟨id, registration.kind, subject.application?, subject.model?⟩ := by
    rw [Job.coordinate, StackDescriptor.builtin_id]
  obtain ⟨artifact, hmem, hattempt⟩ := exists_output_of_job h <| (mem_ofStacks_builtin hb).mpr
    ⟨id, hid, registration, hr, subject, rfl, hscope, hof⟩
  obtain ⟨-, -, -, hcoordinate⟩ := Job.attempt_produce_ok hattempt
  refine ⟨artifact, hmem, hcoordinate.trans hat, hp artifact hattempt, ?_⟩
  intro other ho hsame
  obtain ⟨job, hjob, hother⟩ := exists_job_of_mem h ho
  obtain ⟨otherId, -, otherRegistration, hor, otherSubject, rfl, hoscope, hoof⟩ :=
    (mem_ofStacks_builtin hb).mp hjob
  obtain ⟨-, -, -, hocoordinate⟩ := Job.attempt_produce_ok hother
  -- The two jobs have the same coordinate, so they are the same.
  have he := hocoordinate.symm.trans hsame
  obtain rfl : otherId = id :=
    (StackDescriptor.builtin_id otherId).symm.trans (congrArg Coordinate.stack he)
  obtain rfl := eq_of_kind_eq hb hor hr (congrArg Coordinate.artifact he)
  obtain rfl := subject_eq hkeys hoof hof (hoscope.symm.trans hscope)
    (congrArg Coordinate.application he) (congrArg Coordinate.model he)
  exact Except.ok.inj (hother.symm.trans hattempt)

/-- What a registration of a stack has for a subject, with this text. -/
def Registration.output (registration : Registration) (id : StackId) (subject : Subject)
    (text : String) : Artifact where
  stack := id
  artifact := registration.kind
  application := subject.application?
  model := subject.model?
  path := registration.path.resolve subject.vars
  content := text
  policy := registration.policy

/-- A job that succeeds has the text that the script of its template yields. -/
theorem Job.eq_output_of_script (hb : Registry.builtin = .ok registry)
    (hc : config.validate = .ok ()) {id : StackId} {registration : Registration}
    (hr : registration ∈ (StackDescriptor.builtin id).artifacts) {subject : Subject}
    (hn : ∀ schema ∈ subject.schemas, schema.IsNamed) {body : String}
    (hbody : (registration.template, body) ∈ builtinTemplates) {script : Script}
    (hscript : Script.ofBody? body = some script) {text : String}
    (htext : ∀ members, (∀ name, Entries.get? name members =
        Entries.get? name (subject.view config (.builtin id) registration)) →
      script.textAt ⟨.object members, []⟩ = some text) {artifact : Artifact}
    (h : attempt registry.templates config (.produce (.builtin id) registration subject) =
      .ok artifact) :
    artifact = registration.output id subject text := by
  obtain ⟨-, hpath, hpolicy, hcoordinate⟩ := attempt_produce_ok h
  rw [coordinate, StackDescriptor.builtin_id] at hcoordinate
  obtain ⟨seen, hdata, hcontent⟩ := exists_data_of_render (render_of_attempt h)
  obtain ⟨members, rfl, hmembers⟩ := exists_members_of_data hc hn hdata
  rw [render_builtin_of_textAt hb hr hbody hscript (htext members hmembers),
    Except.ok.injEq] at hcontent
  obtain ⟨place, path, content, policy⟩ := artifact
  obtain rfl : _ = place := hcoordinate.symm
  obtain rfl : _ = path := hpath.symm
  obtain rfl : _ = content := hcontent
  obtain rfl : _ = policy := hpolicy.symm
  rfl

/-- Before a template is rendered the endpoint of its model was accepted. -/
theorem Job.checkEndpoint_of_attempt {templates : TemplateCollection}
    (hc : config.validate = .ok ()) {stack : StackDescriptor} {registration : Registration}
    {subject : Subject} (hn : ∀ schema ∈ subject.schemas, schema.IsNamed) {artifact : Artifact}
    (h : attempt templates config (.produce stack registration subject) = .ok artifact) :
    subject.checkEndpoint = .ok () := by
  obtain ⟨hnamed, -⟩ := attempt_produce_ok h
  obtain ⟨members, hrender, -⟩ := render_eq templates hc stack registration hnamed hn
  have hattempt := render_of_attempt h
  rw [hrender] at hattempt
  obtain ⟨_, hcheck, -⟩ := bind_eq_ok.mp hattempt
  exact hcheck

/-- The text of a job that succeeds is what the script of its template yields in data of its
subject. -/
theorem Job.exists_textAt_of_attempt (hb : Registry.builtin = .ok registry)
    (hc : config.validate = .ok ()) {id : StackId} {registration : Registration}
    (hr : registration ∈ (StackDescriptor.builtin id).artifacts) (subject : Subject)
    (hscope : registration.scope = subject.scope)
    (hn : ∀ schema ∈ subject.schemas, schema.IsNamed) {body : String}
    (hbody : (registration.template, body) ∈ builtinTemplates) {script : Script}
    (hscript : Script.ofBody? body = some script) {artifact : Artifact}
    (h : attempt registry.templates config (.produce (.builtin id) registration subject) =
      .ok artifact) :
    ∃ members : List (String × Json), (∀ name, Entries.get? name members =
        Entries.get? name (subject.view config (.builtin id) registration)) ∧
      script.textAt ⟨.object members, []⟩ = some artifact.content := by
  obtain ⟨own, -, ownScript, hown, hread, -, -, -, hruns⟩ := exists_script_builtin hb hr
  obtain rfl : body = own := Option.some.inj <|
    (RegistryDraft.get?_bodies hbody).symm.trans (RegistryDraft.get?_bodies hown)
  obtain rfl : script = ownScript := Option.some.inj (hscript.symm.trans hread)
  obtain ⟨seen, hseen, hrender⟩ := exists_data_of_render (render_of_attempt h)
  obtain ⟨members, rfl, hmembers⟩ := exists_members_of_data hc hn hseen
  obtain ⟨chars, hrun⟩ := hruns _ (hscope ▸ Subject.view_fits hmembers)
  have htext : script.textAt ⟨.object members, []⟩ = some (String.ofList chars) :=
    congrArg (Option.map String.ofList) hrun
  rw [render_builtin_of_textAt hb hr hbody hscript htext, Except.ok.injEq] at hrender
  exact ⟨members, hmembers, htext.trans (congrArg some hrender)⟩

/-- The output for a subject is at the path of its rule and is what the script of its template
yields. -/
theorem Report.hasAt_of_script (hb : Registry.builtin = .ok registry)
    (hc : config.validate = .ok ()) (h : generate registry config .failFast set ids = .ok report)
    (hkeys : (set.schemas.map ModelSchema.key).Nodup) {id : StackId} (hid : id ∈ ids)
    {registration : Registration} (hr : registration ∈ (StackDescriptor.builtin id).artifacts)
    (subject : Subject) (hscope : registration.scope = subject.scope) (hof : subject.IsOf set)
    (hn : ∀ schema ∈ subject.schemas, schema.IsNamed) {body : String}
    (hbody : (registration.template, body) ∈ builtinTemplates) {script : Script}
    (hscript : Script.ofBody? body = some script) {text : String}
    (htext : ∀ members, (∀ name, Entries.get? name members =
        Entries.get? name (subject.view config (.builtin id) registration)) →
      script.textAt ⟨.object members, []⟩ = some text) :
    report.HasAt ⟨id, registration.kind, subject.application?, subject.model?⟩ fun artifact =>
      artifact.path = registration.path.resolve subject.vars ∧ artifact.content = text := by
  refine hasAt_of_job hb h hkeys hid hr subject hscope hof fun artifact hattempt => ?_
  rw [Job.eq_output_of_script hb hc hr hn hbody hscript htext hattempt]
  exact ⟨rfl, rfl⟩

end Run

end ModelCodegen
