import ModelCodegen.Proofs.Generation.BuiltinRun
import ModelCodegen.Proofs.Generation.DataShape
import ModelCodegen.Proofs.Stack.BuiltinScripts
import ModelCodegen.Proofs.Template.Text

/-!
# Jobs over the built-in registry

There is a built-in registry, and its templates yield a text in all data of their
scopes. So the jobs of schemas that are fit for a run all succeed.
-/

namespace ModelCodegen

open Result Template

/-! ## Templates -/

/-- A body that is accepted is that of a template whose script is checked. -/
theorem script_of_accepts {outline : Outline} {outlines : List Outline} {ending : List Char}
    {body : String} (h : outline.accepts outlines ending body = true) :
    ∃ template script, ofText? body = some template ∧
      Script.ofElements? template = some script ∧
      script.checks false outline.scope.shape = true ∧
      outline.closesAll outlines ending script = true := by
  obtain ⟨script, hscript, hchecks⟩ := (Option.any_eq_true ..).mp h
  obtain ⟨template, htemplate, helements⟩ := Option.bind_eq_some_iff.mp hscript
  exact ⟨template, script, htemplate, helements, Bool.and_eq_true_iff.mp hchecks⟩

/-- There is a built-in registry. -/
theorem Registry.exists_builtin : ∃ registry, builtin = .ok registry := by
  rw [builtin_eq]
  refine RegistryDraft.build_ok (fun stack hstack registration hr => ?_) (fun stack hstack => ?_) ?_
  · obtain ⟨id, -, rfl⟩ := List.mem_map.mp hstack
    obtain ⟨body, hbody, haccepts⟩ := StackDescriptor.accepts_builtin id registration hr
    obtain ⟨template, -, htemplate, -⟩ := script_of_accepts haccepts
    exact ⟨body, template, RegistryDraft.get?_bodies hbody, htemplate⟩
  · obtain ⟨id, -, rfl⟩ := List.mem_map.mp hstack
    cases id <;> decide
  · decide

section Run

variable {registry : Registry} {config : Config} {set : SchemaSet} {ids : List StackId}

/-- The registry has the template of every built-in artifact, read from its body. -/
theorem exists_template_builtin (hb : Registry.builtin = .ok registry) {id : StackId}
    {registration : Registration} (hr : registration ∈ (StackDescriptor.builtin id).artifacts)
    {body : String} (hbody : (registration.template, body) ∈ builtinTemplates) :
    ∃ template, Entries.get? registration.template registry.templates = some template ∧
      ofText? body = some template := by
  rw [Registry.builtin_eq] at hb
  obtain ⟨hdescriptors, hread, hpresent⟩ := RegistryDraft.build_sound hb
  have hstack : StackDescriptor.builtin id ∈ registry.descriptors := by
    rw [hdescriptors]
    exact List.mem_map_of_mem (StackId.mem_all id)
  obtain ⟨found, hfound⟩ := Option.isSome_iff_exists.mp (hpresent _ hstack registration hr)
  obtain ⟨foundBody, hfoundBody, htext⟩ := hread _ found hfound
  rw [RegistryDraft.get?_bodies hbody, Option.some.injEq] at hfoundBody
  exact ⟨found, hfound, hfoundBody ▸ htext⟩

/-- A built-in artifact has the text of the script that the body of its template is read as. -/
theorem render_builtin_of_textAt (hb : Registry.builtin = .ok registry) {id : StackId}
    {registration : Registration} (hr : registration ∈ (StackDescriptor.builtin id).artifacts)
    {body : String} (hbody : (registration.template, body) ∈ builtinTemplates) {script : Script}
    (hscript : Script.ofBody? body = some script) {data : Json} {text : String}
    (htext : script.textAt { value := data } = some text) :
    registry.templates.render registration.template data = .ok text := by
  obtain ⟨template, htemplate, hread⟩ := exists_template_builtin hb hr hbody
  rw [Script.ofBody?, hread, Option.bind_eq_bind, Option.bind_some] at hscript
  exact render_eq_of_textAt htemplate hscript htext

/-- The template of a built-in artifact is that of a script, which imports files of the stack and
yields a text in all data of its scope. -/
theorem exists_script_builtin (hb : Registry.builtin = .ok registry) {id : StackId}
    {registration : Registration} (hr : registration ∈ (StackDescriptor.builtin id).artifacts) :
    ∃ body template script, (registration.template, body) ∈ builtinTemplates ∧
      Script.ofBody? body = some script ∧
      Entries.get? registration.template registry.templates = some template ∧
      Script.ofElements? template = some script ∧
      registration.outline.closesAll (StackDescriptor.builtin id).outlines id.moduleEnding.toList
        script = true ∧
      ∀ data, registration.scope.shape.Fits data →
        ∃ text, script.run { value := data } = some text := by
  obtain ⟨body, hbody, haccepts⟩ := StackDescriptor.accepts_builtin id registration hr
  obtain ⟨template, script, htext, helements, hchecks, hcloses⟩ := script_of_accepts haccepts
  obtain ⟨found, hfound, hfoundText⟩ := exists_template_builtin hb hr hbody
  obtain rfl : template = found := Option.some.inj (htext.symm.trans hfoundText)
  refine ⟨body, template, script, hbody, ?_, hfound, helements, hcloses, fun data hd => ?_⟩
  · rw [Script.ofBody?, htext]
    exact helements
  · exact Script.exists_run hchecks ⟨hd, fun h => by cases h⟩

/-- A built-in template yields a text in all data of its scope. -/
theorem exists_render_builtin (hb : Registry.builtin = .ok registry) {id : StackId}
    {registration : Registration} (hr : registration ∈ (StackDescriptor.builtin id).artifacts)
    {data : Json} (hd : registration.scope.shape.Fits data) :
    ∃ text, registry.templates.render registration.template data = .ok text := by
  obtain ⟨-, template, script, -, -, hfound, helements, -, hruns⟩ := exists_script_builtin hb hr
  obtain ⟨text, hrun⟩ := hruns data hd
  exact ⟨_, render_eq_of_run hfound helements hrun⟩

/-! ## Jobs -/

/-- The schemas are fit for a run. -/
def SchemaSet.IsFit (set : SchemaSet) : Prop :=
  ∀ schema ∈ set.schemas, schema.IsNamed ∧ schema.IsServed

/-- The names of a subject of a set that is fit are identifiers. -/
theorem Subject.isNamed_of_isOf (h : set.IsFit) {subject : Subject} (hof : subject.IsOf set) :
    subject.IsNamed :=
  subject.isNamed_of_schemas (fun schema hs => (h schema hs).1) hof

/-- A job whose template yields a text in all data of its scope is decided by the endpoint of its
model. -/
theorem exists_attempt_eq (hc : config.validate = .ok ()) {templates : TemplateCollection}
    (stack : StackDescriptor) {registration : Registration} {subject : Subject}
    (hnamed : subject.IsNamed) (hn : ∀ schema ∈ subject.schemas, schema.IsNamed)
    (hrender : ∀ data, subject.scope.shape.Fits data →
      ∃ text, templates.render registration.template data = .ok text) :
    ∃ artifact, (Job.produce stack registration subject).attempt templates config =
      (Job.produce stack registration subject).coordinate.outcome (do
        subject.checkEndpoint
        return artifact) := by
  obtain ⟨members, hpair, hmembers⟩ := Job.render_eq templates hc stack registration hnamed hn
  obtain ⟨text, htext⟩ := hrender _ (subject.view_fits hmembers)
  rw [htext] at hpair
  rw [Job.attempt]
  simp only [hpair]
  cases subject.checkEndpoint with
  | error error => exact ⟨⟨⟨stack.id, .model, none, none⟩, "", "", .regenerate⟩, rfl⟩
  | ok _ => exact ⟨_, rfl⟩

/-- A job succeeds if its template yields a text in all data of its scope. -/
theorem exists_attempt_of_render (hc : config.validate = .ok ()) (hs : set.IsFit)
    {templates : TemplateCollection} (stack : StackDescriptor) {registration : Registration}
    {subject : Subject} (hof : subject.IsOf set)
    (hrender : ∀ data, subject.scope.shape.Fits data →
      ∃ text, templates.render registration.template data = .ok text) :
    ∃ artifact, (Job.produce stack registration subject).attempt templates config =
      .ok artifact := by
  obtain ⟨artifact, hattempt⟩ := exists_attempt_eq hc stack (subject.isNamed_of_isOf hs hof)
    (fun schema hmem => (hs schema (subject.mem_of_mem_schemas hof hmem)).1) hrender
  have hcheck : subject.checkEndpoint = .ok () := by
    cases subject with
    | model schema => exact (hs schema hof).2.checkEndpoint
    | application group => rfl
    | run schemas => rfl
  rw [hcheck] at hattempt
  exact ⟨artifact, hattempt⟩

/-- All jobs succeed. -/
theorem exists_attempt_builtin (hb : Registry.builtin = .ok registry)
    (hc : config.validate = .ok ()) (hs : set.IsFit) {job : Job}
    (hjob : job ∈ Job.ofStacks registry set ids) :
    ∃ artifact, job.attempt registry.templates config = .ok artifact := by
  obtain ⟨id, -, registration, hr, subject, rfl, hscope, hof⟩ := (mem_ofStacks_builtin hb).mp hjob
  exact exists_attempt_of_render hc hs _ hof fun data hd =>
    exists_render_builtin hb hr (hscope ▸ hd)

end Run

end ModelCodegen
