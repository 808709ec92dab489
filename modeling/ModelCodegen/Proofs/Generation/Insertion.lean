import ModelCodegen.Proofs.Generation.Frame
import ModelCodegen.Proofs.Generation.Repetition
import ModelCodegen.Proofs.Generation.Support

/-!
# Runs with one model more

What a run has for a model, an application or a stack does not depend on the models
that belong elsewhere. So with one model more, a run has new outputs for this model
and other texts in the index of its application and in that of the run; all other
outputs are those of the run without it, and writing them changes nothing.
-/

namespace ModelCodegen

open Result ModelCodegen.Path Disk

/-- The artifact is one of the model's, the index of its application or the database of a run. -/
inductive Artifact.Concerns (schema : ModelSchema) (artifact : Artifact) : Prop
  | model : artifact.application = some schema.applicationName →
      artifact.model = some schema.modelName → Concerns schema artifact
  | index : artifact.stack = .ember → artifact.artifact = .index →
      artifact.application = some schema.applicationName → artifact.model = none →
      Concerns schema artifact
  | database : artifact.stack = .vuexOrmAxios → artifact.artifact = .index →
      artifact.application = none → artifact.model = none → Concerns schema artifact

namespace StackDescriptor

private theorem index_of_application (id : StackId) : ∀ registration ∈ (builtin id).artifacts,
    registration.scope = .application → id = .ember ∧ registration.kind = .index := by
  cases id <;> decide

private theorem database_of_run (id : StackId) : ∀ registration ∈ (builtin id).artifacts,
    registration.scope = .run → registration.kind = .index → id = .vuexOrmAxios := by
  cases id <;> decide

private theorem scope_of_scaffold (id : StackId) : ∀ registration ∈ (builtin id).artifacts,
    registration.policy = .scaffold → registration.scope = .model := by
  cases id <;> decide

end StackDescriptor

section Outputs

variable {registry : Registry} {config : Config} {ids : List StackId} {set : SchemaSet}
  {front back : List ModelSchema} {schema : ModelSchema} {report extended : Report}
  {artifact : Artifact}

/-- What a job yields is an output of each run that has the job. -/
private theorem mem_outputs_of_attempt
    (h : generate registry config .failFast set ids = .ok report) {job : Job}
    (hjob : job ∈ Job.ofStacks registry set ids)
    (hattempt : job.attempt registry.templates config = .ok artifact) :
    artifact ∈ report.outputs := by
  obtain ⟨other, hmem, hother⟩ := exists_output_of_job h hjob
  rw [hattempt, Except.ok.injEq] at hother
  exact hother ▸ hmem

/-- With one schema more, the artifacts that it does not concern are those of the run without it. -/
theorem mem_outputs_of_insert (hb : Registry.builtin = .ok registry)
    (h : generate registry config .failFast ⟨front ++ back⟩ ids = .ok report)
    (h' : generate registry config .failFast ⟨front ++ schema :: back⟩ ids = .ok extended)
    (hmem : artifact ∈ extended.outputs) (hother : ¬ artifact.Concerns schema) :
    artifact ∈ report.outputs := by
  obtain ⟨job, hjob, hattempt⟩ := exists_job_of_mem h' hmem
  obtain ⟨id, hid, registration, hr, subject, rfl, hscope, hof⟩ := (mem_ofStacks_builtin hb).mp hjob
  obtain ⟨-, -, hpolicy, hcoordinate⟩ := Job.attempt_produce_ok hattempt
  have hstack : artifact.stack = id :=
    (congrArg Coordinate.stack hcoordinate).trans (StackDescriptor.builtin_id id)
  have hkind : artifact.artifact = registration.kind := congrArg Coordinate.artifact hcoordinate
  have happlication : artifact.application = subject.application? :=
    congrArg Coordinate.application hcoordinate
  have hmodel : artifact.model = subject.model? := congrArg Coordinate.model hcoordinate
  have hjob' : ∀ own : Subject, registration.scope = own.scope → own.IsOf ⟨front ++ back⟩ →
      .produce (.builtin id) registration own ∈ Job.ofStacks registry ⟨front ++ back⟩ ids :=
    fun own hs ho => (mem_ofStacks_builtin hb).mpr ⟨id, hid, registration, hr, own, rfl, hs, ho⟩
  cases subject with
  | model own =>
    refine mem_outputs_of_attempt h (hjob' _ hscope ?_) hattempt
    have hne : own ≠ schema := by
      rintro rfl
      exact hother (.model happlication hmodel)
    rcases List.mem_append.mp hof with hfront | hback
    · exact List.mem_append_left _ hfront
    · exact List.mem_append_right _ (List.mem_of_ne_of_mem hne hback)
  | application group =>
    refine mem_outputs_of_attempt h (hjob' _ hscope ?_) hattempt
    refine SchemaSet.mem_applications_of_insert (fun he => hother ?_) hof
    obtain ⟨rfl, hindex⟩ := StackDescriptor.index_of_application id registration hr hscope
    exact .index hstack (hkind.trans hindex) (happlication.trans (congrArg some he)) hmodel
  | run schemas =>
    have hindex : registration.kind ≠ .index := fun hindex => hother <|
      .database (hstack.trans (StackDescriptor.database_of_run id registration hr hscope hindex))
        (hkind.trans hindex) happlication hmodel
    obtain ⟨found, hfound, hattempt'⟩ :=
      exists_output_of_job h (hjob' (.run (front ++ back)) hscope rfl)
    obtain ⟨-, -, hpolicy', hcoordinate'⟩ := Job.attempt_produce_ok hattempt'
    have hsame := render_support_eq hb hr hscope hindex (Job.render_of_attempt hattempt)
      (Job.render_of_attempt hattempt')
    obtain ⟨hpath, hcontent⟩ := Prod.mk.inj hsame
    have he : artifact = found := Artifact.eq_of_parts (hcoordinate.trans hcoordinate'.symm) hpath
      hcontent (hpolicy.trans hpolicy'.symm)
    exact he ▸ hfound

/-- A scaffold that concerns the schema is one of its model, and so is its companion. -/
theorem separates_outputs (hb : Registry.builtin = .ok registry)
    (h : generate registry config .failFast set ids = .ok report) (schema : ModelSchema) :
    WritePass.Separates (·.Concerns schema) report.outputs := by
  refine ⟨compatible_outputs hb h, fun artifact hmem hown hscaffold other _ hother _ he => ?_⟩
  obtain ⟨job, hjob, hattempt⟩ := exists_job_of_mem h hmem
  obtain ⟨id, -, registration, hr, subject, rfl, hscope, -⟩ := (mem_ofStacks_builtin hb).mp hjob
  obtain ⟨-, -, hpolicy, hcoordinate⟩ := Job.attempt_produce_ok hattempt
  have hmodel : artifact.model = subject.model? := congrArg Coordinate.model hcoordinate
  rw [StackDescriptor.scope_of_scaffold id registration hr (hpolicy.symm.trans hscaffold)] at hscope
  obtain ⟨-, hnames⟩ := Prod.mk.inj he
  obtain ⟨happlication, hmodels⟩ := Prod.mk.inj hnames
  cases subject with
  | model own =>
    cases hown with
    | model ha hm => exact hother (.model (happlication.symm.trans ha) (hmodels.symm.trans hm))
    | index _ _ _ hnone => cases hmodel.symm.trans hnone
    | database _ _ _ hnone => cases hmodel.symm.trans hnone
  | application group => cases hscope
  | run schemas => cases hscope

end Outputs

/-- Let the outputs of a run be written, and then those of a run with one schema more. If both
passes succeed, the second one makes or changes no files but those of artifacts that concern the
schema. The only files that it may remove are the temporary siblings of these (a file `.post.js.tmp`
beside `post.js`), which their texts go through. All other artifacts are found as they should be, or
are left alone. -/
theorem insert_changes_own_files {registry : Registry} {config : Config} {ids : List StackId}
    {front back : List ModelSchema} {schema : ModelSchema} {set : SchemaSet}
    {report extended : Report} {root : String} {disk changed last : Disk}
    {summary next : WriteSummary} (hb : Registry.builtin = .ok registry)
    (hset : SchemaSet.ofList (front ++ schema :: back) = .ok set)
    (h : generate registry config .failFast ⟨front ++ back⟩ ids = .ok report)
    (h' : generate registry config .failFast set ids = .ok extended)
    (hw : act (writeArtifacts root report.outputs false) disk = (.ok summary, changed))
    (hw' : act (writeArtifacts root extended.outputs false) changed = (.ok next, last)) :
    ChangesFilesAt (fun path => ∃ artifact ∈ extended.outputs, artifact.Concerns schema ∧
        path = join root artifact.path) changed last ∧
      List.Forall₂ (fun artifact entry => entry.1 = join root artifact.path ∧
        (¬ artifact.Concerns schema → entry.2 = .unchanged ∨ entry.2 = .kept))
        extended.outputs next.entries := by
  obtain ⟨members⟩ := set
  obtain ⟨-, rfl⟩ := SchemaSet.ofList_eq_ok_iff.mp hset
  have hsettled : ∀ artifact ∈ extended.outputs, ¬ artifact.Concerns schema →
      WritePass.Settled root changed artifact := fun artifact hmem hother =>
    WritePass.settled_of_writeArtifacts (compatible_outputs hb h) hw artifact
      (mem_outputs_of_insert hb h h' hmem hother)
  obtain ⟨hentries, hfiles⟩ := writeArtifacts_frame (separates_outputs hb h' schema) hsettled hw'
  refine ⟨hfiles, hentries.imp fun artifact entry hentry => ⟨hentry.1, fun hother => ?_⟩⟩
  obtain ⟨path, disposition⟩ := entry
  cases disposition with
  | written => exact absurd (hentry.2 rfl) hother
  | unchanged => exact Or.inl rfl
  | kept => exact Or.inr rfl

/-- A document with a model more. -/
def tagDocument : String :=
  "[\x7b\"application_name\":\"blog\",\"model_name\":\"post\"\x7d," ++
    "\x7b\"application_name\":\"blog\",\"model_name\":\"tag\"\x7d]"

/-- The model that was added. -/
def tag : ModelSchema := .bare "blog" "tag" "blog/tags"

/-- Where a model is inserted behind another one, its module is written and the other one is kept.
-/
theorem insert_changes_own_files_tag : ∃ registry report extended summary next changed last,
    parseSchemas .json postDocument = .ok ⟨[post]⟩ ∧
    parseSchemas .json tagDocument = .ok ⟨[post, tag]⟩ ∧
    Registry.builtin = .ok registry ∧ SchemaSet.ofList [post, tag] = .ok ⟨[post, tag]⟩ ∧
    generate registry {} .failFast ⟨[post]⟩ [.emberDynamic] = .ok report ∧
    generate registry {} .failFast ⟨[post, tag]⟩ [.emberDynamic] = .ok extended ∧
    act (writeArtifacts "front" report.outputs false) ⟨.empty, []⟩ = (.ok summary, changed) ∧
    act (writeArtifacts "front" extended.outputs false) changed = (.ok next, last) ∧
    next.entries = [("front/blog/post.js", .unchanged), ("front/blog/tag.js", .written)] ∧
    ChangesFilesAt (fun path => ∃ artifact ∈ extended.outputs, artifact.Concerns tag ∧
      path = join "front" artifact.path) changed last := by
  obtain ⟨registry, hb⟩ := Registry.exists_builtin
  have hset : parseSchemas .json tagDocument = .ok ⟨[post, tag]⟩ :=
    @parseSchemas_of_isBare .json tagDocument
      [("blog", "post", "blog/posts"), ("blog", "tag", "blog/tags")] (by decide +kernel)
  have hlist : SchemaSet.ofList [post, tag] = .ok ⟨[post, tag]⟩ :=
    SchemaSet.ofList_eq_ok_iff.mpr ⟨SchemaSet.nodup_keys_of_parseSchemas hset, rfl⟩
  have h := @generate_bareModules registry hb [("blog", "post", "blog/posts")]
    (by decide +kernel) (List.nodup_singleton _)
  have h' := @generate_bareModules registry hb
    [("blog", "post", "blog/posts"), ("blog", "tag", "blog/tags")]
    (by decide +kernel) (by decide +kernel)
  have hok : (act (do
      let summary ← writeArtifacts "front" [bareModule ("blog", "post", "blog/posts")] false
      let next ← writeArtifacts "front" [bareModule ("blog", "post", "blog/posts"),
        bareModule ("blog", "tag", "blog/tags")] false
      return (summary, next)) ⟨.empty, []⟩).1 =
    .ok (⟨[("front/blog/post.js", .written)]⟩,
      ⟨[("front/blog/post.js", .unchanged), ("front/blog/tag.js", .written)]⟩) := by
    decide +kernel
  generalize hrun : act _ (⟨.empty, []⟩ : Disk) = answer at hok
  obtain ⟨result, last⟩ := answer
  obtain rfl : result = _ := hok
  obtain ⟨summary, changed, hw, hrest⟩ := act_bind_eq_ok.mp hrun
  obtain ⟨next, _, hw', hdone⟩ := act_bind_eq_ok.mp hrest
  rw [act_pure] at hdone
  cases hdone
  have hchange := @insert_changes_own_files _ _ _ [post] [] _ _ _ _ _ _ _ _ _ _ hb hlist h h' hw hw'
  exact ⟨registry, _, _, _, _, changed, last, parseSchemas_postDocument, hset, hb, hlist, h, h', hw,
    hw', rfl, hchange.1⟩

end ModelCodegen
