import ModelCodegen.Proofs.Generation.Overrides
import ModelCodegen.Proofs.Generation.SideBySide

/-!
# Settings of single stacks

The table of a stack is found by the name of the stack and by nothing else. It has a say
in what the templates of this stack find, and in none of what a run does besides: which
jobs there are, where artifacts go and which jobs fail. Spellings in it matter for the
types that fields have.
-/

namespace ModelCodegen

open Result Template

/-! ## Tables -/

/-- The settings are the same, but the table of a stack may be another one, or be missing. -/
structure Config.DiffersOnlyAt (stack : StackId) (config other : Config) : Prop where
  apiBase : config.apiBase = other.apiBase
  emberApp : config.emberApp = other.emberApp
  outputDir : config.outputDir = other.outputDir
  templateDir : config.templateDir = other.templateDir
  paginationContainer : config.paginationContainer = other.paginationContainer
  targetApp : config.targetApp = other.targetApp
  tables : ∀ key, key ≠ stack.name →
    Entries.get? key config.stackSettings = Entries.get? key other.stackSettings

namespace Config

variable {config other : Config}

theorem DiffersOnlyAt.symm {stack : StackId}
    (h : config.DiffersOnlyAt stack other) : other.DiffersOnlyAt stack config :=
  ⟨h.apiBase.symm, h.emberApp.symm, h.outputDir.symm, h.templateDir.symm,
    h.paginationContainer.symm, h.targetApp.symm, fun key hkey => (h.tables key hkey).symm⟩

theorem DiffersOnlyAt.trans {stack : StackId} {last : Config}
    (h : config.DiffersOnlyAt stack other) (h' : other.DiffersOnlyAt stack last) :
    config.DiffersOnlyAt stack last :=
  ⟨h.apiBase.trans h'.apiBase, h.emberApp.trans h'.emberApp, h.outputDir.trans h'.outputDir,
    h.templateDir.trans h'.templateDir, h.paginationContainer.trans h'.paginationContainer,
    h.targetApp.trans h'.targetApp, fun key hkey => (h.tables key hkey).trans (h'.tables key hkey)⟩

/-- Every other stack has the same settings on both sides. -/
theorem DiffersOnlyAt.settingsOf_eq {stack id : StackId} (h : config.DiffersOnlyAt stack other)
    (hne : id ≠ stack) : config.settingsOf id = other.settingsOf id := by
  rw [settingsOf, settingsOf, h.tables _ fun he => hne (StackId.name_injective he)]

/-- The keys of validated settings are names of stacks. -/
theorem exists_name_of_mem_keys (hc : config.validate = .ok ()) {key : String}
    (h : key ∈ Entries.keys config.stackSettings) : ∃ stack : StackId, stack.name = key := by
  obtain ⟨-, -, -, htables⟩ := validate_eq_ok.mp hc
  obtain ⟨entry, hentry, rfl⟩ := List.mem_map.mp h
  have hkey : checkStackKey entry.1 = .ok () := forM_eq_ok.mp htables entry hentry
  rw [checkStackKey] at hkey
  split at hkey
  · next hsome =>
    obtain ⟨stack, hstack⟩ := Option.isSome_iff_exists.mp hsome
    exact ⟨stack, by simpa using List.find?_some hstack⟩
  · cases hkey

/-- A stack whose table is there has the settings in it. -/
theorem settingsOf_of_get? {stack : StackId} {settings : StackSettings}
    (h : Entries.get? stack.name config.stackSettings = some settings) :
    config.settingsOf stack = settings := by
  rw [settingsOf, h]
  rfl

/-- A stack without a table has the default settings. -/
theorem settingsOf_of_not_mem {stack : StackId}
    (h : stack.name ∉ Entries.keys config.stackSettings) : config.settingsOf stack = {} := by
  rw [settingsOf, Entries.get?_eq_none_iff.mpr h]
  rfl

end Config

/-! ## What templates of other stacks find -/

section Views

variable {config other : Config} {stack : StackDescriptor}

/-- Templates of other stacks find the same. -/
theorem Config.DiffersOnlyAt.view_eq {id : StackId} (h : config.DiffersOnlyAt id other)
    (hne : stack.id ≠ id) (registration : Registration) (subject : Subject) :
    subject.view config stack registration = subject.view other stack registration := by
  have hsettings := h.settingsOf_eq hne
  have hcommon : ∀ container, commonView config stack container =
      commonView other stack container := fun container => by
    simp only [commonView, h.paginationContainer, h.targetApp, hsettings, h.emberApp, h.apiBase]
  cases subject with
  | model schema =>
    simp only [Subject.view, modelView, ownView, hcommon, Config.typeMapping,
      Config.endpointStyle, hsettings, h.targetApp, h.apiBase]
  | application group => simp only [Subject.view, aggregateView, hcommon]
  | run schemas => simp only [Subject.view, aggregateView, hcommon]

end Views

theorem Subject.map_id (subject : Subject) : subject.map id = subject := by
  cases subject with
  | model schema => rfl
  | application group => rw [map, ApplicationGroup.map, List.map_id]
  | run schemas => rw [map, List.map_id]

/-! ## Runs -/

section Runs

variable {registry : Registry} {config other : Config} {stack : StackId} {set : SchemaSet}

/-- Whatever the table of a stack says, jobs fail alike or yield artifacts that match. -/
theorem sideBySide_attempt (hb : Registry.builtin = .ok registry)
    (hc : config.validate = .ok ()) (ho : other.validate = .ok ())
    (h : config.DiffersOnlyAt stack other) {format : SchemaFormat} {document : String}
    (hset : parseSchemas format document = .ok set) {ids : List StackId} {job : Job}
    (hjob : job ∈ Job.ofStacks registry set ids) :
    SideBySide (Artifact.Matches (·.stack ≠ stack)) (job.attempt registry.templates config)
      (job.attempt registry.templates other) := by
  obtain ⟨id, -, registration, hr, subject, rfl, hscope, hof⟩ := (mem_ofStacks_builtin hb).mp hjob
  have hagree : Agree (·.stack != stack) _ _ := agree_attempt ModelSchema.keepsFit_id hb hc ho
    hr hscope
    (subject.isNamed_of_schemas (SchemaSet.isNamed_of_parseSchemas hset) hof)
    (subject.isNamed_of_parseSchemas hset hof) fun hconcerned name _ => by
      rw [Subject.map_id, h.view_eq (bne_iff_ne.mp hconcerned)]
  rw [Subject.map_id] at hagree
  generalize hfirst : Job.attempt registry.templates config _ = first at hagree ⊢
  generalize hsecond : Job.attempt registry.templates other _ = second at hagree ⊢
  cases hagree with
  | failed failure => exact .failed failure
  | done hcoordinate hpath hsame =>
    obtain ⟨-, -, hpolicy, -⟩ := Job.attempt_produce_ok hfirst
    obtain ⟨-, -, hotherPolicy, -⟩ := Job.attempt_produce_ok hsecond
    exact .done ⟨hcoordinate, hpath, hpolicy.trans hotherPolicy.symm,
      fun hne => congrArg Artifact.content (hsame (bne_iff_ne.mpr hne))⟩

/-- The table of a stack concerns none of the outputs of other stacks. -/
theorem sideBySide_of_differsOnlyAt (hb : Registry.builtin = .ok registry)
    (hc : config.validate = .ok ()) (ho : other.validate = .ok ())
    (h : config.DiffersOnlyAt stack other) {format : SchemaFormat} {document : String}
    (hset : parseSchemas format document = .ok set) (policy : FailurePolicy)
    (ids : List StackId) :
    SideBySide (Report.Matches (·.stack ≠ stack)) (generate registry config policy set ids)
      (generate registry other policy set ids) := by
  refine sideBySide_generate ?_ policy
  rw [List.forall₂_map_left_iff, List.forall₂_map_right_iff, List.forall₂_same]
  exact fun job hjob => sideBySide_attempt hb hc ho h hset hjob

end Runs

/-! ## Spellings of types that no field has -/

/-- A field of the set has a type of this tag. -/
def SchemaSet.Carries (set : SchemaSet) (tag : String) : Prop :=
  ∃ schema ∈ set.schemas, ∃ field ∈ schema.fields, ∃ type, field.type = some type ∧ type.tag = tag

/-- The settings are the same, but types of one tag may be spelled in another way. -/
structure StackSettings.DiffersOnlyAt (tag : String) (settings other : StackSettings) : Prop where
  relationshipImports : settings.relationshipImports = other.relationshipImports
  endpointSuffix : settings.endpointSuffix = other.endpointSuffix
  trailingSlash : settings.trailingSlash = other.trailingSlash
  typeMapping : ∀ name, name ≠ tag →
    Entries.get? name settings.typeMapping = Entries.get? name other.typeMapping

/-! ### Contexts -/

/-- The contexts differ in nothing but the spelling of types that no field of the set has. -/
structure RenderContext.SeesAlike (set : SchemaSet) (context other : RenderContext) : Prop where
  values : context.values = other.values
  endpointStyle : context.endpointStyle = other.endpointStyle
  types : ∀ schema ∈ set.schemas, ∀ field ∈ schema.fields,
    context.types.spellOption field.type = other.types.spellOption field.type

namespace RenderContext.SeesAlike

variable {set : SchemaSet} {context other : RenderContext}

/-- Contexts that are seen alike stay so under a binding of the same name and value. -/
theorem bind (h : SeesAlike set context other) (name : String) (value : Json) :
    SeesAlike set (context.bind name value) (other.bind name value) :=
  ⟨by rw [RenderContext.bind, RenderContext.bind, h.values], h.endpointStyle, h.types⟩

/-- Contexts that are seen alike have the same values. -/
theorem get?_eq (h : SeesAlike set context other) (name : String) :
    context.get? name = other.get? name := by
  rw [RenderContext.get?, RenderContext.get?, h.values]

/-- Contexts that are seen alike give the same data to aggregates. -/
theorem data_eq (h : SeesAlike set context other) : context.data = other.data := by
  rw [RenderContext.data, RenderContext.data, h.get?_eq, h.values]

/-- Contexts that are seen alike give the same data to every model of the set. -/
theorem modelData_eq (h : SeesAlike set context other) {schema : ModelSchema}
    (hs : schema ∈ set.schemas) : modelData context schema = modelData other schema := by
  have htext : ∀ name, context.text? name = other.text? name := fun name => by
    rw [RenderContext.text?, RenderContext.text?, h.get?_eq]
  have hfields : schema.fields.map (fieldBinding context.types) =
      schema.fields.map (fieldBinding other.types) :=
    List.map_congr_left fun field hfield => by
      rw [fieldBinding, fieldBinding, h.types schema hs field hfield]
  simp only [modelData, modelBindings, addressBinding, htext, h.endpointStyle, hfields, h.data_eq]

/-- Contexts that are seen alike give the same aggregates. -/
theorem renderAggregate_eq (h : SeesAlike set context other) (templates : TemplateCollection)
    (registration : Registration) (schemas : List ModelSchema) :
    Job.renderAggregate templates context registration schemas =
      Job.renderAggregate templates other registration schemas := by
  simp only [Job.renderAggregate, aggregateData, (h.bind _ _).data_eq]

/-- Artifacts are rendered alike. -/
theorem render_eq (h : SeesAlike set context other) (templates : TemplateCollection)
    (registration : Registration) {subject : Subject} (hof : subject.IsOf set) :
    Job.render templates context registration subject =
      Job.render templates other registration subject := by
  cases subject with
  | model schema => simp only [Job.render, h.modelData_eq hof]
  | application group => simp only [Job.render, (h.bind _ _).renderAggregate_eq]
  | run schemas => simp only [Job.render, h.renderAggregate_eq]

end RenderContext.SeesAlike

/-! ### Jobs -/

section Spellings

variable {config other : Config} {stack : StackId} {set : SchemaSet} {tag : String}

/-- The contexts of a stack are seen alike when a type is spelled in another way that no field
has. -/
theorem Config.DiffersOnlyAt.seesAlike (h : config.DiffersOnlyAt stack other)
    (hsettings : (config.settingsOf stack).DiffersOnlyAt tag (other.settingsOf stack))
    (htag : ¬ set.Carries tag) (descriptor : StackDescriptor) :
    (Job.stackContext config descriptor).SeesAlike set (Job.stackContext other descriptor) := by
  have hsame : (config.settingsOf descriptor.id).DiffersOnlyAt tag
      (other.settingsOf descriptor.id) := by
    by_cases hid : descriptor.id = stack
    · rw [hid]
      exact hsettings
    · rw [h.settingsOf_eq hid]
      exact ⟨rfl, rfl, rfl, fun _ _ => rfl⟩
  refine ⟨?_, ?_, fun schema hs field hfield => ?_⟩
  · simp only [Job.stackContext, RenderContext.bind, hsame.relationshipImports, h.apiBase,
      h.emberApp, h.paginationContainer, h.targetApp]
  · show config.endpointStyle descriptor = other.endpointStyle descriptor
    simp only [Config.endpointStyle, hsame.endpointSuffix, hsame.trailingSlash]
  · show (config.typeMapping descriptor).spellOption field.type =
      (other.typeMapping descriptor).spellOption field.type
    cases htype : field.type with
    | none => rfl
    | some type =>
      have hne : type.tag ≠ tag := fun he => htag ⟨schema, hs, field, hfield, type, htype, he⟩
      simp only [TypeMapping.spellOption, Option.bind_some, TypeMapping.spell, Config.typeMapping,
        hsame.typeMapping _ hne]

/-- The spelling of types that no field of the set has does not matter. -/
theorem generate_eq_of_not_carries (h : config.DiffersOnlyAt stack other)
    (hsettings : (config.settingsOf stack).DiffersOnlyAt tag (other.settingsOf stack))
    (htag : ¬ set.Carries tag) (registry : Registry) (policy : FailurePolicy)
    (ids : List StackId) :
    generate registry config policy set ids = generate registry other policy set ids := by
  have hattempt : ∀ job ∈ Job.ofStacks registry set ids,
      job.attempt registry.templates config = job.attempt registry.templates other := by
    intro job hjob
    obtain ⟨id, -, hjob⟩ := List.mem_flatMap.mp hjob
    split at hjob
    · obtain ⟨registration, -, subject, rfl, -, hof⟩ := Job.mem_ofStack.mp hjob
      simp only [Job.attempt, (h.seesAlike hsettings htag _).render_eq _ _ hof]
    · obtain ⟨kind, -, rfl⟩ := List.mem_map.mp hjob
      rfl
  simp only [generate, List.map_congr_left hattempt]

end Spellings

/-! ## Both -/

/-- Runs with settings that differ in the table of one stack abort with the same failure, or have
the same failures and outputs that match, with the same texts for other stacks. Every table is that
of just one stack, which has it for its settings. A type that no field has may be spelled in any
way. -/
theorem stackSettings_stay_in_stack {registry : Registry} (hb : Registry.builtin = .ok registry)
    {config : Config} (hc : config.validate = .ok ()) :
    (∀ other stack, other.validate = .ok () → config.DiffersOnlyAt stack other →
      ∀ format document set, parseSchemas format document = .ok set → ∀ policy ids,
        SideBySide (Report.Matches (·.stack ≠ stack)) (generate registry config policy set ids)
          (generate registry other policy set ids)) ∧
    (∀ key settings, Entries.get? key config.stackSettings = some settings →
      ∃ stack : StackId, stack.name = key ∧ config.settingsOf stack = settings ∧
        ∀ other : StackId, other.name = key → other = stack) ∧
    (∀ stack : StackId, stack.name ∉ Entries.keys config.stackSettings →
      config.settingsOf stack = {}) ∧
    ∀ other stack tag set, config.DiffersOnlyAt stack other →
      (config.settingsOf stack).DiffersOnlyAt tag (other.settingsOf stack) → ¬ set.Carries tag →
        ∀ policy ids,
          generate registry config policy set ids = generate registry other policy set ids := by
  refine ⟨fun other stack ho h format document set hset policy ids =>
      sideBySide_of_differsOnlyAt hb hc ho h hset policy ids,
    fun key settings hget => ?_, fun stack => Config.settingsOf_of_not_mem,
    fun other stack tag set h hsettings htag policy ids =>
      generate_eq_of_not_carries h hsettings htag registry policy ids⟩
  obtain ⟨stack, rfl⟩ := Config.exists_name_of_mem_keys hc
    (List.mem_map_of_mem (Entries.mem_of_get? hget))
  exact ⟨stack, rfl, Config.settingsOf_of_get? hget, fun other he => StackId.name_injective he⟩

namespace Config

/-- The default settings, with a table of one stack. -/
def ofStack (stack : StackId) (settings : StackSettings) : Config where
  stackSettings := [(stack.name, settings)]

/-- The stack has the settings that the table was made of. -/
theorem settingsOf_ofStack (stack : StackId) (settings : StackSettings) :
    (ofStack stack settings).settingsOf stack = settings :=
  settingsOf_of_get? (by rw [ofStack, Entries.get?_cons, if_pos rfl])

/-- Settings with one table differ from the default ones only there. -/
theorem differsOnlyAt_ofStack (stack : StackId) (settings : StackSettings) :
    DiffersOnlyAt stack (ofStack stack settings) {} := by
  refine ⟨rfl, rfl, rfl, rfl, rfl, rfl, fun key hkey => ?_⟩
  rw [ofStack, Entries.get?_cons, if_neg hkey.symm]

end Config

/-- A set carries the tags of the types that its fields have. -/
theorem SchemaSet.carries_iff {set : SchemaSet} {tag : String} : set.Carries tag ↔
    some tag ∈ set.schemas.flatMap fun schema =>
      schema.fields.map fun field => field.type.map (·.tag) := by
  simp only [Carries, List.mem_flatMap, List.mem_map, Option.map_eq_some_iff]

/-- A document with a model that has two fields, one of them with a type of its own name. -/
def typedDocument : String :=
  "[\x7b\"application_name\":\"blog\",\"model_name\":\"post\",\"fields\":[" ++
    "\x7b\"name\":\"title\",\"type\":\"string\"\x7d," ++
    "\x7b\"name\":\"price\",\"type\":\"euro\"\x7d]\x7d]"

/-- Another ending of addresses leaves the run of the document with matching outputs; spelling a
type that none of its fields has leaves it as it is. -/
theorem stackSettings_stay_in_stack_typedDocument : ∃ set registry report other,
    parseSchemas .json typedDocument = .ok set ∧ set.Carries "string" ∧ set.Carries "euro" ∧
    ¬ set.Carries "money" ∧ Registry.builtin = .ok registry ∧
    generate registry (.ofStack .angular2 { endpointSuffix := some "-list" }) .failFast set
      [.angular2, .emberDynamic] = .ok report ∧
    generate registry {} .failFast set [.angular2, .emberDynamic] = .ok other ∧
    report.Matches (·.stack ≠ .angular2) other ∧
    (Config.ofStack .angular2 { endpointSuffix := some "-list" }).settingsOf .ember = {} ∧
    generate registry (.ofStack .angular2
      { endpointSuffix := some "-list", typeMapping := [("money", "number")] }) .failFast set
        [.angular2, .emberDynamic] = .ok report := by
  have hread : (parseSchemas .json typedDocument).toOption.any (fun set =>
      (set.schemas.flatMap fun schema => schema.fields.map fun field => field.type.map (·.tag)) ==
          [some "string", some "euro"] &&
        set.schemas.all (fun schema => SchemaDraft.isUsableEndpoint schema.endpoint &&
          schema.endpoint.toList.all Name.isEndpointChar)) = true := by decide +kernel
  obtain ⟨set, hset, hread⟩ := exists_ok_of_any hread
  obtain ⟨htags, hendpoints⟩ := Bool.and_eq_true_iff.mp hread
  have hcarries : ∀ tag, set.Carries tag ↔ some tag ∈ [some "string", some "euro"] := fun tag => by
    rw [SchemaSet.carries_iff, eq_of_beq htags]
  have hmoney : ¬ set.Carries "money" := by
    rw [hcarries]
    decide
  obtain ⟨registry, hb⟩ := Registry.exists_builtin
  obtain ⟨other, hother⟩ := @exists_report_of_apart registry {} set [.angular2, .emberDynamic] hb
    (by rfl) (SchemaSet.isFit_of_endpoints hset hendpoints)
    (SchemaSet.nodup_keys_of_parseSchemas hset) (by decide) (by decide)
  obtain ⟨hruns, -, hdefault, hspelling⟩ := stackSettings_stay_in_stack hb
    (show (Config.ofStack .angular2 { endpointSuffix := some "-list" }).validate = .ok () by
      decide +kernel)
  have hside := hruns {} .angular2 (by rfl) (Config.differsOnlyAt_ofStack ..) .json typedDocument _
    hset .failFast [.angular2, .emberDynamic]
  rw [hother] at hside
  generalize hreport : generate registry (.ofStack ..) _ _ _ = result at hside
  cases hside with
  | @done report _ hmatches =>
    refine ⟨set, registry, report, other, hset, (hcarries _).mpr (by decide),
      (hcarries _).mpr (by decide), hmoney, hb, hreport, hother, hmatches,
      hdefault .ember (by decide), ?_⟩
    rw [← hreport]
    refine (hspelling _ .angular2 "money" set ((Config.differsOnlyAt_ofStack ..).trans
      (Config.differsOnlyAt_ofStack ..).symm) ?_ hmoney .failFast _).symm
    rw [Config.settingsOf_ofStack, Config.settingsOf_ofStack]
    refine ⟨rfl, rfl, rfl, fun name hname => ?_⟩
    rw [Entries.get?_cons, if_neg hname.symm]

end ModelCodegen
