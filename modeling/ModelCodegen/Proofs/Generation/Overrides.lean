import ModelCodegen.Proofs.Generation.Mapping
import ModelCodegen.Proofs.Generation.References
import ModelCodegen.Proofs.Stack.MemberScripts

/-!
# Settings that stand for edits of the schemas

Pointing all relationships at an application by a setting is the same as editing the
schemas. So is naming a container of pages, as far as single models go: it reaches
just the models that name none.
-/

namespace ModelCodegen

open Result Template

namespace Config

/-- Settings stay acceptable without an application for all relationships. -/
theorem validate_without_targetApp {config : Config} (h : config.validate = .ok ()) :
    { config with targetApp := none }.validate = .ok () := by
  obtain ⟨hember, hcontainer, -, hstacks⟩ := validate_eq_ok.mp h
  exact validate_eq_ok.mpr ⟨hember, hcontainer, rfl, hstacks⟩

/-- Settings stay acceptable without a container of pages. -/
theorem validate_without_paginationContainer {config : Config} (h : config.validate = .ok ()) :
    { config with paginationContainer := none }.validate = .ok () := by
  obtain ⟨hember, -, htarget, hstacks⟩ := validate_eq_ok.mp h
  exact validate_eq_ok.mpr ⟨hember, rfl, htarget, hstacks⟩

end Config

/-! ## The edits -/

/-- The schema with all of its relationships pointing at an application. -/
def ModelSchema.retarget (application : String) (schema : ModelSchema) : ModelSchema :=
  { schema with
    relationships := schema.relationships.map fun relationship =>
      { relationship with app := application } }

/-- The schema with a container of pages, unless it names one. -/
def ModelSchema.withContainer (container : String) (schema : ModelSchema) : ModelSchema :=
  { schema with paginationContainer := schema.paginationContainer <|> some container }

/-- The edit keeps names and endpoints, and names stay identifiers. -/
structure ModelSchema.KeepsFit (edit : ModelSchema → ModelSchema) : Prop
    extends ModelSchema.KeepsNames edit where
  endpoint : ∀ schema, (edit schema).endpoint = schema.endpoint
  isNamed : ∀ schema, schema.IsNamed → (edit schema).IsNamed

theorem ModelSchema.keepsFit_id : KeepsFit id :=
  { application := fun _ => rfl, model := fun _ => rfl, endpoint := fun _ => rfl
    isNamed := fun _ h => h }

/-- Relationships may point at any application whose name is an identifier. -/
theorem ModelSchema.keepsFit_retarget {application : String} (h : Name.IsIdentifier application) :
    KeepsFit (retarget application) :=
  { application := fun _ => rfl
    model := fun _ => rfl
    endpoint := fun _ => rfl
    isNamed := fun schema hn => ⟨hn.application, hn.model, hn.fields, fun relationship hmem => by
      obtain ⟨old, hold, rfl⟩ := List.mem_map.mp hmem
      obtain ⟨hname, -, hmodel⟩ := hn.relationships old hold
      exact ⟨hname, h, hmodel⟩⟩ }

/-- A container of pages leaves names and endpoints as they are. -/
theorem ModelSchema.keepsFit_withContainer (container : String) :
    KeepsFit (withContainer container) :=
  { application := fun _ => rfl
    model := fun _ => rfl
    endpoint := fun _ => rfl
    isNamed := fun _ hn => ⟨hn.application, hn.model, hn.fields, hn.relationships⟩ }

/-! ## Rendering -/

section Run

variable {registry : Registry} {config other : Config} {set : SchemaSet} {ids : List StackId}

/-- A built-in template does not ask for the application that relationships point at. -/
theorem render_congr (hb : Registry.builtin = .ok registry) {id : StackId}
    {registration : Registration} (hr : registration ∈ (StackDescriptor.builtin id).artifacts)
    {members others : List (String × Json)}
    (hfits : registration.scope.shape.Fits (.object members))
    (h : ∀ name, "target_app" ≠ name → Entries.get? name members = Entries.get? name others) :
    registry.templates.render registration.template (.object members) =
      registry.templates.render registration.template (.object others) := by
  obtain ⟨body, template, script, hbody, hscript, hfound, helements, -, hruns⟩ :=
    exists_script_builtin hb hr
  obtain ⟨text, hrun⟩ := hruns _ hfits
  have hsame := Script.run_of_asksMembersBut (asks_of_ofBody? hbody hscript).1 h
  rw [render_eq_of_run hfound helements hrun, render_eq_of_run hfound helements (hsame ▸ hrun)]

section Edited

variable {edit : ModelSchema → ModelSchema} (hedit : ModelSchema.KeepsFit edit)

include hedit

private theorem isNamed_map {subject : Subject} (h : subject.IsNamed) :
    (subject.map edit).IsNamed := by
  cases subject with
  | model schema =>
    show Name.IsIdentifier _ ∧ Name.IsIdentifier _
    rw [hedit.application, hedit.model]
    exact h
  | application group => exact h
  | run schemas => trivial

private theorem isNamed_schemas_map {subject : Subject}
    (h : ∀ schema ∈ subject.schemas, schema.IsNamed) :
    ∀ schema ∈ (subject.map edit).schemas, schema.IsNamed := by
  have hschemas : (subject.map edit).schemas = subject.schemas.map edit := by cases subject <;> rfl
  rw [hschemas, List.forall_mem_map]
  exact fun schema hmem => hedit.isNamed schema (h schema hmem)

private theorem checkEndpoint_map (subject : Subject) :
    (subject.map edit).checkEndpoint = subject.checkEndpoint := by
  cases subject with
  | model schema =>
    simp only [Subject.map, Subject.checkEndpoint, ModelSchema.checkEndpoint, hedit.endpoint]
  | application group => rfl
  | run schemas => rfl

/-- The job of an edited subject under other settings: where a template finds the same but for the
application that relationships point at, the artifact is the same, and anyway its path is. -/
theorem agree_attempt (hb : Registry.builtin = .ok registry) {concerned : Coordinate → Bool}
    (hc : config.validate = .ok ()) (ho : other.validate = .ok ()) {id : StackId}
    {registration : Registration} (hr : registration ∈ (StackDescriptor.builtin id).artifacts)
    {subject : Subject} (hscope : registration.scope = subject.scope) (hnamed : subject.IsNamed)
    (hn : ∀ schema ∈ subject.schemas, schema.IsNamed)
    (hview : concerned (Job.produce (.builtin id) registration subject).coordinate = true →
      ∀ name, "target_app" ≠ name →
        Entries.get? name (subject.view config (.builtin id) registration) =
          Entries.get? name ((subject.map edit).view other (.builtin id) registration)) :
    Agree concerned
      (Job.attempt registry.templates config (.produce (.builtin id) registration subject))
      (Job.attempt registry.templates other
        (.produce (.builtin id) registration (subject.map edit))) := by
  have hcoordinate :=
    Job.coordinate_map hedit.toKeepsNames (.produce (.builtin id) registration subject)
  rw [Job.map] at hcoordinate
  obtain ⟨members, hrender, hmembers⟩ :=
    Job.render_eq registry.templates hc (.builtin id) registration hnamed hn
  obtain ⟨others, hother, hothers⟩ := Job.render_eq registry.templates ho (.builtin id)
    registration (isNamed_map hedit hnamed) (isNamed_schemas_map hedit hn)
  have hfits : registration.scope.shape.Fits (.object members) := by
    rw [hscope]
    exact subject.view_fits hmembers
  have hfits' : registration.scope.shape.Fits (.object others) := by
    have hscope' : (subject.map edit).scope = subject.scope := by cases subject <;> rfl
    rw [hscope, ← hscope']
    exact (subject.map edit).view_fits hothers
  obtain ⟨text, htext⟩ := exists_render_builtin hb hr hfits
  obtain ⟨otherText, hotherText⟩ := exists_render_builtin hb hr hfits'
  rw [htext] at hrender
  rw [checkEndpoint_map hedit, hotherText, Subject.vars_map hedit.toKeepsNames] at hother
  rw [Job.attempt, Job.attempt]
  simp only [hrender, hother, hcoordinate]
  cases subject.checkEndpoint with
  | error error => exact .failed _
  | ok _ =>
    refine .done rfl rfl fun hconcerned => ?_
    have hsame := render_congr hb hr hfits fun name hne =>
      (hmembers name).trans ((hview hconcerned name hne).trans (hothers name).symm)
    obtain rfl : text = otherText := Except.ok.inj (htext.symm.trans (hsame.trans hotherText))
    rfl

/-- Runs of a loaded set and of the edited set under other settings say the same about what is
concerned if there a template finds the same but for the application that relationships point
at. -/
theorem about_generate_map {format : SchemaFormat} {document : String}
    (hset : parseSchemas format document = .ok set) (hb : Registry.builtin = .ok registry)
    (hc : config.validate = .ok ()) (ho : other.validate = .ok ()) (concerned : Coordinate → Bool)
    (hview : ∀ stack registration subject, subject.IsOf set →
      concerned (Job.produce stack registration subject).coordinate = true →
      ∀ name, "target_app" ≠ name →
        Entries.get? name (subject.view config stack registration) =
          Entries.get? name ((subject.map edit).view other stack registration))
    (policy : FailurePolicy) (ids : List StackId) :
    (generate registry config policy set ids).map (Report.about concerned) =
      (generate registry other policy (set.map edit) ids).map (Report.about concerned) := by
  refine about_generate ?_ policy
  rw [Job.ofStacks_map hedit.toKeepsNames, List.map_map, List.forall₂_map_left_iff,
    List.forall₂_map_right_iff, List.forall₂_same]
  intro job hjob
  obtain ⟨id, -, registration, hr, subject, rfl, hscope, hof⟩ := (mem_ofStacks_builtin hb).mp hjob
  exact agree_attempt hedit hb hc ho hr hscope
    (subject.isNamed_of_schemas (SchemaSet.isNamed_of_parseSchemas hset) hof)
    (subject.isNamed_of_parseSchemas hset hof) (hview _ _ _ hof)

end Edited

end Run

/-! ## What templates find -/

section Views

variable {config : Config} {stack : StackDescriptor}

/-- What is told from a model is told from the one that is pointed elsewhere. -/
private theorem ownView_retarget {application : String} (ht : config.targetApp = some application)
    (schema : ModelSchema) :
    ownView { config with targetApp := none } stack (schema.retarget application) =
      ownView config stack schema := by
  have hkinds : relationshipKinds (schema.retarget application) = relationshipKinds schema := by
    simp [relationshipKinds, ModelSchema.retarget, Function.comp_def]
  have hviews : (schema.retarget application).relationships.map
        (Json.ofMembers ∘ relationshipView none) =
      schema.relationships.map (Json.ofMembers ∘ relationshipView config.targetApp) := by
    rw [ModelSchema.retarget, List.map_map, ht]
    rfl
  have hempty : (schema.retarget application).relationships.isEmpty =
      schema.relationships.isEmpty := List.isEmpty_map
  simp only [ownView, hkinds, hviews, hempty]
  rfl

private theorem get?_commonView_retarget (container : Option String) {name : String}
    (hne : "target_app" ≠ name) :
    Entries.get? name (commonView { config with targetApp := none } stack container) =
      Entries.get? name (commonView config stack container) := by
  simp only [commonView, Entries.get?_cons, if_neg hne]
  rfl

/-- Besides the setting itself, templates find what they find in the edited schemas. -/
theorem Subject.view_retarget {application : String} (ht : config.targetApp = some application)
    (registration : Registration) (subject : Subject) {name : String}
    (hne : "target_app" ≠ name) :
    Entries.get? name (subject.view config stack registration) =
      Entries.get? name ((subject.map (ModelSchema.retarget application)).view
        { config with targetApp := none } stack registration) := by
  have hitems : ∀ schemas : List ModelSchema,
      (schemas.map (ModelSchema.retarget application)).map
          (Json.ofMembers ∘ itemView registration.itemImport) =
        schemas.map (Json.ofMembers ∘ itemView registration.itemImport) := by
    intro schemas
    rw [List.map_map]
    rfl
  cases subject with
  | model schema =>
    simp only [view, map, modelView, ownView_retarget ht, Entries.get?_append,
      get?_commonView_retarget _ hne]
    rfl
  | application group =>
    simp only [view, map, aggregateView, ApplicationGroup.map, hitems, Entries.get?_append,
      get?_commonView_retarget _ hne]
  | run schemas =>
    simp only [view, map, aggregateView, hitems, Entries.get?_append,
      get?_commonView_retarget _ hne]

/-- A model that names no container of pages finds the one of the settings. -/
theorem modelView_withContainer {container : String}
    (hcontainer : config.paginationContainer = some container) (schema : ModelSchema) :
    modelView { config with paginationContainer := none } stack (schema.withContainer container) =
      modelView config stack schema := by
  have hfound : ((schema.withContainer container).paginationContainer <|> none) =
      (schema.paginationContainer <|> config.paginationContainer) := by
    rw [hcontainer, ModelSchema.withContainer]
    cases schema.paginationContainer <;> rfl
  simp only [modelView, commonView, hfound]
  rfl

/-- A model that names its container finds it whatever the settings say. -/
theorem modelView_of_container {schema : ModelSchema} {own : String}
    (h : schema.paginationContainer = some own) :
    modelView { config with paginationContainer := none } stack schema =
      modelView config stack schema := by
  simp only [modelView, commonView, h]
  rfl

/-- The container that a model names is what its templates find. -/
theorem get?_container_modelData (hc : config.validate = .ok ()) {schema : ModelSchema}
    (hn : schema.IsNamed) {own : String} (h : schema.paginationContainer = some own) {seen : Json}
    (hseen : modelData (Job.stackContext config stack) schema = .ok seen) :
    seen.get? "pagination_container" = some (.string own) := by
  obtain ⟨members, rfl, hmembers⟩ := @Job.exists_members_of_data _ hc stack
    ⟨.model, .model, .regenerate, "", ⟨""⟩, none⟩ (.model schema)
    (by simpa [Subject.schemas] using hn) _ hseen
  rw [Json.get?, hmembers, Subject.view, modelView, Entries.get?_append]
  simp only [ownView, commonView, Entries.get?_cons, h]
  rfl

end Views

/-! ## Settings and edits -/

/-- The coordinate is that of an artifact of the model. -/
def Coordinate.isOfModel (schema : ModelSchema) (coordinate : Coordinate) : Bool :=
  coordinate.application == some schema.applicationName &&
    coordinate.model == some schema.modelName

/-- Over the built-in registry, pointing all relationships at an application by a setting is editing
them all: the run has the same report or the same abort. Naming a container of pages by a setting
is, for the artifacts of models and for failures, giving it to the models that name none; a model
that names one keeps it, and its artifacts are the same without the setting. -/
theorem overrides_edit_schemas {format : SchemaFormat} {document : String} {set : SchemaSet}
    {config : Config} {registry : Registry} (hset : parseSchemas format document = .ok set)
    (hc : config.validate = .ok ()) (hb : Registry.builtin = .ok registry)
    (policy : FailurePolicy) (ids : List StackId) :
    (∀ application, config.targetApp = some application →
      generate registry config policy set ids =
        generate registry { config with targetApp := none } policy
          (set.map (ModelSchema.retarget application)) ids) ∧
    ∀ container, config.paginationContainer = some container →
      (generate registry config policy set ids).map (Report.about (·.model.isSome)) =
        (generate registry { config with paginationContainer := none } policy
          (set.map (ModelSchema.withContainer container)) ids).map
            (Report.about (·.model.isSome)) ∧
      ∀ schema ∈ set.schemas, ∀ own, schema.paginationContainer = some own →
        (∀ stack seen, modelData (Job.stackContext config stack) schema = .ok seen →
          seen.get? "pagination_container" = some (.string own)) ∧
        (generate registry config policy set ids).map (Report.about (·.isOfModel schema)) =
          (generate registry { config with paginationContainer := none } policy set ids).map
            (Report.about (·.isOfModel schema)) := by
  refine ⟨fun application ht => ?_, fun container hcontainer =>
    ⟨?_, fun schema hs own hown => ⟨?_, ?_⟩⟩⟩
  · have hall : ∀ result : Except Failure Report,
        result.map (Report.about fun _ => true) = result := by
      intro result
      cases result with
      | error failure => rfl
      | ok report => simp [Except.map, Report.about]
    have hedit := ModelSchema.keepsFit_retarget (Config.isIdentifier_of_validate hc application ht)
    have h := about_generate_map hedit hset hb hc (Config.validate_without_targetApp hc)
      (fun _ => true)
      (fun stack registration subject _ _ name hne => subject.view_retarget ht registration hne)
      policy ids
    rwa [hall, hall] at h
  · refine about_generate_map (ModelSchema.keepsFit_withContainer container) hset hb hc
      (Config.validate_without_paginationContainer hc) (·.model.isSome)
      (fun stack registration subject _ hmodel name _ => ?_) policy ids
    cases subject with
    | model schema =>
      rw [Subject.view, Subject.map, Subject.view, modelView_withContainer hcontainer]
    | application group => cases hmodel
    | run schemas => cases hmodel
  · exact fun stack seen => get?_container_modelData hc
      (SchemaSet.isNamed_of_parseSchemas hset schema hs) hown
  · have hid : set.map id = set := by rw [SchemaSet.map, List.map_id]
    have h := about_generate_map ModelSchema.keepsFit_id hset hb hc
      (Config.validate_without_paginationContainer hc) (·.isOfModel schema)
      (fun stack registration subject hof hmodel name _ => ?_) policy ids
    · rwa [hid] at h
    · obtain ⟨found, rfl⟩ : ∃ found, subject = .model found := by
        cases subject with
        | model found => exact ⟨found, rfl⟩
        | application group => simp [Coordinate.isOfModel, Job.coordinate, Subject.model?] at hmodel
        | run schemas => simp [Coordinate.isOfModel, Job.coordinate, Subject.model?] at hmodel
      have hkey : found.key = schema.key := by
        obtain ⟨happlication, hname⟩ := Bool.and_eq_true_iff.mp hmodel
        rw [ModelSchema.key, ModelSchema.key, Option.some.inj (eq_of_beq happlication),
          Option.some.inj (eq_of_beq hname)]
      obtain rfl : found = schema :=
        List.inj_on_of_nodup_map (SchemaSet.nodup_keys_of_parseSchemas hset) hof hs hkey
      rw [Subject.view, Subject.map, Subject.view, id, modelView_of_container hown]

/-- A document with a model that names its container of pages and points at one that names none. -/
def pagedDocument : String :=
  "[\x7b\"application_name\":\"blog\",\"model_name\":\"post\"," ++
    "\"pagination_container\":\"posts\"," ++
    "\"relationships\":[\x7b\"name\":\"tags\",\"kind\":\"hasMany\",\"app\":\"blog\"," ++
    "\"related_model\":\"tag\"\x7d]\x7d," ++
    "\x7b\"application_name\":\"blog\",\"model_name\":\"tag\"\x7d]"

/-- With both settings the models of the document have the report that the edited ones have. -/
theorem overrides_edit_schemas_pagedDocument : ∃ set registry report,
    parseSchemas .json pagedDocument = .ok set ∧
    set.schemas.map (·.paginationContainer) = [some "posts", none] ∧
    Registry.builtin = .ok registry ∧
    generate registry { targetApp := some "shop", paginationContainer := some "results" }
      .failFast set [.emberDynamic, .angular2] = .ok report ∧
    generate registry { paginationContainer := some "results" } .failFast
      (set.map (ModelSchema.retarget "shop")) [.emberDynamic, .angular2] = .ok report ∧
    (generate registry { targetApp := some "shop" } .failFast
      (set.map (ModelSchema.withContainer "results")) [.emberDynamic, .angular2]).map
        (Report.about (·.model.isSome)) = .ok (report.about (·.model.isSome)) := by
  have hread : (parseSchemas .json pagedDocument).toOption.any (fun set =>
      set.schemas.map (·.paginationContainer) == [some "posts", none] &&
        set.schemas.all (fun schema => SchemaDraft.isUsableEndpoint schema.endpoint &&
          schema.endpoint.toList.all Name.isEndpointChar)) = true := by decide +kernel
  cases hset : parseSchemas .json pagedDocument with
  | error error =>
    rw [hset] at hread
    cases hread
  | ok set =>
    rw [hset] at hread
    obtain ⟨hcontainers, hendpoints⟩ := Bool.and_eq_true_iff.mp hread
    obtain ⟨registry, hb⟩ := Registry.exists_builtin
    have hc : ({ targetApp := some "shop", paginationContainer := some "results" } :
        Config).validate = .ok () := by decide +kernel
    obtain ⟨report, h⟩ := @exists_report_of_apart registry _ set [.emberDynamic, .angular2] hb hc
      (SchemaSet.isFit_of_endpoints hset hendpoints) (SchemaSet.nodup_keys_of_parseSchemas hset)
      (by decide) (by decide)
    obtain ⟨htarget, hcontainer⟩ := overrides_edit_schemas hset hc hb .failFast
      [.emberDynamic, .angular2]
    refine ⟨set, registry, report, rfl, eq_of_beq hcontainers, hb, h, ?_, ?_⟩
    · exact (htarget "shop" rfl).symm.trans h
    · exact (hcontainer "results" rfl).1.symm.trans (congrArg (Except.map _) h)

end ModelCodegen
