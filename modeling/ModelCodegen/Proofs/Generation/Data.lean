import ModelCodegen.Proofs.Entries
import ModelCodegen.Proofs.Generation.Job
import ModelCodegen.Proofs.Name.Address
import ModelCodegen.Proofs.Schema.Loaded

/-!
# What templates find

The data of a template under the names by which it asks for them. For a loaded
schema and validated settings nothing can go wrong while they are put together:
every name that is spelled in another way is an identifier.
-/

namespace ModelCodegen

open Result

namespace Config

/-- Settings are accepted part by part. -/
theorem validate_eq_ok {config : Config} : config.validate = .ok () ↔
    checkName "ember_app" config.emberApp = .ok () ∧
      checkOptionalName "pagination_container" config.paginationContainer = .ok () ∧
      checkOptionalName "target_app" config.targetApp = .ok () ∧
      (config.stackSettings.forM fun (key, _) => checkStackKey key) = .ok () := by
  simp only [validate, bind_eq_ok, Unique.exists_iff]

/-- A name in the settings that is accepted is an identifier. -/
theorem isIdentifier_of_checkName {setting name : String} (h : checkName setting name = .ok ()) :
    Name.IsIdentifier name := by
  rw [checkName] at h
  split at h
  · next hnone => exact Name.spellingFault?_eq_none_iff.mp hnone
  · cases h

/-- In settings that are accepted the name of the ember application is an identifier. -/
theorem isIdentifier_emberApp {config : Config} (h : config.validate = .ok ()) :
    Name.IsIdentifier config.emberApp :=
  isIdentifier_of_checkName (validate_eq_ok.mp h).1

/-- In settings that are accepted the container of pages, if there is one, is an identifier. -/
theorem isIdentifier_paginationContainer {config : Config} (h : config.validate = .ok ()) :
    ∀ container, config.paginationContainer = some container → Name.IsIdentifier container := by
  obtain ⟨-, hcontainer, -⟩ := validate_eq_ok.mp h
  intro container he
  rw [he] at hcontainer
  exact isIdentifier_of_checkName hcontainer

/-- The applications of the models that relationships point at are identifiers. -/
theorem isIdentifier_of_validate {config : Config} (h : config.validate = .ok ()) :
    ∀ application, config.targetApp = some application → Name.IsIdentifier application := by
  obtain ⟨-, -, htarget, -⟩ := validate_eq_ok.mp h
  intro application he
  rw [he] at htarget
  exact isIdentifier_of_checkName htarget

end Config

/-! ## Parts of models -/

/-- The class of a model. -/
def classOf (application model : String) : String :=
  Text.upperCamel application ++ Text.upperCamel model

/-- What a template finds in a relationship. -/
def relationshipView (targetApp : Option String) (relationship : Relationship) :
    List (String × Json) :=
  let app := targetApp.getD relationship.app
  [("name", .string relationship.name),
    ("kind", .string relationship.kind.name),
    ("app", .string app),
    ("related_model", .string relationship.relatedModel),
    ("related_class", .string (classOf app relationship.relatedModel)),
    ("inverse", .ofOption relationship.inverse),
    ("many", .bool relationship.kind.isCollection)]

/-- A template finds in a relationship what its view says, if the names are identifiers. -/
theorem relationshipBinding_eq {targetApp : Option String} {relationship : Relationship}
    (ha : Name.IsIdentifier (targetApp.getD relationship.app))
    (hm : Name.IsIdentifier relationship.relatedModel) :
    relationshipBinding targetApp relationship =
      .ok (.ofMembers (relationshipView targetApp relationship)) := by
  rw [relationshipBinding, Name.className_of_isIdentifier ha hm]
  rfl

/-- A relationship that became data is looked up in its view. -/
theorem get?_relationshipView (targetApp : Option String) (relationship : Relationship)
    (name : String) :
    (Json.ofMembers (relationshipView targetApp relationship)).get? name =
      Entries.get? name (relationshipView targetApp relationship) := by
  rw [Json.ofMembers, Json.get?, Entries.get?_ofList]
  simp [Entries.keys, relationshipView]

/-- What a template finds in a field. -/
def fieldView (types : TypeMapping) (field : Field) : List (String × Json) :=
  [("name", .string field.name),
    ("type", .ofOption (types.spellOption field.type)),
    ("has_default", .bool field.hasDefault),
    ("default", .ofOption (field.default.map Json.compact))]

/-- A field that became data is looked up in its view. -/
theorem get?_fieldBinding (types : TypeMapping) (field : Field) (name : String) :
    (fieldBinding types field).get? name = Entries.get? name (fieldView types field) := by
  rw [fieldBinding, Json.ofMembers, Json.get?, Entries.get?_ofList]
  · rfl
  · simp [Entries.keys]

/-! ## Addresses -/

/-- Accept the endpoint of a model if it is spelled as one between its outer slashes. -/
def ModelSchema.checkEndpoint (schema : ModelSchema) : Except Error Unit :=
  Name.checkSpelling Name.isEndpointChar (Name.endpointCore schema.endpoint)

/-- The endpoint of a schema that is served is accepted. -/
theorem ModelSchema.IsServed.checkEndpoint {schema : ModelSchema} (h : schema.IsServed) :
    schema.checkEndpoint = .ok () :=
  Name.checkSpelling_endpointCore_iff.mpr ⟨ModelDefinition.isUsableEndpoint_iff.mp h.1, h.2⟩

/-! ## Models -/

/-- What the template of a model finds that is told from the model. -/
def ownView (config : Config) (stack : StackDescriptor) (schema : ModelSchema) :
    List (String × Json) :=
  [("application_name", .string schema.applicationName),
    ("model_name", .string schema.modelName),
    ("class_name", .string (classOf schema.applicationName schema.modelName)),
    ("endpoint", .string schema.endpoint),
    ("has_relationships", .bool !schema.relationships.isEmpty),
    ("relationship_kinds", .array ((relationshipKinds schema).map .string)),
    ("fields", .array (schema.fields.map (fieldBinding (config.typeMapping stack)))),
    ("relationships",
      .array (schema.relationships.map (.ofMembers ∘ relationshipView config.targetApp))),
    ("endpoint_url", .string (Name.addressOf (Text.trimEnd Name.isSlash config.apiBase)
      schema.endpoint (config.endpointStyle stack)))]

/-- What every template finds, with the container of pages of a model if it has one. -/
def commonView (config : Config) (stack : StackDescriptor) (container : Option String) :
    List (String × Json) :=
  [("pagination_container", .ofOption (container <|> config.paginationContainer)),
    ("target_app", .ofOption config.targetApp),
    ("relationship_imports", .bool (config.settingsOf stack.id).relationshipImports),
    ("ember_app", .string config.emberApp),
    ("api_base", .string (Text.trimEnd Name.isSlash config.apiBase))]

/-- What the template of a model finds. -/
def modelView (config : Config) (stack : StackDescriptor) (schema : ModelSchema) :
    List (String × Json) :=
  ownView config stack schema ++ commonView config stack schema.paginationContainer

/-- What a context has for every template is what its view says. -/
theorem get?_stackContext (config : Config) (stack : StackDescriptor) (name : String) :
    (Job.stackContext config stack).get? name =
      Entries.get? name (commonView config stack none) := by
  rw [Job.stackContext, RenderContext.get?_bind, RenderContext.get?_bind,
    RenderContext.get?_bind, RenderContext.get?_bind, RenderContext.get?_bind]
  by_cases hp : "pagination_container" = name
  · subst hp
    rfl
  · simp only [commonView, Entries.get?_cons, hp, if_false]
    rfl

theorem text?_ofOption (text? : Option String) : (Json.ofOption text?).text? = text? := by
  cases text? <;> rfl

/-- The container of pages of a model comes before the one of the settings. -/
private theorem commonView_of_container (config : Config) (stack : StackDescriptor)
    (container : Option String) (name : String) :
    (Entries.get? name (container.toList.map fun name =>
        ("pagination_container", Json.string name)) <|>
      Entries.get? name (commonView config stack none) <|>
      if "pagination_container" = name then some .null else none) =
    Entries.get? name (commonView config stack container) := by
  by_cases hp : "pagination_container" = name
  · subst hp
    cases container <;> simp [commonView, Entries.get?_cons, Entries.get?_nil, Json.ofOption]
  · cases container <;> simp [commonView, Entries.get?_cons, Entries.get?_nil, hp]

/-- The names that mean a model. -/
private def boundView (config : Config) (stack : StackDescriptor) (schema : ModelSchema) :
    List (String × Json) :=
  ownView config stack schema ++ schema.paginationContainer.toList.map fun name =>
    ("pagination_container", .string name)

private theorem modelBindings_eq {config : Config} (hc : config.validate = .ok ())
    (stack : StackDescriptor) {schema : ModelSchema} (hn : schema.IsNamed) :
    modelBindings (Job.stackContext config stack) schema = schema.checkEndpoint.map fun _ =>
      boundView config stack schema := by
  have hclass := Name.className_of_isIdentifier hn.application hn.model
  have hbase : (Job.stackContext config stack).text? "api_base" =
      some (Text.trimEnd Name.isSlash config.apiBase) := by
    rw [RenderContext.text?, get?_stackContext]
    rfl
  have htarget : (Job.stackContext config stack).text? "target_app" = config.targetApp := by
    rw [RenderContext.text?, get?_stackContext]
    exact text?_ofOption config.targetApp
  have haddress : addressBinding (Job.stackContext config stack) schema =
      schema.checkEndpoint.map fun _ => [("endpoint_url",
        .string (Name.addressOf (Text.trimEnd Name.isSlash config.apiBase) schema.endpoint
          (config.endpointStyle stack)))] := by
    rw [addressBinding, hbase]
    simp only [Name.endpointPath_eq]
    rw [← ModelSchema.checkEndpoint]
    cases schema.checkEndpoint <;> rfl
  have hrelationships : schema.relationships.mapM (relationshipBinding config.targetApp) =
      .ok (schema.relationships.map (.ofMembers ∘ relationshipView config.targetApp)) := by
    refine mapM_of_forall fun relationship hmem => relationshipBinding_eq ?_ ?_
    · cases ht : config.targetApp with
      | none => exact (hn.relationships relationship hmem).2.1
      | some application => exact Config.isIdentifier_of_validate hc application ht
    · exact (hn.relationships relationship hmem).2.2
  rw [modelBindings, hclass, haddress, htarget, hrelationships]
  cases schema.checkEndpoint <;> rfl

/-- The data of a loaded model are there if its endpoint is accepted, and a template finds this in
them. -/
theorem modelData_eq {config : Config} (hc : config.validate = .ok ()) (stack : StackDescriptor)
    {schema : ModelSchema} (hn : schema.IsNamed) :
    ∃ members, modelData (Job.stackContext config stack) schema =
        schema.checkEndpoint.map (fun _ => .object members) ∧
      ∀ name, Entries.get? name members = Entries.get? name (modelView config stack schema) := by
  refine ⟨Entries.insertAll (Job.stackContext config stack).data (boundView config stack schema),
    ?_, fun name => ?_⟩
  · rw [modelData, modelBindings_eq hc stack hn]
    cases schema.checkEndpoint <;> rfl
  · rw [Entries.get?_insertAll_of_nodup, boundView, List.append_assoc, modelView,
      Entries.get?_append, Entries.get?_append name (ownView config stack schema),
      Entries.get?_append, RenderContext.get?_data, get?_stackContext]
    · rw [commonView_of_container]
    · rw [boundView]
      cases schema.paginationContainer <;> simp [Entries.keys, ownView]

/-- An artifact of a loaded model is rendered with these data if the endpoint is accepted. -/
theorem render_model_eq (templates : TemplateCollection) {config : Config}
    (hc : config.validate = .ok ()) (stack : StackDescriptor) (registration : Registration)
    {schema : ModelSchema} (hn : schema.IsNamed) :
    ∃ members, (Job.render templates (Job.stackContext config stack) registration
        (.model schema) = do
          schema.checkEndpoint
          let text ← templates.render registration.template (.object members)
          return (registration.path.resolve (.all schema.applicationName schema.modelName),
            text)) ∧
      ∀ name, Entries.get? name members = Entries.get? name (modelView config stack schema) := by
  obtain ⟨members, hdata, hmembers⟩ := modelData_eq hc stack hn
  refine ⟨members, ?_, hmembers⟩
  rw [Job.render, PathVars.ofModel_of_isIdentifier hn.application hn.model, hdata]
  cases schema.checkEndpoint <;> rfl

/-! ## Aggregates -/

/-- Where an aggregate imports a model from. -/
def importPath (itemImport : Option PathRule) (schema : ModelSchema) : String :=
  match itemImport with
  | some rule => rule.resolve (.all schema.applicationName schema.modelName)
  | none => ""

/-- What the template of an aggregate finds in one of its models. -/
def itemView (itemImport : Option PathRule) (schema : ModelSchema) : List (String × Json) :=
  [("application_name", .string schema.applicationName),
    ("model_name", .string schema.modelName),
    ("class_name", .string (classOf schema.applicationName schema.modelName)),
    ("endpoint", .string schema.endpoint),
    ("import_path", .string (importPath itemImport schema))]

/-- A model that became an item is looked up in its view. -/
theorem get?_itemView (itemImport : Option PathRule) (schema : ModelSchema) (name : String) :
    (Json.ofMembers (itemView itemImport schema)).get? name =
      Entries.get? name (itemView itemImport schema) := by
  rw [Json.ofMembers, Json.get?, Entries.get?_ofList]
  simp [Entries.keys, itemView]

/-- A template finds in an item what its view says, if the names are identifiers. -/
theorem aggregateItem_eq (itemImport : Option PathRule) {schema : ModelSchema}
    (h : schema.IsNamed) :
    Job.aggregateItem itemImport schema = .ok (.ofMembers (itemView itemImport schema)) := by
  cases itemImport with
  | none =>
    simp only [Job.aggregateItem, itemBinding, Name.className_of_isIdentifier h.application h.model]
    rfl
  | some rule =>
    simp only [Job.aggregateItem, itemBinding, Name.className_of_isIdentifier h.application h.model,
      PathVars.ofModel_of_isIdentifier h.application h.model]
    rfl

/-- What the template of an aggregate finds. -/
def aggregateView (config : Config) (stack : StackDescriptor) (application? : Option String)
    (itemImport : Option PathRule) (schemas : List ModelSchema) : List (String × Json) :=
  ("items", .array (schemas.map (.ofMembers ∘ itemView itemImport))) ::
    (application?.toList.map fun name => ("application_name", .string name)) ++
    commonView config stack none

/-- The context of an aggregate, which may be that of an application. -/
def aggregateContext (config : Config) (stack : StackDescriptor) (application? : Option String) :
    RenderContext :=
  match application? with
  | some name => (Job.stackContext config stack).bind "application_name" (.string name)
  | none => Job.stackContext config stack

/-- What the template of an aggregate sees. -/
def Job.modelsData (context : RenderContext) (registration : Registration)
    (schemas : List ModelSchema) : Except Error Json := do
  let items ← schemas.mapM (aggregateItem registration.itemImport)
  return aggregateData (context.bind "items" (.array items))

/-- An aggregate is its template, rendered with the data of its models. -/
theorem Job.renderAggregate_eq_bind (templates : TemplateCollection) (context : RenderContext)
    (registration : Registration) (schemas : List ModelSchema) :
    renderAggregate templates context registration schemas =
      modelsData context registration schemas >>= templates.render registration.template := by
  rw [renderAggregate, modelsData]
  cases schemas.mapM (aggregateItem registration.itemImport) <;> rfl

/-- A template finds this in the data of an aggregate of loaded models. -/
theorem modelsData_eq (config : Config) (stack : StackDescriptor) (application? : Option String)
    (registration : Registration) {schemas : List ModelSchema}
    (h : ∀ schema ∈ schemas, schema.IsNamed) :
    ∃ members, Job.modelsData (aggregateContext config stack application?) registration schemas =
        .ok (.object members) ∧
      ∀ name, Entries.get? name members = Entries.get? name
        (aggregateView config stack application? registration.itemImport schemas) := by
  have hitems : schemas.mapM (Job.aggregateItem registration.itemImport) =
      .ok (schemas.map (.ofMembers ∘ itemView registration.itemImport)) :=
    mapM_of_forall fun schema hmem => aggregateItem_eq registration.itemImport (h schema hmem)
  refine ⟨_, by rw [Job.modelsData, hitems]; rfl, fun name => ?_⟩
  have hcommon := commonView_of_container config stack none name
  rw [Option.toList_none, List.map_nil, Entries.get?_nil] at hcommon
  rw [RenderContext.get?_data, RenderContext.get?_bind, aggregateView, List.cons_append,
    Entries.get?_cons]
  by_cases hi : "items" = name
  · rw [if_pos hi, if_pos hi]
    rfl
  · rw [if_neg hi, if_neg hi, Entries.get?_append, ← hcommon]
    cases application? with
    | none => simp [aggregateContext, get?_stackContext, Entries.get?_nil]
    | some application =>
      by_cases ha : "application_name" = name
      · simp [aggregateContext, RenderContext.get?_bind, Entries.get?_cons, ha]
      · simp [aggregateContext, RenderContext.get?_bind, get?_stackContext, Entries.get?_cons,
          Entries.get?_nil, ha]

/-- Whatever the models of a run are, a template finds beside them what every template finds. -/
theorem Job.get?_modelsData {config : Config} {stack : StackDescriptor}
    {registration : Registration} {schemas : List ModelSchema} {seen : Json}
    (h : modelsData (stackContext config stack) registration schemas = .ok seen) :
    ∃ members, seen = .object members ∧ ∀ name, "items" ≠ name →
      Entries.get? name members = Entries.get? name (commonView config stack none) := by
  obtain ⟨items, -, h⟩ := bind_eq_ok.mp h
  refine ⟨_, (pure_eq_ok.mp h).symm, fun name hi => ?_⟩
  rw [RenderContext.get?_data, RenderContext.get?_bind, if_neg hi, get?_stackContext]
  exact commonView_of_container config stack none name

/-- An aggregate of loaded models is rendered with these data. -/
theorem renderAggregate_eq (templates : TemplateCollection) (config : Config)
    (stack : StackDescriptor) (application? : Option String) (registration : Registration)
    {schemas : List ModelSchema} (h : ∀ schema ∈ schemas, schema.IsNamed) :
    ∃ members, Job.renderAggregate templates (aggregateContext config stack application?)
        registration schemas = templates.render registration.template (.object members) ∧
      ∀ name, Entries.get? name members = Entries.get? name
        (aggregateView config stack application? registration.itemImport schemas) := by
  obtain ⟨members, hdata, hmembers⟩ := modelsData_eq config stack application? registration h
  exact ⟨members, by rw [Job.renderAggregate_eq_bind, hdata]; rfl, hmembers⟩

/-! ## Artifacts -/

namespace Job

/-- What the template of an artifact sees. -/
def data (context : RenderContext) (registration : Registration) : Subject → Except Error Json
  | .model schema => modelData context schema
  | .application group =>
    modelsData (context.bind "application_name" (.string group.name)) registration group.models
  | .run schemas => modelsData context registration schemas

/-- An artifact is rendered with the data of its subject. -/
theorem exists_data_of_render {templates : TemplateCollection} {context : RenderContext}
    {registration : Registration} {subject : Subject} {path content : String}
    (h : render templates context registration subject = .ok (path, content)) :
    ∃ seen, data context registration subject = .ok seen ∧
      templates.render registration.template seen = .ok content := by
  cases subject with
  | model schema =>
    obtain ⟨vars, -, h⟩ := bind_eq_ok.mp h
    obtain ⟨seen, hseen, h⟩ := bind_eq_ok.mp h
    obtain ⟨text, htext, h⟩ := bind_eq_ok.mp h
    cases h
    exact ⟨seen, hseen, htext⟩
  | application group =>
    obtain ⟨vars, -, h⟩ := bind_eq_ok.mp h
    obtain ⟨text, htext, h⟩ := bind_eq_ok.mp h
    cases h
    rw [renderAggregate_eq_bind] at htext
    exact bind_eq_ok.mp htext
  | run schemas =>
    obtain ⟨text, htext, h⟩ := bind_eq_ok.mp h
    cases h
    rw [renderAggregate_eq_bind] at htext
    exact bind_eq_ok.mp htext

end Job

/-- The schemas that a subject consists of. -/
def Subject.schemas : Subject → List ModelSchema
  | .model schema => [schema]
  | .application group => group.models
  | .run schemas => schemas

/-- The schemas of a subject belong to the set that it belongs to. -/
theorem Subject.mem_of_mem_schemas {set : SchemaSet} {subject : Subject} (hof : subject.IsOf set)
    {schema : ModelSchema} (h : schema ∈ subject.schemas) : schema ∈ set.schemas := by
  cases subject with
  | model own => exact List.mem_singleton.mp h ▸ hof
  | application group => exact SchemaSet.mem_of_mem_group hof h
  | run schemas => exact (show schemas = set.schemas from hof) ▸ h

/-- Names that are read from a document are identifiers. -/
theorem SchemaSet.isNamed_of_parseSchemas {format : SchemaFormat} {document : String}
    {set : SchemaSet} (hset : parseSchemas format document = .ok set) :
    ∀ schema ∈ set.schemas, schema.IsNamed := by
  intro schema hs
  obtain ⟨definitions, -, definition, -, hprepare⟩ :=
    SchemaSet.exists_prepare_of_parseSchemas hset hs
  exact definition.isNamed_of_prepare hprepare

/-- The names of a subject that is read from a document are identifiers. -/
theorem Subject.isNamed_of_parseSchemas {format : SchemaFormat} {document : String}
    {set : SchemaSet} (hset : parseSchemas format document = .ok set) {subject : Subject}
    (hof : subject.IsOf set) : ∀ schema ∈ subject.schemas, schema.IsNamed :=
  fun schema hs => SchemaSet.isNamed_of_parseSchemas hset schema (subject.mem_of_mem_schemas hof hs)

/-- A subject of named schemas has names. -/
theorem Subject.isNamed_of_schemas {set : SchemaSet} (hn : ∀ schema ∈ set.schemas, schema.IsNamed)
    {subject : Subject} (hof : subject.IsOf set) : subject.IsNamed := by
  cases subject with
  | model schema => exact ⟨(hn schema hof).application, (hn schema hof).model⟩
  | application group =>
    obtain ⟨schema, hs, he⟩ := SchemaSet.exists_group_iff.mp ⟨group, hof, rfl⟩
    change Name.IsIdentifier group.name
    rw [← he]
    exact (hn schema hs).application
  | run schemas => trivial

/-- What the template of an artifact finds in the data of its subject. -/
def Subject.view (config : Config) (stack : StackDescriptor) (registration : Registration) :
    Subject → List (String × Json)
  | .model schema => modelView config stack schema
  | .application group =>
    aggregateView config stack (some group.name) registration.itemImport group.models
  | .run schemas => aggregateView config stack none registration.itemImport schemas

/-- The items of an aggregate are its models. -/
theorem Subject.get?_items_view {config : Config} {stack : StackDescriptor}
    {registration : Registration} {subject : Subject} (hscope : subject.scope ≠ .model) :
    Entries.get? "items" (subject.view config stack registration) =
      some (.array (subject.schemas.map (.ofMembers ∘ itemView registration.itemImport))) := by
  cases subject with
  | model schema => exact absurd rfl hscope
  | application group => rfl
  | run schemas => rfl

/-- What is checked before a subject is rendered: the endpoint of a model. -/
def Subject.checkEndpoint : Subject → Except Error Unit
  | .model schema => schema.checkEndpoint
  | .application _ | .run _ => .ok ()

/-- An artifact of loaded schemas is rendered with these data. -/
theorem Job.render_eq (templates : TemplateCollection) {config : Config}
    (hc : config.validate = .ok ()) (stack : StackDescriptor) (registration : Registration)
    {subject : Subject}
    (hnamed : subject.IsNamed) (hn : ∀ schema ∈ subject.schemas, schema.IsNamed) :
    ∃ members, (render templates (stackContext config stack) registration subject = do
        subject.checkEndpoint
        let text ← templates.render registration.template (.object members)
        return (registration.path.resolve subject.vars, text)) ∧
      ∀ name, Entries.get? name members =
        Entries.get? name (subject.view config stack registration) := by
  have hpair : ∀ {path : String} {result found : Except Error String}, result = found →
      (do let text ← result; return (path, text)) = (do let text ← found; return (path, text) :
        Except Error (String × String)) := fun h => by rw [h]
  cases subject with
  | model schema => exact render_model_eq templates hc stack registration (hn schema (.head _))
  | application group =>
    obtain ⟨members, hrender, hmembers⟩ :=
      renderAggregate_eq templates config stack (some group.name) registration hn
    refine ⟨members, ?_, hmembers⟩
    rw [render, PathVars.ofApplication_of_isIdentifier hnamed]
    exact hpair hrender
  | run schemas =>
    obtain ⟨members, hrender, hmembers⟩ :=
      renderAggregate_eq templates config stack none registration hn
    exact ⟨members, hpair hrender, hmembers⟩

/-- A template finds this in the data of loaded models. -/
theorem Job.exists_members_of_data {config : Config} (hc : config.validate = .ok ())
    {stack : StackDescriptor} {registration : Registration} {subject : Subject}
    (hn : ∀ schema ∈ subject.schemas, schema.IsNamed) {seen : Json}
    (h : data (stackContext config stack) registration subject = .ok seen) :
    ∃ members, seen = .object members ∧ ∀ name, Entries.get? name members =
      Entries.get? name (subject.view config stack registration) := by
  cases subject with
  | model schema =>
    obtain ⟨members, hdata, hmembers⟩ := modelData_eq hc stack (hn schema (.head _))
    rw [data, hdata] at h
    refine ⟨members, ?_, hmembers⟩
    cases hcheck : schema.checkEndpoint with
    | error error =>
      rw [hcheck] at h
      cases h
    | ok _ =>
      rw [hcheck] at h
      exact (Except.ok.inj h).symm
  | application group =>
    obtain ⟨members, hdata, hmembers⟩ :=
      modelsData_eq config stack (some group.name) registration hn
    exact ⟨members, Except.ok.inj (h.symm.trans hdata), hmembers⟩
  | run schemas =>
    obtain ⟨members, hdata, hmembers⟩ := modelsData_eq config stack none registration hn
    exact ⟨members, Except.ok.inj (h.symm.trans hdata), hmembers⟩

end ModelCodegen
