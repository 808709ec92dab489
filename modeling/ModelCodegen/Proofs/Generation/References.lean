import ModelCodegen.Proofs.Generation.BuiltinSuccess
import ModelCodegen.Proofs.Generation.DeclaredModels
import ModelCodegen.Proofs.Generation.OutputAt
import ModelCodegen.Proofs.Generation.ReferenceTexts

/-!
# References between models

A module of ember calls a related model by its application and its name, in words
and dashes, and a module that is loaded at run time calls it by the names as they
are. Both are the path of the file that the related model has in the same run,
without the directory in front and the ending. The index of an application has its
models under these references.
-/

namespace ModelCodegen

open Result Template Template.Script Declaration

/-! ## Outputs with references -/

/-- The declaration of a model with these lines for its relationships. -/
def Declaration.withLines (declaration : Declaration) (config : Config) (types : TypeMapping)
    (schema : ModelSchema) (lines : List String) : String :=
  declaration.before config schema ++ declaration.fieldLines types schema ++ String.join lines ++
    declaration.after schema

/-- The path of a rule with one name. -/
theorem PathRule.resolve_single {rule : PathRule} {front ending a : String} {vars : PathVars}
    (name : String) (hflat : rule.IsFlat) (hv : vars.IsProper)
    (hpieces : rule.pieces = literal front ++ .hole name.toList :: literal ending)
    (ha : vars.entries.lookup name.toList = some a.toList) :
    rule.resolve vars = front ++ a ++ ending := by
  refine String.toList_injective ?_
  rw [toList_resolve hflat hv, hpieces, literal, literal, fill_append, fill_map_char, fill_cons,
    Placeholder.Piece.value, ha, fill_map_char]
  simp

/-- The path of a rule with two names that a slash is between. -/
theorem PathRule.resolve_pair {rule : PathRule} {front ending a b : String} {vars : PathVars}
    (first second : String) (hflat : rule.IsFlat) (hv : vars.IsProper)
    (hpieces : rule.pieces = literal front ++ .hole first.toList :: (literal "/" ++
      .hole second.toList :: literal ending))
    (ha : vars.entries.lookup first.toList = some a.toList)
    (hb : vars.entries.lookup second.toList = some b.toList) :
    rule.resolve vars = front ++ (a ++ "/" ++ b) ++ ending := by
  refine String.toList_injective ?_
  rw [toList_resolve hflat hv, hpieces, literal, literal, literal, fill_append, fill_map_char,
    fill_cons, Placeholder.Piece.value, ha, fill_append, fill_map_char, fill_cons,
    Placeholder.Piece.value, hb, fill_map_char]
  simp

namespace StackEmber

variable {application model : String}

/-- The class of a model is where its reference says, below the directory of classes. -/
theorem baseRule_eq (ha : Name.IsIdentifier application) (hm : Name.IsIdentifier model) :
    baseRule.resolve (.all application model) =
      "app/models/base/" ++ reference application model ++ ".js" :=
  PathRule.resolve_pair "app_dash" "model_dash" (by decide +kernel) (PathVars.isProper_all ha hm)
    (by decide +kernel) rfl rfl

/-- The stub of a model is where its reference says, below the directory of models. -/
theorem stubRule_eq (ha : Name.IsIdentifier application) (hm : Name.IsIdentifier model) :
    stubRule.resolve (.all application model) =
      "app/models/" ++ reference application model ++ ".js" :=
  PathRule.resolve_pair "app_dash" "model_dash" (by decide +kernel) (PathVars.isProper_all ha hm)
    (by decide +kernel) rfl rfl

/-- The rule by which an index imports its models. -/
def itemRule : PathRule := ⟨"./{model_dash}"⟩

/-- The models of an application. -/
def modelsOf (set : SchemaSet) (application : String) : List ModelSchema :=
  set.schemas.filter (·.applicationName == application)

/-- The reference leads to the files of a model and is a key in the index of its application. -/
structure Resolves (report : Report) (set : SchemaSet) (target : ModelSchema)
    (reference : String) : Prop where
  stub : report.HasAt (.ofModel .ember .model target) fun artifact =>
    artifact.path = "app/models/" ++ reference ++ ".js"
  base : report.HasAt (.ofModel .ember .modelBase target) fun artifact =>
    artifact.path = "app/models/base/" ++ reference ++ ".js"
  key : report.HasAt (.ofApplication .ember .index target.applicationName) fun artifact =>
    artifact.content = indexModule (some itemRule) target.applicationName
      (modelsOf set target.applicationName) ∧
    reference ∈ (modelsOf set target.applicationName).map keyOf

/-- The references of a model are in its class and, if they are imported, in its unit test. -/
structure Refers (report : Report) (config : Config) (schema : ModelSchema)
    (referenceOf : Relationship → String) : Prop where
  base : report.HasAt (.ofModel .ember .modelBase schema) fun artifact =>
    artifact.content = declaration.withLines config (config.typeMapping (.builtin .ember)) schema
      (schema.relationships.map fun r => referenceLine (referenceOf r) r)
  test : report.HasAt (.ofModel .ember .test schema) fun artifact =>
    artifact.content = unitTest (keyOf schema)
      (if (config.settingsOf .ember).relationshipImports then schema.relationships.map referenceOf
        else [])

section Run

variable {format : SchemaFormat} {document : String} {set : SchemaSet} {config : Config}
  {registry : Registry} {ids : List StackId} {report : Report} {schema : ModelSchema}
  (hset : parseSchemas format document = .ok set) (hc : config.validate = .ok ())
  (hb : Registry.builtin = .ok registry)
  (h : generate registry config .failFast set ids = .ok report) (hid : StackId.ember ∈ ids)
  (hs : schema ∈ set.schemas)
include hset hc hb h hid hs

/-- The references of a model are those of the models that its relationships point at. -/
theorem refers_of_generate : Refers report config schema
    fun r => reference (config.targetApp.getD r.app) r.relatedModel := by
  obtain ⟨definitions, -, definition, -, hprepare⟩ :=
    SchemaSet.exists_prepare_of_parseSchemas hset hs
  have hn : ∀ own ∈ (Subject.model schema).schemas, own.IsNamed :=
    Subject.isNamed_of_parseSchemas hset hs
  have hi := definition.inverse_ne_of_prepare hprepare
  have hkeys := SchemaSet.nodup_keys_of_parseSchemas hset
  have hlines : declaration.text config (config.typeMapping (.builtin .ember)) schema =
      declaration.withLines config (config.typeMapping (.builtin .ember)) schema
        (schema.relationships.map fun r =>
          referenceLine (reference (config.targetApp.getD r.app) r.relatedModel) r) := by
    simp only [Declaration.text, Declaration.withLines, Declaration.relationshipLines,
      relationshipLine_eq]
  constructor
  · refine (Report.hasAt_of_script hb hc h hkeys hid (.head _) (.model schema) rfl hs hn
      (by simp [builtinTemplates, Registration.ofModel]) (ofBody?_declarations _ (.head _))
      fun members hm => textAt_baseScript hm hi).imp fun artifact ha => ?_
    exact ha.2.trans hlines
  · exact (Report.hasAt_of_script hb hc h hkeys hid (.tail _ (.tail _ (.head _)))
      (.model schema) rfl hs hn (by simp [builtinTemplates, Registration.ofModel])
      ofBody?_references.1
      fun members hm => textAt_testScript hm).imp fun artifact ha => ha.2

/-- The files of a model are where its reference says. -/
theorem resolves_of_generate : Resolves report set schema (keyOf schema) := by
  have hn := Subject.isNamed_of_parseSchemas hset
    (show (Subject.model schema).IsOf set from hs) schema (.head _)
  have hkeys := SchemaSet.nodup_keys_of_parseSchemas hset
  obtain ⟨group, hg, hname⟩ := SchemaSet.exists_group_iff.mpr ⟨schema, hs, rfl⟩
  constructor
  · refine Report.hasAt_of_job hb h hkeys hid (.tail _ (.head _)) (.model schema) rfl hs
      fun artifact hattempt => ?_
    exact (Job.attempt_produce_ok hattempt).2.1.trans (stubRule_eq hn.application hn.model)
  · refine Report.hasAt_of_job hb h hkeys hid (.head _) (.model schema) rfl hs
      fun artifact hattempt => ?_
    exact (Job.attempt_produce_ok hattempt).2.1.trans (baseRule_eq hn.application hn.model)
  · have hindex := Report.hasAt_of_script hb hc h hkeys hid
      (.tail _ (.tail _ (.tail _ (.head _)))) (.application group) rfl hg
      (Subject.isNamed_of_parseSchemas hset (show (Subject.application group).IsOf set from hg))
      (by simp [builtinTemplates, Registration.ofModels]) ofBody?_references.2
      fun members hm => textAt_indexScript hm
    have hmodels : modelsOf set schema.applicationName = group.models := by
      rw [SchemaSet.models_of_mem_group hg, modelsOf, hname]
    rw [← hname]
    refine hindex.imp fun artifact ha => ?_
    rw [hname, hmodels]
    refine ⟨hname ▸ ha.2, List.mem_map_of_mem ?_⟩
    rw [← hmodels]
    exact List.mem_filter.mpr ⟨hs, by simp⟩

end Run

end StackEmber

namespace StackEmberDynamic

/-- The rule of modules. -/
def moduleRule : PathRule := ⟨"\x7bapp\x7d/\x7bmodel\x7d.js"⟩

/-- A module is at the key of its model. -/
theorem moduleRule_eq {application model : String} (ha : Name.IsIdentifier application)
    (hm : Name.IsIdentifier model) :
    moduleRule.resolve (.all application model) = modelKey application model ++ ".js" := by
  have h := @PathRule.resolve_pair moduleRule "" ".js" application model _ "app" "model"
    (by decide +kernel) (PathVars.isProper_all ha hm) (by decide +kernel) rfl rfl
  rw [h, String.empty_append, modelKey]

/-- The line of a relationship with the model of a reference. -/
def referenceLine (reference : String) (relationship : Relationship) : String :=
  "    " ++ relationship.name ++ ": (0, _emberDataRelationships['" ++
    relationship.kind.choose "hasMany" "belongsTo" ++ "'])('" ++ reference ++
    StackEmber.ending relationship

/-- The line of a relationship has the key of the related model between quotes. -/
theorem relationshipLine_eq (application : String) (relationship : Relationship) :
    declaration.relationshipLine application relationship =
      referenceLine (modelKey application relationship.relatedModel) relationship := by
  simp [declaration, referenceLine, modelKey, String.append_assoc]

/-- The module of a model has these references. -/
def Refers (report : Report) (config : Config) (schema : ModelSchema)
    (referenceOf : Relationship → String) : Prop :=
  report.HasAt (.ofModel .emberDynamic .model schema) fun artifact =>
    artifact.content =
      declaration.withLines config (config.typeMapping (.builtin .emberDynamic)) schema
        (schema.relationships.map fun r => referenceLine (referenceOf r) r)

/-- The beginning of a module that is defined under a name. -/
def opening (name : String) : String :=
  "define('" ++ name ++ "',\n    ['exports', 'ember-data/model', 'ember-data/attr'"

/-- The reference leads to the module of a model, which is defined under it. -/
def Resolves (report : Report) (config : Config) (target : ModelSchema) (reference : String) :
    Prop :=
  report.HasAt (.ofModel .emberDynamic .model target) fun artifact =>
    artifact.path = reference ++ ".js" ∧ ∃ rest,
      artifact.content = opening (config.emberApp ++ "/models/" ++ reference) ++ rest

/-- The head of a module, behind its beginning. -/
def headRest (schema : ModelSchema) : String :=
  (if schema.relationships.isEmpty then "" else ", 'ember-data/relationships'") ++
    "],\n    function (exports, _emberDataModel, _emberDataAttr" ++
    (if schema.relationships.isEmpty then "" else ", _emberDataRelationships") ++
    ") \x7b\n  exports['default'] = _emberDataModel['default'].extend(\x7b\n"

/-- A module begins with its own name, which ends in the key of its model. -/
theorem head_eq (config : Config) (schema : ModelSchema) : head config schema =
    opening (config.emberApp ++ "/models/" ++ schema.key) ++ headRest schema := by
  unfold head opening headRest ModelSchema.key modelKey
  simp only [String.append_assoc]

/-- A module is its name, the lines of its attributes, and fixed text around them. -/
theorem text_eq_opening (config : Config) (types : TypeMapping) (schema : ModelSchema) :
    declaration.text config types schema =
      opening (config.emberApp ++ "/models/" ++ schema.key) ++ (headRest schema ++
        declaration.fieldLines types schema ++
        declaration.relationshipLines config.targetApp schema ++ declaration.after schema) := by
  have hbefore : declaration.before config schema = head config schema := rfl
  simp only [Declaration.text, hbefore, head_eq, String.append_assoc]

section Run

variable {format : SchemaFormat} {document : String} {set : SchemaSet} {config : Config}
  {registry : Registry} {ids : List StackId} {report : Report} {schema : ModelSchema}
  (hset : parseSchemas format document = .ok set) (hc : config.validate = .ok ())
  (hb : Registry.builtin = .ok registry)
  (h : generate registry config .failFast set ids = .ok report)
  (hid : StackId.emberDynamic ∈ ids) (hs : schema ∈ set.schemas)
include hset hc hb h hid hs

/-- The module of a model is at the path of its rule, and it is its declaration. -/
theorem hasAt_module : report.HasAt (.ofModel .emberDynamic .model schema) fun artifact =>
    artifact.path = moduleRule.resolve (.all schema.applicationName schema.modelName) ∧
      artifact.content =
        declaration.text config (config.typeMapping (.builtin .emberDynamic)) schema := by
  obtain ⟨definitions, -, definition, -, hprepare⟩ :=
    SchemaSet.exists_prepare_of_parseSchemas hset hs
  exact Report.hasAt_of_script hb hc h (SchemaSet.nodup_keys_of_parseSchemas hset) hid (.head _)
    (.model schema) rfl hs (Subject.isNamed_of_parseSchemas hset hs)
    (by simp [builtinTemplates, Registration.ofModel]) (ofBody?_declarations _ (.tail _ (.head _)))
    fun members hm => textAt_modelScript hm (definition.inverse_ne_of_prepare hprepare)

/-- The references of a model are those of the models that its relationships point at. -/
theorem refers_of_generate : Refers report config schema
    fun r => modelKey (config.targetApp.getD r.app) r.relatedModel := by
  refine (hasAt_module hset hc hb h hid hs).imp fun artifact ha => ha.2.trans ?_
  simp only [Declaration.text, Declaration.withLines, Declaration.relationshipLines,
    relationshipLine_eq]

/-- The module of a model is where its reference says. -/
theorem resolves_of_generate : Resolves report config schema schema.key := by
  have hn := Subject.isNamed_of_parseSchemas hset (show (Subject.model schema).IsOf set from hs)
    schema (.head _)
  refine (hasAt_module hset hc hb h hid hs).imp fun artifact ha => ?_
  exact ⟨ha.1.trans (moduleRule_eq hn.application hn.model), _,
    ha.2.trans (text_eq_opening _ _ schema)⟩

end Run

end StackEmberDynamic

/-- Without a common application for all relationships, modules of ember refer to models by the
paths of their files. The reference of a relationship is in the class of its model and in the unit
test, if it is imported there; if its target is in the set, the reference with the directories in
front and the ending is the path of the stub and of the class of the target, and the index of the
target's application has it as a key. In a module that is loaded at run time the reference is the
path of the module of the target, without the ending, and the module is defined under it. -/
theorem references_name_modules {format : SchemaFormat} {document : String} {set : SchemaSet}
    {config : Config} {registry : Registry} {ids : List StackId} {report : Report}
    (hset : parseSchemas format document = .ok set) (hc : config.validate = .ok ())
    (htarget : config.targetApp = none) (hb : Registry.builtin = .ok registry)
    (h : generate registry config .failFast set ids = .ok report) :
    (.ember ∈ ids → ∀ schema ∈ set.schemas,
      StackEmber.Refers report config schema
        (fun r => StackEmber.reference r.app r.relatedModel) ∧
      ∀ r ∈ schema.relationships, ∀ target ∈ set.schemas, target.applicationName = r.app →
        target.modelName = r.relatedModel →
        StackEmber.Resolves report set target (StackEmber.reference r.app r.relatedModel)) ∧
    (.emberDynamic ∈ ids → ∀ schema ∈ set.schemas,
      StackEmberDynamic.Refers report config schema (fun r => modelKey r.app r.relatedModel) ∧
      ∀ r ∈ schema.relationships, ∀ target ∈ set.schemas, target.applicationName = r.app →
        target.modelName = r.relatedModel →
        StackEmberDynamic.Resolves report config target (modelKey r.app r.relatedModel)) := by
  refine ⟨fun hid schema hs => ⟨?_, ?_⟩, fun hid schema hs => ⟨?_, ?_⟩⟩
  · have hrefers := StackEmber.refers_of_generate hset hc hb h hid hs
    rwa [htarget] at hrefers
  · rintro r - target ht happ hmodel
    rw [← happ, ← hmodel]
    exact StackEmber.resolves_of_generate hset hc hb h hid ht
  · have hrefers := StackEmberDynamic.refers_of_generate hset hc hb h hid hs
    rwa [htarget] at hrefers
  · rintro r - target ht happ hmodel
    rw [← happ, ← hmodel]
    exact StackEmberDynamic.resolves_of_generate hset hc hb h hid ht

/-! ## A linked document -/

/-- A model without fields, of its names, its endpoint and its relationships. -/
def ModelSchema.ofLinks (links : String × String × String × List Relationship) : ModelSchema :=
  ⟨links.1, links.2.1, [], links.2.2.2, links.2.2.1, none⟩

/-- A document of models without fields holds what their parts say. -/
theorem parseSchemas_of_links {format : SchemaFormat} {document : String}
    {links : List (String × String × String × List Relationship)}
    (h : (parseSchemas format document).toOption.any (fun set =>
      set.schemas.all (fun schema => schema.fields.isEmpty && schema.paginationContainer.isNone) &&
        set.schemas.map (fun schema => (schema.applicationName, schema.modelName, schema.endpoint,
          schema.relationships)) == links) = true) :
    parseSchemas format document = .ok ⟨links.map .ofLinks⟩ := by
  obtain ⟨⟨schemas⟩, hset, h⟩ := exists_ok_of_any h
  simp only [Bool.and_eq_true, List.all_eq_true, beq_iff_eq, List.isEmpty_iff,
    Option.isNone_iff_eq_none] at h
  obtain ⟨hall, rfl⟩ := h
  rw [hset, List.map_map]
  congr 2
  refine (List.map_id' schemas).symm.trans (List.map_congr_left fun schema hs => ?_)
  obtain ⟨hfields, hcontainer⟩ := hall schema hs
  cases schema
  cases hfields
  cases hcontainer
  rfl

/-- Loaded schemas are fit for a run if their endpoints are spelled as endpoints. -/
theorem SchemaSet.isFit_of_endpoints {format : SchemaFormat} {document : String} {set : SchemaSet}
    (hset : parseSchemas format document = .ok set)
    (h : set.schemas.all (fun schema => SchemaDraft.isUsableEndpoint schema.endpoint &&
      schema.endpoint.toList.all Name.isEndpointChar) = true) : set.IsFit := by
  intro schema hs
  obtain ⟨-, -, definition, -, hprepare⟩ := exists_prepare_of_parseSchemas hset hs
  have hserved := List.all_eq_true.mp h schema hs
  rw [Bool.and_eq_true, List.all_eq_true] at hserved
  exact ⟨definition.isNamed_of_prepare hprepare, hserved⟩

/-- A document with a model that points at another one. -/
def linkedDocument : String :=
  "[\x7b\"application_name\":\"blog\",\"model_name\":\"post\",\"relationships\":[\x7b" ++
    "\"name\":\"tags\",\"kind\":\"hasMany\",\"app\":\"blog\",\"related_model\":\"pageTag\"\x7d" ++
    "]\x7d,\x7b\"application_name\":\"blog\",\"model_name\":\"pageTag\"\x7d]"

/-- The models in the document. -/
def linkedModels : List ModelSchema :=
  [("blog", "post", "blog/posts", [⟨"tags", .hasMany, "blog", "pageTag", none⟩]),
    ("blog", "pageTag", "blog/pageTags", [])].map .ofLinks

/-- The document has two models, one of which is related to the other. -/
theorem parseSchemas_linkedDocument : parseSchemas .json linkedDocument = .ok ⟨linkedModels⟩ :=
  parseSchemas_of_links (by decide +kernel)

/-- The model that is referred to has its own output in both stacks. -/
theorem references_name_modules_linkedModels : ∃ registry report,
    parseSchemas .json linkedDocument = .ok ⟨linkedModels⟩ ∧ Registry.builtin = .ok registry ∧
      generate registry {} .failFast ⟨linkedModels⟩ [.ember, .emberDynamic] = .ok report ∧
      report.HasAt ⟨.ember, .model, some "blog", some "pageTag"⟩
        (·.path = "app/models/blog/page-tag.js") ∧
      report.HasAt ⟨.emberDynamic, .model, some "blog", some "pageTag"⟩
        (·.path = "blog/pageTag.js") := by
  obtain ⟨registry, hb⟩ := Registry.exists_builtin
  have hset := parseSchemas_linkedDocument
  have hfit := SchemaSet.isFit_of_endpoints hset (by decide +kernel)
  obtain ⟨report, h⟩ := @exists_report_of_nodup registry {} ⟨linkedModels⟩ [.ember, .emberDynamic]
    hb (by rfl) hfit (by
      simp only [Job.ofStacks, Registry.stack?_of_builtin hb]
      decide +kernel)
  obtain ⟨hember, hdynamic⟩ := references_name_modules hset (by rfl) (by rfl) hb h
  obtain ⟨-, hresolves⟩ := hember (.head _) _ (.head _)
  obtain ⟨-, hmodule⟩ := hdynamic (.tail _ (.head _)) _ (.head _)
  refine ⟨registry, report, hset, hb, h, ?_, ?_⟩
  · refine (hresolves _ (.head _) _ (.tail _ (.head _)) rfl rfl).stub.imp fun artifact ha => ?_
    exact ha.trans (by decide +kernel)
  · refine (hmodule _ (.head _) _ (.tail _ (.head _)) rfl rfl).imp fun artifact ha => ?_
    exact ha.1.trans (by decide +kernel)

end ModelCodegen
