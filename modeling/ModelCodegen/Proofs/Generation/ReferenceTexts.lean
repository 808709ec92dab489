import ModelCodegen.Proofs.Generation.Declaration
import ModelCodegen.Proofs.Stack.ReferenceScripts

/-!
# Texts with references

A module of ember calls a related model by its application and its name, in words
and dashes. Besides the declaration of a model there are two texts with such
references: the unit test of a model, which needs other ones, and the index of an
application, which has its models under their references. The database of
vuexorm-axios has all models under their classes.
-/

namespace ModelCodegen

open Result Template Template.Script Declaration

namespace StackEmber

/-- How modules refer to a model. -/
def reference (application model : String) : String :=
  Text.kebab application ++ "/" ++ Text.kebab model

/-- How modules refer to the model of a schema. -/
def keyOf (schema : ModelSchema) : String := reference schema.applicationName schema.modelName

/-- The line of a relationship with the model of a reference. -/
def referenceLine (reference : String) (relationship : Relationship) : String :=
  "  " ++ relationship.name ++ ": " ++ relationship.kind.choose "hasMany" "belongsTo" ++ "('" ++
    reference ++ ending relationship

/-- The line of a relationship has the reference of the related model between quotes. -/
theorem relationshipLine_eq (application : String) (relationship : Relationship) :
    declaration.relationshipLine application relationship =
      referenceLine (reference application relationship.relatedModel) relationship := by
  simp [declaration, referenceLine, reference, String.append_assoc]

/-- A model in the list of those that a unit test needs. -/
def needed (reference : String) : String := "'model:" ++ reference ++ "'"

/-- The unit test of the model of a reference, which needs other ones. -/
def unitTest (own : String) (needs : List String) : String :=
  "import \x7b moduleForModel, test \x7d from 'ember-qunit';\n\nmoduleForModel('" ++ own ++
    "', 'Unit | Model | " ++ own ++
    ("', \x7b\n  // Specify the other units that are required for this test.\n" ++ "  needs: [") ++
    ", ".intercalate (needs.map needed) ++
    ("]\n\x7d);\n\ntest('it exists', function(assert) \x7b\n" ++
      "  let model = this.subject();\n  assert.ok(!!model);\n\x7d);\n")

/-- The line of a model in an index, under its key. -/
def keyLine (key className : String) : String := "  '" ++ key ++ "': " ++ className ++ ",\n"

/-- The model is imported from beside the index. -/
def itemLine (rule? : Option PathRule) (schema : ModelSchema) : String :=
  "import " ++ classOf schema.applicationName schema.modelName ++ " from '" ++
    importPath rule? schema ++ "';\n"

/-- The name of a model in the list of an index. -/
def memberText (schema : ModelSchema) : String := "'" ++ Text.kebab schema.modelName ++ "'"

/-- The index of an application, up to the models under their keys. -/
def indexHead (rule? : Option PathRule) (application : String) (models : List ModelSchema) :
    String :=
  "/* eslint-disable */\nimport Ember from 'ember';\n" ++
    String.join (models.map (itemLine rule?)) ++
    "\nexport const metadata = new Ember.Object(\x7b\n  application: '" ++ Text.kebab application ++
    "',\n  models: [" ++
    ", ".intercalate (models.map memberText) ++
    "],\n\x7d);\n\nexport default new Ember.Object(\x7b\n"

/-- The index of an application. -/
def indexModule (rule? : Option PathRule) (application : String) (models : List ModelSchema) :
    String :=
  indexHead rule? application models ++
    String.join (models.map fun schema =>
      keyLine (keyOf schema) (classOf schema.applicationName schema.modelName)) ++ "\x7d);\n"

/-! ### What the scripts yield -/

/-- Two members in words and dashes, with a slash between them, are a reference. -/
theorem textAt_dashed {place : Template.Place} {first second a b : String}
    (hf : place.find? (.member first) = some (some (.string a)))
    (hs : place.find? (.member second) = some (some (.string b))) (next : Script) :
    (dashed first second next).textAt place = (next.textAt place).map (reference a b ++ ·) := by
  rw [dashed, textAt_dasherize, hf, textAt_lit, textAt_dasherize, hs]
  cases next.textAt place <;> simp [Json.text?, reference, String.append_assoc]

/-- The script of a relationship writes the module that a unit test needs. -/
theorem textAt_needScript (targetApp : Option String) (relationship : Relationship)
    (marks : List (String × Json)) (rest : Script) :
    (needScript rest).textAt ⟨.ofMembers (relationshipView targetApp relationship), marks⟩ =
      (rest.textAt ⟨.ofMembers (relationshipView targetApp relationship), marks⟩).map
        (needed (reference (targetApp.getD relationship.app) relationship.relatedModel) ++ ·) := by
  obtain ⟨-, -, happ, hmodel, -⟩ := relationshipView_members targetApp relationship
  have hdashed := textAt_dashed ((find?_relationship ..).trans (congrArg some happ))
    ((find?_relationship targetApp relationship marks _).trans (congrArg some hmodel))
  rw [needScript, textAt_lit, hdashed, textAt_lit]
  cases rest.textAt ⟨.ofMembers (relationshipView targetApp relationship), marks⟩ <;>
    simp [needed, String.append_assoc]

section Model

variable {config : Config} {stack : StackDescriptor} {schema : ModelSchema}
  {members : List (String × Json)}

/-- What the template of a unit test asks for about the relationships. -/
theorem modelView_needs (config : Config) (stack : StackDescriptor) (schema : ModelSchema) :
    Entries.get? "relationship_imports" (modelView config stack schema) =
        some (.bool (config.settingsOf stack.id).relationshipImports) ∧
      Entries.get? "relationships" (modelView config stack schema) =
        some (.array (schema.relationships.map
          (.ofMembers ∘ relationshipView config.targetApp))) :=
  ⟨rfl, rfl⟩

section Found

variable
  (hm : ∀ name, Entries.get? name members = Entries.get? name (modelView config stack schema))
include hm

/-- The template of a unit test begins with the reference of its own model. -/
theorem textAt_own (next : Script) :
    (dashed "application_name" "model_name" next).textAt ⟨.object members, []⟩ =
      (next.textAt ⟨.object members, []⟩).map (keyOf schema ++ ·) := by
  obtain ⟨happ, hmodel, -⟩ := modelView_members config stack schema
  exact textAt_dashed ((find?_model hm "application_name").trans (congrArg some happ))
    ((find?_model hm "model_name").trans (congrArg some hmodel)) next

/-- The modules that a unit test needs are those of the related models, in order. -/
theorem textAt_needs (next : Script) :
    (enumerated "relationships" needScript ", " next).textAt ⟨.object members, []⟩ =
      (next.textAt ⟨.object members, []⟩).map
        (", ".intercalate (schema.relationships.map fun relationship => needed <|
          reference (config.targetApp.getD relationship.app) relationship.relatedModel) ++ ·) := by
  obtain ⟨-, hrelationships⟩ := modelView_needs config stack schema
  exact textAt_enumerated ", "
    ((find?_model hm "relationships").trans (congrArg some hrelationships))
    (fun relationship _ => textAt_needScript config.targetApp relationship) next

/-- The template of a unit test yields one that needs the related models, if they are imported. -/
theorem textAt_testScript :
    testScript.textAt ⟨.object members, []⟩ = some (unitTest (keyOf schema)
      (if (config.settingsOf stack.id).relationshipImports then
        schema.relationships.map fun relationship =>
          reference (config.targetApp.getD relationship.app) relationship.relatedModel
      else [])) := by
  obtain ⟨himports, -⟩ := modelView_needs config stack schema
  rw [testScript, textAt_lit, textAt_own hm, textAt_lit, textAt_own hm, textAt_lit, textAt_whether,
    find?_model hm, himports, textAt_needs hm, textAt_lit, textAt_done]
  unfold unitTest
  cases (config.settingsOf stack.id).relationshipImports <;>
    simp only [Template.isTrue, Option.getD_some, Option.bind_some, Option.map_some,
      Bool.false_eq_true, if_true, if_false, List.map_nil, List.map_map, String.intercalate_nil,
      String.append_assoc, String.append_empty, String.empty_append, Function.comp_def]

end Found

end Model

/-! ### Indexes -/

section Item

variable (rule? : Option PathRule) (schema : ModelSchema) (marks : List (String × Json))

/-- A loop over the items asks the view of an item. -/
theorem find?_item (name : String) :
    (⟨.ofMembers (itemView rule? schema), marks⟩ : Template.Place).find? (.member name) =
      some (Entries.get? name (itemView rule? schema)) := by
  rw [← get?_itemView]
  rfl

/-- What a loop over the items asks for. -/
theorem itemView_members :
    Entries.get? "application_name" (itemView rule? schema) =
        some (.string schema.applicationName) ∧
      Entries.get? "model_name" (itemView rule? schema) = some (.string schema.modelName) ∧
      Entries.get? "class_name" (itemView rule? schema) =
        some (.string (classOf schema.applicationName schema.modelName)) ∧
      Entries.get? "import_path" (itemView rule? schema) =
        some (.string (importPath rule? schema)) :=
  ⟨rfl, rfl, rfl, rfl⟩

/-- The script of an item writes its import. -/
theorem textAt_itemScript :
    itemScript.textAt ⟨.ofMembers (itemView rule? schema), marks⟩ =
      some (itemLine rule? schema) := by
  simp [itemScript, textAt_lit, textAt_out, textAt_done, find?_item, itemView_members, itemLine,
    String.append_assoc]

/-- The script of an item writes its name into the list of models. -/
theorem textAt_memberScript (rest : Script) :
    (memberScript rest).textAt ⟨.ofMembers (itemView rule? schema), marks⟩ =
      (rest.textAt ⟨.ofMembers (itemView rule? schema), marks⟩).map
        (memberText schema ++ ·) := by
  rw [memberScript, textAt_lit, textAt_dasherize, find?_item, textAt_lit]
  cases rest.textAt ⟨.ofMembers (itemView rule? schema), marks⟩ <;>
    simp [itemView_members, Json.text?, memberText, String.append_assoc]

/-- The script of an item writes its class under its key. -/
theorem textAt_keyScript :
    keyScript.textAt ⟨.ofMembers (itemView rule? schema), marks⟩ =
      some (keyLine (keyOf schema) (classOf schema.applicationName schema.modelName)) := by
  obtain ⟨happ, hmodel, hclass, -⟩ := itemView_members rule? schema
  have hdashed := textAt_dashed ((find?_item rule? schema marks _).trans (congrArg some happ))
    ((find?_item rule? schema marks _).trans (congrArg some hmodel))
  simp [keyScript, textAt_lit, textAt_out, textAt_done, find?_item, hclass, hdashed, keyLine,
    keyOf, String.append_assoc]

end Item

/-- What the template of an index asks for. -/
theorem aggregateView_members (config : Config) (stack : StackDescriptor) (application : String)
    (rule? : Option PathRule) (models : List ModelSchema) :
    Entries.get? "items" (aggregateView config stack (some application) rule? models) =
        some (.array (models.map (.ofMembers ∘ itemView rule?))) ∧
      Entries.get? "application_name"
        (aggregateView config stack (some application) rule? models) =
          some (.string application) :=
  ⟨rfl, rfl⟩

section Index

variable {config : Config} {stack : StackDescriptor} {application : String}
  {rule? : Option PathRule} {models : List ModelSchema} {members : List (String × Json)}

/-- The template of an index yields a module that imports and lists its models. -/
theorem textAt_indexScript
    (hm : ∀ name, Entries.get? name members =
      Entries.get? name (aggregateView config stack (some application) rule? models)) :
    indexScript.textAt ⟨.object members, []⟩ = some (indexModule rule? application models) := by
  obtain ⟨hitems, happ⟩ := aggregateView_members config stack application rule? models
  have hfind : ∀ name, (⟨.object members, []⟩ : Template.Place).find? (.member name) =
      some (Entries.get? name (aggregateView config stack (some application) rule? models)) :=
    fun name => congrArg some (hm name)
  have hx := (hfind "items").trans (congrArg some hitems)
  rw [indexScript, textAt_lit, textAt_each hx fun schema _ => textAt_itemScript rule? schema,
    textAt_lit, textAt_dasherize, hfind, happ, textAt_lit,
    textAt_enumerated ", " hx fun schema _ => textAt_memberScript rule? schema, textAt_lit,
    textAt_each hx fun schema _ => textAt_keyScript rule? schema, textAt_lit, textAt_done]
  unfold indexModule indexHead
  simp only [Json.text?, Option.join_some, Option.bind_some, Option.map_some, String.append_assoc,
    String.append_empty]

end Index

end StackEmber

namespace StackVuexOrmAxios

open StackEmber (itemLine itemView_members find?_item textAt_itemScript)

/-- The line that registers a model. -/
def registerLine (schema : ModelSchema) : String :=
  "database.register(" ++ classOf schema.applicationName schema.modelName ++ ");\n"

/-- The database of models. -/
def databaseModule (rule? : Option PathRule) (models : List ModelSchema) : String :=
  ("/* eslint-disable */\nimport VuexORM from '@vuex-orm/core';\n" ++
    "import VuexORMAxios from '@vuex-orm/plugin-axios';\n" ++
    "import VuexORMisDirtyPlugin from '@vuex-orm/plugin-change-flags';\n" ++
    "import axios from '@/store/http';\n") ++
    String.join (models.map (itemLine rule?)) ++
    ("\nVuexORM.use(VuexORMAxios, \x7b\n  axios,\n\x7d);\n" ++
      "VuexORM.use(VuexORMisDirtyPlugin);\nconst database = new VuexORM.Database();\n") ++
    String.join (models.map registerLine) ++ "\nexport default database;\n"

/-- The script of an item writes its registration. -/
theorem textAt_registerScript (rule? : Option PathRule) (schema : ModelSchema)
    (marks : List (String × Json)) :
    registerScript.textAt ⟨.ofMembers (itemView rule? schema), marks⟩ =
      some (registerLine schema) := by
  obtain ⟨-, -, hclass, -⟩ := itemView_members rule? schema
  rw [registerScript, textAt_lit, textAt_out, find?_item, hclass, textAt_lit, textAt_done]
  unfold registerLine
  simp only [Option.join_some, Option.bind_some, Option.map_some, shown_string,
    String.append_assoc, String.append_empty]

/-- The template of a database yields a module that imports and registers its models. -/
theorem textAt_databaseScript {config : Config} {stack : StackDescriptor} {rule? : Option PathRule}
    {models : List ModelSchema} {members : List (String × Json)}
    (hm : ∀ name, Entries.get? name members =
      Entries.get? name (aggregateView config stack none rule? models)) :
    databaseScript.textAt ⟨.object members, []⟩ = some (databaseModule rule? models) := by
  have hitems : Entries.get? "items" (aggregateView config stack none rule? models) =
      some (.array (models.map (.ofMembers ∘ itemView rule?))) := rfl
  have hfind : (⟨.object members, []⟩ : Template.Place).find? (.member "items") =
      some (Entries.get? "items" (aggregateView config stack none rule? models)) :=
    congrArg some (hm "items")
  have hx := hfind.trans (congrArg some hitems)
  rw [databaseScript, textAt_lit, textAt_each hx fun schema _ => textAt_itemScript rule? schema,
    textAt_lit, textAt_each hx fun schema _ => textAt_registerScript rule? schema, textAt_lit,
    textAt_done]
  unfold databaseModule
  simp only [Option.map_some, String.append_assoc, String.append_empty]

end StackVuexOrmAxios

end ModelCodegen
