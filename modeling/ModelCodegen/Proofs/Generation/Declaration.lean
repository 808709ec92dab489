import ModelCodegen.Proofs.Generation.Data
import ModelCodegen.Proofs.Stack.DeclarationScripts

/-!
# Model declarations

A model is declared by a line for each of its fields and then a line for each of its
relationships, with nothing between them. What a line says of an attribute depends
on the stack: its type if the stack has a name for it, its default if there is one,
and whether it is a collection.
-/

namespace ModelCodegen

open Template Template.Script

/-- How models are declared. -/
structure Declaration where
  /-- The name of the template. -/
  template : String
  /-- What stands in front of the attributes. -/
  before : Config → ModelSchema → String
  /-- The line of a field of that name, with the name of its type and with its default. -/
  fieldLine : String → Option String → Option String → String
  /-- The line of a relationship with models of the application. -/
  relationshipLine : String → Relationship → String
  /-- What stands behind the attributes. -/
  after : ModelSchema → String

/-- The name of a field's type, unless it is empty. -/
def TypeMapping.nameOf? (types : TypeMapping) (field : Field) : Option String :=
  (types.spellOption field.type).filter (· ≠ "")

/-- One text for collections and one for single models. -/
def RelationKind.choose (kind : RelationKind) (collection single : String) : String :=
  match kind with
  | .hasMany => collection
  | .belongsTo => single

namespace Declaration

/-- The lines of the fields. -/
def fieldLines (declaration : Declaration) (types : TypeMapping) (schema : ModelSchema) : String :=
  String.join (schema.fields.map fun field =>
    declaration.fieldLine field.name (types.nameOf? field) (field.default.map Json.compact))

/-- The lines of the relationships, which may all point at one application. -/
def relationshipLines (declaration : Declaration) (targetApp : Option String)
    (schema : ModelSchema) : String :=
  String.join (schema.relationships.map fun relationship =>
    declaration.relationshipLine (targetApp.getD relationship.app) relationship)

/-- The declaration of a model. -/
def text (declaration : Declaration) (config : Config) (types : TypeMapping)
    (schema : ModelSchema) : String :=
  declaration.before config schema ++ declaration.fieldLines types schema ++
    declaration.relationshipLines config.targetApp schema ++ declaration.after schema

/-! ## What the scripts find -/

section Members

variable (types : TypeMapping) (field : Field) (targetApp : Option String)
  (relationship : Relationship) (marks : List (String × Json)) (name : String)

/-- A loop over the fields asks the view of a field. -/
theorem find?_field :
    (⟨fieldBinding types field, marks⟩ : Template.Place).find? (.member name) =
      some (Entries.get? name (fieldView types field)) := by
  rw [← get?_fieldBinding]
  rfl

/-- What a loop over the fields asks for: the name, the type, and the default in JSON. -/
theorem fieldView_members :
    Entries.get? "name" (fieldView types field) = some (.string field.name) ∧
      Entries.get? "type" (fieldView types field) =
        some (.ofOption (types.spellOption field.type)) ∧
      Entries.get? "has_default" (fieldView types field) = some (.bool field.default.isSome) ∧
      Entries.get? "default" (fieldView types field) =
        some (.ofOption (field.default.map Json.compact)) :=
  ⟨rfl, rfl, rfl, rfl⟩

/-- A loop over the relationships asks the view of a relationship. -/
theorem find?_relationship :
    (⟨.ofMembers (relationshipView targetApp relationship), marks⟩ : Template.Place).find?
      (.member name) = some (Entries.get? name (relationshipView targetApp relationship)) := by
  rw [← get?_relationshipView]
  rfl

/-- What a loop over the relationships asks for; the application may be the one of the settings. -/
theorem relationshipView_members :
    Entries.get? "name" (relationshipView targetApp relationship) =
        some (.string relationship.name) ∧
      Entries.get? "kind" (relationshipView targetApp relationship) =
        some (.string relationship.kind.name) ∧
      Entries.get? "app" (relationshipView targetApp relationship) =
        some (.string (targetApp.getD relationship.app)) ∧
      Entries.get? "related_model" (relationshipView targetApp relationship) =
        some (.string relationship.relatedModel) ∧
      Entries.get? "inverse" (relationshipView targetApp relationship) =
        some (.ofOption relationship.inverse) ∧
      Entries.get? "many" (relationshipView targetApp relationship) =
        some (.bool relationship.kind.isCollection) :=
  ⟨rfl, rfl, rfl, rfl, rfl, rfl⟩

end Members

section Model

variable {config : Config} {stack : StackDescriptor} {schema : ModelSchema}
  {members : List (String × Json)}

/-- What the template of a class asks for about its model. -/
theorem modelView_members (config : Config) (stack : StackDescriptor) (schema : ModelSchema) :
    Entries.get? "application_name" (modelView config stack schema) =
        some (.string schema.applicationName) ∧
      Entries.get? "model_name" (modelView config stack schema) =
        some (.string schema.modelName) ∧
      Entries.get? "class_name" (modelView config stack schema) =
        some (.string (classOf schema.applicationName schema.modelName)) ∧
      Entries.get? "endpoint" (modelView config stack schema) = some (.string schema.endpoint) ∧
      Entries.get? "has_relationships" (modelView config stack schema) =
        some (.bool !schema.relationships.isEmpty) ∧
      Entries.get? "ember_app" (modelView config stack schema) = some (.string config.emberApp) :=
  ⟨rfl, rfl, rfl, rfl, rfl, rfl⟩

variable
  (hm : ∀ name, Entries.get? name members = Entries.get? name (modelView config stack schema))
include hm

/-- The template of a class asks the view of its model. -/
theorem find?_model (name : String) :
    (⟨.object members, []⟩ : Template.Place).find? (.member name) =
      some (Entries.get? name (modelView config stack schema)) := by
  rw [← hm]
  rfl

/-- A loop over the fields and one over the relationships yield the lines of all attributes in
order, with nothing between them. -/
theorem textAt_attributes {fieldScript relationshipScript : Script} {fieldLine : Field → String}
    {relationshipLine : Relationship → String}
    (hf : ∀ field ∈ schema.fields, ∀ marks,
      fieldScript.textAt ⟨fieldBinding (config.typeMapping stack) field, marks⟩ =
        some (fieldLine field))
    (hr : ∀ relationship ∈ schema.relationships, ∀ marks, relationshipScript.textAt
        ⟨.ofMembers (relationshipView config.targetApp relationship), marks⟩ =
      some (relationshipLine relationship))
    (next : Script) :
    (each "fields" fieldScript <| each "relationships" relationshipScript next).textAt
        ⟨.object members, []⟩ =
      (next.textAt ⟨.object members, []⟩).map fun text =>
        String.join (schema.fields.map fieldLine) ++
          (String.join (schema.relationships.map relationshipLine) ++ text) := by
  rw [textAt_each (find?_model hm "fields") hf, textAt_each (find?_model hm "relationships") hr,
    Option.map_map]
  rfl

end Model

/-- A member that is dasherized is written in words and dashes. -/
theorem textAt_dasherize {place : Template.Place} {next : Script} (name : String) :
    (spell .dasherize name next).textAt place =
      ((place.find? (.member name)).join.bind Json.text?).bind fun text =>
        (next.textAt place).map (Text.kebab text ++ ·) :=
  textAt_spell rfl name

/-- A member in title case is written in words that begin with capitals. -/
theorem textAt_title {place : Template.Place} {next : Script} (name : String) :
    (spell .title name next).textAt place =
      ((place.find? (.member name)).join.bind Json.text?).bind fun text =>
        (next.textAt place).map (Text.upperCamel text ++ ·) :=
  textAt_spell rfl name

end Declaration

/-! ## Ember -/

namespace StackEmber

def quote (text : String) : String := "'" ++ text ++ "'"

/-- What is passed to an attribute. -/
def arguments (type? default? : Option String) : String :=
  ", ".intercalate ((type?.map quote).toList ++
    (default?.map fun text => "\x7b defaultValue: " ++ text ++ " \x7d").toList)

/-- The end of the line of a relationship, with its options. -/
def ending (relationship : Relationship) : String :=
  "', \x7b async: true, inverse: " ++ (relationship.inverse.map quote).getD "null" ++
    " \x7d),\n"

/-- The names that a model class imports for its relationships. -/
def imports (schema : ModelSchema) : String :=
  if schema.relationships.isEmpty then ""
  else "import \x7b " ++ ", ".intercalate (relationshipKinds schema) ++
    " \x7d from 'ember-data/relationships';\n"

/-- The head of a model class. -/
def head (schema : ModelSchema) : String :=
  "/* eslint-disable */\n// Generated from " ++ schema.applicationName ++ "/" ++ schema.modelName ++
    (". Changes will be overwritten.\nimport Model from 'ember-data/model';\n" ++
      "import attr from 'ember-data/attr';\n") ++
    imports schema ++ "\nexport default Model.extend(\x7b\n"

/-- Model classes with references in words and dashes. -/
def declaration : Declaration where
  template := "ember/model_base.js"
  before _ schema := head schema
  fieldLine name type? default? := "  " ++ name ++ ": attr(" ++ arguments type? default? ++ "),\n"
  relationshipLine app relationship :=
    "  " ++ relationship.name ++ ": " ++ relationship.kind.choose "hasMany" "belongsTo" ++ "('" ++
      Text.kebab app ++ "/" ++ Text.kebab relationship.relatedModel ++ ending relationship
  after _ := "\x7d);\n"

open Declaration

/-- The script of an attribute writes its type and its default. -/
theorem textAt_argumentScript (types : TypeMapping) (field : Field)
    (marks : List (String × Json)) (next : Script) :
    (argumentScript next).textAt ⟨fieldBinding types field, marks⟩ =
      (next.textAt ⟨fieldBinding types field, marks⟩).map
        (arguments (types.nameOf? field) (field.default.map Json.compact) ++ ·) := by
  simp only [argumentScript, quoted, textAt_lit, textAt_out, textAt_whether, textAt_done,
    find?_field, fieldView_members, TypeMapping.nameOf?]
  cases field.default <;> cases types.spellOption field.type with
  | none =>
    simp [Template.isTrue, Json.ofOption, arguments, String.append_assoc, Function.comp_def]
  | some type =>
    by_cases ht : type = "" <;>
      simp [-String.reduceAppend, ht, Template.isTrue, Json.ofOption, arguments, quote,
        String.append_assoc, Option.filter_some, Function.comp_def]

/-- The script of a relationship ends its line with the inverse, if there is one. -/
theorem textAt_inverseScript (targetApp : Option String) {relationship : Relationship}
    (h : relationship.inverse ≠ some "") (marks : List (String × Json)) :
    (inverseScript .done).textAt ⟨.ofMembers (relationshipView targetApp relationship), marks⟩ =
      some (ending relationship) := by
  unfold ending
  simp only [inverseScript, quoted, textAt_lit, textAt_out, textAt_whether, textAt_done,
    find?_relationship, relationshipView_members]
  cases hi : relationship.inverse with
  | none =>
    simp [-String.reduceAppend, Template.isTrue, Json.ofOption, String.append_assoc]
  | some inverse =>
    have hne : inverse ≠ "" := fun he => h (by rw [hi, he])
    simp [-String.reduceAppend, hne, Template.isTrue, Json.ofOption, quote, String.append_assoc]

private theorem textAt_fieldScript (types : TypeMapping) (field : Field)
    (marks : List (String × Json)) : fieldScript.textAt ⟨fieldBinding types field, marks⟩ =
      some (declaration.fieldLine field.name (types.nameOf? field)
        (field.default.map Json.compact)) := by
  simp [fieldScript, textAt_lit, textAt_out, textAt_argumentScript, textAt_done, find?_field,
    fieldView_members, declaration, String.append_assoc]

private theorem textAt_relationshipScript (targetApp : Option String) {relationship : Relationship}
    (h : relationship.inverse ≠ some "") (marks : List (String × Json)) :
    relationshipScript.textAt ⟨.ofMembers (relationshipView targetApp relationship), marks⟩ =
      some (declaration.relationshipLine (targetApp.getD relationship.app) relationship) := by
  simp only [relationshipScript, textAt_lit, textAt_out, textAt_dasherize, find?_relationship,
    relationshipView_members, textAt_inverseScript targetApp h]
  cases hk : relationship.kind <;>
    simp [hk, RelationKind.name, RelationKind.choose, Json.text?, declaration, String.append_assoc]

section Model

variable {config : Config} {stack : StackDescriptor} {schema : ModelSchema}
  {members : List (String × Json)}

/-- The template of a class of ember yields the declaration of its model. -/
theorem textAt_baseScript
    (hm : ∀ name, Entries.get? name members = Entries.get? name (modelView config stack schema))
    (hi : ∀ relationship ∈ schema.relationships, relationship.inverse ≠ some "") :
    baseScript.textAt ⟨.object members, []⟩ =
      some (declaration.text config (config.typeMapping stack) schema) := by
  have hkinds := textAt_joined ", " (find?_model hm "relationship_kinds")
  have hattributes := textAt_attributes hm (fun field _ => textAt_fieldScript _ field)
    (fun r hr => textAt_relationshipScript _ (hi r hr))
  simp only [baseScript, importScript, textAt_lit, textAt_out, textAt_whether, textAt_done,
    find?_model hm, modelView_members, hattributes, hkinds]
  change _ = some (head schema ++ String.join _ ++ String.join _ ++ "\x7d);\n")
  unfold head imports
  cases schema.relationships.isEmpty <;>
    simp only [Template.isTrue, shown_string, Option.getD_some, Option.join_some, Option.bind_some,
      Option.map_some, Bool.not_true, Bool.not_false, Bool.false_eq_true, if_true, if_false,
      String.append_assoc, String.append_empty, String.empty_append]

end Model

end StackEmber

/-! ## Ember, loaded at run time -/

namespace StackEmberDynamic

open Declaration StackEmber

/-- The head of a module with a model. -/
def head (config : Config) (schema : ModelSchema) : String :=
  "define('" ++ config.emberApp ++ "/models/" ++ schema.applicationName ++ "/" ++
    schema.modelName ++ "',\n    ['exports', 'ember-data/model', 'ember-data/attr'" ++
    (if schema.relationships.isEmpty then "" else ", 'ember-data/relationships'") ++
    "],\n    function (exports, _emberDataModel, _emberDataAttr" ++
    (if schema.relationships.isEmpty then "" else ", _emberDataRelationships") ++
    ") \x7b\n  exports['default'] = _emberDataModel['default'].extend(\x7b\n"

/-- Modules with references as they are. -/
def declaration : Declaration where
  template := "ember-dynamic/model.js"
  before := head
  fieldLine name type? default? :=
    "    " ++ name ++ ": (0, _emberDataAttr['default'])(" ++ arguments type? default? ++ "),\n"
  relationshipLine app relationship :=
    "    " ++ relationship.name ++ ": (0, _emberDataRelationships['" ++
      relationship.kind.choose "hasMany" "belongsTo" ++ "'])('" ++ app ++ "/" ++
      relationship.relatedModel ++ ending relationship
  after _ := "  \x7d);\n\x7d);\n"

private theorem textAt_fieldScript (types : TypeMapping) (field : Field)
    (marks : List (String × Json)) : fieldScript.textAt ⟨fieldBinding types field, marks⟩ =
      some (declaration.fieldLine field.name (types.nameOf? field)
        (field.default.map Json.compact)) := by
  simp [fieldScript, textAt_lit, textAt_out, textAt_argumentScript, textAt_done, find?_field,
    fieldView_members, declaration, String.append_assoc]

private theorem textAt_relationshipScript (targetApp : Option String) {relationship : Relationship}
    (h : relationship.inverse ≠ some "") (marks : List (String × Json)) :
    relationshipScript.textAt ⟨.ofMembers (relationshipView targetApp relationship), marks⟩ =
      some (declaration.relationshipLine (targetApp.getD relationship.app) relationship) := by
  simp only [relationshipScript, textAt_lit, textAt_out, find?_relationship,
    relationshipView_members, textAt_inverseScript targetApp h]
  cases hk : relationship.kind <;>
    simp [hk, RelationKind.name, RelationKind.choose, declaration, String.append_assoc]

/-- The template of a module with dynamic classes yields the declaration of its model. -/
theorem textAt_modelScript {config : Config} {stack : StackDescriptor} {schema : ModelSchema}
    {members : List (String × Json)}
    (hm : ∀ name, Entries.get? name members = Entries.get? name (modelView config stack schema))
    (hi : ∀ relationship ∈ schema.relationships, relationship.inverse ≠ some "") :
    modelScript.textAt ⟨.object members, []⟩ =
      some (declaration.text config (config.typeMapping stack) schema) := by
  have hattributes := textAt_attributes hm (fun field _ => textAt_fieldScript _ field)
    (fun r hr => textAt_relationshipScript _ (hi r hr))
  simp only [modelScript, textAt_lit, textAt_out, textAt_whether, textAt_done, find?_model hm,
    modelView_members, hattributes]
  change _ = some (head config schema ++ String.join _ ++ String.join _ ++ "  \x7d);\n\x7d);\n")
  unfold head
  cases schema.relationships.isEmpty <;>
    simp only [Template.isTrue, shown_string, Option.getD_some, Option.join_some, Option.bind_some,
      Option.map_some, Bool.not_true, Bool.not_false, Bool.false_eq_true, if_true, if_false,
      String.append_assoc, String.append_empty, String.empty_append]

end StackEmberDynamic

/-! ## MobX -/

namespace StackMobxAxios

open Declaration

/-- The initial value of a field. -/
def initial (default? : Option String) : String := (default?.map (" = " ++ ·)).getD ""

/-- The name of the store of a model. -/
def storeName (schema : ModelSchema) : String :=
  schema.applicationName ++ Text.upperCamel schema.modelName ++ "Store"

/-- The head of a model class. -/
def head (schema : ModelSchema) : String :=
  "import " ++ storeName schema ++ " from '../../stores/" ++ schema.applicationName ++
    schema.modelName ++
    "';\nimport Model from './_base';\nimport \x7b observable \x7d from 'mobx';\n\nclass " ++
    classOf schema.applicationName schema.modelName ++ "Base extends Model \x7b\n\n  store = " ++
    storeName schema ++ ";\n\n  @observable id;\n"

/-- The rest of a model class. -/
def tail (schema : ModelSchema) : String :=
  "\x7d\n\nexport default " ++ classOf schema.applicationName schema.modelName ++
    "Base;\n\n// vim: backupcopy=yes\n"

/-- Model classes with observable attributes. -/
def declaration : Declaration where
  template := "mobx-axios/model_base.js"
  before _ := head
  fieldLine name _ default? := "  @observable " ++ name ++ initial default? ++ ";\n"
  relationshipLine _ relationship :=
    "  @observable " ++ relationship.name ++ relationship.kind.choose " = []" "" ++ ";\n"
  after := tail

/-- The script of an attribute writes its default as an initial value. -/
theorem textAt_initialScript (types : TypeMapping) (field : Field)
    (marks : List (String × Json)) (next : Script) :
    (initialScript next).textAt ⟨fieldBinding types field, marks⟩ =
      (next.textAt ⟨fieldBinding types field, marks⟩).map
        (initial (field.default.map Json.compact) ++ ·) := by
  simp only [initialScript, textAt_lit, textAt_out, textAt_whether, textAt_done, find?_field,
    fieldView_members]
  cases field.default <;> simp [Template.isTrue, Json.ofOption, initial, String.append_assoc]

private theorem textAt_fieldScript (types : TypeMapping) (field : Field)
    (marks : List (String × Json)) : fieldScript.textAt ⟨fieldBinding types field, marks⟩ =
      some (declaration.fieldLine field.name (types.nameOf? field)
        (field.default.map Json.compact)) := by
  simp [fieldScript, textAt_lit, textAt_out, textAt_initialScript, textAt_done, find?_field,
    fieldView_members, declaration, String.append_assoc]

private theorem textAt_relationshipScript (targetApp : Option String) (relationship : Relationship)
    (marks : List (String × Json)) :
    relationshipScript.textAt ⟨.ofMembers (relationshipView targetApp relationship), marks⟩ =
      some (declaration.relationshipLine (targetApp.getD relationship.app) relationship) := by
  simp only [relationshipScript, textAt_lit, textAt_out, textAt_whether, textAt_done,
    find?_relationship, relationshipView_members]
  cases hk : relationship.kind <;>
    simp [hk, Template.isTrue, RelationKind.isCollection, RelationKind.choose, declaration,
      String.append_assoc]

/-- The template of an observable class yields the declaration of its model. -/
theorem textAt_baseScript {config : Config} {stack : StackDescriptor} {schema : ModelSchema}
    {members : List (String × Json)}
    (hm : ∀ name, Entries.get? name members = Entries.get? name (modelView config stack schema)) :
    baseScript.textAt ⟨.object members, []⟩ =
      some (declaration.text config (config.typeMapping stack) schema) := by
  have hattributes := textAt_attributes hm (fun field _ => textAt_fieldScript _ field)
    (fun r _ => textAt_relationshipScript _ r)
  simp only [baseScript, storeScript, textAt_lit, textAt_out, textAt_title, textAt_done,
    find?_model hm, modelView_members, hattributes]
  change _ = some (head schema ++ String.join _ ++ String.join _ ++ tail schema)
  unfold head tail storeName
  simp only [shown_string, Json.text?, Option.join_some, Option.bind_some, Option.map_some,
    String.append_assoc, String.append_empty]

end StackMobxAxios

/-! ## Vuex -/

namespace StackVuexOrmAxios

open Declaration

/-- The head of a model class. -/
def head (schema : ModelSchema) : String :=
  ("/* eslint-disable */\nimport Model from '@/models/Base';\n\n" ++ "export default class ") ++
    classOf schema.applicationName schema.modelName ++
    "Base extends Model \x7b\n  static entity = '" ++ schema.endpoint ++
    "';\n\n  static fields() \x7b\n    return \x7b\n      id: this.attr(null),\n"

/-- Model classes with typed attributes. -/
def declaration : Declaration where
  template := "vuexorm-axios/model_base.js"
  before _ := head
  fieldLine name type? default? :=
    "      " ++ name ++ ": this." ++ type?.getD "attr" ++ "(" ++ default?.getD "" ++ "),\n"
  relationshipLine _ relationship :=
    "      " ++ relationship.name ++ ": this.attr(" ++
      relationship.kind.choose "[]" "null" ++ "),\n"
  after _ := "    \x7d;\n  \x7d\n\x7d\n"

private theorem textAt_fieldScript (types : TypeMapping) (field : Field)
    (marks : List (String × Json)) : fieldScript.textAt ⟨fieldBinding types field, marks⟩ =
      some (declaration.fieldLine field.name (types.nameOf? field)
        (field.default.map Json.compact)) := by
  simp only [fieldScript, textAt_lit, textAt_out, textAt_whether, textAt_done, find?_field,
    fieldView_members, TypeMapping.nameOf?]
  cases field.default <;> cases types.spellOption field.type with
  | none => simp [Template.isTrue, Json.ofOption, declaration, String.append_assoc]
  | some type =>
    by_cases ht : type = "" <;>
      simp [ht, Template.isTrue, Json.ofOption, declaration, String.append_assoc,
        Option.filter_some]

private theorem textAt_relationshipScript (targetApp : Option String) (relationship : Relationship)
    (marks : List (String × Json)) :
    relationshipScript.textAt ⟨.ofMembers (relationshipView targetApp relationship), marks⟩ =
      some (declaration.relationshipLine (targetApp.getD relationship.app) relationship) := by
  simp only [relationshipScript, textAt_lit, textAt_out, textAt_whether, textAt_done,
    find?_relationship, relationshipView_members]
  cases hk : relationship.kind <;>
    simp [hk, Template.isTrue, RelationKind.isCollection, RelationKind.choose, declaration,
      String.append_assoc]

/-- The template of a class with a map of fields yields the declaration of its model. -/
theorem textAt_baseScript {config : Config} {stack : StackDescriptor} {schema : ModelSchema}
    {members : List (String × Json)}
    (hm : ∀ name, Entries.get? name members = Entries.get? name (modelView config stack schema)) :
    baseScript.textAt ⟨.object members, []⟩ =
      some (declaration.text config (config.typeMapping stack) schema) := by
  have hattributes := textAt_attributes hm (fun field _ => textAt_fieldScript _ field)
    (fun r _ => textAt_relationshipScript _ r)
  simp only [baseScript, textAt_lit, textAt_out, textAt_done, find?_model hm, modelView_members,
    hattributes]
  change _ = some (head schema ++ String.join _ ++ String.join _ ++ "    \x7d;\n  \x7d\n\x7d\n")
  unfold head
  simp only [shown_string, Option.join_some, Option.bind_some, Option.map_some,
    String.append_assoc, String.append_empty]

end StackVuexOrmAxios

/-! ## Angular -/

namespace StackAngular2

open Declaration

/-- An attribute is taken over from an answer. -/
def assignment (name : String) : String := "      this." ++ name ++ " = json." ++ name ++ ";\n"

/-- The head of a model class. -/
def head (schema : ModelSchema) : String :=
  "export default class " ++ classOf schema.applicationName schema.modelName ++
    "Base \x7b\n  id: string;\n"

/-- The constructor of a model class. -/
def tail (schema : ModelSchema) : String :=
  "\n  constructor(json: any) \x7b\n    if (json) \x7b\n      this.id = json.id;\n" ++
    String.join (schema.fields.map fun field => assignment field.name) ++
    String.join (schema.relationships.map fun relationship => assignment relationship.name) ++
    "    \x7d\n  \x7d\n\x7d\n"

/-- Model classes with typed members. -/
def declaration : Declaration where
  template := "angular2/model_base.ts"
  before _ := head
  fieldLine name type? default? :=
    "  " ++ name ++ (type?.map (": " ++ ·)).getD "" ++ StackMobxAxios.initial default? ++ ";\n"
  relationshipLine _ relationship :=
    "  " ++ relationship.name ++ ": string" ++ relationship.kind.choose "[]" "" ++ ";\n"
  after := tail

private theorem textAt_fieldScript (types : TypeMapping) (field : Field)
    (marks : List (String × Json)) : fieldScript.textAt ⟨fieldBinding types field, marks⟩ =
      some (declaration.fieldLine field.name (types.nameOf? field)
        (field.default.map Json.compact)) := by
  simp only [fieldScript, textAt_lit, textAt_out, textAt_whether, textAt_done,
    StackMobxAxios.textAt_initialScript, find?_field, fieldView_members, TypeMapping.nameOf?]
  cases types.spellOption field.type with
  | none => simp [Template.isTrue, Json.ofOption, declaration, String.append_assoc]
  | some type =>
    by_cases ht : type = "" <;>
      simp [ht, Template.isTrue, Json.ofOption, declaration, String.append_assoc,
        Option.filter_some]

private theorem textAt_relationshipScript (targetApp : Option String) (relationship : Relationship)
    (marks : List (String × Json)) :
    relationshipScript.textAt ⟨.ofMembers (relationshipView targetApp relationship), marks⟩ =
      some (declaration.relationshipLine (targetApp.getD relationship.app) relationship) := by
  simp only [relationshipScript, textAt_lit, textAt_out, textAt_whether, textAt_done,
    find?_relationship, relationshipView_members]
  cases hk : relationship.kind <;>
    simp [hk, Template.isTrue, RelationKind.isCollection, RelationKind.choose, declaration,
      String.append_assoc]

/-- The template of a class with typed members yields the declaration of its model. -/
theorem textAt_baseScript {config : Config} {stack : StackDescriptor} {schema : ModelSchema}
    {members : List (String × Json)}
    (hm : ∀ name, Entries.get? name members = Entries.get? name (modelView config stack schema)) :
    baseScript.textAt ⟨.object members, []⟩ =
      some (declaration.text config (config.typeMapping stack) schema) := by
  have hattributes := textAt_attributes hm (fun field _ => textAt_fieldScript _ field)
    (fun r _ => textAt_relationshipScript _ r)
  have hfield : ∀ (types : TypeMapping) (field : Field) (marks : List (String × Json)),
      assignmentScript.textAt ⟨fieldBinding types field, marks⟩ =
        some (assignment field.name) := by
    intro types field marks
    simp [assignmentScript, textAt_lit, textAt_out, textAt_done, find?_field, fieldView_members,
      assignment, String.append_assoc]
  have hrelationship : ∀ (targetApp : Option String) (relationship : Relationship)
      (marks : List (String × Json)), assignmentScript.textAt
        ⟨.ofMembers (relationshipView targetApp relationship), marks⟩ =
      some (assignment relationship.name) := by
    intro targetApp relationship marks
    simp [assignmentScript, textAt_lit, textAt_out, textAt_done, find?_relationship,
      relationshipView_members, assignment, String.append_assoc]
  have hassignments := textAt_attributes hm (fun field _ => hfield _ field)
    (fun r _ => hrelationship _ r)
  simp only [baseScript, textAt_lit, textAt_out, textAt_done, find?_model hm, modelView_members,
    hattributes, hassignments]
  change _ = some (head schema ++ String.join _ ++ String.join _ ++ tail schema)
  unfold head tail
  simp only [shown_string, Option.join_some, Option.bind_some, Option.map_some,
    String.append_assoc, String.append_empty]

end StackAngular2

end ModelCodegen
