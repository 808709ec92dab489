import ModelCodegen.Generation.Context
import ModelCodegen.Json.Printer
import ModelCodegen.Name.Spelling
import ModelCodegen.Schema.Model

/-!
# Bindings of a model

The names under which a template finds a model: its own names and its class, where it is served, and
its attributes.  These names mean the model whatever the context says; the context comes through
where the model has nothing to say.
-/

namespace ModelCodegen

/-- What a template sees of a field. -/
def fieldBinding (types : TypeMapping) (field : Field) : Json :=
  .ofMembers [
    ("name", .string field.name),
    ("type", .ofOption (types.spellOption field.type)),
    ("has_default", .bool field.hasDefault),
    ("default", .ofOption (field.default.map Json.compact))]

/-- What a template sees of a relationship.  It points at the given application, if there is one,
instead of its own. -/
def relationshipBinding (targetApp : Option String) (relationship : Relationship) :
    Except Error Json := do
  let app := targetApp.getD relationship.app
  return .ofMembers [
    ("name", .string relationship.name),
    ("kind", .string relationship.kind.name),
    ("app", .string app),
    ("related_model", .string relationship.relatedModel),
    ("related_class", .string (← Name.className app relationship.relatedModel)),
    ("inverse", .ofOption relationship.inverse),
    ("many", .bool relationship.kind.isCollection)]

/-- The members of a list without those that occurred before. -/
def distinctFrom (seen : List String) : List String → List String
  | [] => []
  | name :: rest =>
    if seen.contains name then distinctFrom seen rest else name :: distinctFrom (name :: seen) rest

/-- The kinds of relationships that a model has, in the order of their first use. -/
def relationshipKinds (schema : ModelSchema) : List String :=
  distinctFrom [] (schema.relationships.map (·.kind.name))

/-- The address of a model's collection, where the address of the interface is known. -/
def addressBinding (context : RenderContext) (schema : ModelSchema) :
    Except Error (List (String × Json)) :=
  match context.text? "api_base" with
  | none => .ok []
  | some base => do
    let address ← Name.endpointPath base schema.endpoint context.endpointStyle
    return [("endpoint_url", .string address)]

/-- The names that mean the model. -/
def modelBindings (context : RenderContext) (schema : ModelSchema) :
    Except Error (List (String × Json)) := do
  let className ← Name.className schema.applicationName schema.modelName
  let address ← addressBinding context schema
  let relationships ←
    schema.relationships.mapM (relationshipBinding (context.text? "target_app"))
  let container := schema.paginationContainer.toList.map fun name =>
    ("pagination_container", Json.string name)
  return [
    ("application_name", .string schema.applicationName),
    ("model_name", .string schema.modelName),
    ("class_name", .string className),
    ("endpoint", .string schema.endpoint),
    ("has_relationships", .bool !schema.relationships.isEmpty),
    ("relationship_kinds", .array ((relationshipKinds schema).map .string)),
    ("fields", .array (schema.fields.map (fieldBinding context.types))),
    ("relationships", .array relationships)] ++ address ++ container

/-- What the template of a model sees. -/
def modelData (context : RenderContext) (schema : ModelSchema) : Except Error Json := do
  return .object (Entries.insertAll context.data (← modelBindings context schema))

/-- What the template of an aggregate sees. -/
def aggregateData (context : RenderContext) : Json := .object context.data

/-- What the template of an aggregate sees of one of its models. -/
def itemBinding (schema : ModelSchema) (importPath : String) : Except Error Json := do
  return .ofMembers [
    ("application_name", .string schema.applicationName),
    ("model_name", .string schema.modelName),
    ("class_name", .string (← Name.className schema.applicationName schema.modelName)),
    ("endpoint", .string schema.endpoint),
    ("import_path", .string importPath)]

end ModelCodegen
