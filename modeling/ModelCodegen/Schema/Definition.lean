import ModelCodegen.Name.Identifier
import ModelCodegen.Name.Plural
import ModelCodegen.Schema.Set

/-!
# Model definitions

A definition is a model as a document states it, before any of it is checked.  Converting it settles
the defaults of its fields and the kinds of its relationships and builds the schema.  Preparing it
for a run comes before that: names must be identifiers, the primary key `id` is no field, and a
model without an endpoint is served below its application under its plural.
-/

namespace ModelCodegen

/-- A field as a document states it. -/
structure FieldDefinition where
  name : String
  type : Option FieldType := none
  hasDefault : Option Bool := none
  default : Option Json := none
  deriving Repr

/-- A relationship as a document states it. -/
structure RelationshipDefinition where
  name : String
  kind : String
  app : String
  relatedModel : String
  inverse : Option String := none
  deriving DecidableEq, Repr

/-- A model as a document states it. -/
structure ModelDefinition where
  applicationName : String
  modelName : String
  fields : List FieldDefinition := []
  relationships : List RelationshipDefinition := []
  endpoint : Option String := none
  paginationContainer : Option String := none
  deriving Repr

/-- What is wrong with the default of a field: it is announced and missing, or given and denied. -/
def FieldDefinition.fault? (definition : FieldDefinition) : Option SchemaFault :=
  match definition.hasDefault, definition.default with
  | some true, none => some (.missingDefault definition.name)
  | some false, some _ => some (.unwantedDefault definition.name)
  | _, _ => none

/-- The field of a definition, in the model of the given key. -/
def FieldDefinition.toField (key : String) (definition : FieldDefinition) : Except Error Field :=
  match definition.fault? with
  | some fault => .error (.invalidSchema key fault)
  | none => .ok ⟨definition.name, definition.type, definition.default⟩

/-- An attribute that really points back: empty names and names ending in `+` switch it off. -/
def namesInverse (inverse : String) : Bool :=
  inverse != "" && inverse.toList.getLast? != some '+'

/-- The relationship of a definition, in the model of the given key. -/
def RelationshipDefinition.toRelationship (key : String) (definition : RelationshipDefinition) :
    Except Error Relationship :=
  match RelationKind.ofName? definition.kind with
  | none => .error (.invalidSchema key (.unknownKind definition.name definition.kind))
  | some kind => .ok
    { name := definition.name
      kind := kind
      app := definition.app
      relatedModel := definition.relatedModel
      inverse := definition.inverse.filter namesInverse }

namespace ModelDefinition

def key (definition : ModelDefinition) : String :=
  modelKey definition.applicationName definition.modelName

/-- The schema of a definition. -/
def toSchema (definition : ModelDefinition) : Except Error ModelSchema := do
  let fields ← definition.fields.mapM (·.toField definition.key)
  let relationships ← definition.relationships.mapM (·.toRelationship definition.key)
  SchemaDraft.build
    { applicationName := definition.applicationName
      modelName := definition.modelName
      fields := fields
      relationships := relationships
      endpoint := definition.endpoint
      paginationContainer := definition.paginationContainer }

/-- The name of the primary key, which every stack declares by itself. -/
def primaryKey : String := "id"

/-- The fields besides the primary key. -/
def ownFields (definition : ModelDefinition) : List FieldDefinition :=
  definition.fields.filter (·.name != primaryKey)

/-- Accept a definition whose names are all identifiers. -/
def checkNames (definition : ModelDefinition) : Except Error Unit := do
  Name.checkIdentifier definition.applicationName
  Name.checkIdentifier definition.modelName
  definition.ownFields.forM fun field => Name.checkIdentifier field.name
  definition.relationships.forM fun relationship => do
    Name.checkIdentifier relationship.name
    Name.checkIdentifier relationship.app
    Name.checkIdentifier relationship.relatedModel

/-- Where a model is served that does not say so. -/
def derivedEndpoint (definition : ModelDefinition) : String :=
  definition.applicationName ++ "/" ++ Name.pluralize definition.modelName

/-- The schema of a definition for a run. -/
def prepare (definition : ModelDefinition) : Except Error ModelSchema := do
  definition.checkNames
  toSchema { definition with
    fields := definition.ownFields
    endpoint := definition.endpoint.getD definition.derivedEndpoint }

end ModelDefinition

/-- The schema set of definitions for a run. -/
def SchemaSet.ofDefinitions (definitions : List ModelDefinition) : Except Error SchemaSet := do
  SchemaSet.ofList (← definitions.mapM ModelDefinition.prepare)

end ModelCodegen
