import ModelCodegen.Error
import ModelCodegen.Schema.Attribute
import ModelCodegen.Text.Blank

/-!
# Model schemas

The schema of a model names its application, lists its attributes in declaration order and says
where its records are served.  A draft collects these parts in any order; building it checks them.
-/

namespace ModelCodegen

/-- The schema of one model. -/
structure ModelSchema where
  applicationName : String
  modelName : String
  fields : List Field
  relationships : List Relationship
  /-- The path of the model's collection. -/
  endpoint : String
  /-- The member of a paged answer that holds the records. -/
  paginationContainer : Option String
  deriving Repr

/-- The name of a model together with its application, in messages and listings. -/
def modelKey (application model : String) : String := application ++ "/" ++ model

/-- The application and the model in one text. -/
def ModelSchema.key (schema : ModelSchema) : String :=
  modelKey schema.applicationName schema.modelName

/-- A schema in the making. -/
structure SchemaDraft where
  applicationName : String
  modelName : String
  fields : List Field := []
  relationships : List Relationship := []
  endpoint : Option String := none
  paginationContainer : Option String := none
  deriving Repr

namespace SchemaDraft

/-- Serve the records at an endpoint. -/
def withEndpoint (draft : SchemaDraft) (endpoint : String) : SchemaDraft :=
  { draft with endpoint := some endpoint }

/-- Take the records of a paged answer from a member of it. -/
def withPaginationContainer (draft : SchemaDraft) (container : String) : SchemaDraft :=
  { draft with paginationContainer := some container }

/-- Declare fields after those declared so far. -/
def addFields (draft : SchemaDraft) (fields : List Field) : SchemaDraft :=
  { draft with fields := draft.fields ++ fields }

/-- Declare a field after those declared so far. -/
def addField (draft : SchemaDraft) (field : Field) : SchemaDraft := draft.addFields [field]

/-- Declare relationships after those declared so far. -/
def addRelationships (draft : SchemaDraft) (relationships : List Relationship) : SchemaDraft :=
  { draft with relationships := draft.relationships ++ relationships }

/-- Declare a relationship after those declared so far. -/
def addRelationship (draft : SchemaDraft) (relationship : Relationship) : SchemaDraft :=
  draft.addRelationships [relationship]

def key (draft : SchemaDraft) : String := modelKey draft.applicationName draft.modelName

/-- The names of all attributes, fields first. -/
def attributeNames (draft : SchemaDraft) : List String :=
  draft.fields.map Field.name ++ draft.relationships.map Relationship.name

/-- An endpoint with something in it besides slashes. -/
def isUsableEndpoint (endpoint : String) : Bool := endpoint.toList.any (· != '/')

/-- The first name that is empty or was seen before. -/
def attributeFault? (seen : List String) : List String → Option SchemaFault
  | [] => none
  | name :: rest =>
    if name = "" then some .unnamedAttribute
    else if seen.contains name then some (.repeatedAttribute name)
    else attributeFault? (name :: seen) rest

/-- The first relationship that points at no model. -/
def relationFault? (relationships : List Relationship) : Option SchemaFault :=
  (relationships.find? fun r => r.app == "" || r.relatedModel == "").map fun r =>
    .noRelatedModel r.name

/-- What keeps a draft from being a schema: the first fault in the order names, endpoint, attribute
names, related models. -/
def fault? (draft : SchemaDraft) : Option SchemaFault :=
  if draft.applicationName = "" then some .noApplicationName
  else if draft.modelName = "" then some .noModelName
  else if !draft.endpoint.any isUsableEndpoint then some .noEndpoint
  else attributeFault? [] draft.attributeNames <|> relationFault? draft.relationships

/-- The schema of a draft. -/
def build (draft : SchemaDraft) : Except Error ModelSchema :=
  match draft.fault? with
  | some fault => .error (.invalidSchema draft.key fault)
  | none => .ok
    { applicationName := draft.applicationName
      modelName := draft.modelName
      fields := draft.fields
      relationships := draft.relationships
      endpoint := draft.endpoint.getD ""
      paginationContainer := draft.paginationContainer }

/-- Names have no fault exactly when none is empty and none occurs twice. -/
theorem attributeFault?_eq_none_iff {seen names : List String} :
    attributeFault? seen names = none ↔
      (∀ name ∈ names, name ≠ "" ∧ name ∉ seen) ∧ names.Nodup := by
  induction names generalizing seen with
  | nil => simp [attributeFault?]
  | cons name rest ih =>
    by_cases hn : name = ""
    · simp [attributeFault?, hn]
    · by_cases hs : name ∈ seen
      · simp [attributeFault?, hn, hs]
      · simp only [attributeFault?, hn, List.contains_iff_mem, hs, if_false, ih,
          List.mem_cons, not_or, List.nodup_cons, forall_eq_or_imp]
        grind

end SchemaDraft

end ModelCodegen
