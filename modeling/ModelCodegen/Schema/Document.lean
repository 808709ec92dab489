import ModelCodegen.Schema.JsonReader
import ModelCodegen.Schema.YamlReader

/-!
# Schema documents

A schema document is a list of model definitions in JSON or in YAML.  Which of the two a file
holds, its extension tells.
-/

namespace ModelCodegen

/-- The formats of schema documents. -/
inductive SchemaFormat where
  | json
  | yaml
  deriving DecidableEq, Repr

namespace SchemaFormat

/-- The name of a format. -/
def name : SchemaFormat → String
  | json => "json"
  | yaml => "yaml"

/-- The definitions in a document. -/
def readDefinitions (format : SchemaFormat) (document : String) :
    Except Error (List ModelDefinition) :=
  let definitions? := match format with
    | json => Json.Tree.read? (Json.Tree.list Json.Tree.modelDefinition) document
    | yaml => Yaml.Reader.read? (Yaml.Reader.list Yaml.Reader.modelDefinition) document
  match definitions? with
  | some definitions => .ok definitions
  | none => .error .unreadableSchemas

/-- The single definition in a document. -/
def readDefinition (format : SchemaFormat) (document : String) : Except Error ModelDefinition :=
  let definition? := match format with
    | json => Json.Tree.read? Json.Tree.modelDefinition document
    | yaml => Yaml.Reader.read? Yaml.Reader.modelDefinition document
  match definition? with
  | some definition => .ok definition
  | none => .error .unreadableSchemas

end SchemaFormat

/-- The schemas of a document. -/
def parseSchemas (format : SchemaFormat) (document : String) : Except Error SchemaSet := do
  SchemaSet.ofDefinitions (← format.readDefinitions document)

end ModelCodegen
