import ModelCodegen.Target

/-!
# Errors

Every way in which loading, generating or writing can fail, as a cause with the values it is about.
The wording is in `Error.message?`.  A cause found by a reader of a document format or by the
template engine has no wording of its own here: the cause says where it arose and no more.
-/

namespace ModelCodegen

/-- What is wrong with an identifier. -/
inductive IdentifierFault where
  | empty
  | forbidden (c : Char)
  deriving DecidableEq, Repr

/-- What is wrong with a path rule. -/
inductive PathRuleFault where
  | empty
  | absolute
  | unavailable (placeholder : String) (scope : ArtifactScope)
  deriving DecidableEq, Repr

/-- What is wrong with the schema of a model. -/
inductive SchemaFault where
  | noApplicationName
  | noModelName
  | noEndpoint
  | unnamedAttribute
  | repeatedAttribute (name : String)
  | noRelatedModel (relationship : String)
  | repeatedModel
  | missingDefault (field : String)
  | unwantedDefault (field : String)
  | unknownKind (relationship kind : String)
  deriving DecidableEq, Repr

/-- What is wrong with a template body. -/
inductive TemplateFault where
  /-- The template is referred to, and there is no body of that name. -/
  | absent
  /-- The body is not a template. -/
  | malformed
  deriving DecidableEq, Repr

/-- What is wrong with the settings or the choices of a run. -/
inductive ConfigFault where
  /-- The document does not read as settings. -/
  | unreadable
  | badName (setting name : String) (fault : IdentifierFault)
  | unknownStack (key : String)
  | noTemplateDirectory (path : String)
  | noSchemaDocument
  | noStackChosen
  /-- The fault was found in a settings file. -/
  | inFile (path : String) (fault : ConfigFault)
  deriving DecidableEq, Repr

/-- Why the file system refused a request. -/
inductive FileFault where
  | notFound
  | isADirectory
  | notADirectory
  | alreadyExists
  /-- The file is not UTF-8 text. -/
  | invalidData
  /-- The system gives another reason. -/
  | refused
  deriving DecidableEq, Repr

/-- The causes of failure. -/
inductive Error where
  | invalidIdentifier (name : String) (fault : IdentifierFault)
  | unknownTarget (stack : StackId) (artifact : ArtifactKind)
  | missingKey (template key : String)
  | badTemplate (template : String) (fault : TemplateFault)
  /-- Rendering failed for a reason other than an absent binding. -/
  | renderFailed (template : String)
  /-- Without an artifact it is the whole stack that is registered twice. -/
  | duplicateRegistration (stack : StackId) (artifact : Option ArtifactKind)
  | invalidPathRule (pattern : String) (fault : PathRuleFault)
  | pathCollision (path : String)
  | invalidSchema (model : String) (fault : SchemaFault)
  /-- A schema document does not read as a list of models. -/
  | unreadableSchemas
  | unknownFormat (path : String)
  | config (fault : ConfigFault)
  | readFailed (path : String) (fault : FileFault)
  | writeFailed (path : String) (fault : FileFault)
  deriving DecidableEq, Repr

namespace IdentifierFault

def message : IdentifierFault → String
  | empty => "identifier is empty"
  | forbidden c => "character '" ++ c.toString ++ "' is not allowed"

/-- The whole sentence about a name with this fault. -/
def sentence (name : String) (fault : IdentifierFault) : String :=
  "Invalid identifier '" ++ name ++ "': " ++ fault.message

end IdentifierFault

namespace PathRuleFault

def message : PathRuleFault → String
  | empty => "pattern is empty"
  | absolute => "output paths must be relative"
  | unavailable placeholder scope =>
    "placeholder '\x7b" ++ placeholder ++ "\x7d' is not available for " ++ scope.name ++ " scope"

end PathRuleFault

namespace SchemaFault

def message : SchemaFault → String
  | noApplicationName => "application_name is empty"
  | noModelName => "model_name is empty"
  | noEndpoint => "endpoint is missing"
  | unnamedAttribute => "attribute with an empty name"
  | repeatedAttribute name => "attribute '" ++ name ++ "' is declared more than once"
  | noRelatedModel relationship => "relationship '" ++ relationship ++ "' has no related model"
  | repeatedModel => "model is declared more than once"
  | missingDefault field => "field '" ++ field ++ "' sets has_default without a default"
  | unwantedDefault field => "field '" ++ field ++ "' has a default but has_default is false"
  | unknownKind relationship kind =>
    "relationship '" ++ relationship ++ "' has kind '" ++ kind ++
      "', expected belongsTo or hasMany"

end SchemaFault

namespace ConfigFault

/-- The wording, where the fault has one. -/
def message? : ConfigFault → Option String
  | unreadable => none
  | badName setting name fault => some (setting ++ ": " ++ fault.sentence name)
  | unknownStack key => some ("[stacks." ++ key ++ "] names an unknown stack")
  | noTemplateDirectory path => some ("template directory '" ++ path ++ "' does not exist")
  | noSchemaDocument => some "--schemas is required"
  | noStackChosen =>
    some ("no target stack selected; use --stack <ID> or --all-stacks (known: " ++
      ", ".intercalate (StackId.all.map StackId.name) ++ ")")
  | inFile path fault => fault.message?.map fun text => path ++ ": " ++ text

end ConfigFault

namespace Error

/-- The wording of an error, where it has one. -/
def message? : Error → Option String
  | invalidIdentifier name fault => some (fault.sentence name)
  | unknownTarget stack artifact =>
    some ("No template registered for stack '" ++ stack.name ++ "' and artifact '" ++
      artifact.name ++ "'")
  | missingKey template key =>
    some ("Template '" ++ template ++ "' references missing context key '" ++ key ++ "'")
  | badTemplate template .absent =>
    some ("Template '" ++ template ++ "' is malformed: no template body is defined")
  | badTemplate _ .malformed => none
  | renderFailed _ => none
  | duplicateRegistration stack artifact =>
    some ("Stack '" ++ stack.name ++ "' registers artifact '" ++
      (artifact.map ArtifactKind.name).getD "*" ++ "' more than once")
  | invalidPathRule pattern fault =>
    some ("Invalid path rule '" ++ pattern ++ "': " ++ fault.message)
  | pathCollision path => some ("Output path '" ++ path ++ "' is produced more than once")
  | invalidSchema model fault =>
    some ("Invalid schema for '" ++ model ++ "': " ++ fault.message)
  | unreadableSchemas => none
  | unknownFormat path =>
    some ("Failed to parse schema document: cannot tell the format of '" ++ path ++
      "' (expected .json, .yaml or .yml)")
  | config fault => fault.message?.map ("Invalid configuration: " ++ ·)
  | readFailed _ _ => none
  | writeFailed _ _ => none

/-- The name of a kind of error, in reports. -/
def name : Error → String
  | invalidIdentifier .. => "InvalidIdentifier"
  | unknownTarget .. => "UnknownTarget"
  | missingKey .. => "MissingContextKey"
  | badTemplate .. => "TemplateSyntaxError"
  | renderFailed .. => "Render"
  | duplicateRegistration .. => "DuplicateRegistration"
  | invalidPathRule .. => "InvalidPathRule"
  | pathCollision .. => "PathCollision"
  | invalidSchema .. => "Schema"
  | unreadableSchemas | unknownFormat .. => "ParseError"
  | config .. => "ConfigError"
  | readFailed .. => "ReadError"
  | writeFailed .. => "WriteError"

end Error

end ModelCodegen
