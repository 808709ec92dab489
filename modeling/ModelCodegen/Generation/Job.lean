import ModelCodegen.Config.Settings
import ModelCodegen.Generation.Artifact
import ModelCodegen.Generation.Binding
import ModelCodegen.Schema.Set
import ModelCodegen.Stack.Registry

/-!
# Jobs of a run

A run is a list of jobs, one for each artifact of each stack and what it is generated for: first
every model with the artifacts of models, then every application with those of applications, then
those of the run.  A stack that is not registered has a job for every kind of artifact, and each of
them fails.  A job of a registered stack holds the artifact itself, which is what looking up its
kind in the registry leads to.
-/

namespace ModelCodegen

/-- What an artifact is generated from. -/
inductive Subject where
  | model (schema : ModelSchema)
  | application (group : ApplicationGroup)
  | run (schemas : List ModelSchema)
  deriving Repr

/-- One artifact to be generated. -/
inductive Job where
  | unregistered (stack : StackId) (kind : ArtifactKind)
  | produce (stack : StackDescriptor) (registration : Registration) (subject : Subject)
  deriving Repr

/-- The application of a subject. -/
def Subject.application? : Subject → Option String
  | model schema => some schema.applicationName
  | application group => some group.name
  | run _ => none

/-- The model of a subject. -/
def Subject.model? : Subject → Option String
  | model schema => some schema.modelName
  | application _ | run _ => none

namespace Job

/-- Where a job belongs. -/
def coordinate : Job → Coordinate
  | unregistered stack kind => { stack := stack, artifact := kind }
  | produce stack registration subject =>
    { stack := stack.id
      artifact := registration.kind
      application := subject.application?
      model := subject.model? }

/-- The jobs of a registered stack. -/
def ofStack (stack : StackDescriptor) (set : SchemaSet) : List Job :=
  let forSubject (scope : ArtifactScope) (subject : Subject) :=
    (stack.inScope scope).map fun registration => produce stack registration subject
  set.schemas.flatMap (fun schema => forSubject .model (.model schema)) ++
    set.applications.flatMap (fun group => forSubject .application (.application group)) ++
    forSubject .run (.run set.schemas)

/-- The jobs of stacks, stack by stack. -/
def ofStacks (registry : Registry) (set : SchemaSet) (ids : List StackId) : List Job :=
  ids.flatMap fun id =>
    match registry.stack? id with
    | some stack => ofStack stack set
    | none => ArtifactKind.all.map (unregistered id)

/-! ## Producing an artifact -/

/-- What all artifacts of a stack are rendered with. -/
def stackContext (config : Config) (stack : StackDescriptor) : RenderContext :=
  let context : RenderContext :=
    { types := config.typeMapping stack, endpointStyle := config.endpointStyle stack }
  context
    |>.bind "api_base" (.string (Text.trimEnd Name.isSlash config.apiBase))
    |>.bind "ember_app" (.string config.emberApp)
    |>.bind "relationship_imports" (.bool (config.settingsOf stack.id).relationshipImports)
    |>.bind "pagination_container" (.ofOption config.paginationContainer)
    |>.bind "target_app" (.ofOption config.targetApp)

/-- What an aggregate sees of one of its models: it is imported from where the rule says. -/
def aggregateItem (itemImport : Option PathRule) (schema : ModelSchema) : Except Error Json := do
  let importPath ← match itemImport with
    | some rule => rule.resolve <$> PathVars.ofModel schema.applicationName schema.modelName
    | none => pure ""
  itemBinding schema importPath

/-- Render an aggregate of models. -/
def renderAggregate (templates : TemplateCollection) (context : RenderContext)
    (registration : Registration) (schemas : List ModelSchema) : Except Error String := do
  let items ← schemas.mapM (aggregateItem registration.itemImport)
  templates.render registration.template (aggregateData (context.bind "items" (.array items)))

/-- The path and the text of an artifact. -/
def render (templates : TemplateCollection) (context : RenderContext)
    (registration : Registration) : Subject → Except Error (String × String)
  | .model schema => do
    let vars ← PathVars.ofModel schema.applicationName schema.modelName
    let data ← modelData context schema
    return (registration.path.resolve vars, ← templates.render registration.template data)
  | .application group => do
    let vars ← PathVars.ofApplication group.name
    let context := context.bind "application_name" (.string group.name)
    return (registration.path.resolve vars,
      ← renderAggregate templates context registration group.models)
  | .run schemas => do
    return (registration.path.resolve .ofRun,
      ← renderAggregate templates context registration schemas)

/-- Do a job. -/
def attempt (templates : TemplateCollection) (config : Config) (job : Job) :
    Except Failure Artifact :=
  job.coordinate.outcome <|
    match job with
    | unregistered stack kind => .error (.unknownTarget stack kind)
    | produce stack registration subject => do
      let (path, content) ←
        render templates (stackContext config stack) registration subject
      return {
        toCoordinate := job.coordinate
        path := path
        content := content
        policy := registration.policy }

end Job

end ModelCodegen
