import ModelCodegen.Stack.Registration

/-!
# Settings

The settings of a run: where the interface is served, what the generated code is called by, where it
goes, and what differs from the description of a stack.  A stack without settings of its own has
the default ones.
-/

namespace ModelCodegen

/-- The settings of one stack. -/
structure StackSettings where
  /-- Whether unit tests name the related models that they need. -/
  relationshipImports : Bool := true
  endpointSuffix : Option String := none
  trailingSlash : Option Bool := none
  /-- How field types are spelled, by tag. -/
  typeMapping : List (String × String) := []
  deriving DecidableEq, Repr

/-- The settings of a run. -/
structure Config where
  /-- The address of the interface. -/
  apiBase : String := "/api"
  /-- The name space of modules that are loaded while an application runs. -/
  emberApp : String := "djember"
  outputDir : String := "../front"
  /-- A directory of templates that replace built-in ones. -/
  templateDir : Option String := none
  /-- The member of paged answers that holds the records, for models that name none. -/
  paginationContainer : Option String := none
  /-- The application that all relationships point at. -/
  targetApp : Option String := none
  /-- The settings of single stacks, by name. -/
  stackSettings : List (String × StackSettings) := []
  deriving DecidableEq, Repr

namespace Config

/-- Accept a name given by a setting. -/
def checkName (setting name : String) : Except Error Unit :=
  match Name.spellingFault? Name.isIdentifierChar name.toList with
  | none => .ok ()
  | some fault => .error (.config (.badName setting name fault))

/-- Accept a name that may be given. -/
def checkOptionalName (setting : String) : Option String → Except Error Unit
  | none => .ok ()
  | some name => checkName setting name

/-- Accept the key of a stack's settings. -/
def checkStackKey (key : String) : Except Error Unit :=
  if (StackId.ofName? key).isSome then .ok () else .error (.config (.unknownStack key))

/-- Accept settings whose names are identifiers and whose stacks exist. -/
def validate (config : Config) : Except Error Unit := do
  checkName "ember_app" config.emberApp
  checkOptionalName "pagination_container" config.paginationContainer
  checkOptionalName "target_app" config.targetApp
  config.stackSettings.forM fun (key, _) => checkStackKey key

/-- The settings of a stack. -/
def settingsOf (config : Config) (stack : StackId) : StackSettings :=
  (Entries.get? stack.name config.stackSettings).getD {}

/-- How the addresses of a stack end: as it describes, unless the settings say otherwise. -/
def endpointStyle (config : Config) (stack : StackDescriptor) : Name.EndpointStyle :=
  let settings := config.settingsOf stack.id
  { suffix := settings.endpointSuffix <|> stack.endpointStyle.suffix
    trailingSlash := settings.trailingSlash.getD stack.endpointStyle.trailingSlash }

/-- How a stack spells field types, with the overrides of the settings. -/
def typeMapping (config : Config) (stack : StackDescriptor) : TypeMapping :=
  ⟨stack.typeStyle, (config.settingsOf stack.id).typeMapping⟩

end Config

end ModelCodegen
