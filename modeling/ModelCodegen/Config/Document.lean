import ModelCodegen.Config.Settings
import ModelCodegen.Files.System
import ModelCodegen.Toml.Parser

/-!
# Settings documents

Settings are read from a document in which every key is known and has a value of its kind; keys that
are left out have their defaults.  A settings file may be named, or is looked for in a directory.
-/

namespace ModelCodegen

namespace Config

/-- A value as a text. -/
def text? : Toml.Value → Option String
  | .text text => some text
  | _ => none

/-- A value as a truth value. -/
def bool? : Toml.Value → Option Bool
  | .bool value => some value
  | _ => none

/-- The key of a moment that is taken for a table. -/
def momentKey : String := "$__toml_private_datetime"

/-- A value as a table of texts.  A moment is a table with its text as the one entry. -/
def texts? : Toml.Value → Option (List (String × String))
  | .moment moment => some [(momentKey, moment.text)]
  | .table _ entries => entries.mapM fun (key, value) => (text? value).map (key, ·)
  | _ => none

/-- Set one setting of a stack. -/
def setStackKey (settings : StackSettings) (entry : String × Toml.Value) :
    Option StackSettings :=
  match entry with
  | ("relationship_imports", value) => do
    return { settings with relationshipImports := ← bool? value }
  | ("endpoint_suffix", value) => do
    return { settings with endpointSuffix := some (← text? value) }
  | ("trailing_slash", value) => do
    return { settings with trailingSlash := some (← bool? value) }
  | ("type_mapping", value) => do
    return { settings with typeMapping := ← texts? value }
  | _ => none

/-- The settings of a stack, in the order in which an array gives them. -/
def stackKeys : List String :=
  ["relationship_imports", "endpoint_suffix", "trailing_slash", "type_mapping"]

/-- The settings of a stack, in a table by their names or in an array by their places; an array may
leave out the last ones, and further items have no meaning. -/
def stackSettings? : Toml.Value → Option StackSettings
  | .array items => (stackKeys.zip items).foldlM setStackKey {}
  | .table _ entries => entries.foldlM setStackKey {}
  | _ => none

/-- The settings of stacks in a table. -/
def stackTables? : Toml.Value → Option (List (String × StackSettings))
  | .table _ entries => entries.mapM fun (key, value) => (stackSettings? value).map (key, ·)
  | _ => none

/-- Set one setting of a run. -/
def setKey (config : Config) (entry : String × Toml.Value) : Option Config :=
  match entry with
  | ("api_base", value) => do return { config with apiBase := ← text? value }
  | ("ember_app", value) => do return { config with emberApp := ← text? value }
  | ("output_dir", value) => do return { config with outputDir := ← text? value }
  | ("template_dir", value) => do return { config with templateDir := some (← text? value) }
  | ("pagination_container", value) => do
    return { config with paginationContainer := some (← text? value) }
  | ("target_app", value) => do return { config with targetApp := some (← text? value) }
  | ("stacks", value) => do return { config with stackSettings := ← stackTables? value }
  | _ => none

/-- The settings in a document, not yet validated. -/
def read? (document : String) : Option Config := do
  (← Toml.Table.ofText? document).foldlM setKey {}

/-- The settings in a document. -/
def ofText (document : String) : Except Error Config :=
  match read? document with
  | none => .error (.config .unreadable)
  | some config => do
    config.validate
    return config

/-- A fault of settings is one of the file they are in. -/
def inFile (path : String) : Except Error Config → Except Error Config
  | .error (.config fault) => .error (.config (.inFile path fault))
  | result => result

variable {m : Type → Type} [Monad m] [FileSystem m]

/-- The settings in a file. -/
def load (path : String) : ExceptT Error m Config := do
  inFile path (ofText (← FileSystem.demandText path))

/-- The name of a settings file that is looked for. -/
def fileName : String := "modelport.toml"

/-- The settings in the settings file of a directory, or the default ones. -/
def discover (directory : String) : ExceptT Error m Config := do
  let path := Path.join directory fileName
  let found ← (FileSystem.pathExists path : m Bool)
  if found then load path else return {}

end Config

end ModelCodegen
