import ModelCodegen.Files.System
import ModelCodegen.Schema.Document

/-!
# Schema files

The extension of a file tells the format of the schema document in it.
-/

namespace ModelCodegen

/-- The format that an extension stands for. -/
def SchemaFormat.ofExtension? : String → Option SchemaFormat
  | "json" => some .json
  | "yaml" => some .yaml
  | "yml" => some .yaml
  | _ => none

/-- The format of a file. -/
def SchemaFormat.ofPath (path : String) : Except Error SchemaFormat :=
  match (Path.extension? path).bind SchemaFormat.ofExtension? with
  | some format => .ok format
  | none => .error (.unknownFormat path)

/-- The schemas in a file. -/
def loadSchemas {m : Type → Type} [Monad m] [FileSystem m] (path : String) :
    ExceptT Error m SchemaSet := do
  let format ← SchemaFormat.ofPath path
  parseSchemas format (← FileSystem.demandText path)

end ModelCodegen
