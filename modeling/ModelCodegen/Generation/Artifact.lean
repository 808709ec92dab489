import ModelCodegen.Schema.Model

/-!
# Generated artifacts

A coordinate says which artifact of which stack is meant, and of which application and model.  An
attempt at a coordinate ends in an artifact, ready to be written, or in a failure; either keeps the
coordinate.
-/

namespace ModelCodegen

/-- What an artifact is generated for. -/
structure Coordinate where
  stack : StackId
  artifact : ArtifactKind
  /-- No application stands for all of them. -/
  application : Option String := none
  /-- No model stands for all models of the application. -/
  model : Option String := none
  deriving DecidableEq, Repr

/-- A generated file. -/
structure Artifact extends Coordinate where
  /-- The path below the directory of the generated code. -/
  path : String
  content : String
  policy : WritePolicy
  deriving DecidableEq, Repr

/-- An artifact that could not be generated. -/
structure Failure extends Coordinate where
  error : Error
  deriving DecidableEq, Repr

/-- The application and the model of a coordinate in one text. -/
def Coordinate.extent (coordinate : Coordinate) : String :=
  match coordinate.application, coordinate.model with
  | some application, some model => modelKey application model
  | some application, none => application
  | none, _ => "*"

/-- A coordinate in messages. -/
def Coordinate.description (coordinate : Coordinate) : String :=
  coordinate.stack.name ++ ":" ++ coordinate.artifact.name ++ " [" ++ coordinate.extent ++ "]"

/-- The wording of a failure, if its error has one. -/
def Failure.message? (failure : Failure) : Option String :=
  failure.error.message?.map fun text => failure.description ++ ": " ++ text

/-- A result at a coordinate: an error there is a failure. -/
def Coordinate.outcome (coordinate : Coordinate) (result : Except Error Artifact) :
    Except Failure Artifact :=
  result.mapError fun error => { coordinate with error := error }

end ModelCodegen
