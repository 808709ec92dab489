import ModelCodegen.CommandLine.Options
import ModelCodegen.Config.Document
import ModelCodegen.Generation.Run
import ModelCodegen.Generation.WritePass
import ModelCodegen.Schema.Source

/-!
# Sessions

One use of the program from the command line: options are read over the settings file, artifacts are
generated and written, and lines of text say what was done.  A failure to read or to write ends the
session with exit code 1, as does any artifact that could not be generated; a command line that is
refused ends it with 2.
-/

namespace ModelCodegen.CommandLine

/-- How a session ends. -/
structure Outcome where
  exitCode : Nat := 0
  /-- The lines of the report. -/
  output : List String := []
  /-- The lines about what went wrong. -/
  errors : List String := []
  deriving DecidableEq, Repr

/-- The name and the version of the program. -/
def versionLine : String := "modelport 0.1.0"

/-! ## Options over settings -/

namespace Options

/-- Settings with those replaced that options state. -/
def override (options : Options) (config : Config) : Config :=
  { config with
    outputDir := options.output.getD config.outputDir
    apiBase := options.apiBase.getD config.apiBase
    emberApp := options.emberApp.getD config.emberApp
    targetApp := options.targetApp <|> config.targetApp }

/-- The stacks to generate for; there has to be one. -/
def chosenStacks (options : Options) : Except Error (List StackId) :=
  if options.allStacks then .ok StackId.all
  else if options.stackIds.isEmpty then .error (.config .noStackChosen)
  else .ok options.stackIds

/-- What a failure does to the run. -/
def failurePolicy (options : Options) : FailurePolicy :=
  if options.bestEffort then .bestEffort else .failFast

end Options

/-! ## Lines -/

/-- A text with spaces behind it up to a width. -/
def padded (width : Nat) (text : String) : String :=
  text ++ String.ofList (List.replicate (width - text.length) ' ')

/-- An artifact in the list of targets. -/
def targetLine (registration : Registration) : String :=
  "  " ++ padded 11 registration.kind.name ++ " " ++ padded 12 registration.scope.name ++ " " ++
    padded 10 registration.policy.name ++ " " ++ registration.path.pattern

/-- A stack with its artifacts in the list of targets. -/
def stackLines (stack : StackDescriptor) : List String :=
  (stack.id.name ++ " - " ++ stack.description) :: stack.artifacts.map targetLine

/-- The error that ends a session. -/
def errorLine (error : Error) : String := "Error: " ++ error.name

/-- A failure; where the error has no wording, its name stands for it. -/
def failureLine (heading : String) (failure : Failure) : String :=
  heading ++ ": " ++
    failure.message?.getD (failure.description ++ ": " ++ failure.error.name)

/-- What was done with files, each by its path below a directory. -/
def fileLines (root heading : String) (files : List String) : List String :=
  files.map fun path => "  " ++ heading ++ " " ++ Path.relativeTo root path

/-- The lines of a write pass. -/
def summaryLines (options : Options) (root : String) (summary : WriteSummary) : List String :=
  let written := fileLines root (if options.dryRun then "would write" else "wrote")
    (summary.files .written)
  if options.verbosity = 0 then written
  else
    written ++ fileLines root "unchanged" (summary.files .unchanged) ++
      fileLines root "kept" (summary.files .kept)

/-- The last line of a report: how many files there are of each kind, and for what. -/
def totalLine (summary : WriteSummary) (models stackCount : Nat) : String :=
  let count (disposition : Disposition) := toString (summary.files disposition).length
  "modelport: " ++ count .written ++ " written, " ++ count .unchanged ++ " unchanged, " ++
    count .kept ++ " kept (" ++ toString models ++ " models, " ++ toString stackCount ++ " stacks)"

/-- The lines about artifacts that could not be generated. -/
def failureLines (failures : List Failure) : List String :=
  failures.map (failureLine "failed") ++ [toString failures.length ++ " artifact(s) failed"]

/-- An option in the summary of options. -/
def helpLine (name : OptionName) : String :=
  let letter := (name.letter?.map fun c => "-" ++ c.toString ++ ", ").getD "    "
  let value := (name.valueName?.map fun text => " <" ++ text ++ ">").getD ""
  "  " ++ padded 26 (letter ++ "--" ++ name.long ++ value) ++ " " ++ name.purpose

/-- The summary of options. -/
def helpLines : List String :=
  ["Generates frontend models, services and indexes from model schemas", "",
    "Usage: modelport [OPTIONS] --schemas <PATH>", "", "Options:"] ++ OptionName.all.map helpLine

/-! ## Sessions -/

variable {m : Type → Type} [Monad m] [FileSystem m]

/-- The settings of a session. -/
def sessionConfig (options : Options) : ExceptT Error m Config := do
  let config ← match options.config with
    | some path => Config.load path
    | none => Config.discover "."
  let config := options.override config
  config.validate
  return config

/-- Generate and write. -/
def produce (options : Options) (config : Config) (registry : Registry) :
    ExceptT Error m Outcome := do
  let some document := options.schemas | throw (.config .noSchemaDocument)
  let ids ← options.chosenStacks
  let set ← loadSchemas document
  match generate registry config options.failurePolicy set ids with
  | .error failure =>
    return { exitCode := 1, errors := [failureLine "error" failure, errorLine failure.error] }
  | .ok report =>
    let summary ← writeArtifacts config.outputDir report.outputs options.dryRun
    let output := summaryLines options config.outputDir summary ++
      [totalLine summary set.size ids.length]
    if report.isSuccess then return { output := output }
    else return { exitCode := 1, output := output, errors := failureLines report.failures }

/-- Do what the options ask for. -/
def perform (options : Options) : ExceptT Error m Outcome := do
  let config ← sessionConfig options
  let registry ← Registry.load config.templateDir
  if options.listTargets then return { output := registry.listed.flatMap stackLines }
  else produce options config registry

/-- A session with the given arguments. -/
def session (arguments : List String) : m Outcome := do
  match Options.ofArguments arguments with
  | .error (.usage fault) =>
    return { exitCode := 2, errors := ["error: " ++ fault.message] }
  | .error .help => return { output := helpLines }
  | .error .version => return { output := [versionLine] }
  | .ok options =>
    match ← (perform options).run with
    | .ok outcome => return outcome
    | .error error => return { exitCode := 1, errors := [errorLine error] }

end ModelCodegen.CommandLine
