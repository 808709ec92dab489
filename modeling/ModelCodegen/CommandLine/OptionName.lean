/-!
# Options of the command line

Every option has a long name, and some have a letter.  An option either takes a value or says all by
being there.
-/

namespace ModelCodegen.CommandLine

/-- The options. -/
inductive OptionName where
  | schemas
  | stack
  | allStacks
  | config
  | output
  | apiBase
  | emberApp
  | targetApp
  | dryRun
  | bestEffort
  | listTargets
  | verbose
  | json
  | help
  | version
  deriving DecidableEq, Repr

namespace OptionName

def all : List OptionName :=
  [schemas, stack, allStacks, config, output, apiBase, emberApp, targetApp, dryRun, bestEffort,
    listTargets, verbose, json, help, version]

/-- The name behind two hyphens. -/
def long : OptionName → String
  | schemas => "schemas"
  | stack => "stack"
  | allStacks => "all-stacks"
  | config => "config"
  | output => "output"
  | apiBase => "api-base"
  | emberApp => "ember-app"
  | targetApp => "target-app"
  | dryRun => "dry-run"
  | bestEffort => "best-effort"
  | listTargets => "list-targets"
  | verbose => "verbose"
  | json => "json"
  | help => "help"
  | version => "version"

/-- The letter behind one hyphen. -/
def letter? : OptionName → Option Char
  | schemas => some 's'
  | config => some 'c'
  | output => some 'o'
  | verbose => some 'v'
  | help => some 'h'
  | version => some 'V'
  | _ => none

/-- What stands for the value in a summary of the options, if the option takes one. -/
def valueName? : OptionName → Option String
  | schemas | config | output => some "PATH"
  | stack => some "ID"
  | apiBase => some "URL"
  | emberApp | targetApp => some "NAME"
  | _ => none

/-- Whether the option takes a value. -/
def takesValue (name : OptionName) : Bool := name.valueName?.isSome

/-- What the option is for. -/
def purpose : OptionName → String
  | schemas => "Schema document (.json, .yaml or .yml)"
  | stack => "Stack to generate for (repeatable)"
  | allStacks => "Generate for every stack"
  | config => "Settings file (otherwise modelport.toml, if there is one)"
  | output => "Directory of the frontend project"
  | apiBase => "Address of the interface"
  | emberApp => "Name space of the ember application"
  | targetApp => "Application that all relationships point at"
  | dryRun => "Say what would be written and write nothing"
  | bestEffort => "Keep going after a failure"
  | listTargets => "List stacks and their artifacts"
  | verbose => "Report files that are not written, too"
  | json => "Write log lines as JSON"
  | help => "Print this summary"
  | version => "Print the version"

/-- The option of a long name. -/
def ofLong? (text : String) : Option OptionName := all.find? (·.long == text)

/-- The option of a letter. -/
def ofLetter? (c : Char) : Option OptionName := all.find? (·.letter? == some c)

end OptionName

end ModelCodegen.CommandLine
