import ModelCodegen.CommandLine.OptionName
import ModelCodegen.Target

/-!
# Reading the command line

The arguments are first read as a list of occurrences of options, in which faults keep their place;
then they are taken into account one after the other.  So the first fault counts, and an option that
only asks for information counts if no fault comes before it.
-/

namespace ModelCodegen.CommandLine

/-- Why a command line is refused. -/
inductive UsageFault where
  | unknownOption (text : String)
  | unexpectedArgument (text : String)
  | missingValue (name : OptionName)
  | unneededValue (name : OptionName)
  | emptyValue (name : OptionName)
  | unknownStack (text : String)
  | repeated (name : OptionName)
  | conflict (first second : OptionName)
  | absent (name : OptionName)
  deriving DecidableEq, Repr

/-- The wording of a fault. -/
def UsageFault.message : UsageFault → String
  | unknownOption text => "unknown option '" ++ text ++ "'"
  | unexpectedArgument text => "unexpected argument '" ++ text ++ "'"
  | missingValue name => "--" ++ name.long ++ " needs a value"
  | unneededValue name => "--" ++ name.long ++ " takes no value"
  | emptyValue name => "the value of --" ++ name.long ++ " is empty"
  | unknownStack text => "unknown stack '" ++ text ++ "'"
  | repeated name => "--" ++ name.long ++ " is given more than once"
  | conflict first second =>
    "--" ++ first.long ++ " cannot be given with --" ++ second.long
  | absent name => "--" ++ name.long ++ " is required"

/-! ## Occurrences -/

/-- An option on the command line, or a fault in its place. -/
inductive Occurrence where
  | plain (name : OptionName)
  | valued (name : OptionName) (value : String)
  | fault (fault : UsageFault)
  deriving DecidableEq, Repr

/-- What an argument says, and the option at its end that waits for a value. -/
abbrev Reading := List Occurrence × Option OptionName

/-- An argument that names an option by its long name, perhaps with a value behind `=`. -/
def readLong (text : List Char) : Reading :=
  let written := String.ofList (text.takeWhile (· != '='))
  match OptionName.ofLong? written, text.dropWhile (· != '=') with
  | none, _ => ([.fault (.unknownOption ("--" ++ written))], none)
  | some name, [] => if name.takesValue then ([], some name) else ([.plain name], none)
  | some name, _ :: value =>
    if name.takesValue then ([.valued name (String.ofList value)], none)
    else ([.fault (.unneededValue name)], none)

/-- Letters of options; the first one that takes a value takes the rest of the argument, with or
without `=` between. -/
def readLetters : List Char → Reading
  | [] => ([], none)
  | c :: rest =>
    match OptionName.ofLetter? c with
    | none => ([.fault (.unknownOption (String.ofList ['-', c]))], none)
    | some name =>
      if name.takesValue then
        match rest with
        | [] => ([], some name)
        | '=' :: value => ([.valued name (String.ofList value)], none)
        | value => ([.valued name (String.ofList value)], none)
      else
        let (occurrences, waiting) := readLetters rest
        (.plain name :: occurrences, waiting)

/-- An argument that is no value. -/
def readArgument (argument : String) : Reading :=
  match argument.toList with
  | '-' :: '-' :: text => readLong text
  | '-' :: c :: text => readLetters (c :: text)
  | _ => ([.fault (.unexpectedArgument argument)], none)

/-- Whether an argument can be the value of the option before it. -/
def isValue (argument : String) : Bool :=
  match argument.toList with
  | '-' :: _ :: _ => false
  | _ => true

/-- The occurrences in arguments, when an option may wait for its value.  Two hyphens end the
options, and nothing may follow them. -/
def occurrences : Option OptionName → List String → List Occurrence
  | none, [] => []
  | some name, [] => [.fault (.missingValue name)]
  | some name, argument :: rest =>
    if isValue argument then .valued name argument :: occurrences none rest
    else [.fault (.missingValue name)]
  | none, argument :: rest =>
    if argument = "--" then rest.map fun text => .fault (.unexpectedArgument text)
    else
      let (found, waiting) := readArgument argument
      found ++ occurrences waiting rest

/-! ## Options -/

/-- What the command line asks of a run. -/
structure Options where
  schemas : Option String := none
  stackIds : List StackId := []
  allStacks : Bool := false
  config : Option String := none
  output : Option String := none
  apiBase : Option String := none
  emberApp : Option String := none
  targetApp : Option String := none
  dryRun : Bool := false
  bestEffort : Bool := false
  listTargets : Bool := false
  verbosity : Nat := 0
  json : Bool := false
  deriving DecidableEq, Repr

/-- Why no run comes of a command line. -/
inductive Stop where
  | usage (fault : UsageFault)
  | help
  | version
  deriving DecidableEq, Repr

/-- Set a value that may be given once. -/
def setOnce (name : OptionName) (current : Option String) (value : String) :
    Except Stop (Option String) :=
  if current.isSome then .error (.usage (.repeated name)) else .ok (some value)

/-- Set a path, which may not be empty, once. -/
def setPath (name : OptionName) (current : Option String) (value : String) :
    Except Stop (Option String) :=
  if value = "" then .error (.usage (.emptyValue name)) else setOnce name current value

/-- Turn something on that may be turned on once. -/
def turnOn (name : OptionName) (current : Bool) : Except Stop Bool :=
  if current then .error (.usage (.repeated name)) else .ok true

namespace Options

/-- Take an option without a value into account. -/
def withPlain (options : Options) (name : OptionName) : Except Stop Options := do
  match name with
  | .allStacks => return { options with allStacks := ← turnOn name options.allStacks }
  | .dryRun => return { options with dryRun := ← turnOn name options.dryRun }
  | .bestEffort => return { options with bestEffort := ← turnOn name options.bestEffort }
  | .listTargets => return { options with listTargets := ← turnOn name options.listTargets }
  | .json => return { options with json := ← turnOn name options.json }
  | .verbose => return { options with verbosity := options.verbosity + 1 }
  | .help => throw .help
  | .version => throw .version
  | _ => throw (.usage (.missingValue name))

/-- Take an option with a value into account. -/
def withValue (options : Options) (name : OptionName) (value : String) :
    Except Stop Options := do
  match name with
  | .schemas => return { options with schemas := ← setPath name options.schemas value }
  | .config => return { options with config := ← setPath name options.config value }
  | .output => return { options with output := ← setPath name options.output value }
  | .apiBase => return { options with apiBase := ← setOnce name options.apiBase value }
  | .emberApp => return { options with emberApp := ← setOnce name options.emberApp value }
  | .targetApp => return { options with targetApp := ← setOnce name options.targetApp value }
  | .stack =>
    match StackId.ofName? value with
    | some id => return { options with stackIds := options.stackIds ++ [id] }
    | none => throw (.usage (.unknownStack value))
  | _ => throw (.usage (.unneededValue name))

/-- Take an occurrence into account. -/
def withOccurrence (options : Options) : Occurrence → Except Stop Options
  | .plain name => options.withPlain name
  | .valued name value => options.withValue name value
  | .fault fault => .error (.usage fault)

/-- What is wrong with options that are fine one by one. -/
def fault? (options : Options) : Option UsageFault :=
  if options.allStacks ∧ !options.stackIds.isEmpty then some (.conflict .allStacks .stack)
  else if options.schemas.isNone ∧ !options.listTargets then some (.absent .schemas)
  else none

/-- The options that arguments state. -/
def ofArguments (arguments : List String) : Except Stop Options := do
  let options ← (occurrences none arguments).foldlM withOccurrence {}
  match options.fault? with
  | some fault => throw (.usage fault)
  | none => return options

end Options

end ModelCodegen.CommandLine
