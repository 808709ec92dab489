import ModelCodegen.Json.Parser
import ModelCodegen.Template.Scan
import ModelCodegen.Template.Syntax

/-!
# Expressions

What may stand in a tag: names, paths, literals in the notation of JSON, and calls with positional
and named arguments.  Readers of nested expressions take a bound on the nesting.
-/

namespace ModelCodegen.Template

open Scan

/-- A character of a name. -/
def isNameChar (c : Char) : Bool :=
  c.isAlphanum || c == '_' || c == '-' || c == '$' || c == ':' || 0x80 ≤ c.toNat

/-- A name. -/
def name : Scan (List Char) := span1 isNameChar

/-! ## Paths -/

/-- A step of a path: a name, or any text in brackets. -/
def pathItem : Scan (List Char) :=
  orTry name do
    word ['[']
    let text ← span (· != ']')
    word [']']
    return text

/-- What stands between two steps. -/
def pathSeparator : Scan Unit := do
  let _ ← one fun c => c == '/' || c == '.'

/-- The context itself in front of a path. -/
def currentPart : Scan Unit :=
  orTry (do word "this".toList; pathSeparator) (word ['.', '/'])

/-- A step outward. -/
def outwardPart : Scan Unit := do
  word ['.', '.']
  pathSeparator

/-- The bound on the steps of a path: as many as there are characters. -/
def pathSteps (step : Scan (List Char)) : Scan (List (List Char)) := fun chars =>
  many step (chars.length + 1) chars

/-- The parts of a path.  The context itself may stand in front once. -/
def pathParts : Scan (Bool × Bool × Nat × List (List Char)) := do
  let unit (part : Scan Unit) : Scan (List Char) := do
    part
    return []
  let _ ← maybe currentPart
  let root ← maybe (do word "@root".toList; pathSeparator)
  let marker ← maybe (word ['@'])
  let outward ← pathSteps (unit outwardPart)
  let first ← pathItem
  let rest ← pathSteps (do pathSeparator; pathItem)
  return (root.isSome, marker.isSome, outward.length, first :: rest)

/-- The path of its parts.  A step named `this` stays where it is.  A path through the root starts
there whatever else it says, and a loop variable without a name is the context itself. -/
def ValuePath.ofParts (written : List Char) (root marker : Bool) (outward : Nat)
    (steps : List (List Char)) : ValuePath :=
  let names := (steps.filter (· != "this".toList)).map String.ofList
  let isLocal := marker && !root && !names.isEmpty
  { written := String.ofList written
    fromRoot := root
    isLocal := isLocal
    outward := if root || (marker && !isLocal) then 0 else outward
    names := names }

/-- A path. -/
def path : Scan ValuePath := do
  let ((root, marker, outward, steps), written) ← withText pathParts
  return .ofParts written root marker outward steps

/-! ## Literals -/

/-- One character of a quoted text, escapes included; the text is kept as it is written. -/
def quotedPart (quote : Char) : Scan (List Char) :=
  orTry (do return [← one fun c => c != quote && c != '\\'])
    (orTry
      (do
        word ['\\']
        return ['\\', ← one fun c => c == quote || "\"\\/bfnrt".toList.contains c])
      (do
        word ['\\', 'u']
        let digits ← span fun c => (Json.hexDigit? c).isSome
        if digits.length < 4 then refuse else return '\\' :: 'u' :: digits))

/-- The text between two quotes. -/
def quotedText (quote : Char) : Scan (List Char) := do
  word [quote]
  let parts ← fun chars => many (quotedPart quote) (chars.length + 1) chars
  word [quote]
  return parts.flatten

/-- A text in single quotes as it is written in double quotes. -/
def requote : List Char → List Char
  | [] => []
  | '\\' :: '\'' :: rest => '\'' :: requote rest
  | '"' :: rest => '\\' :: '"' :: requote rest
  | c :: rest => c :: requote rest

/-- A text with its quotes, double or single ones. -/
def textLiteral : Scan (List Char) :=
  let inQuotes (quote : Char) : Scan (List Char) := do
    return quote :: ((← quotedText quote) ++ [quote])
  orTry (inQuotes '"') (inQuotes '\'')

/-- A number as it is written. -/
def numberLiteral : Scan (List Char) := do
  let sign ← maybe (word ['-'])
  let whole ← span1 Char.isDigit
  let point ← maybe (word ['.'])
  let fraction ← span Char.isDigit
  let exponent ← maybe do
    word ['E']
    let negative ← maybe (word ['-'])
    let digits ← span1 Char.isDigit
    return 'E' :: ((if negative.isSome then ['-'] else []) ++ digits)
  notBefore isNameChar
  return (if sign.isSome then ['-'] else []) ++ whole ++ (if point.isSome then ['.'] else []) ++
    fraction ++ exponent.getD []

/-- A word that stands for a value. -/
def wordLiteral (text : String) : Scan (List Char) := do
  word text.toList
  notBefore isNameChar
  return text.toList

/-- Parts with commas between them, in brackets; only the first one may be left out. -/
def listed (opening closing : Char) (part : Scan (List Char)) : Scan (List Char) := do
  word [opening]
  space
  let first ← maybe part
  let rest ← fun chars => many (do space; word [',']; space; return ',' :: (← part))
    (chars.length + 1) chars
  space
  word [closing]
  return opening :: (first.getD [] ++ rest.flatten ++ [closing])

/-- A literal as it is written, nested at most `depth` deep. -/
def literalText : Nat → Scan (List Char)
  | 0 => refuse
  | depth + 1 =>
    orTry textLiteral <| orTry (listed '[' ']' (literalText depth)) <|
      orTry (listed '{' '}' do
        let key ← textLiteral
        space
        word [':']
        space
        return key ++ ':' :: (← literalText depth)) <|
      orTry numberLiteral <| orTry (wordLiteral "null") <|
      orTry (wordLiteral "true") (wordLiteral "false")

/-- A text in single quotes, in the notation of JSON. -/
def singleQuoted : Scan (List Char) := do
  return '"' :: (requote (← quotedText '\'') ++ ['"'])

/-- The value of a literal.  What looks like a literal and is none in the notation of JSON breaks
the template; this goes for single quotes within lists and objects. -/
def literal (depth : Nat) : Scan Json := do
  match Json.ofText? (String.ofList (← orTry singleQuoted (literalText depth))) with
  | some value => return value
  | none => fail

/-! ## Calls -/

/-- The words that are no arguments unless a name follows, blanks aside. -/
def keyword : Scan Unit := do
  orTry (word "as".toList) (word "else".toList)
  space
  notBefore isNameChar

/-- The arguments of a call: positional ones, and those with a name. -/
abbrev Arguments := List Argument × List (String × Argument)

/-- An argument in front of those that follow; of a repeated name the last one counts. -/
def Arguments.add : Option String × Argument → Arguments → Arguments
  | (none, value), (arguments, options) => (value :: arguments, options)
  | (some key, value), (arguments, options) =>
    (arguments, if (options.lookup key).isSome then options else (key, value) :: options)

mutual
/-- An argument. -/
def argument : Nat → Scan Argument
  | 0 => refuse
  | depth + 1 => do
    notAhead keyword
    orTry (do return .literal (← literal (depth + 1))) <|
      orTry (do return .path (← path)) (parenthesised depth)

/-- A call in parentheses. -/
def parenthesised : Nat → Scan Argument
  | 0 => refuse
  | depth + 1 => do
    word ['(']
    space
    let inner ← orTry
      (do
        let helper ← name
        let (positional, options) ← arguments depth
        if positional.isEmpty ∧ options.isEmpty then refuse
        else return Argument.call (String.ofList helper) positional options)
      (do return Argument.call (← path).written [] [])
    space
    word [')']
    return inner

/-- An argument with or without a name. -/
def namedArgument : Nat → Scan (Option String × Argument)
  | 0 => refuse
  | depth + 1 =>
    orTry
      (do
        let key ← name
        space
        word ['=']
        space
        return (some (String.ofList key), ← argument depth))
      (do return (none, ← argument depth))

/-- As many arguments as there are, each with blanks in front. -/
def arguments : Nat → Scan Arguments
  | 0 => ok ([], [])
  | depth + 1 => do
    match ← maybe (do space; namedArgument depth) with
    | none => return ([], [])
    | some first => return Arguments.add first (← arguments depth)
end

/-- The names of block parameters. -/
def blockParameters : Scan (List String) := do
  word "as".toList
  space
  word ['|']
  space
  let first ← name
  space
  let second ← maybe name
  space
  word ['|']
  return String.ofList first :: (second.map String.ofList).toList

/-- A call with the parameters of a block. -/
structure BlockHead where
  call : Call
  parameters : List String
  deriving Repr

/-- The head of a block: a helper with arguments and parameters. -/
def blockHead (depth : Nat) : Scan BlockHead := do
  let helper ← name
  let (positional, options) ← arguments depth
  let parameters ← maybe (do space; blockParameters)
  return ⟨⟨String.ofList helper, positional, options⟩, parameters.getD []⟩

end ModelCodegen.Template
