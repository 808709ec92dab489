import ModelCodegen.Json.Parser
import ModelCodegen.Name.Plural
import ModelCodegen.Template.Indentation
import ModelCodegen.Template.Value
import ModelCodegen.Text.Word

/-!
# Helpers

The helpers that compute a value from their arguments, and those that render the body of a block.
The latter get the body as a function of the scope it is rendered in, so what they do does not
depend on what the body is.  A value that answers a question may also choose between two bodies.
-/

namespace ModelCodegen.Template

/-- An argument of a helper: its value, if it has one, and the path it was given by. -/
structure Operand where
  value : Option Json
  path : Option String := none
  deriving Repr

/-- What a helper gets. -/
structure Operands where
  positional : List Operand := []
  /-- The named arguments. -/
  options : List (String × Operand) := []
  deriving Repr

namespace Operands

/-- A positional argument that must be given and have a value. -/
def need (operands : Operands) (n : Nat) : Rendered Json :=
  match operands.positional[n]? with
  | some ⟨some value, _⟩ => .ok value
  | _ => .error .failed

/-- A positional argument that must be given and be a text. -/
def needText (operands : Operands) (n : Nat) : Rendered String := do
  match ← operands.need n with
  | .string text => return text
  | _ => throw .failed

/-- A positional argument that must be given; without a value it is null. -/
def needGiven (operands : Operands) (n : Nat) : Rendered Json :=
  match operands.positional[n]? with
  | some operand => .ok (operand.value.getD .null)
  | none => .error .failed

/-- The values of all positional arguments; what has no value is null. -/
def values (operands : Operands) : List Json :=
  operands.positional.map fun operand => operand.value.getD .null

/-- The value of a named argument. -/
def option? (operands : Operands) (name : String) : Option Json :=
  (operands.options.lookup name).bind Operand.value

end Operands

/-- The helpers that render blocks. -/
inductive BlockHelper where
  | ifTrue
  | ifFalse
  | each
  | within
  | raw
  deriving DecidableEq, Repr

/-- The helpers that compute a value. -/
inductive ValueHelper where
  | title
  | dasherize
  | plural
  | lookup
  | len
  | eq
  | ne
  | gt
  | gte
  | lt
  | lte
  | both
  | either
  | negate
  deriving DecidableEq, Repr

/-- The helper answers a question.  As a block it chooses between the body and the alternative. -/
def ValueHelper.isTest : ValueHelper → Bool
  | .eq | .ne | .gt | .gte | .lt | .lte | .both | .either | .negate => true
  | .title | .dasherize | .plural | .lookup | .len => false

/-- A helper. -/
inductive Helper where
  | block (helper : BlockHelper)
  | value (helper : ValueHelper)
  /-- Writes to a log and prints nothing. -/
  | log
  deriving DecidableEq, Repr

/-- The helpers by name. -/
def helpers : List (String × Helper) := [
  ("if", .block .ifTrue), ("unless", .block .ifFalse), ("each", .block .each),
  ("with", .block .within), ("raw", .block .raw), ("log", .log),
  ("title", .value .title), ("dasherize", .value .dasherize), ("plural", .value .plural),
  ("lookup", .value .lookup), ("len", .value .len), ("eq", .value .eq), ("ne", .value .ne),
  ("gt", .value .gt), ("gte", .value .gte), ("lt", .value .lt), ("lte", .value .lte),
  ("and", .value .both), ("or", .value .either), ("not", .value .negate)]

/-- The helper of a name. -/
def helper? (name : String) : Option Helper := helpers.lookup name

/-- How many parts a value has; a text counts in bytes. -/
def partCount : Json → Nat
  | .array items => items.length
  | .object members => members.length
  | .string text => text.utf8ByteSize
  | _ => 0

/-- A number as a quotient, with its sign apart. -/
def ratio? : Json → Option (Int × Nat)
  | .int n => some (n, 1)
  | .double x =>
    let (num, den) := x.magnitude
    some (if x.negative then -num else num, den)
  | _ => none

/-- The number that a text is the notation of, with nothing around it. -/
def numberOf? (text : String) : Option Json :=
  match Json.parseNumber text.toList with
  | some (lexeme, []) => lexeme.value?
  | _ => none

/-- A value as a number: a text counts as the number that it denotes. -/
def asNumber? : Json → Option Json
  | .string text => numberOf? text
  | value => some value

/-- The order of two numbers, two texts, two truth values, or a number and the text of one. -/
def order? (a b : Json) : Option Ordering :=
  match a, b with
  | .string x, .string y => some (compare x y)
  | .bool x, .bool y => some (compare x y)
  | _, _ => do
    let (m, p) ← ratio? (← asNumber? a)
    let (n, q) ← ratio? (← asNumber? b)
    return compare (m * q) (n * p)

/-- A part of a list or an object; it must be there and not be null. -/
def lookUp (collection index : Json) : Rendered Json :=
  let found := match collection, index with
    | .array items, .int n => if 0 ≤ n then items[n.toNat]? else none
    | .object members, .string key => Entries.get? key members
    | _, _ => none
  match found with
  | none | some .null => .error (.missing none)
  | some value => .ok value

/-- The order of the first two arguments is as the test asks. -/
def compared (operands : Operands) (test : Ordering → Bool) : Rendered Json := do
  let a ← operands.need 0
  let b ← operands.need 1
  return .bool ((order? a b).any test)

/-- The value that a helper computes. -/
def ValueHelper.compute (helper : ValueHelper) (operands : Operands) : Rendered Json :=
  match helper with
  | .title => do return .string (Text.upperCamel (← operands.needText 0))
  | .dasherize => do return .string (Text.kebab (← operands.needText 0))
  | .plural => do return .string (Name.pluralize (← operands.needText 0))
  | .lookup => do lookUp (← operands.needGiven 0) (← operands.needGiven 1)
  | .len => do return .int (partCount (← operands.need 0))
  | .eq => do return .bool ((← operands.need 0).same (← operands.need 1))
  | .ne => do return .bool !((← operands.need 0).same (← operands.need 1))
  | .gt => compared operands (· == .gt)
  | .gte => compared operands (· != .lt)
  | .lt => compared operands (· == .lt)
  | .lte => compared operands (· != .gt)
  | .both => .ok (.bool (operands.values.all (isTrue false)))
  | .either => .ok (.bool (operands.values.any (isTrue false)))
  | .negate => do return .bool !(isTrue false (← operands.need 0))

/-- The levels of a log. -/
def logLevels : List String := ["error", "warn", "info", "debug", "trace"]

/-- Log the arguments, which prints nothing; the level must be a known one. -/
def logged (operands : Operands) : Rendered Unit :=
  match operands.option? "level" with
  | some (.string level) =>
    if logLevels.contains (String.ofList (level.toList.map Char.toLower)) then .ok ()
    else .error .failed
  | _ => .ok ()

/-- The bodies of a block as functions of the scope, with the names of its parameters. -/
structure Bodies where
  parameters : List String := []
  body : Scope → Rendered (List Chunk) := fun _ => .ok []
  /-- What is rendered instead, if anything. -/
  alternative : Option (Scope → Rendered (List Chunk)) := none

namespace Bodies

/-- Render the alternative, if there is one. -/
def otherwise (bodies : Bodies) (scope : Scope) (fallback : Rendered (List Chunk)) :
    Rendered (List Chunk) :=
  match bodies.alternative with
  | some alternative => alternative scope
  | none => fallback

/-- Render the body or the alternative. -/
def choose (bodies : Bodies) (scope : Scope) (takesBody : Bool) : Rendered (List Chunk) :=
  if takesBody then bodies.body scope else bodies.otherwise scope (.ok [])

/-- The parameters of a loop: the item, and then its place. -/
def loopParameters (bodies : Bodies) (item place : Json) : List (String × Json) :=
  match bodies.parameters with
  | [] => []
  | [name] => [(name, item)]
  | name :: placeName :: _ => [(placeName, place), (name, item)]

/-- The frame of an item, whose place in the loop is `index` of `count`. -/
def loopFrame (bodies : Bodies) (key : Option String) (index count : Nat) (item : Json) : Frame :=
  let place : Json := match key with
    | some key => .string key
    | none => .int index
  { value := item
    locals := [("first", .bool (index == 0)), ("last", .bool (index + 1 == count)),
      ("index", .int index)] ++ (key.map fun key => ("key", Json.string key)).toList
    parameters := bodies.loopParameters item place }

/-- Render the body for each item from a place on. -/
def loop (bodies : Bodies) (scope : Scope) (count index : Nat) :
    List (Option String × Json) → Rendered (List Chunk)
  | [] => .ok []
  | (key, item) :: rest => do
    let chunks ← bodies.body (scope.enter (bodies.loopFrame key index count item))
    return chunks ++ (← bodies.loop scope count (index + 1) rest)

/-- Render the body for each of the items, or the alternative if there are none. -/
def each (bodies : Bodies) (scope : Scope) (items : List (Option String × Json)) :
    Rendered (List Chunk) :=
  if items.isEmpty then bodies.otherwise scope (.ok [])
  else bodies.loop scope items.length 0 items

end Bodies

/-- Render a block. -/
def BlockHelper.render (helper : BlockHelper) (operands : Operands) (bodies : Bodies)
    (scope : Scope) : Rendered (List Chunk) :=
  let first? := operands.positional.head?
  let missing := Except.error (.missing (first?.bind Operand.path))
  let chosen (positive : Bool) : Rendered (List Chunk) :=
    match first? with
    | none => .error .failed
    | some operand =>
      let includeZero := match operands.option? "includeZero" with
        | some (.bool value) => value
        | _ => false
      bodies.choose scope (isTrue includeZero (operand.value.getD .null) == positive)
  match helper with
  | .ifTrue => chosen true
  | .ifFalse => chosen false
  | .each =>
    match first? with
    | none => .error .failed
    | some ⟨some (.array items), _⟩ => bodies.each scope (items.map (none, ·))
    | some ⟨some (.object members), _⟩ =>
      bodies.each scope (members.map fun (key, value) => (some key, value))
    | some _ => bodies.otherwise scope missing
  | .within =>
    match first? with
    | none => .error .failed
    | some operand =>
      let value := operand.value.getD .null
      if isTrue false value then
        let parameters := match bodies.parameters with
          | [name] => [(name, value)]
          | _ => []
        bodies.body (scope.enter { value := value, parameters := parameters })
      else bodies.otherwise scope missing
  | .raw => bodies.body scope

end ModelCodegen.Template
