import ModelCodegen.Template.Helper
import ModelCodegen.Template.Parser

/-!
# Rendering

Elements are rendered one after the other.  A helper gets its arguments evaluated, and a block
helper the bodies of its block as functions of the scope.  Other templates are included through a
function that renders them, so rendering follows the structure of the elements; that function is
built from a bound on how deep templates may include each other.  An included template sees the
contexts of the place where it is included, with one more context inside them.
-/

namespace ModelCodegen.Template

mutual
/-- The operand of an argument. -/
def operand (scope : Scope) : Argument → Rendered Operand
  | .literal value => .ok ⟨some value, none⟩
  | .path path => do return ⟨← scope.value? path, some path.written⟩
  | .call helper arguments options => do
    let operands : Operands := ⟨← operandList scope arguments, ← operandOptions scope options⟩
    match helper? helper with
    | none => throw .failed
    | some (.value helper) => return ⟨some (← helper.compute operands), none⟩
    | some .log => do
      logged operands
      return ⟨some (.string ""), none⟩
    | some (.block .each) =>
      if operands.positional.isEmpty then throw .failed else return ⟨some (.string ""), none⟩
    | some (.block helper) => do
      let _ ← helper.render operands {} scope
      return ⟨some (.string ""), none⟩
termination_by structural argument => argument

/-- The operands of positional arguments. -/
def operandList (scope : Scope) : List Argument → Rendered (List Operand)
  | [] => .ok []
  | argument :: rest => do return (← operand scope argument) :: (← operandList scope rest)
termination_by structural arguments => arguments

/-- The operands of named arguments. -/
def operandOptions (scope : Scope) :
    List (String × Argument) → Rendered (List (String × Operand))
  | [] => .ok []
  | (name, argument) :: rest => do
    return (name, ← operand scope argument) :: (← operandOptions scope rest)
termination_by structural options => options
end

/-- The operands of a call. -/
def operandsOf (scope : Scope) (arguments : List Argument) (options : List (String × Argument)) :
    Rendered Operands := do
  return ⟨← operandList scope arguments, ← operandOptions scope options⟩

/-- The text of a call that is no block. -/
def applied (scope : Scope) (call : Call) : Rendered (List Char) := do
  let result ← operand scope (.call call.helper call.arguments call.options)
  return printed (result.value.getD .null)

/-- The text of a path that stands alone in a tag. -/
def printedPath (scope : Scope) (path : ValuePath) : Rendered (List Char) :=
  match helper? path.written with
  | some _ => applied scope ⟨path.written, [], []⟩
  | none => do
    match ← scope.value? path with
    | some value => return printed value
    | none => throw (.missing (some path.written))

/-- The text of a call in parentheses that stands alone in a tag: its value may name a helper. -/
def printedCall (scope : Scope) (call : Call) : Rendered (List Char) := do
  let text ← applied scope call
  match helper? (String.ofList text) with
  | some _ => applied scope ⟨String.ofList text, [], []⟩
  | none => return text

/-- A block.  A helper that computes a value prints it, whatever the body, unless it is a test. -/
def renderedBlock (scope : Scope) (call : Call) (bodies : Bodies) : Rendered (List Chunk) := do
  let operands ← operandsOf scope call.arguments call.options
  match helper? call.helper with
  | none => throw .failed
  | some (.value helper) =>
    let value ← helper.compute operands
    if helper.isTest then bodies.choose scope (isTrue false value)
    else return [.text (printed value)]
  | some .log => do
    logged operands
    return []
  | some (.block helper) => helper.render operands bodies scope

/-- A value as an object: the members of an object, or the parts of a list or a text by their
places. -/
def membersOf : Json → List (String × Json)
  | .object members => members
  | .array items => Entries.ofList (places items)
  | .string text => Entries.ofList (places (text.toList.map fun c => .string (String.singleton c)))
  | _ => []
where
  /-- Items with their places as keys. -/
  places (items : List Json) : List (String × Json) :=
    items.zipIdx.map fun (item, n) => (toString n, item)

/-- The context of an included template: the first argument, or else the context around it.  Named
arguments are added to its members, and are also parameters inside. -/
def includedFrame (scope : Scope) (operands : Operands) : Frame :=
  let base := operands.values.head?.getD scope.inner.value
  let added := operands.options.map fun (name, operand) => (name, operand.value.getD .null)
  if added.isEmpty then { value := base }
  else { value := .object (Entries.insertAll (membersOf base) added), parameters := added }

/-- How another template is rendered in a scope. -/
abbrev Include := String → Scope → Rendered (List Chunk)

/-- An inclusion.  A template may not include itself, unless in or behind the body of a block, where
no template is the `current` one. -/
def included (render : Include) (current : Option String) (scope : Scope) (template : Argument)
    (arguments : List Argument) (options : List (String × Argument)) (indentation : Indentation) :
    Rendered (List Chunk) := do
  let name := printed ((← operand scope template).value.getD .null)
  let operands ← operandsOf scope arguments options
  if current = some (String.ofList name) then throw .failed
  else
    let frame := includedFrame scope operands
    return [.included indentation (← render (String.ofList name) (scope.enter frame))]

mutual
/-- What an element yields. -/
def renderElement (render : Include) (current : Option String) (scope : Scope) :
    Element → Rendered (List Chunk)
  | .text chars => .ok [.text chars]
  | .value path => do return [.text (← printedPath scope path)]
  | .computed call => do return [.text (← printedCall scope call)]
  | .apply call => do return [.text (← applied scope call)]
  | .block call parameters startsLine body alternative => do
    let bodies : Bodies :=
      { parameters := parameters
        body := fun scope => do return [.body (← renderElements render none scope body)]
        alternative := renderAlternative render alternative }
    return [.block startsLine (← renderedBlock scope call bodies)]
  | .inclusion template arguments options indentation =>
    included render current scope template arguments options indentation
termination_by structural element => element

/-- What elements yield, one after the other.  Behind the body of a block no template is the current
one. -/
def renderElements (render : Include) (current : Option String) (scope : Scope) :
    List Element → Rendered (List Chunk)
  | [] => .ok []
  | element :: rest => do
    let chunks ← renderElement render current scope element
    let current := if chunks.any Chunk.hasBody then none else current
    return chunks ++ (← renderElements render current scope rest)
termination_by structural elements => elements

/-- The alternative of a block as a function of the scope. -/
def renderAlternative (render : Include) :
    Option (List Element) → Option (Scope → Rendered (List Chunk))
  | none => none
  | some elements =>
    some fun scope => do return [.body (← renderElements render none scope elements)]
termination_by structural elements => elements
end

/-- How deep templates may include each other. -/
def inclusionLimit : Nat := 4000

/-- Render a template of a collection, which may include others to the given depth. -/
def renderNamed (templates : List (String × Template)) : Nat → Include
  | 0, _, _ => .error .failed
  | depth + 1, name, scope =>
    match Entries.get? name templates with
    | none => .error .failed
    | some elements => renderElements (renderNamed templates depth) (some name) scope elements

/-- The text of a template of a collection for the given data. -/
def render (templates : List (String × Template)) (name : String) (data : Json) :
    Rendered String := do
  return String.ofList (textOf (← renderNamed templates inclusionLimit name (.ofData data)))

end ModelCodegen.Template
