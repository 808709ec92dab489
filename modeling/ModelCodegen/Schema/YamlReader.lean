import ModelCodegen.Schema.Definition
import ModelCodegen.Yaml.Parser
import ModelCodegen.Yaml.Scalar

/-!
# Definitions in YAML

A record is read from a mapping, whose unknown entries are ignored.  Where a text is expected the
text of any scalar counts; where a list is expected an omitted value is an empty one.  Aliases are
followed where they are read.  Because an alias may stand for a node around it, and because aliases
multiply, a reader may enter only so many collections, one inside the other, and follow only so
many aliases in all.
-/

namespace ModelCodegen.Yaml

/-- A computation that reads nodes of a document and may follow so many more aliases. -/
abbrev Reading (α : Type) := ReaderT Document (StateT Nat Option) α

/-- A reader of nodes, given how many collections it may enter. -/
abbrev Reader (α : Type) := Nat → Node → Reading α

namespace Reader

/-- How many collections a reader of a document may enter, one inside the other. -/
def depthLimit : Nat := 128

/-- The node itself, or the one that an alias stands for. -/
def follow (node : Node) : Reading Node := do
  match node with
  | .alias anchor =>
    match ← get with
    | 0 => failure
    | jumps + 1 =>
      set jumps
      match (← read).anchored? anchor with
      | some target => return target
      | none => failure
  | node => return node

/-- The text of any scalar. -/
def text : Reader String := fun _ node => do
  match ← follow node with
  | .scalar _ _ chars => return String.ofList chars
  | _ => failure

/-- A truth value, plain or as a literal with the tag for it. -/
def boolean : Reader Bool := fun _ node => do
  match ← follow node with
  | .scalar properties style chars =>
    if style = .plain ∨ (style = .literal ∧ properties.tag = some (coreTag "bool")) then
      match truth? (String.ofList chars) with
      | some value => return value
      | none => failure
    else failure
  | _ => failure

/-- A plain null, or a plain omitted value without a tag, is read as nothing.  The tag for null
allows nothing else. -/
def optional {α : Type} (read : Reader α) : Reader (Option α) := fun depth node => do
  let node ← follow node
  match node with
  | .scalar properties .plain chars =>
    let word := String.ofList chars
    match properties.tag with
    | none => if word.isEmpty ∨ isNullWord word then return none else some <$> read depth node
    | some tag =>
      if tag = coreTag "null" then if isNullWord word then return none else failure
      else some <$> read depth node
  | node => some <$> read depth node

/-- A plain scalar without any text. -/
def isOmitted (style : ScalarStyle) (chars : List Char) : Bool :=
  style == .plain && chars.isEmpty

/-- The items of a sequence. -/
def list {α : Type} (read : Reader α) : Reader (List α) := fun depth node => do
  match ← follow node, depth with
  | .sequence _ items, depth + 1 => items.mapM (read depth)
  | .scalar _ style chars, _ => if isOmitted style chars then return [] else failure
  | _, _ => failure

/-- The value of any node.  Of a repeated key the last value counts. -/
def value : Reader Json
  | 0, node => do
    match ← follow node with
    | .scalar properties style chars => scalar properties style chars
    | _ => failure
  | depth + 1, node => do
    match ← follow node with
    | .scalar properties style chars => scalar properties style chars
    | .sequence properties items =>
      if isOwnTag properties then failure else .array <$> items.mapM (value depth)
    | .mapping properties entries =>
      if isOwnTag properties then failure
      else
        let members ← entries.mapM fun (key, item) => do
          return (← text depth key, ← value depth item)
        return .ofMembers members
    | .alias _ => failure
where
  /-- A tag that the document defines for itself. -/
  isOwnTag (properties : Properties) : Bool := properties.tag.any fun tag => tag.head? == some '!'
  /-- The value of a scalar. -/
  scalar (properties : Properties) (style : ScalarStyle) (chars : List Char) : Reading Json :=
    match scalarValue? properties.tag style chars with
    | some value => return value
    | none => failure

/-- The value of a member given at most once. -/
def member (name : String) (members : List (String × Node)) : Reading (Option Node) :=
  match members.filter (·.1 == name) with
  | [] => return none
  | [(_, node)] => return some node
  | _ => failure

/-- The members of a record in declaration order, each perhaps absent. -/
def record (names : List String) : Reader (List (Option Node)) := fun depth node => do
  match ← follow node, depth with
  | .mapping _ entries, _ + 1 =>
    let named ← entries.mapM fun (key, node) => do return (← text depth key, node)
    names.mapM (member · named)
  | .scalar _ style chars, _ =>
    if isOmitted style chars then return names.map fun _ => none else failure
  | _, _ => failure

/-- A member that must be there. -/
def required {α : Type} (read : Reader α) (depth : Nat) (node : Option Node) : Reading α :=
  match node with
  | none => failure
  | some node => read depth node

/-- A member with a value to fall back on. -/
def orElse {α : Type} (fallback : α) (read : Reader α) (depth : Nat) (node : Option Node) :
    Reading α :=
  match node with
  | none => return fallback
  | some node => read depth node

/-- A field. -/
def fieldDefinition : Reader FieldDefinition := fun depth node => do
  match ← record ["name", "type", "has_default", "default"] depth node with
  | [name, type, hasDefault, default] =>
    let inner := depth - 1
    return {
      name := ← required text inner name
      type := (← orElse none (optional text) inner type).map FieldType.ofTag
      hasDefault := ← orElse none (optional boolean) inner hasDefault
      default := ← orElse none (fun depth node => some <$> value depth node) inner default }
  | _ => failure

/-- A relationship. -/
def relationshipDefinition : Reader RelationshipDefinition := fun depth node => do
  match ← record ["name", "kind", "app", "related_model", "inverse"] depth node with
  | [name, kind, app, relatedModel, inverse] =>
    let inner := depth - 1
    return {
      name := ← required text inner name
      kind := ← required text inner kind
      app := ← required text inner app
      relatedModel := ← required text inner relatedModel
      inverse := ← orElse none (optional text) inner inverse }
  | _ => failure

/-- A model. -/
def modelDefinition : Reader ModelDefinition := fun depth node => do
  match ← record ["application_name", "model_name", "fields", "relationships", "endpoint",
    "pagination_container"] depth node with
  | [application, model, fields, relationships, endpoint, container] =>
    let inner := depth - 1
    return {
      applicationName := ← required text inner application
      modelName := ← required text inner model
      fields := ← orElse [] (list fieldDefinition) inner fields
      relationships := ← orElse [] (list relationshipDefinition) inner relationships
      endpoint := ← orElse none (optional text) inner endpoint
      paginationContainer := ← orElse none (optional text) inner container }
  | _ => failure

/-- What a whole document is read as. -/
def read? {α : Type} (reader : Reader α) (text : String) : Option α := do
  let document ← Document.ofText? text
  let jumps := 100 * document.root.size
  return (← (reader depthLimit document.root).run document |>.run jumps).1

end Reader

end ModelCodegen.Yaml
