import ModelCodegen.Json.Parser
import ModelCodegen.Schema.Definition

/-!
# Definitions in JSON

A record is read from an object, whose unknown members are ignored, or from an array that gives its
members in declaration order.  A member given twice, a required one left out and a value of another
kind are refused.  Every reader takes the number of containers that may still be entered.
-/

namespace ModelCodegen.Json.Tree

/-- A reader of trees, given how many containers it may enter. -/
abbrev Reader (α : Type) := Nat → Tree → Option α

/-- The value of a member given at most once; the outer option fails if it is given twice. -/
def member? (name : String) (members : List (String × Tree)) : Option (Option Tree) :=
  match members.filter (·.1 == name) with
  | [] => some none
  | [(_, value)] => some (some value)
  | _ => none

/-- The members of a record in declaration order, each perhaps absent. -/
def record (names : List String) : Reader (List (Option Tree))
  | _ + 1, .object members => do
    let named ← members.mapM fun (key, value) => key.map (·, value)
    names.mapM (member? · named)
  | _ + 1, .array items =>
    if items.length ≤ names.length then
      some (items.map some ++ List.replicate (names.length - items.length) none)
    else none
  | _, _ => none

def text : Reader String
  | _, .string text => text
  | _, _ => none

/-- The type that a text stands for. -/
def fieldType : Reader FieldType := fun depth tree => (text depth tree).map FieldType.ofTag

def boolean : Reader Bool
  | _, .bool value => some value
  | _, _ => none

/-- Null is read as nothing. -/
def optional {α : Type} (read : Reader α) : Reader (Option α)
  | _, .null => some none
  | depth, tree => (read depth tree).map some

/-- The items of an array. -/
def list {α : Type} (read : Reader α) : Reader (List α)
  | depth + 1, .array items => items.mapM (read depth)
  | _, _ => none

/-- A member that must be there. -/
def required {α : Type} (read : Reader α) (depth : Nat) (value : Option Tree) : Option α :=
  value.bind (read depth)

/-- A member with a value to fall back on. -/
def orElse {α : Type} (fallback : α) (read : Reader α) (depth : Nat) (value : Option Tree) :
    Option α :=
  match value with
  | none => some fallback
  | some tree => read depth tree

/-- A field. -/
def fieldDefinition : Reader FieldDefinition := fun depth tree => do
  match ← record ["name", "type", "has_default", "default"] depth tree with
  | [name, type, hasDefault, value] =>
    let inner := depth - 1
    return {
      name := ← required text inner name
      type := (← orElse none (optional text) inner type).map FieldType.ofTag
      hasDefault := ← orElse none (optional boolean) inner hasDefault
      default := ← orElse none (fun depth tree => (toJson? depth tree).map some) inner value }
  | _ => none

/-- A relationship. -/
def relationshipDefinition : Reader RelationshipDefinition := fun depth tree => do
  match ← record ["name", "kind", "app", "related_model", "inverse"] depth tree with
  | [name, kind, app, relatedModel, inverse] =>
    let inner := depth - 1
    return {
      name := ← required text inner name
      kind := ← required text inner kind
      app := ← required text inner app
      relatedModel := ← required text inner relatedModel
      inverse := ← orElse none (optional text) inner inverse }
  | _ => none

/-- A model. -/
def modelDefinition : Reader ModelDefinition := fun depth tree => do
  match ← record ["application_name", "model_name", "fields", "relationships", "endpoint",
    "pagination_container"] depth tree with
  | [application, model, fields, relationships, endpoint, container] =>
    let inner := depth - 1
    return {
      applicationName := ← required text inner application
      modelName := ← required text inner model
      fields := ← orElse [] (list fieldDefinition) inner fields
      relationships := ← orElse [] (list relationshipDefinition) inner relationships
      endpoint := ← orElse none (optional text) inner endpoint
      paginationContainer := ← orElse none (optional text) inner container }
  | _ => none

/-- What a whole document is read as. -/
def read? {α : Type} (reader : Reader α) (document : String) : Option α := do
  reader depthLimit (← Tree.ofText? document)

end ModelCodegen.Json.Tree
