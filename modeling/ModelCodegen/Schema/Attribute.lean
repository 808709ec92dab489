import ModelCodegen.Json.Value

/-!
# Attributes of a model

A model has fields, which hold values, and relationships, which point at other models.  A field may
have a type, known by its tag; a tag that is none of the built-in ones is a type of its own.
-/

namespace ModelCodegen

/-- The type of a field. -/
inductive FieldType where
  | string
  | number
  | boolean
  | date
  | custom (name : String)
  deriving DecidableEq, Repr

namespace FieldType

/-- The tag that stands for a type in documents and settings. -/
def tag : FieldType → String
  | string => "string"
  | number => "number"
  | boolean => "boolean"
  | date => "date"
  | custom name => name

/-- The types with tags of their own. -/
def builtin : List FieldType := [string, number, boolean, date]

/-- The type of a tag. -/
def ofTag (tag : String) : FieldType :=
  (builtin.find? (·.tag == tag)).getD (custom tag)

/-- Every tag is the tag of its type. -/
theorem tag_ofTag (tag : String) : (ofTag tag).tag = tag := by
  rw [ofTag]
  cases h : builtin.find? (·.tag == tag) with
  | none => rfl
  | some type => simpa using List.find?_some h

/-- The type that a word names: a built-in one by its name, spelled as it is, and a type of its own
by any other word. -/
def parse? : String → Option FieldType
  | "string" => some string
  | "number" => some number
  | "boolean" => some boolean
  | "date" => some date
  | word => some (custom word)

/-- The value that a type is written as. -/
def toJson (type : FieldType) : Json := .string type.tag

end FieldType

/-- How many models a relationship points at. -/
inductive RelationKind where
  | belongsTo
  | hasMany
  deriving DecidableEq, Repr

namespace RelationKind

/-- Every kind of relationship. -/
def all : List RelationKind := [belongsTo, hasMany]

/-- The name of a kind in documents and in generated code. -/
def name : RelationKind → String
  | belongsTo => "belongsTo"
  | hasMany => "hasMany"

/-- The kind of a name, matched exactly. -/
def ofName? (text : String) : Option RelationKind := all.find? (·.name == text)

/-- Whether the relationship holds a collection. -/
def isCollection : RelationKind → Bool
  | belongsTo => false
  | hasMany => true

/-- Kinds of relationships are told apart by name. -/
theorem name_injective {a b : RelationKind} (h : a.name = b.name) : a = b := by
  cases a <;> cases b <;> first | rfl | exact absurd h (by decide)

/-- The name of a kind reads back as that kind. -/
theorem ofName?_name (kind : RelationKind) : ofName? kind.name = some kind := by
  cases kind <;> decide

end RelationKind

/-- A value attribute. -/
structure Field where
  name : String
  type : Option FieldType := none
  /-- The default value; a default of null is a default. -/
  default : Option Json := none
  deriving Repr

/-- A field has a default, perhaps null. -/
def Field.hasDefault (field : Field) : Bool := field.default.isSome

/-- An attribute that points at another model. -/
structure Relationship where
  name : String
  kind : RelationKind
  /-- The application of the related model. -/
  app : String
  relatedModel : String
  /-- The attribute of the related model that points back. -/
  inverse : Option String := none
  deriving DecidableEq, Repr

/-- The related model with its application. -/
def Relationship.target (relationship : Relationship) : String :=
  relationship.app ++ "/" ++ relationship.relatedModel

end ModelCodegen
