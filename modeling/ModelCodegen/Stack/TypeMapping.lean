import ModelCodegen.Schema.Attribute

/-!
# Spelling of field types

A stack spells the types of fields in its own way, or not at all.  Settings may override the
spelling of any tag; an empty override says that the type is not spelled.
-/

namespace ModelCodegen

/-- The ways of spelling field types. -/
inductive TypeStyle where
  /-- Tags of attribute transforms. -/
  | emberData
  /-- Types of TypeScript. -/
  | typeScript
  /-- Names of attribute constructors. -/
  | vuexOrm
  /-- No types. -/
  | untyped
  deriving DecidableEq, Repr

namespace TypeStyle

def all : List TypeStyle := [emberData, typeScript, vuexOrm, untyped]

/-- The name of a style in listings. -/
def name : TypeStyle → String
  | emberData => "ember-data"
  | typeScript => "typescript"
  | vuexOrm => "vuexorm"
  | untyped => "untyped"

def ofName? (text : String) : Option TypeStyle := all.find? (·.name == text)

/-- How a style spells a type, if it does. -/
def spell : TypeStyle → FieldType → Option String
  | untyped, _ => none
  | emberData, type => some type.tag
  | typeScript, .date => some "Date"
  | typeScript, .custom _ => none
  | typeScript, type => some type.tag
  | vuexOrm, .date => none
  | vuexOrm, .custom _ => none
  | vuexOrm, type => some type.tag

end TypeStyle

/-- A style with overrides for single tags. -/
structure TypeMapping where
  style : TypeStyle := .untyped
  overrides : List (String × String) := []
  deriving DecidableEq, Repr

namespace TypeMapping

/-- How a type is spelled, if it is. -/
def spell (mapping : TypeMapping) (type : FieldType) : Option String :=
  match Entries.get? type.tag mapping.overrides with
  | some "" => none
  | some target => some target
  | none => mapping.style.spell type

/-- How the type of a field is spelled, which may have none. -/
def spellOption (mapping : TypeMapping) (type : Option FieldType) : Option String :=
  type.bind mapping.spell

end TypeMapping

end ModelCodegen
