import ModelCodegen.Json.Value

/-!
# Templates

A template is a list of elements: text that is copied, values that are printed, calls of helpers,
blocks whose bodies are rendered by a helper, and inclusions of other templates.  Blanks around
tags have been settled and nothing is left to decide about the text.

There is no element for a tag that decorates or that passes a body on: `{{* name}}` and
`{{#* inline "name"}}`, which change the set of templates while a template is rendered, and
`{{#> name}}`, an inclusion with a body of its own.
-/

namespace ModelCodegen.Template

/-- A path to a value. -/
structure ValuePath where
  /-- The path as it is written, for messages. -/
  written : String
  /-- The path starts at the data of the whole template. -/
  fromRoot : Bool := false
  /-- The first name is a variable of a loop. -/
  isLocal : Bool := false
  /-- How many contexts the path goes outward first. -/
  outward : Nat := 0
  /-- The names to follow; a path without any leads to the context itself. -/
  names : List String
  deriving DecidableEq, Repr

/-- An argument of a call. -/
inductive Argument where
  | literal (value : Json)
  | path (path : ValuePath)
  | call (helper : String) (arguments : List Argument) (options : List (String × Argument))
  deriving Repr

/-- How the text of an included template is placed. -/
structure Indentation where
  /-- What stands in front of each of its lines. -/
  blanks : List Char := []
  /-- Its first line begins a line of the whole text, and is indented like the others. -/
  startsLine : Bool := false
  deriving DecidableEq, Repr

/-- A helper with what it is applied to. -/
structure Call where
  helper : String
  arguments : List Argument := []
  /-- The named arguments. -/
  options : List (String × Argument) := []
  deriving Repr

/-- A piece of a template.  Decorators, templates that are defined inside of another one and
inclusions with a body are left out. -/
inductive Element where
  /-- Text that is copied. -/
  | text (chars : List Char)
  /-- A value, or a call of the helper of that name. -/
  | value (path : ValuePath)
  /-- The value of a call in parentheses, which may itself name a helper. -/
  | computed (call : Call)
  /-- A call of a helper. -/
  | apply (call : Call)
  /-- A call of a helper that renders the body, or the alternative if there is one.  Names of
  the parameters stand for values inside the body.  The tag may stand alone on its line. -/
  | block (call : Call) (parameters : List String) (startsLine : Bool) (body : List Element)
      (alternative : Option (List Element))
  /-- Another template, with the context it is rendered in and values added to that context. -/
  | inclusion (template : Argument) (arguments : List Argument)
      (options : List (String × Argument)) (indentation : Indentation)
  deriving Repr

end ModelCodegen.Template

namespace ModelCodegen

/-- A template is a list of elements. -/
abbrev Template := List Template.Element

end ModelCodegen
