import ModelCodegen.Error
import ModelCodegen.Template.Render

/-!
# Collections of templates

Templates by name, each read when it is added; what has to do with reading only is said for any
reader of bodies.  A template of the collection may include any other one.  What goes wrong while
rendering is told of the template that was asked for, also when it happens in one that it includes.
-/

namespace ModelCodegen

/-- Templates by name. -/
abbrev TemplateCollection := List (String × Template)

/-- A way to read template bodies: the template that a body is, if it is one. -/
abbrev TemplateReader := String → Option Template

namespace TemplateCollection

/-- The template of a body, for a reader. -/
def readWith (reader : TemplateReader) (name body : String) : Except Error Template :=
  match reader body with
  | some template => .ok template
  | none => .error (.badTemplate name .malformed)

/-- The collection with one more template, for a reader of bodies. -/
def addWith (reader : TemplateReader) (templates : TemplateCollection) (name body : String) :
    Except Error TemplateCollection := do
  return Entries.insert name (← readWith reader name body) templates

/-- The collection with one more template. -/
def add (templates : TemplateCollection) (name body : String) :
    Except Error TemplateCollection :=
  addWith Template.ofText? templates name body

/-- What a missing value is called that no path leads to. -/
def unnamedKey : String := "<unknown>"

/-- A fault in rendering as an error of a template. -/
def errorOf (template : String) : Template.Fault → Error
  | .missing path? => .missingKey template (path?.getD unnamedKey)
  | .failed => .renderFailed template

/-- The text of a template for the given data. -/
def render (templates : TemplateCollection) (name : String) (data : Json) :
    Except Error String :=
  (Template.render templates name data).mapError (errorOf name)

end TemplateCollection

end ModelCodegen
