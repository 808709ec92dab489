import ModelCodegen.Name.Identifier
import ModelCodegen.Text.Word

/-!
# Spellings of a name

An identifier is spelled in title case for class names and with hyphens for file names.  Both
spellings are refused for a text that is no identifier.
-/

namespace ModelCodegen.Name

/-- The spelling for classes: words with capitals, joined without a separator. -/
def titleCase (name : String) : Except Error String := do
  checkIdentifier name
  return Text.upperCamel name

/-- The spelling for files: lowercase words with hyphens between them. -/
def dasherize (name : String) : Except Error String := do
  checkIdentifier name
  return Text.kebab name

/-- The class of a model: its application and its name in title case. -/
def className (application model : String) : Except Error String := do
  let first ← titleCase application
  let second ← titleCase model
  return first ++ second

/-- An identifier can be written in words that begin with capitals. -/
theorem titleCase_of_isIdentifier {name : String} (h : IsIdentifier name) :
    titleCase name = .ok (Text.upperCamel name) := by
  simp [titleCase, checkIdentifier_eq_ok_iff.2 h, bind, Except.bind, pure, Except.pure]

/-- An identifier can be written in words and dashes. -/
theorem dasherize_of_isIdentifier {name : String} (h : IsIdentifier name) :
    dasherize name = .ok (Text.kebab name) := by
  simp [dasherize, checkIdentifier_eq_ok_iff.2 h, bind, Except.bind, pure, Except.pure]

/-- The class of a model is named by the words of the application, then those of the model. -/
theorem className_of_isIdentifier {application model : String} (ha : IsIdentifier application)
    (hm : IsIdentifier model) :
    className application model = .ok (Text.upperCamel application ++ Text.upperCamel model) := by
  simp [className, titleCase_of_isIdentifier ha, titleCase_of_isIdentifier hm, bind, Except.bind,
    pure, Except.pure]

end ModelCodegen.Name
