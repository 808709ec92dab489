import ModelCodegen.Name.Spelling
import ModelCodegen.Placeholder
import ModelCodegen.Text.Blank

/-!
# Path rules

A path rule is the pattern of an output path, relative and with placeholders for the names of an
application and a model.  The scope of the artifact decides which placeholders there are: a rule is
checked when it is made, so resolving it cannot fail.
-/

namespace ModelCodegen

/-- The names that a path may be made of, each with its value. -/
structure PathVars where
  values : List (String × String) := []
  deriving DecidableEq, Repr

namespace PathVars

/-- The names of a run: none. -/
def ofRun : PathVars := {}

/-- The names of an application. -/
def ofApplication (application : String) : Except Error PathVars := do
  Name.checkIdentifier application
  return ⟨[("app", application), ("app_title", ← Name.titleCase application),
    ("app_dash", ← Name.dasherize application)]⟩

/-- The names of a model and of its application. -/
def ofModel (application model : String) : Except Error PathVars := do
  let outer ← ofApplication application
  return ⟨outer.values ++ [("model", model), ("model_title", ← Name.titleCase model),
    ("model_dash", ← Name.dasherize model)]⟩

end PathVars

/-- The placeholders that the path of an artifact may use. -/
def ArtifactScope.placeholders : ArtifactScope → List String
  | .model => ["app", "model", "app_title", "model_title", "app_dash", "model_dash"]
  | .application => ["app", "app_title", "app_dash"]
  | .run => []

/-- A checked pattern of output paths. -/
structure PathRule where
  pattern : String
  deriving DecidableEq, Repr

namespace PathRule

/-- What keeps a pattern from being a rule of the scope. -/
def fault? (pattern : String) (scope : ArtifactScope) : Option PathRuleFault :=
  if Text.isAllBlank pattern then some .empty
  else if pattern.toList.head? = some '/' then some .absolute
  else
    ((Placeholder.placeholders pattern).find? fun name => !scope.placeholders.contains name).map
      (.unavailable · scope)

/-- The rule of a pattern, for artifacts of the scope. -/
def ofPattern (pattern : String) (scope : ArtifactScope) : Except Error PathRule :=
  match fault? pattern scope with
  | none => .ok ⟨pattern⟩
  | some fault => .error (.invalidPathRule pattern fault)

/-- A pattern is accepted if it is not blank, does not begin with a slash, and has no names in
braces but those of its scope. -/
theorem fault?_eq_none_iff {pattern : String} {scope : ArtifactScope} :
    fault? pattern scope = none ↔ Text.isAllBlank pattern = false ∧
      pattern.toList.head? ≠ some '/' ∧
      ∀ name ∈ Placeholder.placeholders pattern, name ∈ scope.placeholders := by
  rw [fault?]
  split
  · next hblank => simp [hblank]
  · next hblank =>
    split
    · next hslash => simp [hslash]
    · next hslash => simp [hblank, hslash]

/-- A rule is made of every pattern without fault, and of no other one. -/
theorem ofPattern_eq_ok {pattern : String} {scope : ArtifactScope} {rule : PathRule} :
    ofPattern pattern scope = .ok rule ↔ fault? pattern scope = none ∧ rule = ⟨pattern⟩ := by
  rw [ofPattern]
  cases fault? pattern scope <;> simp [eq_comm]

/-- The path of a rule for the given names. -/
def resolve (rule : PathRule) (vars : PathVars) : String :=
  Placeholder.substitute rule.pattern vars.values

end PathRule

end ModelCodegen
