import ModelCodegen.Json.Value
import ModelCodegen.Name.Endpoint
import ModelCodegen.Stack.TypeMapping

/-!
# Contexts of rendering

What all artifacts of a stack have in common while they are rendered: how field types are spelled,
how addresses end, and values that templates may refer to by name.
-/

namespace ModelCodegen

/-- What is known besides the model. -/
structure RenderContext where
  types : TypeMapping := {}
  endpointStyle : Name.EndpointStyle := {}
  /-- The named values, in the order of their names. -/
  values : List (String × Json) := []
  deriving Repr

namespace RenderContext

/-- The context in which a name has a value. -/
def bind (context : RenderContext) (key : String) (value : Json) : RenderContext :=
  { context with values := Entries.insert key value context.values }

def get? (context : RenderContext) (key : String) : Option Json := Entries.get? key context.values

/-- The text that a name stands for. -/
def text? (context : RenderContext) (key : String) : Option String :=
  (context.get? key).bind Json.text?

/-- What a template sees of the context: its values, and null for a container of pages that is not
set. -/
def data (context : RenderContext) : List (String × Json) :=
  match context.get? "pagination_container" with
  | some _ => context.values
  | none => Entries.insert "pagination_container" .null context.values

/-- A binding shadows what the context had under its name, and nothing else. -/
theorem get?_bind (context : RenderContext) (key : String) (value : Json) (k : String) :
    (context.bind key value).get? k = if key = k then some value else context.get? k :=
  Entries.get?_insert key value context.values k

/-- A name of the context means what it means there, and the container of pages is never absent. -/
theorem get?_data (context : RenderContext) (k : String) :
    Entries.get? k context.data =
      (context.get? k <|> if "pagination_container" = k then some .null else none) := by
  unfold data
  cases h : context.get? "pagination_container" with
  | some value =>
    by_cases hk : "pagination_container" = k
    · subst hk
      rw [get?] at h ⊢
      simp [h]
    · simp [get?, hk]
  | none =>
    rw [Entries.get?_insert]
    by_cases hk : "pagination_container" = k
    · subst hk
      simp [h]
    · simp [get?, hk]

end RenderContext

end ModelCodegen
