import ModelCodegen.Proofs.Generation.Data
import ModelCodegen.Proofs.Generation.Job
import ModelCodegen.Proofs.Template.Shape

/-!
# Shapes of data

The shape of what templates find, for each scope of artifacts. Texts and lists are
told apart from values that may be anything, null included.
-/

namespace ModelCodegen

open Template

namespace Template.Shape

/-- Values under the names of a record that fit its shapes, one after the other. -/
theorem fits_record_of_lookup {shapes : List (String × Shape)} {members view : List (String × Json)}
    (hv : ∀ name shape, shapes.lookup name = some shape →
      Entries.get? name members = Entries.get? name view)
    (h : List.Forall₂ (fun shape value => shape.1 = value.1 ∧ shape.2.Fits value.2) shapes view) :
    (record shapes).Fits (.object members) := by
  have hfound : ∀ name shape, shapes.lookup name = some shape →
      ∃ value, Entries.get? name view = some value ∧ shape.Fits value := by
    intro name shape hl
    clear hv
    induction h with
    | nil => simp at hl
    | @cons entry value shapes view hfirst _ ih =>
      obtain ⟨key, inner⟩ := entry
      obtain ⟨_, first⟩ := value
      obtain ⟨rfl, hfits⟩ := hfirst
      rw [List.lookup_cons] at hl
      rw [Entries.get?_cons]
      by_cases he : key = name
      · rw [if_pos he]
        simp only [he, beq_self_eq_true, Option.some.injEq] at hl
        exact ⟨first, rfl, hl ▸ hfits⟩
      · have hb : (name == key) = false := by simpa using Ne.symm he
        rw [if_neg he]
        rw [hb] at hl
        exact ih hl
  refine .record (fun name shape hl hnone => ?_) fun name shape value hl hvalue => ?_
  · obtain ⟨value, hvalue, -⟩ := hfound name shape hl
    rw [hv name shape hl, hvalue] at hnone
    cases hnone
  · obtain ⟨value', hvalue', hfits⟩ := hfound name shape hl
    rw [hv name shape hl, hvalue', Option.some.injEq] at hvalue
    exact hvalue ▸ hfits

/-- An object fits a record if its members are those of a view that fits entry by entry. -/
theorem fits_record {shapes : List (String × Shape)} {members view : List (String × Json)}
    (hv : ∀ name, Entries.get? name members = Entries.get? name view)
    (h : List.Forall₂ (fun shape value => shape.1 = value.1 ∧ shape.2.Fits value.2) shapes view) :
    (record shapes).Fits (.object members) :=
  fits_record_of_lookup (fun name _ _ => hv name) h

end Template.Shape

open Shape (fits_record)

/-! ## Parts of models -/

def fieldShape : Shape :=
  .record [("name", .text), ("type", .any), ("has_default", .any), ("default", .any)]

def relationshipShape : Shape :=
  .record [("name", .text), ("kind", .text), ("app", .text), ("related_model", .text),
    ("related_class", .text), ("inverse", .any), ("many", .any)]

def itemShape : Shape :=
  .record [("application_name", .text), ("model_name", .text), ("class_name", .text),
    ("endpoint", .text), ("import_path", .text)]

/-- The data of every field is of one shape. -/
theorem fieldShape_fits (types : TypeMapping) (field : Field) :
    fieldShape.Fits (fieldBinding types field) :=
  fits_record (get?_fieldBinding types field)
    (.cons ⟨rfl, .text _⟩ (.cons ⟨rfl, .any _⟩ (.cons ⟨rfl, .any _⟩ (.cons ⟨rfl, .any _⟩ .nil))))

/-- The data of every relationship is of one shape. -/
theorem relationshipShape_fits (targetApp : Option String) (relationship : Relationship) :
    relationshipShape.Fits (.ofMembers (relationshipView targetApp relationship)) :=
  fits_record (get?_relationshipView targetApp relationship)
    (.cons ⟨rfl, .text _⟩ (.cons ⟨rfl, .text _⟩ (.cons ⟨rfl, .text _⟩ (.cons ⟨rfl, .text _⟩
      (.cons ⟨rfl, .text _⟩ (.cons ⟨rfl, .any _⟩ (.cons ⟨rfl, .any _⟩ .nil)))))))

/-- The items of aggregates are of one shape. -/
theorem itemShape_fits (itemImport : Option PathRule) (schema : ModelSchema) :
    itemShape.Fits (.ofMembers (itemView itemImport schema)) :=
  fits_record (get?_itemView itemImport schema)
    (.cons ⟨rfl, .text _⟩ (.cons ⟨rfl, .text _⟩ (.cons ⟨rfl, .text _⟩ (.cons ⟨rfl, .text _⟩
      (.cons ⟨rfl, .text _⟩ .nil)))))

/-! ## Data -/

/-- What is known in every template. -/
def commonShapes : List (String × Shape) :=
  [("pagination_container", .any), ("target_app", .any), ("relationship_imports", .any),
    ("ember_app", .text), ("api_base", .text)]

/-- What is known in the templates of a scope. -/
def ArtifactScope.shape : ArtifactScope → Shape
  | .model => .record ([("application_name", .text), ("model_name", .text), ("class_name", .text),
      ("endpoint", .text), ("has_relationships", .any), ("relationship_kinds", .items .text),
      ("fields", .items fieldShape), ("relationships", .items relationshipShape),
      ("endpoint_url", .text)] ++ commonShapes)
  | .application =>
    .record ([("items", .items itemShape), ("application_name", .text)] ++ commonShapes)
  | .run => .record ([("items", .items itemShape)] ++ commonShapes)

/-- What every template finds is of one shape, whatever the settings are. -/
theorem commonShapes_fit (config : Config) (stack : StackDescriptor)
    (container : Option String) :
    List.Forall₂ (fun shape value => shape.1 = value.1 ∧ shape.2.Fits value.2) commonShapes
      (commonView config stack container) :=
  .cons ⟨rfl, .any _⟩ (.cons ⟨rfl, .any _⟩ (.cons ⟨rfl, .any _⟩ (.cons ⟨rfl, .text _⟩
    (.cons ⟨rfl, .text _⟩ .nil))))

private theorem fits_items {item : Shape} {α : Type} {f : α → Json} (xs : List α)
    (h : ∀ x, item.Fits (f x)) : (Shape.items item).Fits (.array (xs.map f)) :=
  .items fun value hmem => by
    obtain ⟨x, _, rfl⟩ := List.mem_map.mp hmem
    exact h x

/-- Data with the members of a model's view has the shape that templates of models are checked for.
-/
theorem modelView_fits {config : Config} {stack : StackDescriptor} {schema : ModelSchema}
    {members : List (String × Json)}
    (h : ∀ name, Entries.get? name members = Entries.get? name (modelView config stack schema)) :
    ArtifactScope.model.shape.Fits (.object members) := by
  refine fits_record h (List.rel_append ?_ (commonShapes_fit config stack _))
  refine .cons ⟨rfl, .text _⟩ (.cons ⟨rfl, .text _⟩ (.cons ⟨rfl, .text _⟩ (.cons ⟨rfl, .text _⟩
    (.cons ⟨rfl, .any _⟩ (.cons ⟨rfl, ?_⟩ (.cons ⟨rfl, ?_⟩ (.cons ⟨rfl, ?_⟩
      (.cons ⟨rfl, .text _⟩ .nil))))))))
  · exact fits_items _ fun kind => .text kind
  · exact fits_items _ (fieldShape_fits _)
  · exact fits_items _ (relationshipShape_fits _)

/-- Data with the members of an application's view has the shape that indexes are checked for. -/
theorem applicationView_fits {config : Config} {stack : StackDescriptor} {application : String}
    {itemImport : Option PathRule} {schemas : List ModelSchema} {members : List (String × Json)}
    (h : ∀ name, Entries.get? name members =
      Entries.get? name (aggregateView config stack (some application) itemImport schemas)) :
    ArtifactScope.application.shape.Fits (.object members) := by
  refine fits_record h (.cons ⟨rfl, ?_⟩ (.cons ⟨rfl, .text _⟩ (commonShapes_fit config stack none)))
  exact fits_items _ (itemShape_fits itemImport)

/-- Data with the members of a run's view has the shape that its templates are checked for. -/
theorem runView_fits {config : Config} {stack : StackDescriptor} {itemImport : Option PathRule}
    {schemas : List ModelSchema} {members : List (String × Json)}
    (h : ∀ name, Entries.get? name members =
      Entries.get? name (aggregateView config stack none itemImport schemas)) :
    ArtifactScope.run.shape.Fits (.object members) := by
  refine fits_record h (.cons ⟨rfl, ?_⟩ (commonShapes_fit config stack none))
  exact fits_items _ (itemShape_fits itemImport)

/-- Data in which a template finds what it finds for a subject have the shape of its scope. -/
theorem Subject.view_fits {config : Config} {stack : StackDescriptor} {registration : Registration}
    {subject : Subject} {members : List (String × Json)}
    (h : ∀ name, Entries.get? name members =
      Entries.get? name (subject.view config stack registration)) :
    subject.scope.shape.Fits (.object members) := by
  cases subject with
  | model schema => exact modelView_fits h
  | application group => exact applicationView_fits h
  | run schemas => exact runView_fits h

/-- What a template finds in the data of a subject. -/
theorem Subject.find?_view {config : Config} {stack : StackDescriptor}
    {registration : Registration} {subject : Subject} {members : List (String × Json)}
    (h : ∀ name, Entries.get? name members =
      Entries.get? name (subject.view config stack registration)) (name : String) :
    ({ value := .object members } : Template.Place).find? (.member name) =
      some (Entries.get? name (subject.view config stack registration)) := by
  rw [← h]
  rfl

end ModelCodegen
