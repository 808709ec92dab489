import ModelCodegen.Schema.Model

/-!
# Schema sets

The schemas of one run, in the order of the document and each model once.  The models of an
application form a group; groups are in the order in which their applications first occur.
-/

namespace ModelCodegen

/-- The schemas of a run. -/
structure SchemaSet where
  schemas : List ModelSchema
  deriving Repr

/-- An application with its models. -/
structure ApplicationGroup where
  name : String
  models : List ModelSchema
  deriving Repr

namespace SchemaSet

/-- The first key that was seen before. -/
def repeatedKey? (seen : List String) : List ModelSchema → Option String
  | [] => none
  | schema :: rest =>
    if seen.contains schema.key then some schema.key else repeatedKey? (schema.key :: seen) rest

/-- The set of a list of schemas, if no model occurs twice. -/
def ofList (schemas : List ModelSchema) : Except Error SchemaSet :=
  match repeatedKey? [] schemas with
  | some key => .error (.invalidSchema key .repeatedModel)
  | none => .ok ⟨schemas⟩

def size (set : SchemaSet) : Nat := set.schemas.length

/-- The schema of a model of an application. -/
def get? (set : SchemaSet) (application model : String) : Option ModelSchema :=
  set.schemas.find? fun s => s.applicationName == application && s.modelName == model

/-- Put a schema into the group of its application, or into a new group after the others. -/
def addToGroups (schema : ModelSchema) : List ApplicationGroup → List ApplicationGroup
  | [] => [⟨schema.applicationName, [schema]⟩]
  | group :: rest =>
    if group.name = schema.applicationName then
      { group with models := group.models ++ [schema] } :: rest
    else group :: addToGroups schema rest

/-- The applications with their models. -/
def applications (set : SchemaSet) : List ApplicationGroup :=
  set.schemas.foldl (fun groups schema => addToGroups schema groups) []

/-- No key repeats exactly when the keys are pairwise distinct and none was seen before. -/
theorem repeatedKey?_eq_none_iff {seen : List String} {schemas : List ModelSchema} :
    repeatedKey? seen schemas = none ↔
      (∀ schema ∈ schemas, schema.key ∉ seen) ∧ (schemas.map ModelSchema.key).Nodup := by
  induction schemas generalizing seen with
  | nil => simp [repeatedKey?]
  | cons schema rest ih =>
    by_cases h : schema.key ∈ seen
    · simp [repeatedKey?, h]
    · simp only [repeatedKey?, List.contains_iff_mem, h, if_false, ih, List.mem_cons, not_or,
        List.map_cons, List.nodup_cons, forall_eq_or_imp, List.mem_map]
      grind

end SchemaSet

end ModelCodegen
