import Mathlib.Data.List.Duplicate
import ModelCodegen.Proofs.Schema.Acceptance

/-!
# Drafts that are put together

A draft is put together by calls that give its endpoint and its container or add attributes, one or
several at a time. The calls may come in any order: what counts is the last endpoint and the last
container that were given, and the attributes of each kind in the order in which they were added.
Building the draft says whether these make a schema, and if not, one thing that is wrong with them.
-/

namespace ModelCodegen

/-- A call that puts something into a draft. -/
inductive DraftCall where
  | endpoint (path : String)
  | paginationContainer (member : String)
  | field (field : Field)
  | fields (fields : List Field)
  | relationship (relationship : Relationship)
  | relationships (relationships : List Relationship)
  deriving Repr

namespace DraftCall

/-- The fields that a call adds. -/
def addedFields : DraftCall → List Field
  | field added => [added]
  | fields added => added
  | _ => []

/-- The relationships that a call adds. -/
def addedRelationships : DraftCall → List Relationship
  | relationship added => [added]
  | relationships added => added
  | _ => []

/-- The endpoint that a call gives. -/
def endpoint? : DraftCall → Option String
  | endpoint path => some path
  | _ => none

/-- The container that a call gives. -/
def container? : DraftCall → Option String
  | paginationContainer member => some member
  | _ => none

/-- What the last call gives that gives any. -/
def last? {α : Type} (given? : DraftCall → Option α) (calls : List DraftCall) : Option α :=
  (calls.filterMap given?).getLast?

/-- What the last call gives is that of the later calls, or of the first one. -/
theorem last?_cons {α : Type} (given? : DraftCall → Option α) (call : DraftCall)
    (calls : List DraftCall) :
    last? given? (call :: calls) = (last? given? calls).or (given? call) := by
  rw [last?, last?, List.filterMap_cons]
  cases given? call with
  | none => rw [Option.or_none]
  | some value =>
    rw [List.getLast?_cons]
    cases (calls.filterMap given?).getLast? <;> rfl

/-- The names of all attributes that are added, fields first. -/
def addedNames (calls : List DraftCall) : List String :=
  (calls.flatMap addedFields).map Field.name ++
    (calls.flatMap addedRelationships).map Relationship.name

end DraftCall

namespace SchemaDraft

open DraftCall

/-! ## Calls -/

/-- The draft after a call. -/
def call (draft : SchemaDraft) : DraftCall → SchemaDraft
  | .endpoint path => draft.withEndpoint path
  | .paginationContainer member => draft.withPaginationContainer member
  | .field added => draft.addField added
  | .fields added => draft.addFields added
  | .relationship added => draft.addRelationship added
  | .relationships added => draft.addRelationships added

/-- The draft of a model that is put together by calls. -/
def ofCalls (application model : String) (calls : List DraftCall) : SchemaDraft :=
  calls.foldl call { applicationName := application, modelName := model }

/-- A call adds its attributes behind the others and replaces the endpoint or the container if it
gives one; it changes nothing else. -/
theorem call_eq (draft : SchemaDraft) (step : DraftCall) :
    draft.call step =
      { draft with
        fields := draft.fields ++ step.addedFields
        relationships := draft.relationships ++ step.addedRelationships
        endpoint := step.endpoint?.or draft.endpoint
        paginationContainer := step.container?.or draft.paginationContainer } := by
  cases step <;>
    simp [call, withEndpoint, withPaginationContainer, addField, addFields, addRelationship,
      addRelationships, addedFields, addedRelationships, endpoint?, container?]

/-- A draft has what was there before, the attributes of all calls in order, and what the last ones
give. -/
theorem foldl_call (calls : List DraftCall) (draft : SchemaDraft) :
    calls.foldl call draft =
      { draft with
        fields := draft.fields ++ calls.flatMap addedFields
        relationships := draft.relationships ++ calls.flatMap addedRelationships
        endpoint := (last? endpoint? calls).or draft.endpoint
        paginationContainer := (last? container? calls).or draft.paginationContainer } := by
  induction calls generalizing draft with
  | nil => simp [last?]
  | cons step rest ih =>
    rw [List.foldl_cons, ih, call_eq]
    simp only [List.flatMap_cons, List.append_assoc, last?_cons, Option.or_assoc]

/-- What calls make of a draft with nothing in it. -/
theorem ofCalls_eq (application model : String) (calls : List DraftCall) :
    ofCalls application model calls =
      { applicationName := application
        modelName := model
        fields := calls.flatMap addedFields
        relationships := calls.flatMap addedRelationships
        endpoint := last? endpoint? calls
        paginationContainer := last? container? calls } := by
  rw [ofCalls, foldl_call]
  simp only [List.nil_append, Option.or_none]

/-- The names of attributes do not depend on how fields and relationships take turns. -/
theorem attributeNames_ofCalls (application model : String) (calls : List DraftCall) :
    (ofCalls application model calls).attributeNames = addedNames calls := by
  rw [ofCalls_eq]
  rfl

/-! ## Faults -/

variable {draft : SchemaDraft}

/-- What the fault says is so. -/
def Shows (draft : SchemaDraft) : SchemaFault → Prop
  | .noApplicationName => draft.applicationName = ""
  | .noModelName => draft.modelName = ""
  | .noEndpoint => ∀ endpoint ∈ draft.endpoint, ∀ c ∈ endpoint.toList, c = '/'
  | .unnamedAttribute => "" ∈ draft.attributeNames
  | .repeatedAttribute name => List.Duplicate name draft.attributeNames
  | .noRelatedModel name => ∃ relationship ∈ draft.relationships,
      relationship.name = name ∧ (relationship.app = "" ∨ relationship.relatedModel = "")
  | .repeatedModel | .missingDefault _ | .unwantedDefault _ | .unknownKind _ _ => False

/-- A fault in names is an empty name, or one that comes again or was seen before. -/
theorem of_attributeFault?_eq_some {seen names : List String} {fault : SchemaFault}
    (h : attributeFault? seen names = some fault) :
    (fault = .unnamedAttribute ∧ "" ∈ names) ∨
      ∃ name, fault = .repeatedAttribute name ∧
        (name ∈ seen ∧ name ∈ names ∨ List.Duplicate name names) := by
  induction names generalizing seen with
  | nil => cases h
  | cons name rest ih =>
    rw [attributeFault?] at h
    split at h
    · next hempty =>
      exact Or.inl ⟨(Option.some.inj h).symm, hempty ▸ List.mem_cons_self ..⟩
    · split at h
      · next hseen =>
        exact Or.inr ⟨name, (Option.some.inj h).symm,
          Or.inl ⟨List.contains_iff_mem.mp hseen, List.mem_cons_self ..⟩⟩
      · rcases ih h with ⟨hfault, hmem⟩ | ⟨other, hfault, ⟨hseen, hmem⟩ | htwice⟩
        · exact Or.inl ⟨hfault, List.mem_cons_of_mem _ hmem⟩
        · -- The name was seen at the front of the list or before it.
          refine Or.inr ⟨other, hfault, ?_⟩
          rcases List.mem_cons.mp hseen with rfl | hseen
          · exact Or.inr (List.Duplicate.cons_mem hmem)
          · exact Or.inl ⟨hseen, List.mem_cons_of_mem _ hmem⟩
        · exact Or.inr ⟨other, hfault, Or.inr htwice.cons_duplicate⟩

/-- A fault of attributes is there in the draft. -/
theorem shows_of_attributeFault? {fault : SchemaFault}
    (h : attributeFault? [] draft.attributeNames = some fault) : draft.Shows fault := by
  rcases of_attributeFault?_eq_some h with ⟨rfl, hempty⟩ | ⟨name, rfl, ⟨hnil, -⟩ | htwice⟩
  · exact hempty
  · cases hnil
  · exact htwice

/-- A fault of relationships is there in the draft. -/
theorem shows_of_relationFault? {fault : SchemaFault}
    (h : relationFault? draft.relationships = some fault) : draft.Shows fault := by
  obtain ⟨relationship, hfound, rfl⟩ := Option.map_eq_some_iff.mp h
  have hmissing := List.find?_some hfound
  rw [Bool.or_eq_true, beq_iff_eq, beq_iff_eq] at hmissing
  exact ⟨relationship, List.mem_of_find?_eq_some hfound, rfl, hmissing⟩

/-- The fault that is found is there. -/
theorem shows_of_fault? {fault : SchemaFault} (h : draft.fault? = some fault) :
    draft.Shows fault := by
  rw [fault?] at h
  split at h
  · next happlication => exact Option.some.inj h ▸ happlication
  · split at h
    · next hmodel => exact Option.some.inj h ▸ hmodel
    · split at h
      · next hendpoint =>
        rw [← Option.some.inj h]
        intro endpoint he c hc
        rw [Option.mem_def.mp he, Option.any_some] at hendpoint
        by_contra hslash
        simp only [Bool.not_eq_true', isUsableEndpoint, List.any_eq_false, bne_iff_ne] at hendpoint
        exact hendpoint c hc hslash
      · rw [Option.orElse_eq_orElse, Option.orElse_eq_or, Option.or_eq_some_iff] at h
        rcases h with h | ⟨-, h⟩
        · exact shows_of_attributeFault? h
        · exact shows_of_relationFault? h

/-- A draft that cannot be built is told by the names of its application and its model, with a fault
that it has. -/
theorem of_build_eq_error {error : Error} (h : draft.build = .error error) :
    ∃ fault, error = .invalidSchema draft.key fault ∧ draft.Shows fault := by
  rw [build] at h
  split at h
  · next fault hfault => exact ⟨fault, (Except.error.inj h).symm, shows_of_fault? hfault⟩
  · cases h

/-! ## Schemas -/

/-- What has to be put into a draft of a model to make a schema. -/
structure AreSufficient (application model : String) (calls : List DraftCall) : Prop where
  application : application ≠ ""
  model : model ≠ ""
  endpoint : ∃ endpoint, last? endpoint? calls = some endpoint ∧ ∃ c ∈ endpoint.toList, c ≠ '/'
  named : ∀ name ∈ addedNames calls, name ≠ ""
  distinct : (addedNames calls).Nodup
  related : ∀ relationship ∈ calls.flatMap addedRelationships,
    relationship.app ≠ "" ∧ relationship.relatedModel ≠ ""

/-- A draft is complete just if the calls put in what is needed. -/
theorem isComplete_ofCalls_iff {application model : String} {calls : List DraftCall} :
    (ofCalls application model calls).IsComplete ↔ AreSufficient application model calls := by
  have hnames := attributeNames_ofCalls application model calls
  have hendpoint : (last? endpoint? calls).any isUsableEndpoint = true ↔
      ∃ endpoint, last? endpoint? calls = some endpoint ∧ ∃ c ∈ endpoint.toList, c ≠ '/' := by
    simp [Option.any_eq_true, ModelDefinition.isUsableEndpoint_iff]
  rw [ofCalls_eq] at hnames ⊢
  constructor
  · intro h
    exact ⟨h.application, h.model, hendpoint.mp h.endpoint, hnames ▸ h.named, hnames ▸ h.distinct,
      h.related⟩
  · intro h
    exact ⟨h.application, h.model, hendpoint.mpr h.endpoint, hnames ▸ h.named, hnames ▸ h.distinct,
      h.related⟩

/-- Calls make a schema exactly if the names of its application and its model are given, the last
endpoint does not consist of slashes, all attributes have different names, and every relationship
has a related model. The schema has what the calls gave, with its attributes in the order of the
calls. If there is none, the error names the application and the model and a fault that is there. -/
theorem build_ofCalls (application model : String) (calls : List DraftCall) :
    ((∃ schema, (ofCalls application model calls).build = .ok schema) ↔
      AreSufficient application model calls) ∧
    (∀ schema, (ofCalls application model calls).build = .ok schema →
      schema.applicationName = application ∧ schema.modelName = model ∧
      last? endpoint? calls = some schema.endpoint ∧
      last? container? calls = schema.paginationContainer ∧
      schema.fields = calls.flatMap addedFields ∧
      schema.relationships = calls.flatMap addedRelationships) ∧
    (∀ error, (ofCalls application model calls).build = .error error →
      ∃ fault, error = .invalidSchema (application ++ "/" ++ model) fault ∧
        (ofCalls application model calls).Shows fault) := by
  refine ⟨?_, fun schema h => ?_, fun error h => ?_⟩
  · rw [← isComplete_ofCalls_iff]
    constructor
    · rintro ⟨schema, h⟩
      exact (build_eq_ok_iff.mp h).1
    · exact fun h => ⟨_, build_eq_ok_iff.mpr ⟨h, rfl⟩⟩
  · obtain ⟨hcomplete, rfl⟩ := build_eq_ok_iff.mp h
    obtain ⟨endpoint, hgiven, -⟩ := (isComplete_ofCalls_iff.mp hcomplete).endpoint
    rw [ofCalls_eq]
    exact ⟨rfl, rfl, by simp [hgiven], rfl, rfl, rfl⟩
  · obtain ⟨fault, hfault, hshows⟩ := of_build_eq_error h
    refine ⟨fault, ?_, hshows⟩
    rw [hfault, key, ofCalls_eq]
    rfl

/-- Calls that take turns, with an endpoint that is replaced. -/
def postCalls : List DraftCall :=
  [.relationships [⟨"author", .belongsTo, "blog", "user", none⟩], .field ⟨"title", none, none⟩,
    .endpoint "///", .fields [⟨"body", none, none⟩, ⟨"draft", none, none⟩],
    .endpoint "blog/posts", .relationship ⟨"tags", .hasMany, "blog", "tag", none⟩]

/-- Calls that suffice for a named model do not for one without a name. -/
theorem build_ofCalls_postCalls :
    (∃ schema, (ofCalls "blog" "post" postCalls).build = .ok schema ∧
      schema.endpoint = "blog/posts" ∧
      schema.fields.map Field.name = ["title", "body", "draft"] ∧
      schema.relationships.map Relationship.name = ["author", "tags"]) ∧
    ∃ error fault, (ofCalls "blog" "" postCalls).build = .error error ∧
      error = .invalidSchema "blog/" fault ∧
      (ofCalls "blog" "" postCalls).Shows fault := by
  have hsufficient : AreSufficient "blog" "post" postCalls :=
    ⟨by decide, by decide, ⟨"blog/posts", by decide, 'b', by decide, by decide⟩, by decide,
      by decide, by decide⟩
  obtain ⟨hiff, hschema, -⟩ := build_ofCalls "blog" "post" postCalls
  obtain ⟨schema, hbuild⟩ := hiff.mpr hsufficient
  obtain ⟨-, -, hendpoint, -, hfields, hrelationships⟩ := hschema schema hbuild
  refine ⟨⟨schema, hbuild, ?_, ?_, ?_⟩, ?_⟩
  · exact (Option.some.inj hendpoint).symm
  · rw [hfields]
    rfl
  · rw [hrelationships]
    rfl
  · have herror : (ofCalls "blog" "" postCalls).build =
        .error (.invalidSchema "blog/" .noModelName) := by rfl
    obtain ⟨fault, hfault, hshows⟩ := (build_ofCalls "blog" "" postCalls).2.2 _ herror
    exact ⟨_, fault, herror, hfault, hshows⟩

end SchemaDraft

end ModelCodegen
