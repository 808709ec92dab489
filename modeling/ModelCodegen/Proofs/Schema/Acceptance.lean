import ModelCodegen.Proofs.Result
import ModelCodegen.Schema.Document

/-!
# Accepted definitions

Which definitions of a document become schemas, and which schemas they become.  The checks on a
definition are made in several places and in a fixed order; together they ask for identifiers, for
defaults that are as announced, for known kinds of relationships, for attributes with different
names and for an endpoint with something in it.  No two definitions of a document may share both
names.
-/

namespace ModelCodegen

open Result

/-! ## Attributes -/

namespace FieldDefinition

variable {key : String} {definition : FieldDefinition}

/-- A default that is announced is there, and one that is denied is not. -/
def IsSettled (definition : FieldDefinition) : Prop :=
  (definition.hasDefault = some true → definition.default ≠ none) ∧
    (definition.hasDefault = some false → definition.default = none)

/-- The field that the definition states. -/
def field (definition : FieldDefinition) : Field :=
  ⟨definition.name, definition.type, definition.default⟩

instance : Decidable definition.IsSettled := inferInstanceAs (Decidable (_ ∧ _))

/-- A field is without fault just if its default is settled. -/
theorem fault?_eq_none_iff : definition.fault? = none ↔ definition.IsSettled := by
  obtain ⟨name, type, hasDefault, default⟩ := definition
  rcases hasDefault with _ | _ | _ <;> cases default <;> simp [fault?, IsSettled]

/-- A definition that is settled becomes the field that it states, and no other one does. -/
theorem toField_eq_ok_iff {field : Field} :
    definition.toField key = .ok field ↔ definition.IsSettled ∧ definition.field = field := by
  rw [toField, ← fault?_eq_none_iff]
  cases definition.fault? <;> simp [FieldDefinition.field]

/-- The fields of a list are converted one by one. -/
theorem mapM_toField_eq_ok_iff {definitions : List FieldDefinition} {fields : List Field} :
    definitions.mapM (·.toField key) = .ok fields ↔
      (∀ definition ∈ definitions, definition.IsSettled) ∧
        definitions.map FieldDefinition.field = fields := by
  simp only [mapM_eq_ok, toField_eq_ok_iff, List.forall₂_and_left]
  rw [← List.forall₂_map_left_iff, List.forall₂_eq_eq_eq]

end FieldDefinition

/-- A kind of relationship is read from its own name only. -/
theorem RelationKind.ofName?_eq_some_iff {text : String} {kind : RelationKind} :
    ofName? text = some kind ↔ kind.name = text := by
  constructor
  · intro h
    simpa using List.find?_some h
  · rintro rfl
    exact ofName?_name kind

namespace RelationshipDefinition

variable {key : String} {definition : RelationshipDefinition} {relationship : Relationship}

/-- The relationship is the one that the definition states.  An inverse that is empty or ends in
`+` is none. -/
structure States (definition : RelationshipDefinition) (relationship : Relationship) : Prop where
  name : relationship.name = definition.name
  kind : relationship.kind.name = definition.kind
  app : relationship.app = definition.app
  relatedModel : relationship.relatedModel = definition.relatedModel
  inverse : ∀ inverse, relationship.inverse = some inverse ↔
    definition.inverse = some inverse ∧ inverse ≠ "" ∧ inverse.toList.getLast? ≠ some '+'

/-- A definition becomes just the relationship that it states. -/
theorem toRelationship_eq_ok_iff :
    definition.toRelationship key = .ok relationship ↔ definition.States relationship := by
  have hnamesInverse : ∀ inverse, namesInverse inverse = true ↔
      inverse ≠ "" ∧ inverse.toList.getLast? ≠ some '+' := by
    simp [namesInverse]
  rw [toRelationship]
  constructor
  · intro h
    cases hkind : RelationKind.ofName? definition.kind with
    | none => simp [hkind] at h
    | some kind =>
      simp only [hkind, Except.ok.injEq] at h
      subst h
      exact ⟨rfl, RelationKind.ofName?_eq_some_iff.mp hkind, rfl, rfl, fun inverse => by
        rw [Option.filter_eq_some_iff, hnamesInverse]⟩
  · intro h
    rw [RelationKind.ofName?_eq_some_iff.mpr h.kind]
    have hinverse : definition.inverse.filter namesInverse = relationship.inverse :=
      Option.ext fun inverse => by rw [Option.filter_eq_some_iff, hnamesInverse, h.inverse]
    simp only [hinverse, ← h.name, ← h.app, ← h.relatedModel]

/-- Every definition with a known kind states a relationship. -/
theorem exists_states_iff : (∃ relationship, definition.States relationship) ↔
    definition.kind = "belongsTo" ∨ definition.kind = "hasMany" := by
  constructor
  · rintro ⟨relationship, h⟩
    rw [← h.kind]
    cases relationship.kind
    · exact .inl rfl
    · exact .inr rfl
  · intro h
    obtain ⟨kind, hkind⟩ : ∃ kind : RelationKind, kind.name = definition.kind := by
      rcases h with h | h
      · exact ⟨.belongsTo, h.symm⟩
      · exact ⟨.hasMany, h.symm⟩
    have hok : definition.toRelationship "" = .ok ⟨definition.name, kind, definition.app,
        definition.relatedModel, definition.inverse.filter namesInverse⟩ := by
      rw [toRelationship, RelationKind.ofName?_eq_some_iff.mpr hkind]
    exact ⟨_, toRelationship_eq_ok_iff.mp hok⟩

end RelationshipDefinition

/-! ## Drafts -/

namespace SchemaDraft

variable {draft : SchemaDraft}

/-- Nothing keeps the draft from being a schema. -/
structure IsComplete (draft : SchemaDraft) : Prop where
  application : draft.applicationName ≠ ""
  model : draft.modelName ≠ ""
  endpoint : draft.endpoint.any isUsableEndpoint = true
  named : ∀ name ∈ draft.attributeNames, name ≠ ""
  distinct : draft.attributeNames.Nodup
  related : ∀ relationship ∈ draft.relationships,
    relationship.app ≠ "" ∧ relationship.relatedModel ≠ ""

/-- Relationships are without fault if each of them points at a named model. -/
theorem relationFault?_eq_none_iff {relationships : List Relationship} :
    relationFault? relationships = none ↔
      ∀ relationship ∈ relationships, relationship.app ≠ "" ∧ relationship.relatedModel ≠ "" := by
  simp [relationFault?]

/-- A draft is without fault just if it is complete. -/
theorem fault?_eq_none_iff : draft.fault? = none ↔ draft.IsComplete := by
  rw [fault?]
  constructor
  · intro h
    split at h
    · cases h
    next happlication =>
      split at h
      · cases h
      next hmodel =>
        split at h
        · cases h
        next hendpoint =>
          rw [Option.orElse_eq_orElse, Option.orElse_eq_or] at h
          obtain ⟨hnames, hrelated⟩ := Option.or_eq_none_iff.mp h
          obtain ⟨hnamed, hdistinct⟩ := attributeFault?_eq_none_iff.mp hnames
          exact ⟨happlication, hmodel, by simpa using hendpoint, fun name hn => (hnamed name hn).1,
            hdistinct, relationFault?_eq_none_iff.mp hrelated⟩
  · intro h
    rw [if_neg h.application, if_neg h.model, if_neg (by simp [h.endpoint]),
      attributeFault?_eq_none_iff.mpr ⟨fun name hn => ⟨h.named name hn, by simp⟩, h.distinct⟩,
      relationFault?_eq_none_iff.mpr h.related]
    rfl

/-- A complete draft becomes the schema with what was put into it, and no other draft becomes one.
-/
theorem build_eq_ok_iff {schema : ModelSchema} :
    draft.build = .ok schema ↔ draft.IsComplete ∧
      schema = ⟨draft.applicationName, draft.modelName, draft.fields, draft.relationships,
        draft.endpoint.getD "", draft.paginationContainer⟩ := by
  rw [build, ← fault?_eq_none_iff]
  cases draft.fault? <;> simp [eq_comm]

end SchemaDraft

/-! ## Models -/

namespace ModelDefinition

variable {definition : ModelDefinition} {schema : ModelSchema}

/-- All names that the definition gives are identifiers; the primary key is no field. -/
@[mk_iff]
structure IsNamed (definition : ModelDefinition) : Prop where
  application : Name.IsIdentifier definition.applicationName
  model : Name.IsIdentifier definition.modelName
  fields : ∀ field ∈ definition.ownFields, Name.IsIdentifier field.name
  relationships : ∀ relationship ∈ definition.relationships,
    Name.IsIdentifier relationship.name ∧ Name.IsIdentifier relationship.app ∧
      Name.IsIdentifier relationship.relatedModel

/-- What a definition is checked for before a run. -/
@[mk_iff]
structure IsAccepted (definition : ModelDefinition) : Prop extends IsNamed definition where
  settled : ∀ field ∈ definition.ownFields, field.IsSettled
  kinds : ∀ relationship ∈ definition.relationships,
    relationship.kind = "belongsTo" ∨ relationship.kind = "hasMany"
  distinct : (definition.ownFields.map (·.name) ++ definition.relationships.map (·.name)).Nodup
  endpoint : ∀ endpoint ∈ definition.endpoint, ∃ c ∈ endpoint.toList, c ≠ '/'

instance : Decidable definition.IsNamed := decidable_of_iff' _ (isNamed_iff definition)

-- Given by name: a statement on some character is decidable too, one character after the other.
instance : Decidable definition.IsAccepted :=
  have (endpoint : String) : Decidable (∃ c ∈ endpoint.toList, c ≠ '/') :=
    List.decidableBEx _ endpoint.toList
  decidable_of_iff' _ (isAccepted_iff definition)

/-- The schema is the one that the definition states: its names, its attributes in their order,
and its endpoint, which is derived from the names if none is given. -/
structure States (definition : ModelDefinition) (schema : ModelSchema) : Prop where
  applicationName : schema.applicationName = definition.applicationName
  modelName : schema.modelName = definition.modelName
  fields : schema.fields = definition.ownFields.map FieldDefinition.field
  relationships : List.Forall₂ RelationshipDefinition.States definition.relationships
    schema.relationships
  endpoint : schema.endpoint = definition.endpoint.getD
    (definition.applicationName ++ "/" ++ Name.pluralize definition.modelName)
  paginationContainer : schema.paginationContainer = definition.paginationContainer

/-- A definition is accepted by name if all of its names are identifiers. -/
theorem checkNames_eq_ok_iff : definition.checkNames = .ok () ↔ definition.IsNamed := by
  rw [checkNames]
  constructor
  · intro h
    obtain ⟨_, happlication, h⟩ := bind_eq_ok.mp h
    obtain ⟨_, hmodel, h⟩ := bind_eq_ok.mp h
    obtain ⟨_, hfields, hrelationships⟩ := bind_eq_ok.mp h
    refine ⟨Name.checkIdentifier_eq_ok_iff.mp happlication,
      Name.checkIdentifier_eq_ok_iff.mp hmodel, fun field hfield => ?_, fun r hr => ?_⟩
    · exact Name.checkIdentifier_eq_ok_iff.mp (forM_eq_ok.mp hfields field hfield)
    · obtain ⟨_, hname, h⟩ := bind_eq_ok.mp (forM_eq_ok.mp hrelationships r hr)
      obtain ⟨_, happ, hrelated⟩ := bind_eq_ok.mp h
      exact ⟨Name.checkIdentifier_eq_ok_iff.mp hname, Name.checkIdentifier_eq_ok_iff.mp happ,
        Name.checkIdentifier_eq_ok_iff.mp hrelated⟩
  · intro h
    refine bind_eq_ok.mpr ⟨(), Name.checkIdentifier_eq_ok_iff.mpr h.application, ?_⟩
    refine bind_eq_ok.mpr ⟨(), Name.checkIdentifier_eq_ok_iff.mpr h.model, ?_⟩
    refine bind_eq_ok.mpr ⟨(), forM_eq_ok.mpr fun field hfield =>
      Name.checkIdentifier_eq_ok_iff.mpr (h.fields field hfield), ?_⟩
    refine forM_eq_ok.mpr fun r hr => ?_
    obtain ⟨hname, happ, hrelated⟩ := h.relationships r hr
    refine bind_eq_ok.mpr ⟨(), Name.checkIdentifier_eq_ok_iff.mpr hname, ?_⟩
    exact bind_eq_ok.mpr ⟨(), Name.checkIdentifier_eq_ok_iff.mpr happ,
      Name.checkIdentifier_eq_ok_iff.mpr hrelated⟩

/-- An endpoint can be used if there is something besides slashes in it. -/
theorem isUsableEndpoint_iff {endpoint : String} :
    SchemaDraft.isUsableEndpoint endpoint = true ↔ ∃ c ∈ endpoint.toList, c ≠ '/' := by
  simp [SchemaDraft.isUsableEndpoint]

/-- An endpoint that is derived from an identifier has something in it. -/
theorem isUsableEndpoint_derivedEndpoint (h : Name.IsIdentifier definition.applicationName) :
    SchemaDraft.isUsableEndpoint definition.derivedEndpoint = true := by
  obtain ⟨c, hc⟩ := List.exists_mem_of_ne_nil _ h.1
  refine isUsableEndpoint_iff.mpr ⟨c, ?_, ?_⟩
  · rw [derivedEndpoint, String.toList_append, String.toList_append]
    exact List.mem_append_left _ (List.mem_append_left _ hc)
  · rintro rfl
    exact absurd (h.2 _ hc) (by decide)

/-- The draft of a definition with the attributes made from it. -/
def draft (definition : ModelDefinition) (relationships : List Relationship) : SchemaDraft :=
  { applicationName := definition.applicationName
    modelName := definition.modelName
    fields := definition.ownFields.map FieldDefinition.field
    relationships := relationships
    endpoint := definition.endpoint.getD definition.derivedEndpoint
    paginationContainer := definition.paginationContainer }

/-- A definition is prepared if its names and attributes are accepted and their draft can be built.
-/
theorem prepare_eq_ok_iff_draft : definition.prepare = .ok schema ↔
    definition.IsNamed ∧ (∀ field ∈ definition.ownFields, field.IsSettled) ∧
      ∃ relationships, List.Forall₂ RelationshipDefinition.States definition.relationships
        relationships ∧ (definition.draft relationships).build = .ok schema := by
  simp only [prepare, toSchema, bind_eq_ok, FieldDefinition.mapM_toField_eq_ok_iff]
  simp only [mapM_eq_ok, RelationshipDefinition.toRelationship_eq_ok_iff]
  constructor
  · rintro ⟨_, hnames, _, ⟨hsettled, rfl⟩, relationships, hstates, hbuild⟩
    exact ⟨checkNames_eq_ok_iff.mp hnames, hsettled, relationships, hstates, hbuild⟩
  · rintro ⟨hnames, hsettled, relationships, hstates, hbuild⟩
    exact ⟨(), checkNames_eq_ok_iff.mpr hnames, _, ⟨hsettled, rfl⟩, relationships, hstates, hbuild⟩

/-- The names of attributes go into a draft as they are defined, fields first. -/
theorem attributeNames_draft {relationships : List Relationship}
    (h : List.Forall₂ RelationshipDefinition.States definition.relationships relationships) :
    (definition.draft relationships).attributeNames =
      definition.ownFields.map (·.name) ++ definition.relationships.map (·.name) := by
  have hnames : relationships.map Relationship.name = definition.relationships.map (·.name) := by
    rw [← List.forall₂_eq_eq_eq, List.forall₂_map_left_iff, List.forall₂_map_right_iff]
    exact h.flip.imp fun _ _ h => h.name
  rw [SchemaDraft.attributeNames, draft, hnames, List.map_map]
  rfl

/-- The draft of a definition with identifiers for names is complete if its attributes have
different names and its endpoint can be used. -/
theorem isComplete_draft_iff (hn : definition.IsNamed) {relationships : List Relationship}
    (h : List.Forall₂ RelationshipDefinition.States definition.relationships relationships) :
    (definition.draft relationships).IsComplete ↔
      (definition.ownFields.map (·.name) ++ definition.relationships.map (·.name)).Nodup ∧
        ∀ endpoint ∈ definition.endpoint, ∃ c ∈ endpoint.toList, c ≠ '/' := by
  have hne : ∀ name, Name.IsIdentifier name → name ≠ "" := by
    rintro _ hid rfl
    exact hid.1 rfl
  constructor
  · intro hd
    refine ⟨attributeNames_draft h ▸ hd.distinct, fun endpoint he => isUsableEndpoint_iff.mp ?_⟩
    simpa [draft, Option.mem_def.mp he] using hd.endpoint
  · rintro ⟨hdistinct, hendpoint⟩
    refine ⟨hne _ hn.application, hne _ hn.model, ?_, ?_, attributeNames_draft h ▸ hdistinct, ?_⟩
    · cases he : definition.endpoint with
      | none => simpa [draft, he] using isUsableEndpoint_derivedEndpoint hn.application
      | some endpoint => simpa [draft, he] using isUsableEndpoint_iff.mpr (hendpoint endpoint he)
    · rw [attributeNames_draft h]
      intro name hmem
      rcases List.mem_append.mp hmem with hmem | hmem
      · obtain ⟨field, hfield, rfl⟩ := List.mem_map.mp hmem
        exact hne _ (hn.fields field hfield)
      · obtain ⟨relationship, hr, rfl⟩ := List.mem_map.mp hmem
        exact hne _ (hn.relationships relationship hr).1
    · intro relationship hr
      obtain ⟨d, hd, hstates⟩ := exists_of_forall₂ h hr
      rw [hstates.app, hstates.relatedModel]
      exact ⟨hne _ (hn.relationships d hd).2.1, hne _ (hn.relationships d hd).2.2⟩

/-- A definition becomes a schema exactly if it passes every check, and then it becomes the one that
it states. -/
theorem prepare_eq_ok_iff :
    definition.prepare = .ok schema ↔ definition.IsAccepted ∧ definition.States schema := by
  rw [prepare_eq_ok_iff_draft]
  constructor
  · rintro ⟨hn, hsettled, relationships, hstates, hbuild⟩
    obtain ⟨hcomplete, rfl⟩ := SchemaDraft.build_eq_ok_iff.mp hbuild
    obtain ⟨hdistinct, hendpoint⟩ := (isComplete_draft_iff hn hstates).mp hcomplete
    refine ⟨⟨hn, hsettled, fun r hr => ?_, hdistinct, hendpoint⟩, rfl, rfl, rfl, hstates, rfl, rfl⟩
    obtain ⟨relationship, -, h⟩ := exists_of_forall₂ hstates.flip hr
    exact RelationshipDefinition.exists_states_iff.mp ⟨relationship, h⟩
  · rintro ⟨h, hs⟩
    refine ⟨h.toIsNamed, h.settled, schema.relationships, hs.relationships, ?_⟩
    refine SchemaDraft.build_eq_ok_iff.mpr
      ⟨(isComplete_draft_iff h.toIsNamed hs.relationships).mpr ⟨h.distinct, h.endpoint⟩, ?_⟩
    obtain ⟨application, model, fields, relationships, endpoint, container⟩ := schema
    obtain ⟨rfl, rfl, rfl, -, rfl, rfl⟩ := hs
    rfl

/-- Every definition that passes states a schema. -/
theorem IsAccepted.exists_states (h : definition.IsAccepted) :
    ∃ schema, definition.States schema := by
  obtain ⟨relationships, hstates⟩ := exists_forall₂ fun r hr =>
    RelationshipDefinition.exists_states_iff.mpr (h.kinds r hr)
  exact ⟨⟨_, _, _, relationships, _, _⟩, rfl, rfl, rfl, hstates, rfl, rfl⟩

end ModelDefinition

/-! ## Sets -/

/-- Names tell models apart in one text, because there is no slash in an identifier. -/
theorem modelKey_eq_iff {application model otherApplication otherModel : String}
    (h : Name.IsIdentifier application) (ho : Name.IsIdentifier otherApplication) :
    modelKey application model = modelKey otherApplication otherModel ↔
      application = otherApplication ∧ model = otherModel := by
  -- The application is what stands before the first slash.
  have hfront : ∀ {application} model, Name.IsIdentifier application →
      (modelKey application model).toList.takeWhile (· != '/') = application.toList := by
    intro application model hid
    have hslash : ∀ c ∈ application.toList, (c != '/') = true := fun c hc => by
      rw [bne_iff_ne]
      rintro rfl
      exact absurd (hid.2 _ hc) (by decide)
    simp [modelKey, List.takeWhile_append_of_pos hslash]
  constructor
  · intro hkey
    obtain rfl : application = otherApplication := String.toList_inj.mp <| by
      rw [← hfront model h, ← hfront otherModel ho, hkey]
    simpa [modelKey] using hkey
  · rintro ⟨rfl, rfl⟩
    rfl

namespace SchemaSet

/-- A list of schemas becomes a set as it is, if no two of them share a key. -/
theorem ofList_eq_ok_iff {schemas : List ModelSchema} {set : SchemaSet} :
    ofList schemas = .ok set ↔ (schemas.map ModelSchema.key).Nodup ∧ set.schemas = schemas := by
  have hkeys : repeatedKey? [] schemas = none ↔ (schemas.map ModelSchema.key).Nodup := by
    simp [repeatedKey?_eq_none_iff]
  obtain ⟨members⟩ := set
  rw [ofList, ← hkeys]
  cases repeatedKey? [] schemas <;> simp [eq_comm]

/-- No two of the definitions share both names. -/
def AreDistinct (definitions : List ModelDefinition) : Prop :=
  definitions.Pairwise fun definition other =>
    ¬ (definition.applicationName = other.applicationName ∧ definition.modelName = other.modelName)

instance (definitions : List ModelDefinition) : Decidable (AreDistinct definitions) :=
  inferInstanceAs (Decidable (List.Pairwise _ _))

/-- Between identifiers, keys repeat just if both names do. -/
theorem nodup_keys_iff {definitions : List ModelDefinition} {schemas : List ModelSchema}
    (hn : ∀ definition ∈ definitions, definition.IsNamed)
    (h : List.Forall₂ ModelDefinition.States definitions schemas) :
    (schemas.map ModelSchema.key).Nodup ↔ AreDistinct definitions := by
  have hkeys : schemas.map ModelSchema.key = definitions.map ModelDefinition.key := by
    rw [← List.forall₂_eq_eq_eq, List.forall₂_map_left_iff, List.forall₂_map_right_iff]
    exact h.flip.imp fun _ _ h => by
      rw [ModelSchema.key, ModelDefinition.key, h.applicationName, h.modelName]
  rw [hkeys, List.Nodup, List.pairwise_map]
  exact List.Pairwise.iff_of_mem fun ha hb =>
    not_congr (modelKey_eq_iff (hn _ ha).application (hn _ hb).application)

/-- Definitions become a set exactly if each of them is accepted and they are of different models,
and then it is the set of the schemas that they state. -/
theorem ofDefinitions_eq_ok_iff {definitions : List ModelDefinition} {set : SchemaSet} :
    ofDefinitions definitions = .ok set ↔
      ((∀ definition ∈ definitions, definition.IsAccepted) ∧ AreDistinct definitions) ∧
        List.Forall₂ ModelDefinition.States definitions set.schemas := by
  simp only [ofDefinitions, bind_eq_ok, mapM_eq_ok, ModelDefinition.prepare_eq_ok_iff,
    List.forall₂_and_left, ofList_eq_ok_iff]
  constructor
  · rintro ⟨schemas, ⟨haccepted, hstates⟩, hkeys, rfl⟩
    exact ⟨⟨haccepted, (nodup_keys_iff (fun d hd => (haccepted d hd).toIsNamed) hstates).mp hkeys⟩,
      hstates⟩
  · rintro ⟨⟨haccepted, hdistinct⟩, hstates⟩
    exact ⟨set.schemas, ⟨haccepted, hstates⟩,
      (nodup_keys_iff (fun d hd => (haccepted d hd).toIsNamed) hstates).mpr hdistinct, rfl⟩

end SchemaSet

/-! ## Documents -/

/-- The definitions of a document become a set exactly if each passes the checks on names, defaults,
kinds, attributes and endpoints and no two are of one model. The set has a schema for each
definition, in the order of the document, and it is the one that the definition states. -/
theorem parseSchemas_ok_iff {format : SchemaFormat} {document : String}
    {definitions : List ModelDefinition} (h : format.readDefinitions document = .ok definitions) :
    ((∃ set, parseSchemas format document = .ok set) ↔
      (∀ definition ∈ definitions, definition.IsAccepted) ∧
        SchemaSet.AreDistinct definitions) ∧
    ∀ set, parseSchemas format document = .ok set →
      List.Forall₂ ModelDefinition.States definitions set.schemas := by
  have hset : ∀ set, parseSchemas format document = .ok set ↔
      SchemaSet.ofDefinitions definitions = .ok set := by
    simp [parseSchemas, h, ok_bind]
  simp only [hset, SchemaSet.ofDefinitions_eq_ok_iff]
  refine ⟨⟨fun ⟨_, hok, _⟩ => hok, fun hok => ?_⟩, fun _ hok => hok.2⟩
  obtain ⟨schemas, hstates⟩ := exists_forall₂ fun d hd => (hok.1 d hd).exists_states
  exact ⟨⟨schemas⟩, hok, hstates⟩

/-- A document with a model whose primary key is stated and whose draft has a default of null. -/
def draftDocument : String :=
  "[\x7b\"application_name\":\"blog\",\"model_name\":\"post\"," ++
    "\"fields\":[\x7b\"name\":\"id\"\x7d,\x7b\"name\":\"draft\",\"default\":null\x7d]\x7d]"

/-- A stated primary key is left out, and a default of null is a default. -/
theorem parseSchemas_draftDocument :
    ∃ definitions set, SchemaFormat.json.readDefinitions draftDocument = .ok definitions ∧
      definitions.map (·.fields.map (·.name)) = [["id", "draft"]] ∧
      parseSchemas .json draftDocument = .ok set ∧
      List.Forall₂ ModelDefinition.States definitions set.schemas := by
  have h : (SchemaFormat.json.readDefinitions draftDocument).toOption.any (fun definitions =>
      decide (definitions.map (·.fields.map (·.name)) = [["id", "draft"]] ∧
        (∀ definition ∈ definitions, definition.IsAccepted) ∧
          SchemaSet.AreDistinct definitions)) = true := by
    decide +kernel
  cases hread : SchemaFormat.json.readDefinitions draftDocument with
  | error error =>
    rw [hread] at h
    cases h
  | ok definitions =>
    rw [hread] at h
    obtain ⟨hnames, hok⟩ := of_decide_eq_true (Option.any_some.symm.trans h)
    obtain ⟨set, hset⟩ := (parseSchemas_ok_iff hread).1.mpr hok
    exact ⟨definitions, set, rfl, hnames, hset, (parseSchemas_ok_iff hread).2 set hset⟩

end ModelCodegen
