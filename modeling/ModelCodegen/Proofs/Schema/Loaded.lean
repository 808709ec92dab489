import ModelCodegen.Name.Endpoint
import ModelCodegen.Proofs.Schema.Acceptance

/-!
# Loaded schemas

What a document is checked for before a run: the names in its schemas are
identifiers, no model comes twice, and an endpoint that is not given is spelled like
one that is.
-/

namespace ModelCodegen

open Result

/-- All names of the schema are identifiers. -/
structure ModelSchema.IsNamed (schema : ModelSchema) : Prop where
  application : Name.IsIdentifier schema.applicationName
  model : Name.IsIdentifier schema.modelName
  fields : ∀ field ∈ schema.fields, Name.IsIdentifier field.name
  relationships : ∀ relationship ∈ schema.relationships, Name.IsIdentifier relationship.name ∧
    Name.IsIdentifier relationship.app ∧ Name.IsIdentifier relationship.relatedModel

/-- The endpoint is spelled with the characters of endpoints, and not only with slashes. -/
def ModelSchema.IsServed (schema : ModelSchema) : Prop :=
  SchemaDraft.isUsableEndpoint schema.endpoint = true ∧
    ∀ c ∈ schema.endpoint.toList, Name.isEndpointChar c = true

/-- Endpoints that are given are spelled with the characters of endpoints. -/
def ModelDefinition.SpellsEndpoint (definition : ModelDefinition) : Prop :=
  ∀ endpoint, definition.endpoint = some endpoint →
    ∀ c ∈ endpoint.toList, Name.isEndpointChar c = true

/-! ## Definitions -/

namespace ModelDefinition

variable {definition : ModelDefinition}

/-- The plural of a word is spelled with its characters and with letters. -/
private theorem isEndpointChar_of_mem_pluralize {word : String} (h : Name.IsIdentifier word) :
    ∀ c ∈ (Name.pluralize word).toList, Name.isEndpointChar c = true := by
  have hword : ∀ c ∈ word.toList, Name.isEndpointChar c = true := fun c hc => by
    rw [Name.isEndpointChar, h.2 c hc]
    rfl
  have hending : ∀ c, c = 'i' ∨ c = 'e' ∨ c = 's' → Name.isEndpointChar c = true := by
    rintro c (rfl | rfl | rfl) <;> decide
  intro c hc
  rw [Name.pluralize, String.toList_ofList, Name.pluralChars] at hc
  split at hc
  · simp at hc
  · next d stem hreverse =>
    split at hc
    · rcases List.mem_append.mp hc with hc | hc
      · exact hword c hc
      · exact hending c (by simp_all)
    · rcases List.mem_append.mp hc with hc | hc
      · refine hword c (List.mem_reverse.mp ?_)
        rw [hreverse]
        exact List.mem_cons_of_mem _ (List.mem_reverse.mp hc)
      · exact hending c (by simpa using hc)
  · split at hc
    · rcases List.mem_append.mp hc with hc | hc
      · exact hword c hc
      · exact hending c (by simp_all)
    · rcases List.mem_append.mp hc with hc | hc
      · exact hword c hc
      · exact hending c (by simp_all)

private theorem isEndpointChar_of_mem_derivedEndpoint
    (ha : Name.IsIdentifier definition.applicationName)
    (hm : Name.IsIdentifier definition.modelName) :
    ∀ c ∈ definition.derivedEndpoint.toList, Name.isEndpointChar c = true := by
  intro c hc
  rw [derivedEndpoint, String.toList_append, String.toList_append, List.mem_append,
    List.mem_append] at hc
  rcases hc with (hc | hc) | hc
  · rw [Name.isEndpointChar, ha.2 c hc]
    rfl
  · obtain rfl : c = '/' := by simpa using hc
    decide
  · exact isEndpointChar_of_mem_pluralize hm c hc

/-- A definition that is accepted for a run has identifiers for names. -/
theorem isNamed_of_prepare {schema : ModelSchema} (h : definition.prepare = .ok schema) :
    schema.IsNamed := by
  obtain ⟨hn, hs⟩ := prepare_eq_ok_iff.mp h
  refine ⟨hs.applicationName ▸ hn.application, hs.modelName ▸ hn.model, fun field hfield => ?_,
    fun relationship hrelationship => ?_⟩
  · rw [hs.fields] at hfield
    obtain ⟨d, hd, rfl⟩ := List.mem_map.mp hfield
    exact hn.fields d hd
  · obtain ⟨d, hd, hstates⟩ := exists_of_forall₂ hs.relationships hrelationship
    rw [hstates.name, hstates.app, hstates.relatedModel]
    exact hn.relationships d hd

/-- An attribute that points back has a name. -/
theorem inverse_ne_of_prepare {schema : ModelSchema} (h : definition.prepare = .ok schema) :
    ∀ relationship ∈ schema.relationships, relationship.inverse ≠ some "" := by
  intro relationship hmem he
  obtain ⟨d, -, hstates⟩ := exists_of_forall₂ (prepare_eq_ok_iff.mp h).2.relationships hmem
  exact ((hstates.inverse "").mp he).2.1 rfl

/-- The endpoint of an accepted definition is spelled with the characters of endpoints if it is so
where it is given. -/
theorem isServed_of_prepare {schema : ModelSchema} (hs : definition.SpellsEndpoint)
    (h : definition.prepare = .ok schema) : schema.IsServed := by
  obtain ⟨hn, hstates⟩ := prepare_eq_ok_iff.mp h
  rw [ModelSchema.IsServed, hstates.endpoint]
  cases he : definition.endpoint with
  | none =>
    exact ⟨isUsableEndpoint_derivedEndpoint hn.application,
      isEndpointChar_of_mem_derivedEndpoint hn.application hn.model⟩
  | some endpoint => exact ⟨isUsableEndpoint_iff.mpr (hn.endpoint endpoint he), hs endpoint he⟩

end ModelDefinition

/-! ## Sets -/

namespace SchemaSet

/-- The schemas of a set are prepared from definitions, and no two share a key. -/
theorem ofDefinitions_eq_ok {definitions : List ModelDefinition} {set : SchemaSet}
    (h : ofDefinitions definitions = .ok set) :
    (∀ schema ∈ set.schemas, ∃ definition ∈ definitions, definition.prepare = .ok schema) ∧
      (set.schemas.map ModelSchema.key).Nodup := by
  obtain ⟨schemas, hschemas, h⟩ := bind_eq_ok.mp h
  obtain ⟨hkeys, rfl⟩ := ofList_eq_ok_iff.mp h
  exact ⟨fun schema hs => exists_of_mapM_eq_ok hschemas hs, hkeys⟩

/-- The schemas of a document come from its definitions. -/
theorem exists_prepare_of_parseSchemas {format : SchemaFormat} {document : String}
    {set : SchemaSet} (h : parseSchemas format document = .ok set) {schema : ModelSchema}
    (hs : schema ∈ set.schemas) : ∃ definitions, format.readDefinitions document = .ok definitions ∧
      ∃ definition ∈ definitions, definition.prepare = .ok schema := by
  obtain ⟨definitions, hread, h⟩ := bind_eq_ok.mp h
  exact ⟨definitions, hread, (ofDefinitions_eq_ok h).1 schema hs⟩

/-- No two models of a document share a key. -/
theorem nodup_keys_of_parseSchemas {format : SchemaFormat} {document : String}
    {set : SchemaSet} (h : parseSchemas format document = .ok set) :
    (set.schemas.map ModelSchema.key).Nodup := by
  obtain ⟨definitions, -, h⟩ := bind_eq_ok.mp h
  exact (ofDefinitions_eq_ok h).2

end SchemaSet

/-! ## Documents -/

/-- A model without fields and relationships. -/
def ModelSchema.bare (application model endpoint : String) : ModelSchema :=
  ⟨application, model, [], [], endpoint, none⟩

/-- There is nothing in the schema besides names and an endpoint. -/
def ModelSchema.isBare (schema : ModelSchema) : Bool :=
  schema.fields.isEmpty && schema.relationships.isEmpty && schema.paginationContainer.isNone

/-- A schema with nothing but names and an endpoint is told by these. -/
theorem ModelSchema.eq_bare {schema : ModelSchema} (h : schema.isBare = true) :
    schema = .bare schema.applicationName schema.modelName schema.endpoint := by
  obtain ⟨application, model, fields, relationships, endpoint, container⟩ := schema
  simp only [isBare, Bool.and_eq_true, List.isEmpty_iff, Option.isNone_iff_eq_none] at h
  obtain ⟨⟨rfl, rfl⟩, rfl⟩ := h
  rfl

/-- What there is to check of a bare model before a run. -/
theorem ModelSchema.isFit_bare {application model endpoint : String}
    (ha : Name.checkIdentifier application = .ok ()) (hm : Name.checkIdentifier model = .ok ())
    (he : (SchemaDraft.isUsableEndpoint endpoint && endpoint.toList.all Name.isEndpointChar) =
      true) :
    (bare application model endpoint).IsNamed ∧ (bare application model endpoint).IsServed := by
  rw [Bool.and_eq_true, List.all_eq_true] at he
  exact ⟨⟨Name.checkIdentifier_eq_ok_iff.mp ha, Name.checkIdentifier_eq_ok_iff.mp hm,
    by simp [bare], by simp [bare]⟩, he⟩

/-- The names and endpoints are such that bare models of these can be used in a run. -/
def ModelSchema.areUsable (names : List (String × String × String)) : Bool :=
  names.all fun name => (Name.checkIdentifier name.1).isOk &&
    (Name.checkIdentifier name.2.1).isOk && (SchemaDraft.isUsableEndpoint name.2.2 &&
      name.2.2.toList.all Name.isEndpointChar)

/-- A bare model of usable names can be used in a run. -/
theorem ModelSchema.isFit_of_areUsable {names : List (String × String × String)}
    (h : areUsable names = true) {name : String × String × String} (hmem : name ∈ names) :
    (bare name.1 name.2.1 name.2.2).IsNamed ∧ (bare name.1 name.2.1 name.2.2).IsServed := by
  have hall := List.all_eq_true.mp h name hmem
  simp only [Bool.and_eq_true] at hall
  exact isFit_bare (eq_ok_of_isOk hall.1.1) (eq_ok_of_isOk hall.1.2)
    (Bool.and_eq_true_iff.mpr hall.2)

/-- A document of bare models holds what their names and endpoints say. -/
theorem parseSchemas_of_isBare {format : SchemaFormat} {document : String}
    {names : List (String × String × String)}
    (h : (parseSchemas format document).toOption.any (fun set => set.schemas.all (·.isBare) &&
      set.schemas.map (fun schema =>
        (schema.applicationName, schema.modelName, schema.endpoint)) == names) = true) :
    parseSchemas format document = .ok ⟨names.map fun name => .bare name.1 name.2.1 name.2.2⟩ := by
  obtain ⟨⟨schemas⟩, hset, h⟩ := exists_ok_of_any h
  simp only [Bool.and_eq_true, List.all_eq_true, beq_iff_eq] at h
  obtain ⟨hbare, rfl⟩ := h
  rw [hset, List.map_map]
  congr 2
  exact (List.map_id' schemas).symm.trans
    (List.map_congr_left fun schema hs => ModelSchema.eq_bare (hbare schema hs))

/-- A document with one model. -/
def postDocument : String :=
  "[\x7b\"application_name\":\"blog\",\"model_name\":\"post\"\x7d]"

/-- The model in the document. -/
def post : ModelSchema :=
  ⟨"blog", "post", [], [], "blog/posts", none⟩

/-- The model in the document has no endpoint of its own. -/
theorem exists_definitions_postDocument :
    ∃ definitions, SchemaFormat.json.readDefinitions postDocument = .ok definitions ∧
      ∀ definition ∈ definitions, definition.endpoint = none := by
  have h : (SchemaFormat.json.readDefinitions postDocument).toOption.any
      (fun definitions => definitions.all (·.endpoint.isNone)) = true := by decide +kernel
  obtain ⟨definitions, hread, hall⟩ := exists_ok_of_any h
  exact ⟨definitions, hread, by simpa using hall⟩

/-- The document is read as its model. -/
theorem parseSchemas_postDocument : parseSchemas .json postDocument = .ok ⟨[post]⟩ :=
  @parseSchemas_of_isBare .json postDocument [("blog", "post", "blog/posts")] (by decide +kernel)

end ModelCodegen
