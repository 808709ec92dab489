import ModelCodegen.Generation.Binding
import ModelCodegen.Proofs.Entries
import ModelCodegen.Proofs.Result
import ModelCodegen.Proofs.Schema.Loaded
import ModelCodegen.Template.Collection

/-!
# Names that mean the model

A template of a model finds the model under names that the context cannot take from
it: the context with such a name bound to anything gives the same data, and so the
same text or the same error. All other names come through. A container of pages that
neither the model nor the context has is null, for aggregates too.
-/

namespace ModelCodegen

open Result

/-- The names that mean a model in its templates: those that every model has, its address where
that of the interface is known, and its container of pages if it has one. -/
def ModelSchema.Owns (schema : ModelSchema) (context : RenderContext) (key : String) : Prop :=
  key ∈ ["application_name", "model_name", "class_name", "endpoint", "has_relationships",
      "relationship_kinds", "fields", "relationships"] ∨
    (key = "endpoint_url" ∧ (context.text? "api_base").isSome) ∨
    (key = "pagination_container" ∧ schema.paginationContainer.isSome)

variable {context : RenderContext} {schema : ModelSchema} {key : String}

/-! ## What the model says -/

/-- A model is bound to an address just if that of the interface is known. -/
theorem mem_keys_addressBinding_iff {bindings : List (String × Json)}
    (h : addressBinding context schema = .ok bindings) :
    key ∈ Entries.keys bindings ↔
      key = "endpoint_url" ∧ (context.text? "api_base").isSome := by
  rw [addressBinding] at h
  cases hbase : context.text? "api_base" with
  | none =>
    rw [hbase] at h
    cases h
    simp [Entries.keys]
  | some base =>
    rw [hbase] at h
    obtain ⟨address, -, haddress⟩ := bind_eq_ok.mp h
    cases haddress
    simp [Entries.keys]

/-- A model is bound to the names that it owns. -/
theorem mem_keys_modelBindings_iff {bindings : List (String × Json)}
    (h : modelBindings context schema = .ok bindings) :
    key ∈ Entries.keys bindings ↔ schema.Owns context key := by
  obtain ⟨className, -, h⟩ := bind_eq_ok.mp h
  obtain ⟨address, haddress, h⟩ := bind_eq_ok.mp h
  obtain ⟨relationships, -, h⟩ := bind_eq_ok.mp h
  have hcontainer : key ∈ (schema.paginationContainer.toList.map fun name =>
      ("pagination_container", Json.string name)).map (·.1) ↔
        key = "pagination_container" ∧ schema.paginationContainer.isSome := by
    cases schema.paginationContainer <;> simp
  have haddressed : key ∈ address.map (·.1) ↔ _ := mem_keys_addressBinding_iff haddress
  cases h
  rw [Entries.keys, List.map_append, List.map_append, List.mem_append, List.mem_append, hcontainer,
    haddressed, or_assoc]
  rfl

/-- The names of a model are none of those that feed its bindings. -/
theorem ModelSchema.Owns.not_feeding (h : schema.Owns context key) :
    key ≠ "api_base" ∧ key ≠ "target_app" := by
  rcases h with hmem | ⟨rfl, -⟩ | ⟨rfl, -⟩
  · constructor <;> rintro rfl <;> simp at hmem
  · simp
  · simp

/-- A binding does not change what the context says under other names. -/
theorem RenderContext.text?_bind_of_ne {other : String} (h : key ≠ other) (value : Json) :
    (context.bind key value).text? other = context.text? other := by
  rw [RenderContext.text?, RenderContext.get?_bind, if_neg h]
  rfl

/-- The context feeds the bindings of a model in two places only. -/
theorem modelBindings_bind (hbase : key ≠ "api_base") (htarget : key ≠ "target_app")
    (value : Json) :
    modelBindings (context.bind key value) schema = modelBindings context schema := by
  rw [modelBindings, modelBindings, addressBinding, addressBinding,
    RenderContext.text?_bind_of_ne hbase, RenderContext.text?_bind_of_ne htarget]
  rfl

/-! ## What the context says -/

/-- What a template sees of a context with one more value. -/
theorem RenderContext.data_bind (value : Json) :
    (context.bind key value).data = Entries.insert key value
      (if key = "pagination_container" then context.values else context.data) := by
  by_cases hkey : key = "pagination_container"
  · rw [if_pos hkey, RenderContext.data, hkey, RenderContext.get?_bind, if_pos rfl]
    rfl
  · rw [if_neg hkey, RenderContext.data, RenderContext.data, RenderContext.get?_bind, if_neg hkey]
    cases context.get? "pagination_container" with
    | some container => rfl
    | none => exact Entries.insert_comm (Ne.symm hkey) _ _ _

/-- A value of the context does not matter where the model is bound to its name. -/
theorem RenderContext.insertAll_data_bind {bindings : List (String × Json)}
    (h : key ∈ Entries.keys bindings) (value : Json) :
    Entries.insertAll (context.bind key value).data bindings =
      Entries.insertAll context.data bindings := by
  rw [data_bind, Entries.insertAll_insert_of_mem h]
  by_cases hkey : key = "pagination_container"
  · rw [if_pos hkey, RenderContext.data]
    cases context.get? "pagination_container" with
    | some container => rfl
    | none =>
      rw [hkey] at h
      exact (Entries.insertAll_insert_of_mem h _ _).symm
  · rw [if_neg hkey]

/-! ## What a template sees -/

/-- What a template sees of a model. -/
theorem modelData_eq_ok {data : Json} : modelData context schema = .ok data ↔
    ∃ bindings, modelBindings context schema = .ok bindings ∧
      data = .object (Entries.insertAll context.data bindings) := by
  rw [modelData, bind_eq_ok]
  refine exists_congr fun bindings => and_congr_right fun _ => ?_
  exact ⟨fun h => (Except.ok.inj h).symm, fun h => congrArg Except.ok h.symm⟩

/-- A model takes no notice of what the context says of its names. -/
theorem modelData_bind (h : schema.Owns context key) (value : Json) :
    modelData (context.bind key value) schema = modelData context schema := by
  obtain ⟨hbase, htarget⟩ := h.not_feeding
  rw [modelData, modelData, modelBindings_bind hbase htarget]
  cases hbindings : modelBindings context schema with
  | error error => rfl
  | ok bindings =>
    exact congrArg (Except.ok ∘ Json.object)
      (RenderContext.insertAll_data_bind ((mem_keys_modelBindings_iff hbindings).mpr h) value)

/-- Where a model says nothing, the context is heard. -/
theorem get?_modelData_of_not_owns {data : Json} (howns : ¬ schema.Owns context key)
    (h : modelData context schema = .ok data) : data.get? key = Entries.get? key context.data := by
  obtain ⟨bindings, hbindings, rfl⟩ := modelData_eq_ok.mp h
  have habsent : Entries.get? key bindings.reverse = none := by
    rw [Entries.get?_eq_none_iff, Entries.keys, List.map_reverse, List.mem_reverse]
    exact fun hmem => howns ((mem_keys_modelBindings_iff hbindings).mp hmem)
  rw [Json.get?, Entries.get?_insertAll, habsent]
  rfl

/-- Where no container of pages is set, templates find null in its place. -/
theorem RenderContext.get?_data_container (h : context.get? "pagination_container" = none) :
    Entries.get? "pagination_container" context.data = some .null := by
  rw [RenderContext.get?_data, h]
  rfl

/-- A model without a container of pages leaves that name to the context. -/
theorem ModelSchema.not_owns_container (h : schema.paginationContainer = none) :
    ¬ schema.Owns context "pagination_container" := by
  simp [ModelSchema.Owns, h]

/-- A template of a model renders the same, or fails the same, whatever the context says of the
names that mean the model, and sees every other name as a template of an aggregate does. A container
of pages that nobody names is null in every template. -/
theorem model_names_shield_templates (templates : TemplateCollection) (name : String)
    (context : RenderContext) (schema : ModelSchema) :
    (∀ key, schema.Owns context key → ∀ value,
      (modelData (context.bind key value) schema >>= templates.render name) =
        (modelData context schema >>= templates.render name)) ∧
    (∀ key, ¬ schema.Owns context key → ∀ data, modelData context schema = .ok data →
      data.get? key = (aggregateData context).get? key) ∧
    (context.get? "pagination_container" = none →
      (schema.paginationContainer = none → ∀ data, modelData context schema = .ok data →
        data.get? "pagination_container" = some .null) ∧
      (aggregateData context).get? "pagination_container" = some .null) := by
  refine ⟨fun key howns value => ?_, fun key howns data hdata => ?_, fun hcontext => ⟨?_, ?_⟩⟩
  · rw [modelData_bind howns]
  · exact get?_modelData_of_not_owns howns hdata
  · intro hschema data hdata
    rw [get?_modelData_of_not_owns (schema.not_owns_container hschema) hdata]
    exact context.get?_data_container hcontext
  · exact context.get?_data_container hcontext

/-- A context that knows the address of the interface and nothing else. -/
def servedContext : RenderContext := ({} : RenderContext).bind "api_base" (.string "/api")

/-- A template of the address of a collection. -/
def addressTemplates : TemplateCollection :=
  [("address", [.value { written := "endpoint_url", names := ["endpoint_url"] }])]

/-- The address of a model is rendered whatever the context says of one. -/
theorem model_names_shield_templates_address :
    post.Owns servedContext "endpoint_url" ∧
      (modelData (servedContext.bind "endpoint_url" (.string "elsewhere")) post >>=
        addressTemplates.render "address") = .ok "/api/blog/posts" ∧
      ¬ post.Owns servedContext "api_base" ∧
      servedContext.get? "pagination_container" = none ∧ post.paginationContainer = none ∧
      (aggregateData servedContext).get? "pagination_container" = some .null ∧
      ∃ data, modelData servedContext post = .ok data ∧
        data.get? "api_base" = some (.string "/api") ∧
        data.get? "pagination_container" = some .null := by
  obtain ⟨hshield, hothers, hnull⟩ :=
    model_names_shield_templates addressTemplates "address" servedContext post
  have howns : post.Owns servedContext "endpoint_url" := .inr (.inl ⟨rfl, by decide⟩)
  have haddress : (modelData servedContext post >>= addressTemplates.render "address") =
      .ok "/api/blog/posts" := by rfl
  have hbase : ¬ post.Owns servedContext "api_base" := fun h => h.not_feeding.1 rfl
  obtain ⟨hmodel, haggregate⟩ := hnull (by rfl)
  exact ⟨howns, (hshield _ howns _).trans haddress, hbase, by rfl, rfl, haggregate, _, rfl,
    (hothers _ hbase _ rfl).trans (by rfl), hmodel rfl _ rfl⟩

end ModelCodegen
