import ModelCodegen.Proofs.Generation.BuiltinJobs
import ModelCodegen.Proofs.Generation.Declaration

/-!
# Declared models

In the five built-in stacks that declare models the artifact of a loaded model is
its declaration, word for word.
-/

namespace ModelCodegen

open Template

/-- The built-in stacks that declare models, with the form of their declarations. -/
def Declaration.builtin : List (StackId × Declaration) := [
  (.ember, StackEmber.declaration), (.emberDynamic, StackEmberDynamic.declaration),
  (.mobxAxios, StackMobxAxios.declaration), (.vuexOrmAxios, StackVuexOrmAxios.declaration),
  (.angular2, StackAngular2.declaration)]

section Render

variable {registry : Registry} {config : Config} {schema : ModelSchema}

/-- An artifact is the declaration of its model if the script of its template yields that. -/
theorem render_of_script (hb : Registry.builtin = .ok registry) (hc : config.validate = .ok ())
    (hn : schema.IsNamed) {id : StackId} {registration : Registration}
    (hr : registration ∈ (StackDescriptor.builtin id).artifacts) {body : String}
    (hbody : (registration.template, body) ∈ builtinTemplates) {script : Script}
    (hscript : Script.ofBody? body = some script) {declaration : Declaration}
    (htext : ∀ members, (∀ name, Entries.get? name members =
        Entries.get? name (modelView config (.builtin id) schema)) →
      script.textAt ⟨.object members, []⟩ =
        some (declaration.text config (config.typeMapping (.builtin id)) schema)) :
    Job.render registry.templates (Job.stackContext config (.builtin id)) registration
      (.model schema) = schema.checkEndpoint.map fun _ =>
        (registration.path.resolve (.all schema.applicationName schema.modelName),
          declaration.text config (config.typeMapping (.builtin id)) schema) := by
  obtain ⟨members, hrender, hmembers⟩ :=
    render_model_eq registry.templates hc (.builtin id) registration hn
  rw [hrender, render_builtin_of_textAt hb hr hbody hscript (htext members hmembers)]
  cases schema.checkEndpoint <;> rfl

end Render

/-- In every stack that declares models the artifact of a loaded model is its declaration: the
lines of its fields in order and then those of its relationships, between a head and a tail. Only
an endpoint that is not accepted keeps it from being rendered. -/
theorem render_builtin_declaration {format : SchemaFormat} {document : String} {set : SchemaSet}
    {config : Config} {registry : Registry} (hset : parseSchemas format document = .ok set)
    (hc : config.validate = .ok ()) (hb : Registry.builtin = .ok registry) :
    ∀ schema ∈ set.schemas, ∀ entry ∈ Declaration.builtin,
      ∃ registration ∈ (StackDescriptor.builtin entry.1).artifacts,
        registration.template = entry.2.template ∧
        Job.render registry.templates (Job.stackContext config (.builtin entry.1)) registration
          (.model schema) = schema.checkEndpoint.map fun _ =>
            (registration.path.resolve (.all schema.applicationName schema.modelName),
              entry.2.text config (config.typeMapping (.builtin entry.1)) schema) := by
  intro schema hs
  obtain ⟨definitions, -, definition, -, hprepare⟩ :=
    SchemaSet.exists_prepare_of_parseSchemas hset hs
  have hn := definition.isNamed_of_prepare hprepare
  have hi := definition.inverse_ne_of_prepare hprepare
  have hscripts := ofBody?_declarations
  simp only [List.forall_mem_cons, List.not_mem_nil, false_imp_iff, implies_true, and_true]
    at hscripts
  obtain ⟨hember, hdynamic, hmobx, hvuex, hangular⟩ := hscripts
  simp only [Declaration.builtin, List.forall_mem_cons, List.not_mem_nil, false_imp_iff,
    implies_true, and_true]
  refine ⟨⟨_, .head _, rfl, ?_⟩, ⟨_, .head _, rfl, ?_⟩, ⟨_, .head _, rfl, ?_⟩,
    ⟨_, .head _, rfl, ?_⟩, ⟨_, .head _, rfl, ?_⟩⟩
  · exact render_of_script hb hc hn (.head _)
      (by simp [builtinTemplates, Registration.ofModel]) hember
      fun members hm => StackEmber.textAt_baseScript hm hi
  · exact render_of_script hb hc hn (.head _)
      (by simp [builtinTemplates, Registration.ofModel]) hdynamic
      fun members hm => StackEmberDynamic.textAt_modelScript hm hi
  · exact render_of_script hb hc hn (.head _)
      (by simp [builtinTemplates, Registration.ofModel]) hmobx
      fun members hm => StackMobxAxios.textAt_baseScript hm
  · exact render_of_script hb hc hn (.head _)
      (by simp [builtinTemplates, Registration.ofModel]) hvuex
      fun members hm => StackVuexOrmAxios.textAt_baseScript hm
  · exact render_of_script hb hc hn (.head _)
      (by simp [builtinTemplates, Registration.ofModel]) hangular
      fun members hm => StackAngular2.textAt_baseScript hm

/-- A document with a model that has a default of null and a collection. -/
def taggedDocument : String :=
  "[\x7b\"application_name\":\"blog\",\"model_name\":\"post\",\"fields\":[" ++
    "\x7b\"name\":\"title\",\"type\":\"string\",\"default\":null\x7d],\"relationships\":[" ++
    "\x7b\"name\":\"tags\",\"kind\":\"hasMany\",\"app\":\"blog\"," ++
    "\"related_model\":\"tag\"\x7d]\x7d]"

private theorem exists_schema_taggedDocument :
    ∃ set, parseSchemas .json taggedDocument = .ok set ∧ ∃ schema ∈ set.schemas,
      schema.checkEndpoint = .ok () ∧
      StackAngular2.declaration.fieldLines ⟨.typeScript, []⟩ schema =
        "  title: string = null;\n" ∧
      StackAngular2.declaration.relationshipLines none schema = "  tags: string[];\n" := by
  have h : (parseSchemas .json taggedDocument).toOption.any (fun set =>
      set.schemas.any fun schema =>
      schema.checkEndpoint.isOk &&
        (StackAngular2.declaration.fieldLines ⟨.typeScript, []⟩ schema ==
            "  title: string = null;\n" &&
          StackAngular2.declaration.relationshipLines none schema == "  tags: string[];\n")) =
      true := by
    decide +kernel
  obtain ⟨set, hset, hany⟩ := Result.exists_ok_of_any h
  obtain ⟨schema, hs, hall⟩ := List.any_eq_true.mp hany
  simp only [Bool.and_eq_true, beq_iff_eq] at hall
  exact ⟨set, hset, schema, hs, Result.eq_ok_of_isOk hall.1, hall.2⟩

/-- A field with a default and one with a type that is not built in have a line each. -/
theorem render_builtin_declaration_taggedDocument :
    ∃ set registry, parseSchemas .json taggedDocument = .ok set ∧
      Registry.builtin = .ok registry ∧ ∃ schema ∈ set.schemas,
      ∃ registration ∈ (StackDescriptor.builtin .angular2).artifacts, ∃ path,
        registration.template = "angular2/model_base.ts" ∧
        Job.render registry.templates (Job.stackContext {} (.builtin .angular2)) registration
          (.model schema) = .ok (path, StackAngular2.head schema ++ "  title: string = null;\n" ++
            "  tags: string[];\n" ++ StackAngular2.tail schema) := by
  obtain ⟨registry, hb⟩ := Registry.exists_builtin
  obtain ⟨set, hset, schema, hs, hcheck, hfields, hrelationships⟩ := exists_schema_taggedDocument
  obtain ⟨registration, hr, htemplate, hrender⟩ :=
    render_builtin_declaration hset (show ({} : Config).validate = .ok () by rfl) hb schema hs
      (.angular2, StackAngular2.declaration) (by simp [Declaration.builtin])
  refine ⟨set, registry, hset, hb, schema, hs, registration, hr,
    registration.path.resolve (.all schema.applicationName schema.modelName), htemplate, ?_⟩
  rw [hrender, hcheck, Declaration.text, ← hfields, ← hrelationships]
  rfl

end ModelCodegen
