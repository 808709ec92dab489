import ModelCodegen.Proofs.Entries
import ModelCodegen.Proofs.Stack.Registry

/-!
# The built-in registry

Checking their path rules does not change the built-in stacks: they are the
descriptors below, one for each stack. The built-in registry is what a run without
a template directory loads.
-/

namespace ModelCodegen

open Result

namespace Registration

/-- An artifact of each model, with a rule that is not checked. -/
def ofModel (kind : ArtifactKind) (template path : String) (policy : WritePolicy) :
    Registration :=
  { kind := kind, scope := .model, policy := policy, template := template, path := ⟨path⟩ }

/-- An aggregate with rules that are not checked. -/
def ofModels (kind : ArtifactKind) (scope : ArtifactScope) (template path itemImport : String) :
    Registration :=
  { kind := kind, scope := scope, policy := .regenerate, template := template, path := ⟨path⟩
    itemImport := some ⟨itemImport⟩ }

/-- A file that does not depend on the models, with a rule that is not checked. -/
def ofRun (kind : ArtifactKind) (template path : String) : Registration :=
  { kind := kind, scope := .run, policy := .regenerate, template := template, path := ⟨path⟩ }

/-- A registration for each model is made of its parts as they are, if its rule is accepted. -/
theorem eq_of_perModel {kind : ArtifactKind} {template path : String} {policy : WritePolicy}
    {registration : Registration} (h : perModel kind template path policy = .ok registration) :
    registration = ofModel kind template path policy := by
  simp only [perModel, bind_eq_ok, pure_eq_ok, PathRule.ofPattern_eq_ok] at h
  obtain ⟨_, ⟨_, rfl⟩, rfl⟩ := h
  rfl

/-- The registration of an aggregate is made of its parts as they are, if its rules are accepted. -/
theorem eq_of_aggregate {kind : ArtifactKind} {scope : ArtifactScope}
    {template path itemImport : String} {registration : Registration}
    (h : aggregate kind scope template path itemImport = .ok registration) :
    registration = ofModels kind scope template path itemImport := by
  simp only [aggregate, bind_eq_ok, pure_eq_ok, PathRule.ofPattern_eq_ok] at h
  obtain ⟨_, ⟨_, rfl⟩, _, ⟨_, rfl⟩, rfl⟩ := h
  rfl

/-- The registration of a support file is made of its parts as they are, if its rule is accepted. -/
theorem eq_of_support {kind : ArtifactKind} {template path : String}
    {registration : Registration} (h : support kind template path = .ok registration) :
    registration = ofRun kind template path := by
  simp only [support, bind_eq_ok, pure_eq_ok, PathRule.ofPattern_eq_ok] at h
  obtain ⟨_, ⟨_, rfl⟩, rfl⟩ := h
  rfl

end Registration

namespace StackDescriptor

open Registration

/-- The built-in descriptor of each stack. -/
def builtin : StackId → StackDescriptor
  | .ember => {
      id := .ember
      description := "ember-data models, editable stubs, unit tests and per-application indexes"
      typeStyle := .emberData
      artifacts := [
        ofModel .modelBase "ember/model_base.js"
          "app/models/base/\x7bapp_dash\x7d/\x7bmodel_dash\x7d.js" .regenerate,
        ofModel .model "ember/model.js"
          "app/models/\x7bapp_dash\x7d/\x7bmodel_dash\x7d.js" .scaffold,
        ofModel .test "ember/test.js"
          "tests/unit/models/\x7bapp_dash\x7d/\x7bmodel_dash\x7d-test.js" .companion,
        ofModels .index .application "ember/index.js"
          "app/models/\x7bapp_dash\x7d/index.js" "./\x7bmodel_dash\x7d"] }
  | .emberDynamic => {
      id := .emberDynamic
      description := "ember-data AMD modules for runtime loading"
      typeStyle := .emberData
      artifacts := [
        ofModel .model "ember-dynamic/model.js" "\x7bapp\x7d/\x7bmodel\x7d.js" .regenerate] }
  | .mobxAxios => {
      id := .mobxAxios
      description := "MobX observable models with axios-backed stores"
      typeStyle := .untyped
      artifacts := [
        ofModel .modelBase "mobx-axios/model_base.js"
          "src/models/base/\x7bapp\x7d\x7bmodel\x7d.js" .regenerate,
        ofModel .model "mobx-axios/model.js" "src/models/\x7bapp\x7d\x7bmodel\x7d.js" .scaffold,
        ofModel .store "mobx-axios/store.js" "src/stores/\x7bapp\x7d\x7bmodel\x7d.js" .regenerate,
        ofRun .baseModel "mobx-axios/base_model.js" "src/models/base/_base.js",
        ofRun .baseStore "mobx-axios/base_store.js" "src/stores/_base.js",
        ofRun .http "mobx-axios/http.js" "src/config/axios-config.js"] }
  | .vuexOrmAxios => {
      id := .vuexOrmAxios
      description := "Vuex ORM models registered in a single database module"
      typeStyle := .vuexOrm
      artifacts := [
        ofModel .modelBase "vuexorm-axios/model_base.js"
          "src/models/base/\x7bapp\x7d/\x7bmodel\x7d.js" .regenerate,
        ofModel .model "vuexorm-axios/model.js"
          "src/models/\x7bapp\x7d/\x7bmodel\x7d.js" .scaffold,
        ofRun .baseModel "vuexorm-axios/base_model.js" "src/models/Base.js",
        ofRun .http "vuexorm-axios/http.js" "src/store/http.js",
        ofModels .index .run "vuexorm-axios/database.js" "src/store/database.js"
          "@/models/\x7bapp\x7d/\x7bmodel\x7d"] }
  | .angular2 => {
      id := .angular2
      description := "Angular typed models and HTTP services"
      typeStyle := .typeScript
      endpointStyle := { trailingSlash := true }
      artifacts := [
        ofModel .modelBase "angular2/model_base.ts"
          "src/app/\x7bapp\x7d/\x7bmodel\x7d.base.ts" .regenerate,
        ofModel .model "angular2/model.ts" "src/app/\x7bapp\x7d/\x7bmodel\x7d.ts" .scaffold,
        ofModel .service "angular2/service.ts"
          "src/app/\x7bapp\x7d/\x7bmodel\x7d.service.ts" .regenerate] }
  | .angularResource => {
      id := .angularResource
      description := "AngularJS $resource services"
      typeStyle := .untyped
      artifacts := [
        ofModel .service "angular/service.js"
          "src/resources/\x7bapp\x7d-\x7bmodel\x7d.js" .regenerate] }

/-- A built-in stack goes by its own id. -/
theorem builtin_id (id : StackId) : (builtin id).id = id := by
  cases id <;> rfl

private theorem eq_of_ember {stack : StackDescriptor} (h : ember = .ok stack) :
    stack = builtin .ember := by
  simp only [ember, bind_eq_ok, pure_eq_ok] at h
  obtain ⟨_, hbase, _, hmodel, _, htest, _, hindex, rfl⟩ := h
  rw [eq_of_perModel hbase, eq_of_perModel hmodel, eq_of_perModel htest, eq_of_aggregate hindex]
  rfl

private theorem eq_of_emberDynamic {stack : StackDescriptor} (h : emberDynamic = .ok stack) :
    stack = builtin .emberDynamic := by
  simp only [emberDynamic, bind_eq_ok, pure_eq_ok] at h
  obtain ⟨_, hmodel, rfl⟩ := h
  rw [eq_of_perModel hmodel]
  rfl

private theorem eq_of_mobxAxios {stack : StackDescriptor} (h : mobxAxios = .ok stack) :
    stack = builtin .mobxAxios := by
  simp only [mobxAxios, bind_eq_ok, pure_eq_ok] at h
  obtain ⟨_, hbase, _, hmodel, _, hstore, _, hbaseModel, _, hbaseStore, _, hhttp, rfl⟩ := h
  rw [eq_of_perModel hbase, eq_of_perModel hmodel, eq_of_perModel hstore,
    eq_of_support hbaseModel, eq_of_support hbaseStore, eq_of_support hhttp]
  rfl

private theorem eq_of_vuexOrmAxios {stack : StackDescriptor} (h : vuexOrmAxios = .ok stack) :
    stack = builtin .vuexOrmAxios := by
  simp only [vuexOrmAxios, bind_eq_ok, pure_eq_ok] at h
  obtain ⟨_, hbase, _, hmodel, _, hbaseModel, _, hhttp, _, hindex, rfl⟩ := h
  rw [eq_of_perModel hbase, eq_of_perModel hmodel, eq_of_support hbaseModel,
    eq_of_support hhttp, eq_of_aggregate hindex]
  rfl

private theorem eq_of_angular2 {stack : StackDescriptor} (h : angular2 = .ok stack) :
    stack = builtin .angular2 := by
  simp only [angular2, bind_eq_ok, pure_eq_ok] at h
  obtain ⟨_, hbase, _, hmodel, _, hservice, rfl⟩ := h
  rw [eq_of_perModel hbase, eq_of_perModel hmodel, eq_of_perModel hservice]
  rfl

private theorem eq_of_angularResource {stack : StackDescriptor}
    (h : angularResource = .ok stack) : stack = builtin .angularResource := by
  simp only [angularResource, bind_eq_ok, pure_eq_ok] at h
  obtain ⟨_, hservice, rfl⟩ := h
  rw [eq_of_perModel hservice]
  rfl

/-- The built-in stacks all have valid path rules; they come in the order of their identifiers. -/
theorem builtinStacks_eq : builtinStacks = .ok (StackId.all.map builtin) := by
  cases h : builtinStacks with
  | error error =>
    have hok := builtinStacks_isOk
    rw [h] at hok
    cases hok
  | ok descriptors =>
    simp only [builtinStacks, bind_eq_ok, pure_eq_ok] at h
    obtain ⟨_, he, _, hd, _, hm, _, hv, _, ha, _, hr, rfl⟩ := h
    rw [eq_of_ember he, eq_of_emberDynamic hd, eq_of_mobxAxios hm, eq_of_vuexOrmAxios hv,
      eq_of_angular2 ha, eq_of_angularResource hr]
    rfl

end StackDescriptor

/-! ## The registry -/

/-- The draft of the built-in registry. -/
def RegistryDraft.ofBuiltin : RegistryDraft :=
  ⟨StackId.all.map StackDescriptor.builtin, Entries.ofList builtinTemplates⟩

/-- No two built-in templates share a name. -/
theorem nodup_builtinTemplates : (Entries.keys builtinTemplates).Nodup := by
  simp [Entries.keys, builtinTemplates]

/-- A built-in body is found under the name of its template. -/
theorem RegistryDraft.get?_bodies {name body : String} (h : (name, body) ∈ builtinTemplates) :
    Entries.get? name ofBuiltin.bodies = some body := by
  rw [ofBuiltin, Entries.get?_ofList nodup_builtinTemplates]
  exact Entries.get?_of_mem nodup_builtinTemplates h

/-- The bodies of the built-in draft are those of the built-in templates. -/
theorem RegistryDraft.mem_keys_of_mem_bodies {entry : String × String}
    (h : entry ∈ ofBuiltin.bodies) : entry.1 ∈ Entries.keys builtinTemplates := by
  by_contra hnone
  rw [← Entries.get?_eq_none_iff, ← Entries.get?_ofList nodup_builtinTemplates,
    Entries.get?_eq_none_iff] at hnone
  exact hnone (List.mem_map_of_mem h)

/-- All rules of the built-in stacks are accepted. -/
theorem RegistryDraft.builtin_eq : builtin = .ok ofBuiltin := by
  rw [builtin, StackDescriptor.builtinStacks_eq]
  rfl

/-- The registry of the built-in descriptors with their own templates. -/
def Registry.builtin : Except Error Registry := RegistryDraft.builtin >>= RegistryDraft.build

/-- The built-in registry is built from the built-in draft. -/
theorem Registry.builtin_eq : builtin = RegistryDraft.ofBuiltin.build := by
  rw [builtin, RegistryDraft.builtin_eq, ok_bind]

/-- Without a template directory the built-in registry is loaded. -/
theorem Registry.load_none {m : Type → Type} [Monad m] [LawfulMonad m] [FileSystem m] :
    (Registry.load none : ExceptT Error m Registry).run = pure Registry.builtin := by
  rw [load, builtin_eq, RegistryDraft.builtin_eq]
  simp [liftM, monadLift, MonadLift.monadLift, ExceptT.run_bind, ExceptT.run_mk]

/-- The registry has the built-in stacks, with whatever templates. -/
def Registry.HasBuiltinStacks (registry : Registry) : Prop :=
  registry.descriptors = StackId.all.map StackDescriptor.builtin

/-- Every stack is registered. -/
theorem Registry.HasBuiltinStacks.stack?_eq {registry : Registry} (h : registry.HasBuiltinStacks)
    (id : StackId) : registry.stack? id = some (.builtin id) := by
  rw [stack?, h]
  cases id <;> rfl

/-- The built-in registry has the built-in stacks. -/
theorem Registry.hasBuiltinStacks_of_builtin {registry : Registry} (h : builtin = .ok registry) :
    registry.HasBuiltinStacks := by
  rw [builtin_eq] at h
  exact (RegistryDraft.build_sound h).1

/-- The built-in registry knows every stack by its built-in descriptor. -/
theorem Registry.stack?_of_builtin {registry : Registry} (h : builtin = .ok registry)
    (id : StackId) : registry.stack? id = some (.builtin id) :=
  (hasBuiltinStacks_of_builtin h).stack?_eq id

end ModelCodegen
