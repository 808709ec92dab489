import ModelCodegen.Stack.Registration

/-!
# Built-in stacks

The stacks that are known without any settings, in the order of their identifiers.  Their path
rules are checked like any others; that all of them are accepted is `builtinStacks_isOk`.
-/

namespace ModelCodegen.StackDescriptor

open Registration

/-- Models for ember-data with stubs to edit, unit tests and an index of each application. -/
def ember : Except Error StackDescriptor := do
  return {
    id := .ember
    description := "ember-data models, editable stubs, unit tests and per-application indexes"
    typeStyle := .emberData
    artifacts := [
      ← perModel .modelBase "ember/model_base.js"
        "app/models/base/\x7bapp_dash\x7d/\x7bmodel_dash\x7d.js" .regenerate,
      ← perModel .model "ember/model.js"
        "app/models/\x7bapp_dash\x7d/\x7bmodel_dash\x7d.js" .scaffold,
      ← perModel .test "ember/test.js"
        "tests/unit/models/\x7bapp_dash\x7d/\x7bmodel_dash\x7d-test.js" .companion,
      ← aggregate .index .application "ember/index.js"
        "app/models/\x7bapp_dash\x7d/index.js" "./\x7bmodel_dash\x7d"] }

/-- Models for ember-data that are loaded while an application runs. -/
def emberDynamic : Except Error StackDescriptor := do
  return {
    id := .emberDynamic
    description := "ember-data AMD modules for runtime loading"
    typeStyle := .emberData
    artifacts := [
      ← perModel .model "ember-dynamic/model.js" "\x7bapp\x7d/\x7bmodel\x7d.js" .regenerate] }

/-- Observable models with stores that fetch them. -/
def mobxAxios : Except Error StackDescriptor := do
  return {
    id := .mobxAxios
    description := "MobX observable models with axios-backed stores"
    typeStyle := .untyped
    artifacts := [
      ← perModel .modelBase "mobx-axios/model_base.js"
        "src/models/base/\x7bapp\x7d\x7bmodel\x7d.js" .regenerate,
      ← perModel .model "mobx-axios/model.js"
        "src/models/\x7bapp\x7d\x7bmodel\x7d.js" .scaffold,
      ← perModel .store "mobx-axios/store.js"
        "src/stores/\x7bapp\x7d\x7bmodel\x7d.js" .regenerate,
      ← support .baseModel "mobx-axios/base_model.js" "src/models/base/_base.js",
      ← support .baseStore "mobx-axios/base_store.js" "src/stores/_base.js",
      ← support .http "mobx-axios/http.js" "src/config/axios-config.js"] }

/-- Models of an object-relational store, registered in one database. -/
def vuexOrmAxios : Except Error StackDescriptor := do
  return {
    id := .vuexOrmAxios
    description := "Vuex ORM models registered in a single database module"
    typeStyle := .vuexOrm
    artifacts := [
      ← perModel .modelBase "vuexorm-axios/model_base.js"
        "src/models/base/\x7bapp\x7d/\x7bmodel\x7d.js" .regenerate,
      ← perModel .model "vuexorm-axios/model.js"
        "src/models/\x7bapp\x7d/\x7bmodel\x7d.js" .scaffold,
      ← support .baseModel "vuexorm-axios/base_model.js" "src/models/Base.js",
      ← support .http "vuexorm-axios/http.js" "src/store/http.js",
      ← aggregate .index .run "vuexorm-axios/database.js" "src/store/database.js"
        "@/models/\x7bapp\x7d/\x7bmodel\x7d"] }

/-- Typed models with services that fetch them. -/
def angular2 : Except Error StackDescriptor := do
  return {
    id := .angular2
    description := "Angular typed models and HTTP services"
    typeStyle := .typeScript
    endpointStyle := { trailingSlash := true }
    artifacts := [
      ← perModel .modelBase "angular2/model_base.ts"
        "src/app/\x7bapp\x7d/\x7bmodel\x7d.base.ts" .regenerate,
      ← perModel .model "angular2/model.ts"
        "src/app/\x7bapp\x7d/\x7bmodel\x7d.ts" .scaffold,
      ← perModel .service "angular2/service.ts"
        "src/app/\x7bapp\x7d/\x7bmodel\x7d.service.ts" .regenerate] }

/-- Services of resources. -/
def angularResource : Except Error StackDescriptor := do
  return {
    id := .angularResource
    description := "AngularJS $resource services"
    typeStyle := .untyped
    artifacts := [
      ← perModel .service "angular/service.js"
        "src/resources/\x7bapp\x7d-\x7bmodel\x7d.js" .regenerate] }

/-- The stacks known without any settings, in the order of their identifiers. -/
def builtinStacks : Except Error (List StackDescriptor) := do
  return [← ember, ← emberDynamic, ← mobxAxios, ← vuexOrmAxios, ← angular2, ← angularResource]

/-- Every built-in path rule is accepted. -/
theorem builtinStacks_isOk : builtinStacks.toBool = true := by decide +kernel

end ModelCodegen.StackDescriptor
