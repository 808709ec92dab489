import ModelCodegen.Stack.Templates.Ember
import ModelCodegen.Stack.Templates.EmberDynamic
import ModelCodegen.Stack.Templates.MobxAxios
import ModelCodegen.Stack.Templates.VuexOrmAxios
import ModelCodegen.Stack.Templates.Angular2
import ModelCodegen.Stack.Templates.Angular

/-!
# Built-in templates

The template bodies of the built-in stacks by name.
-/

namespace ModelCodegen

/-- The names of the built-in templates with their bodies. -/
def builtinTemplates : List (String × String) := [
  ("ember/model_base.js", StackEmber.modelBase),
  ("ember/model.js", StackEmber.model),
  ("ember/test.js", StackEmber.test),
  ("ember/index.js", StackEmber.index),
  ("ember-dynamic/model.js", StackEmberDynamic.model),
  ("mobx-axios/model_base.js", StackMobxAxios.modelBase),
  ("mobx-axios/model.js", StackMobxAxios.model),
  ("mobx-axios/store.js", StackMobxAxios.store),
  ("mobx-axios/base_model.js", StackMobxAxios.baseModel),
  ("mobx-axios/base_store.js", StackMobxAxios.baseStore),
  ("mobx-axios/http.js", StackMobxAxios.http),
  ("vuexorm-axios/model_base.js", StackVuexOrmAxios.modelBase),
  ("vuexorm-axios/model.js", StackVuexOrmAxios.model),
  ("vuexorm-axios/base_model.js", StackVuexOrmAxios.baseModel),
  ("vuexorm-axios/http.js", StackVuexOrmAxios.http),
  ("vuexorm-axios/database.js", StackVuexOrmAxios.database),
  ("angular2/model_base.ts", StackAngular2.modelBase),
  ("angular2/model.ts", StackAngular2.model),
  ("angular2/service.ts", StackAngular2.service),
  ("angular/service.js", StackAngular.service)]

end ModelCodegen
