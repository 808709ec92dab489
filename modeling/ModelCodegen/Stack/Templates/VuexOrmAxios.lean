import ModelCodegen.Template.Body

/-!
# Templates of the vuexorm-axios stack

Models of an object-relational store, the class they extend and the database that registers them.
-/

namespace ModelCodegen.StackVuexOrmAxios

/-- The model class with its field map. -/
def modelBase : String := Template.body [
  "/* eslint-disable */",
  "import Model from '@/models/Base';",
  "",
  "export default class ‹‹class_name››Base extends Model ‹",
  "  static entity = '‹‹endpoint››';",
  "",
  "  static fields() ‹",
  "    return ‹",
  "      id: this.attr(null),",
  "‹‹#each fields››",
  "      ‹‹name››: this.‹‹#if type››‹‹type››‹‹else››attr‹‹/if››(‹‹#if has_default››‹‹default››‹‹/if››),",
  "‹‹/each››",
  "‹‹#each relationships››",
  "      ‹‹name››: this.attr(‹‹#if many››[]‹‹else››null‹‹/if››),",
  "‹‹/each››",
  "    ›;",
  "  ›",
  "›"]

/-- The stub to edit. -/
def model : String := Template.body [
  "/* eslint-disable */",
  "import ‹‹class_name››Base from '@/models/base/‹‹application_name››/‹‹model_name››';",
  "",
  "export default class ‹‹class_name›› extends ‹‹class_name››Base ‹",
  "›"]

/-- The class that every model class extends. -/
def baseModel : String := Template.body [
  "/* eslint-disable */",
  "import ‹ Model › from '@vuex-orm/core';",
  "",
  "export default class BaseModel extends Model ‹",
  "  static fetchAll() ‹",
  "    return this.api().get(`$‹this.entity›/`‹‹#if pagination_container››, ‹ dataKey: '‹‹pagination_container››' ›‹‹/if››);",
  "  ›",
  "",
  "  static fetch(id) ‹",
  "    return this.api().get(`$‹this.entity›/$‹id›/`);",
  "  ›",
  "",
  "  static filter(params) ‹",
  "    return this.api().get(`$‹this.entity›/`, ‹ params‹‹#if pagination_container››, dataKey: '‹‹pagination_container››'‹‹/if›› ›);",
  "  ›",
  "",
  "  static deleteRecord(item) ‹",
  "    return this.api().delete(`$‹this.entity›/$‹item.$id›/`).then(() => ‹",
  "      this.delete(item.$id);",
  "    ›);",
  "  ›",
  "",
  "  static updateRecord(item) ‹",
  "    return this.api().put(`$‹this.entity›/$‹item.id›/`, item.$toJson());",
  "  ›",
  "›"]

/-- The client that requests go through. -/
def http : String := Template.body [
  "/* eslint-disable */",
  "import axios from 'axios';",
  "import Vue from 'vue';",
  "",
  "const Axios = axios.create(‹",
  "  baseURL: '‹‹api_base››',",
  "  headers: ‹",
  "    Accept: 'application/json',",
  "    'Content-Type': 'application/json',",
  "  ›,",
  "  withCredentials: false,",
  "  xsrfCookieName: 'csrftoken',",
  "  xsrfHeaderName: 'X-CSRFTOKEN',",
  "›);",
  "Vue.prototype.$http = Axios;",
  "",
  "export default Axios;"]

/-- The database with every model of the run. -/
def database : String := Template.body [
  "/* eslint-disable */",
  "import VuexORM from '@vuex-orm/core';",
  "import VuexORMAxios from '@vuex-orm/plugin-axios';",
  "import VuexORMisDirtyPlugin from '@vuex-orm/plugin-change-flags';",
  "import axios from '@/store/http';",
  "‹‹#each items››",
  "import ‹‹class_name›› from '‹‹import_path››';",
  "‹‹/each››",
  "",
  "VuexORM.use(VuexORMAxios, ‹",
  "  axios,",
  "›);",
  "VuexORM.use(VuexORMisDirtyPlugin);",
  "const database = new VuexORM.Database();",
  "‹‹#each items››",
  "database.register(‹‹class_name››);",
  "‹‹/each››",
  "",
  "export default database;"]

end ModelCodegen.StackVuexOrmAxios
