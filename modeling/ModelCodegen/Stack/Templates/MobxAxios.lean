import ModelCodegen.Template.Body

/-!
# Templates of the mobx-axios stack

Observable models and their stores, with the classes that both extend.
-/

namespace ModelCodegen.StackMobxAxios

/-- The observable model class. -/
def modelBase : String := Template.body [
  "import ‹‹application_name››‹‹title model_name››Store from '../../stores/‹‹application_name››‹‹model_name››';",
  "import Model from './_base';",
  "import ‹ observable › from 'mobx';",
  "",
  "class ‹‹class_name››Base extends Model ‹",
  "",
  "  store = ‹‹application_name››‹‹title model_name››Store;",
  "",
  "  @observable id;",
  "‹‹#each fields››",
  "  @observable ‹‹name››‹‹#if has_default›› = ‹‹default››‹‹/if››;",
  "‹‹/each››",
  "‹‹#each relationships››",
  "  @observable ‹‹name››‹‹#if many›› = []‹‹/if››;",
  "‹‹/each››",
  "›",
  "",
  "export default ‹‹class_name››Base;",
  "",
  "// vim: backupcopy=yes"]

/-- The stub to edit. -/
def model : String := Template.body [
  "import ‹‹class_name››Base from './base/‹‹application_name››‹‹model_name››';",
  "",
  "class ‹‹class_name›› extends ‹‹class_name››Base ‹",
  "›",
  "",
  "export default ‹‹class_name››;"]

/-- The store of a model. -/
def store : String := Template.body [
  "import Store from './_base';",
  "import ‹‹class_name›› from '../models/‹‹application_name››‹‹model_name››';",
  "",
  "export class ‹‹class_name››Store extends Store ‹",
  "  endpoint = '‹‹endpoint››';",
  "‹‹#if pagination_container››",
  "  result = '‹‹pagination_container››';",
  "‹‹/if››",
  "",
  "  transform(record) ‹",
  "    return new ‹‹class_name››(record);",
  "  ›",
  "›;",
  "",
  "export default new ‹‹class_name››Store();",
  "",
  "// vim: backupcopy=yes"]

/-- The class that every model class extends. -/
def baseModel : String := Template.body [
  "import ‹ observable › from 'mobx';",
  "",
  "class Model ‹",
  "",
  "  store = null;",
  "",
  "  @observable is_error = false;",
  "",
  "  constructor(params) ‹",
  "    this.init(params);",
  "  ›",
  "",
  "  init(params) ‹",
  "    for (let field in params) ‹",
  "      this[field] = params[field];",
  "    ›",
  "  ›",
  "",
  "  save() ‹",
  "    return this.store.save(this);",
  "  ›",
  "",
  "  reload() ‹",
  "    return this.store.get(this.id).then((params) => ‹",
  "      this.init(params);",
  "    ›);",
  "  ›",
  "",
  "  delete() ‹",
  "    return this.store.delete(this);",
  "  ›",
  "›",
  "",
  "export default Model;"]

/-- The class that every store extends. -/
def baseStore : String := Template.body [
  "import axios from '../config/axios-config';",
  "import ‹ observable › from 'mobx';",
  "",
  "export default class Store ‹",
  "  @observable records = [];",
  "  @observable schema = ‹›;",
  "  @observable ui = ‹›;",
  "",
  "  endpoint = '';",
  "  result = null;",
  "  searchParam = 'search';",
  "",
  "  transform(record) ‹",
  "    return record;",
  "  ›",
  "",
  "  get(id) ‹",
  "    return axios.get(`$‹this.endpoint›/$‹id›`).then((record) => this.transform(record));",
  "  ›",
  "",
  "  save(record) ‹",
  "    let seen = [];",
  "    const payload = JSON.parse(JSON.stringify(record, (key, value) => ‹",
  "      if (key === 'store') ‹",
  "        return undefined;",
  "      ›",
  "      if (typeof value === 'object' && value !== null) ‹",
  "        if (seen.indexOf(value) !== -1) ‹",
  "          return undefined;",
  "        ›",
  "        seen.push(value);",
  "      ›",
  "      return value;",
  "    ›));",
  "    seen = null;",
  "    if (record.id) ‹",
  "      return axios.put(`$‹this.endpoint›/$‹record.id›`, payload).then(() => ‹",
  "        record.is_error = false;",
  "      ›).catch(() => ‹",
  "        record.is_error = true;",
  "      ›);",
  "    ›",
  "    return axios.post(this.endpoint, payload).then((created) => ‹",
  "      record.id = created.id;",
  "      record.is_error = false;",
  "    ›).catch(() => ‹",
  "      record.is_error = true;",
  "    ›);",
  "  ›",
  "",
  "  _remove(record) ‹",
  "    this.records.replace(this.records.filter((r) => ‹",
  "      if (record.id !== r.id) ‹",
  "        return true;",
  "      › else if (!record.id) ‹",
  "        return record !== r;",
  "      ›",
  "      return false;",
  "    ›));",
  "  ›",
  "",
  "  delete(record) ‹",
  "    if (!record.id) ‹",
  "      this._remove(record);",
  "      return Promise.resolve();",
  "    ›",
  "    return axios.delete(`$‹this.endpoint›/$‹record.id›`).then(() => ‹",
  "      this._remove(record);",
  "    ›).catch(() => ‹",
  "      record.is_error = true;",
  "    ›);",
  "  ›",
  "",
  "  create(record = ‹›) ‹",
  "    const created = this.transform(record);",
  "    this.records.push(created);",
  "    return created;",
  "  ›",
  "",
  "  search(value) ‹",
  "    const params = ‹›;",
  "    params[this.searchParam] = value;",
  "    return this.fetchAll(params);",
  "  ›",
  "",
  "  fetchAll(params) ‹",
  "    return axios.get(this.endpoint, ‹ params ›).then((records) => ‹",
  "      if (this.result !== null) ‹",
  "        records = records[this.result];",
  "      ›",
  "      this.records.replace(records.map((record) => this.transform(record)));",
  "    ›);",
  "  ›",
  "",
  "  fetchMeta() ‹",
  "    return axios.request(‹ method: 'options', url: this.endpoint ›).then((meta) => ‹",
  "      this.schema = meta.schema;",
  "      this.ui = meta.ui;",
  "    ›);",
  "  ›",
  "›",
  "",
  "// vim: backupcopy=yes"]

/-- The client that requests go through. -/
def http : String := Template.body [
  "import axios from 'axios';",
  "",
  "const instance = axios.create(‹›);",
  "",
  "const xsrfConfig = ‹",
  "  xsrfCookieName: 'csrftoken',",
  "  xsrfHeaderName: 'X-CSRFToken',",
  "›;",
  "",
  "instance.interceptors.request.use((config) => (‹ ...config, url: `‹‹api_base››/$‹config.url›/`, ...xsrfConfig ›));",
  "",
  "instance.interceptors.response.use((response) => ‹",
  "  const errorMessage = response.data.errorMessage;",
  "  return errorMessage ? Promise.reject(errorMessage) : response.data;",
  "›);",
  "",
  "export default instance;"]

end ModelCodegen.StackMobxAxios
