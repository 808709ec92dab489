import ModelCodegen.Template.Body

/-!
# Templates of the angular2 stack

Typed models, their stubs and the services that fetch them.
-/

namespace ModelCodegen.StackAngular2

/-- The typed model class. -/
def modelBase : String := Template.body [
  "export default class ‹‹class_name››Base ‹",
  "  id: string;",
  "‹‹#each fields››",
  "  ‹‹name››‹‹#if type››: ‹‹type››‹‹/if››‹‹#if has_default›› = ‹‹default››‹‹/if››;",
  "‹‹/each››",
  "‹‹#each relationships››",
  "  ‹‹name››: string‹‹#if many››[]‹‹/if››;",
  "‹‹/each››",
  "",
  "  constructor(json: any) ‹",
  "    if (json) ‹",
  "      this.id = json.id;",
  "‹‹#each fields››",
  "      this.‹‹name›› = json.‹‹name››;",
  "‹‹/each››",
  "‹‹#each relationships››",
  "      this.‹‹name›› = json.‹‹name››;",
  "‹‹/each››",
  "    ›",
  "  ›",
  "›"]

/-- The stub to edit. -/
def model : String := Template.body [
  "import ‹‹class_name››Base from './‹‹model_name››.base';",
  "",
  "export default class ‹‹class_name›› extends ‹‹class_name››Base ‹",
  "›"]

/-- The service of a model. -/
def service : String := Template.body [
  "import ‹ Injectable › from '@angular/core';",
  "import ‹ Http, Response, Headers › from '@angular/http';",
  "import ‹ Observable › from 'rxjs/Rx';",
  "import ‹‹class_name›› from './‹‹model_name››';",
  "",
  "@Injectable()",
  "export default class ‹‹class_name››Service ‹",
  "  private baseUrl: string = '‹‹endpoint_url››';",
  "",
  "  constructor(private http: Http) ‹",
  "  ›",
  "",
  "  query(search: any): Observable<‹‹class_name››[]> ‹",
  "    return this.http",
  "      .get(this.baseUrl, ‹ search, headers: this.getHeaders() ›)",
  "      .map(mapRecords)",
  "      .catch(handleError);",
  "  ›",
  "",
  "  getAll(): Observable<‹‹class_name››[]> ‹",
  "    return this.query('');",
  "  ›",
  "",
  "  get(id: string): Observable<‹‹class_name››> ‹",
  "    return this.http",
  "      .get(`$‹this.baseUrl›$‹id›/`, ‹ headers: this.getHeaders() ›)",
  "      .map(mapRecord)",
  "      .catch(handleError);",
  "  ›",
  "",
  "  create(record: ‹‹class_name››): Observable<‹‹class_name››> ‹",
  "    return this.http",
  "      .post(this.baseUrl, JSON.stringify(record), ‹ headers: this.getHeaders() ›)",
  "      .map(mapRecord)",
  "      .catch(handleError);",
  "  ›",
  "",
  "  update(record: ‹‹class_name››): Observable<‹‹class_name››> ‹",
  "    return this.http",
  "      .put(`$‹this.baseUrl›$‹record.id›/`, JSON.stringify(record), ‹ headers: this.getHeaders() ›)",
  "      .map(mapRecord)",
  "      .catch(handleError);",
  "  ›",
  "",
  "  delete(record: ‹‹class_name››): Observable<Response> ‹",
  "    return this.http",
  "      .delete(`$‹this.baseUrl›$‹record.id›/`, ‹ headers: this.getHeaders() ›);",
  "  ›",
  "",
  "  private getHeaders() ‹",
  "    const headers = new Headers();",
  "    headers.append('Accept', 'application/json');",
  "    headers.append('content-type', 'application/json');",
  "    return headers;",
  "  ›",
  "›",
  "",
  "function mapRecords(response: Response): ‹‹class_name››[] ‹",
  "  return response.json()‹‹#if pagination_container››.‹‹pagination_container››‹‹/if››.map((json: any): ‹‹class_name›› => ‹",
  "    return new ‹‹class_name››(json);",
  "  ›);",
  "›",
  "",
  "function mapRecord(response: Response): ‹‹class_name›› ‹",
  "  return new ‹‹class_name››(response.json());",
  "›",
  "",
  "function handleError(error: any) ‹",
  "  console.error(error);",
  "  return Observable.throw(error.message || 'Error while fetching ‹‹application_name››/‹‹model_name››');",
  "›"]

end ModelCodegen.StackAngular2
