import ModelCodegen.Template.Body

/-!
# Templates of the ember stack

The model class with its attributes, the stub that extends it, the unit test of the stub and the
index of an application.
-/

namespace ModelCodegen.StackEmber

/-- The model class with one line for each attribute. -/
def modelBase : String := Template.body [
  "/* eslint-disable */",
  "// Generated from ‹‹application_name››/‹‹model_name››. Changes will be overwritten.",
  "import Model from 'ember-data/model';",
  "import attr from 'ember-data/attr';",
  "‹‹#if has_relationships››",
  "import ‹ ‹‹#each relationship_kinds››‹‹#unless @first››, ‹‹/unless››‹‹this››‹‹/each›› › from 'ember-data/relationships';",
  "‹‹/if››",
  "",
  "export default Model.extend(‹",
  "‹‹#each fields››",
  "  ‹‹name››: attr(‹‹#if type››'‹‹type››'‹‹/if››‹‹#if has_default››‹‹#if type››, ‹‹/if››‹ defaultValue: ‹‹default›› ›‹‹/if››),",
  "‹‹/each››",
  "‹‹#each relationships››",
  "  ‹‹name››: ‹‹kind››('‹‹dasherize app››/‹‹dasherize related_model››', ‹ async: true, inverse: ‹‹#if inverse››'‹‹inverse››'‹‹else››null‹‹/if›› ›),",
  "‹‹/each››",
  "›);"]

/-- The stub to edit, which extends the model class. -/
def model : String := Template.body [
  "import Base from '../base/‹‹dasherize application_name››/‹‹dasherize model_name››';",
  "",
  "export default Base.extend(‹",
  "›);"]

/-- The unit test of a stub; it needs the models that relationships point at. -/
def test : String := Template.body [
  "import ‹ moduleForModel, test › from 'ember-qunit';",
  "",
  "moduleForModel('‹‹dasherize application_name››/‹‹dasherize model_name››', 'Unit | Model | ‹‹dasherize application_name››/‹‹dasherize model_name››', ‹",
  "  // Specify the other units that are required for this test.",
  "  needs: [‹‹#if relationship_imports››‹‹#each relationships››'model:‹‹dasherize app››/‹‹dasherize related_model››'‹‹#unless @last››, ‹‹/unless››‹‹/each››‹‹/if››]",
  "›);",
  "",
  "test('it exists', function(assert) ‹",
  "  let model = this.subject();",
  "  assert.ok(!!model);",
  "›);"]

/-- The index of an application: its models by name. -/
def index : String := Template.body [
  "/* eslint-disable */",
  "import Ember from 'ember';",
  "‹‹#each items››",
  "import ‹‹class_name›› from '‹‹import_path››';",
  "‹‹/each››",
  "",
  "export const metadata = new Ember.Object(‹",
  "  application: '‹‹dasherize application_name››',",
  "  models: [‹‹#each items››'‹‹dasherize model_name››'‹‹#unless @last››, ‹‹/unless››‹‹/each››],",
  "›);",
  "",
  "export default new Ember.Object(‹",
  "‹‹#each items››",
  "  '‹‹dasherize application_name››/‹‹dasherize model_name››': ‹‹class_name››,",
  "‹‹/each››",
  "›);"]

end ModelCodegen.StackEmber
