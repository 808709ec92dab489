import ModelCodegen.Template.Body

/-!
# Templates of the ember-dynamic stack

One module for each model, defined under the namespace of the application that loads it.
-/

namespace ModelCodegen.StackEmberDynamic

/-- The module of a model. -/
def model : String := Template.body [
  "define('‹‹ember_app››/models/‹‹application_name››/‹‹model_name››',",
  "    ['exports', 'ember-data/model', 'ember-data/attr'‹‹#if has_relationships››, 'ember-data/relationships'‹‹/if››],",
  "    function (exports, _emberDataModel, _emberDataAttr‹‹#if has_relationships››, _emberDataRelationships‹‹/if››) ‹",
  "  exports['default'] = _emberDataModel['default'].extend(‹",
  "‹‹#each fields››",
  "    ‹‹name››: (0, _emberDataAttr['default'])(‹‹#if type››'‹‹type››'‹‹/if››‹‹#if has_default››‹‹#if type››, ‹‹/if››‹ defaultValue: ‹‹default›› ›‹‹/if››),",
  "‹‹/each››",
  "‹‹#each relationships››",
  "    ‹‹name››: (0, _emberDataRelationships['‹‹kind››'])('‹‹app››/‹‹related_model››', ‹ async: true, inverse: ‹‹#if inverse››'‹‹inverse››'‹‹else››null‹‹/if›› ›),",
  "‹‹/each››",
  "  ›);",
  "›);"]

end ModelCodegen.StackEmberDynamic
