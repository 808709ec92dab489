import ModelCodegen.Template.Body

/-!
# Templates of the angular stack

The resource service of a model.
-/

namespace ModelCodegen.StackAngular

/-- The resource of a model. -/
def service : String := Template.body [
  "define([",
  "  'angular',",
  "  'angular-resource'",
  "], function (angular) ‹",
  "  angular.module('app.resources.‹‹application_name››-‹‹model_name››', [",
  "    'ngResource'",
  "  ])",
  "  .service('‹‹title model_name››', function ($resource) ‹",
  "    return $resource('‹‹endpoint_url››/:id', ‹ id: '@id' ›);",
  "  ›);",
  "›);"]

end ModelCodegen.StackAngular
