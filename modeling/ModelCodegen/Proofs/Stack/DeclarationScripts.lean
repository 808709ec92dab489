import ModelCodegen.Proofs.Template.Text
import ModelCodegen.Stack.BuiltinTemplates

/-!
# Scripts of model declarations

In five of the built-in stacks there is a template that declares a model with its
attributes: a loop over the fields, followed by one over the relationships. These
are the scripts of those templates.
-/

namespace ModelCodegen

open Template Template.Script

/-! ## Ember -/

namespace StackEmber

/-- A member between quotes. -/
def quoted (name : String) (next : Script) : Script := lit "'" <| out name <| lit "'" next

/-- What is passed to an attribute: its type and an object with its default. -/
def argumentScript (next : Script) : Script :=
  whether "type" (quoted "type" .done) .done <|
  whether "has_default"
    (whether "type" (lit ", " .done) .done <|
      lit "\x7b defaultValue: " <| out "default" <| lit " \x7d" .done)
    .done next

/-- What is passed to a relationship besides the related model. -/
def inverseScript (next : Script) : Script :=
  lit "', \x7b async: true, inverse: " <| whether "inverse" (quoted "inverse" .done)
    (lit "null" .done) <| lit " \x7d),\n" next

def fieldScript : Script :=
  lit "  " <| out "name" <| lit ": attr(" <| argumentScript <| lit "),\n" .done

def relationshipScript : Script :=
  lit "  " <| out "name" <| lit ": " <| out "kind" <| lit "('" <| spell .dasherize "app" <|
  lit "/" <| spell .dasherize "related_model" <| inverseScript .done

/-- The names that a model class imports for its relationships. -/
def importScript : Script :=
  lit "import \x7b " <| joined "relationship_kinds" ", " <|
  lit " \x7d from 'ember-data/relationships';\n" .done

def baseScript : Script :=
  lit "/* eslint-disable */\n// Generated from " <| out "application_name" <| lit "/" <|
  out "model_name" <| lit (". Changes will be overwritten.\nimport Model from 'ember-data/model';\n"
    ++ "import attr from 'ember-data/attr';\n") <|
  whether "has_relationships" importScript .done <|
  lit "\nexport default Model.extend(\x7b\n" <|
  each "fields" fieldScript <| each "relationships" relationshipScript <| lit "\x7d);\n" .done

end StackEmber

/-! ## Ember, loaded at run time -/

namespace StackEmberDynamic

open StackEmber

def fieldScript : Script :=
  lit "    " <| out "name" <| lit ": (0, _emberDataAttr['default'])(" <| argumentScript <|
  lit "),\n" .done

def relationshipScript : Script :=
  lit "    " <| out "name" <| lit ": (0, _emberDataRelationships['" <| out "kind" <|
  lit "'])('" <| out "app" <| lit "/" <| out "related_model" <| inverseScript .done

def modelScript : Script :=
  lit "define('" <| out "ember_app" <| lit "/models/" <| out "application_name" <| lit "/" <|
  out "model_name" <| lit "',\n    ['exports', 'ember-data/model', 'ember-data/attr'" <|
  whether "has_relationships" (lit ", 'ember-data/relationships'" .done) .done <|
  lit "],\n    function (exports, _emberDataModel, _emberDataAttr" <|
  whether "has_relationships" (lit ", _emberDataRelationships" .done) .done <|
  lit ") \x7b\n  exports['default'] = _emberDataModel['default'].extend(\x7b\n" <|
  each "fields" fieldScript <| each "relationships" relationshipScript <|
  lit "  \x7d);\n\x7d);\n" .done

end StackEmberDynamic

/-! ## MobX -/

namespace StackMobxAxios

/-- The default of a field as an initial value. -/
def initialScript (next : Script) : Script :=
  whether "has_default" (lit " = " <| out "default" .done) .done next

def fieldScript : Script := lit "  @observable " <| out "name" <| initialScript <| lit ";\n" .done

def relationshipScript : Script :=
  lit "  @observable " <| out "name" <| whether "many" (lit " = []" .done) .done <| lit ";\n" .done

/-- The name of the store of a model, and what follows it. -/
def storeScript (text : String) (next : Script) : Script :=
  out "application_name" <| spell .title "model_name" <| lit ("Store" ++ text) next

def baseScript : Script :=
  lit "import " <| storeScript " from '../../stores/" <| out "application_name" <|
  out "model_name" <|
  lit "';\nimport Model from './_base';\nimport \x7b observable \x7d from 'mobx';\n\nclass " <|
  out "class_name" <| lit "Base extends Model \x7b\n\n  store = " <|
  storeScript ";\n\n  @observable id;\n" <|
  each "fields" fieldScript <| each "relationships" relationshipScript <|
  lit "\x7d\n\nexport default " <| out "class_name" <|
  lit "Base;\n\n// vim: backupcopy=yes\n" .done

end StackMobxAxios

/-! ## Vuex -/

namespace StackVuexOrmAxios

def fieldScript : Script :=
  lit "      " <| out "name" <| lit ": this." <|
  whether "type" (out "type" .done) (lit "attr" .done) <| lit "(" <|
  whether "has_default" (out "default" .done) .done <| lit "),\n" .done

def relationshipScript : Script :=
  lit "      " <| out "name" <| lit ": this.attr(" <|
  whether "many" (lit "[]" .done) (lit "null" .done) <| lit "),\n" .done

def baseScript : Script :=
  lit ("/* eslint-disable */\nimport Model from '@/models/Base';\n\n" ++
    "export default class ") <|
  out "class_name" <| lit "Base extends Model \x7b\n  static entity = '" <| out "endpoint" <|
  lit "';\n\n  static fields() \x7b\n    return \x7b\n      id: this.attr(null),\n" <|
  each "fields" fieldScript <| each "relationships" relationshipScript <|
  lit "    \x7d;\n  \x7d\n\x7d\n" .done

end StackVuexOrmAxios

/-! ## Angular -/

namespace StackAngular2

def fieldScript : Script :=
  lit "  " <| out "name" <| whether "type" (lit ": " <| out "type" .done) .done <|
  StackMobxAxios.initialScript <| lit ";\n" .done

def relationshipScript : Script :=
  lit "  " <| out "name" <| lit ": string" <| whether "many" (lit "[]" .done) .done <|
  lit ";\n" .done

/-- An attribute is taken over from an answer. -/
def assignmentScript : Script :=
  lit "      this." <| out "name" <| lit " = json." <| out "name" <| lit ";\n" .done

def baseScript : Script :=
  lit "export default class " <| out "class_name" <| lit "Base \x7b\n  id: string;\n" <|
  each "fields" fieldScript <| each "relationships" relationshipScript <|
  lit "\n  constructor(json: any) \x7b\n    if (json) \x7b\n      this.id = json.id;\n" <|
  each "fields" assignmentScript <| each "relationships" assignmentScript <|
  lit "    \x7d\n  \x7d\n\x7d\n" .done

end StackAngular2

/-! ## Reading the templates -/

/-- The bodies of the templates that declare models, with the scripts they are read as. -/
theorem ofBody?_declarations : ∀ entry ∈ [
    (StackEmber.modelBase, StackEmber.baseScript),
    (StackEmberDynamic.model, StackEmberDynamic.modelScript),
    (StackMobxAxios.modelBase, StackMobxAxios.baseScript),
    (StackVuexOrmAxios.modelBase, StackVuexOrmAxios.baseScript),
    (StackAngular2.modelBase, StackAngular2.baseScript)],
    Script.ofBody? entry.1 = some entry.2 := by
  simp only [List.forall_mem_cons, List.not_mem_nil, false_imp_iff, implies_true, and_true,
    Script.ofBody?, ofText?, toList_body, bodyChars, List.flatMap_cons, List.flatMap_nil,
    StackEmber.modelBase, StackEmber.baseScript, StackEmber.fieldScript,
    StackEmber.relationshipScript, StackEmber.importScript, StackEmber.argumentScript,
    StackEmber.inverseScript, StackEmber.quoted, StackEmberDynamic.model,
    StackEmberDynamic.modelScript, StackEmberDynamic.fieldScript,
    StackEmberDynamic.relationshipScript, StackMobxAxios.modelBase, StackMobxAxios.baseScript,
    StackMobxAxios.fieldScript, StackMobxAxios.relationshipScript, StackMobxAxios.storeScript,
    StackMobxAxios.initialScript, StackVuexOrmAxios.modelBase, StackVuexOrmAxios.baseScript,
    StackVuexOrmAxios.fieldScript, StackVuexOrmAxios.relationshipScript, StackAngular2.modelBase,
    StackAngular2.baseScript, StackAngular2.fieldScript, StackAngular2.relationshipScript,
    StackAngular2.assignmentScript, lit, out, spell, whether, each, joined, separated,
    String.toList_append]
  -- The characters of the lines are written out before anything is evaluated.
  repeat rw [String.toList_ofList]
  and_intros <;> decide +kernel

end ModelCodegen
